import Readiness.Calendar.DateTime
import Readiness.Number.Shortest
import Readiness.Text.Basic

/-!
# Document values

The dynamic values that manifests and log records are made of, before anything is known about their shape. A
mapping keeps its entries in the order in which the keys first came, and its keys may be any scalar. A handle is what
records may carry besides data.

Containers may hold themselves, in one step or in several. Such containers are written as a group: each of them is a
cell, in which links stand for the other ones. `expose` opens a container of a group by one level.
-/
namespace Readiness

open Calendar Number

inductive Value
  | null
  | bool (b : Bool)
  | int (n : Int)
  | float (x : Float)
  | str (s : Text)
  | bytes (bs : List UInt8)
  | date (d : Date)
  | datetime (t : DateTime)
  | list (items : List Value)
  | tuple (items : List Value)
  | set (items : List Value)
  | map (entries : List (Value × Value))
  /-- A thing that a program holds and that is no data, such as a lock: its kind, and how it is displayed. -/
  | handle (kind display : String)
  /-- Container `i` of a group. -/
  | loop (cells : List Value) (i : Nat)
  /-- Inside a group, its container `i`. -/
  | link (i : Nat)
deriving Inhabited

/-- Entries of a mapping, in order. -/
abbrev Entries := List (Value × Value)

/-- A mapping with text keys, in order. -/
abbrev Fields := List (Text × Value)

namespace Value

/-! ## Equality -/

mutual
def beq : Value → Value → Bool
  | .null, .null => true
  | .bool a, .bool b => a == b
  | .int a, .int b => a == b
  | .float a, .float b => decide (a = b)
  | .str a, .str b => decide (a = b)
  | .bytes a, .bytes b => decide (a = b)
  | .date a, .date b => decide (a = b)
  | .datetime a, .datetime b => decide (a = b)
  | .list a, .list b => beqItems a b
  | .tuple a, .tuple b => beqItems a b
  | .set a, .set b => beqItems a b
  | .map a, .map b => beqEntries a b
  | .handle k a, .handle l b => decide (k = l) && decide (a = b)
  | .loop a i, .loop b j => beqItems a b && i == j
  | .link i, .link j => i == j
  | _, _ => false

def beqItems : List Value → List Value → Bool
  | [], [] => true
  | a :: as, b :: bs => beq a b && beqItems as bs
  | _, _ => false

def beqEntries : Entries → Entries → Bool
  | [], [] => true
  | (k, a) :: as, (l, b) :: bs => beq k l && beq a b && beqEntries as bs
  | _, _ => false
end

mutual
theorem eq_of_beq : ∀ a b : Value, beq a b = true → a = b
  | .null, b, h => by cases b <;> simp_all [beq]
  | .bool _, b, h => by cases b <;> simp_all [beq]
  | .int _, b, h => by cases b <;> simp_all [beq]
  | .float _, b, h => by cases b <;> simp_all [beq]
  | .str _, b, h => by cases b <;> simp_all [beq]
  | .bytes _, b, h => by cases b <;> simp_all [beq]
  | .date _, b, h => by cases b <;> simp_all [beq]
  | .datetime _, b, h => by cases b <;> simp_all [beq]
  | .list as, b, h => by
    cases b with
    | list bs => rw [eq_of_beqItems as bs (by simpa [beq] using h)]
    | _ => simp [beq] at h
  | .tuple as, b, h => by
    cases b with
    | tuple bs => rw [eq_of_beqItems as bs (by simpa [beq] using h)]
    | _ => simp [beq] at h
  | .set as, b, h => by
    cases b with
    | set bs => rw [eq_of_beqItems as bs (by simpa [beq] using h)]
    | _ => simp [beq] at h
  | .map as, b, h => by
    cases b with
    | map bs => rw [eq_of_beqEntries as bs (by simpa [beq] using h)]
    | _ => simp [beq] at h
  | .handle _ _, b, h => by cases b <;> simp_all [beq]
  | .loop as i, b, h => by
    cases b with
    | loop bs j =>
      simp only [beq, Bool.and_eq_true, beq_iff_eq] at h
      rw [eq_of_beqItems as bs h.1, h.2]
    | _ => simp [beq] at h
  | .link _, b, h => by cases b <;> simp_all [beq]

theorem eq_of_beqItems : ∀ as bs : List Value, beqItems as bs = true → as = bs
  | [], bs, h => by cases bs <;> simp_all [beqItems]
  | a :: as, bs, h => by
    cases bs with
    | nil => simp [beqItems] at h
    | cons b bs =>
      simp only [beqItems, Bool.and_eq_true] at h
      rw [eq_of_beq a b h.1, eq_of_beqItems as bs h.2]

theorem eq_of_beqEntries : ∀ as bs : Entries, beqEntries as bs = true → as = bs
  | [], bs, h => by cases bs <;> simp_all [beqEntries]
  | (k, a) :: as, bs, h => by
    cases bs with
    | nil => simp [beqEntries] at h
    | cons e bs =>
      obtain ⟨l, b⟩ := e
      simp only [beqEntries, Bool.and_eq_true] at h
      rw [eq_of_beq k l h.1.1, eq_of_beq a b h.1.2, eq_of_beqEntries as bs h.2]
end

mutual
theorem beq_self : ∀ a : Value, beq a a = true
  | .null | .bool _ | .int _ | .float _ | .str _ | .bytes _ | .date _ | .datetime _ | .handle .. | .link _ => by
    simp [beq]
  | .list as | .tuple as | .set as => by simpa [beq] using beqItems_self as
  | .map as => by simpa [beq] using beqEntries_self as
  | .loop as _ => by simpa [beq] using beqItems_self as

theorem beqItems_self : ∀ as : List Value, beqItems as as = true
  | [] => by simp [beqItems]
  | a :: as => by simp [beqItems, beq_self a, beqItems_self as]

theorem beqEntries_self : ∀ as : Entries, beqEntries as as = true
  | [] => by simp [beqEntries]
  | (k, a) :: as => by simp [beqEntries, beq_self k, beq_self a, beqEntries_self as]
end

instance : DecidableEq Value := fun a b =>
  if h : beq a b = true then isTrue (eq_of_beq a b h)
  else isFalse fun e => h (e ▸ beq_self a)

/-! ## Groups -/

/-- Put a value for a link. -/
def relinkOne (f : Nat → Value) : Value → Value
  | .link i => f i
  | v => v

/-- Put values for the links in an item. The pairs of a list are part of it. -/
def relinkItem (f : Nat → Value) : Value → Value
  | .tuple xs => .tuple (xs.map (relinkOne f))
  | v => relinkOne f v

/-- Put values for the links of a container of a group. -/
def relink (f : Nat → Value) : Value → Value
  | .list xs => .list (xs.map (relinkItem f))
  | .map es => .map (es.map fun e => (e.1, relinkOne f e.2))
  | v => v

/-- The links of an item. -/
def itemLinks : Value → List Nat
  | .link i => [i]
  | .tuple xs => xs.filterMap fun
    | .link i => some i
    | _ => none
  | _ => []

/-- The links of a container of a group. -/
def links : Value → List Nat
  | .list xs => xs.flatMap itemLinks
  | .map es => es.flatMap fun e => itemLinks e.2
  | _ => []

/-- A value whose outermost level is no group. -/
def expose : Value → Value
  | .loop cells i => relink (.loop cells) (cells.getD i .null)
  | v => v

/-- Follow links from a container of a group on. Each container tells what it comes to, given what its links come to;
`again` is what a container comes to inside itself. -/
def walk {α : Type} (pieces : List ((Nat → α) → α)) (again : Nat → α) : Nat → List Nat → Nat → α
  | 0, _, i => again i
  | fuel + 1, trail, i =>
    if i ∈ trail then again i
    else match pieces[i]? with
      | some piece => piece (walk pieces again fuel (i :: trail))
      | none => again i

/-- Follow links from container `i` on. No trail is longer than the group. -/
def walkFrom {α : Type} (pieces : List ((Nat → α) → α)) (again : Nat → α) (i : Nat) : α :=
  walk pieces again (pieces.length + 1) [] i

/-! ## Kinds -/

/-- What comes after the last dot of a name. -/
def bareName (name : String) : String := String.ofList (name.toList.reverse.takeWhile (· ≠ '.')).reverse

/-- What messages call a value's kind. -/
def kindName (v : Value) : String :=
  match v.expose with
  | .null | .loop .. | .link _ => "NoneType"
  | .bool _ => "bool"
  | .int _ => "int"
  | .float _ => "float"
  | .str _ => "str"
  | .bytes _ => "bytes"
  | .date _ => "date"
  | .datetime _ => "datetime"
  | .list _ => "list"
  | .tuple _ => "tuple"
  | .set _ => "set"
  | .map _ => "dict"
  | .handle kind _ => bareName kind

/-- What messages call a value's kind where they name the place that it is from as well. -/
def qualifiedKind (v : Value) : String :=
  match v.expose with
  | .date _ => "datetime.date"
  | .datetime _ => "datetime.datetime"
  | .handle kind _ => kind
  | _ => v.kindName

/-- Null, false, zero and whatever is empty count as nothing; the rest counts as something. -/
def isSome (v : Value) : Bool :=
  match v.expose with
  | .null | .loop .. | .link _ => false
  | .bool b => b
  | .int n => n != 0
  | .float x => x != 0
  | .str s => s != ""
  | .bytes bs => !bs.isEmpty
  | .date _ | .datetime _ | .handle .. => true
  | .list xs | .tuple xs | .set xs => !xs.isEmpty
  | .map es => !es.isEmpty

/-! ## Keys -/

/-- The whole number that a value equals as a key, with the fraction's denominator: truth values count as 1 and 0,
and a double as the exact number that it is. -/
def keyNumber? : Value → Option (Int × Nat)
  | .bool b => some (if b then 1 else 0, 1)
  | .int n => some (n, 1)
  | .float x =>
    match Parts.ofFloat x with
    | .finite negative m q =>
      let (num, den) := Shortest.scaled m q 0
      some (if negative then -(num : Int) else num, den)
    | _ => none
  | _ => none

/-- Whether two values are one key. Numbers are compared by amount across kinds, points in time by instant. -/
def sameKey (a b : Value) : Bool :=
  match keyNumber? a, keyNumber? b with
  | some (n, d), some (n', d') => n * d' == n' * d
  | none, none =>
    match a, b with
    | .datetime s, .datetime t => s.sameInstant t
    | _, _ => decide (a = b)
  | _, _ => false

end Value

/-- Set the value of a key: in place if the key is there, at the end if not. -/
def Entries.put (k v : Value) : Entries → Entries
  | [] => [(k, v)]
  | (l, w) :: es => if l.sameKey k then (l, v) :: es else (l, w) :: Entries.put k v es

/-- Set every entry of `more`, one after another. -/
def Entries.merge (es more : Entries) : Entries := more.foldl (fun acc e => acc.put e.1 e.2) es

/-- The value of a text key. -/
def Entries.get? (es : Entries) (name : Text) : Option Value :=
  (es.find? fun e => decide (e.1 = .str name)).map Prod.snd

def Entries.has (es : Entries) (name : Text) : Bool := (es.get? name).isSome

/-- The last of several entries of one key wins. -/
def Entries.ofList (es : List (Value × Value)) : Entries := Entries.merge [] es

/-- Fields as entries of a mapping. -/
def Fields.entries (fs : Fields) : Entries := fs.map fun f => (.str f.1, f.2)

/-- The fields as a value. -/
def Fields.toValue (fs : Fields) : Value := .map fs.entries

end Readiness
