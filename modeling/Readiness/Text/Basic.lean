/-!
# Texts

A text is a sequence of code points. Escapes can put halves of characters into it (surrogates, which only in pairs
stand for a character), and so a text is not always a sequence of characters: `toString?` says when it is.
-/
namespace Readiness

/-- A code point; the halves of characters, U+D800 to U+DFFF, are among them. -/
abbrev CodePoint := Fin 0x110000

namespace CodePoint

def ofChar (c : Char) : CodePoint := ⟨c.toNat, by
  have := c.valid
  rcases this with h | h
  · exact Nat.lt_trans h (by decide)
  · exact h.2⟩

instance : Coe Char CodePoint := ⟨ofChar⟩

instance : LawfulBEq CodePoint := inferInstance

/-- The character at a code point; halves are none. -/
def char? (c : CodePoint) : Option Char :=
  if h : c.val.isValidChar then some (Char.ofNatAux c.val h) else none

/-- Whether a code point is a character of a class. -/
def isIn (p : Char → Bool) (c : CodePoint) : Bool := c.char?.any p

def isHalf (c : CodePoint) : Bool := 0xD800 ≤ c.val && c.val < 0xE000

end CodePoint

structure Text where
  points : List CodePoint
deriving DecidableEq, Repr, Inhabited

namespace Text

def ofChars (cs : List Char) : Text := ⟨cs.map CodePoint.ofChar⟩

def ofString (s : String) : Text := ofChars s.toList

instance : Coe String Text := ⟨ofString⟩

instance : Append Text := ⟨fun s t => ⟨s.points ++ t.points⟩⟩

def concat (ts : List Text) : Text := ⟨ts.flatMap points⟩

/-- The texts with `sep` between them. -/
def join (sep : Text) : List Text → Text
  | [] => ⟨[]⟩
  | [t] => t
  | t :: ts => t ++ sep ++ join sep ts

def length (t : Text) : Nat := t.points.length

/-- The characters of a text without halves. -/
def chars? (t : Text) : Option (List Char) := t.points.mapM CodePoint.char?

def toString? (t : Text) : Option String := t.chars?.map String.ofList

/-- Three replacement characters stand for each half, one for each byte that would encode it. -/
def lossy (t : Text) : String :=
  String.ofList (t.points.flatMap fun c => (c.char?.map ([·])).getD ['\uFFFD', '\uFFFD', '\uFFFD'])

/-- Cut at every place where something stands. -/
def cutAt {α : Type} [DecidableEq α] (sep : α) : List α → List (List α)
  | [] => [[]]
  | c :: cs =>
    if c = sep then [] :: cutAt sep cs
    else match cutAt sep cs with
      | part :: parts => (c :: part) :: parts
      | [] => [[c]]

theorem flatten_cutAt {α : Type} [DecidableEq α] (sep : α) (cs : List α) :
    (cutAt sep cs).flatten = cs.filter (· ≠ sep) := by
  induction cs with
  | nil => rfl
  | cons c cs ih =>
    unfold cutAt
    split
    · rename_i heq
      simp [heq, ih]
    · rename_i hne
      rw [List.filter_cons_of_pos (by simpa using hne), ← ih]
      cases cutAt sep cs <;> simp

/-- The parts of a text between line ends. -/
def lines (t : Text) : List Text := (cutAt (.ofChar '\n') t.points).map mk

theorem toNat_ofNat_of_valid {n : Nat} (h : n < 0xD800 ∨ 0xDFFF < n ∧ n < 0x110000) : (Char.ofNat n).toNat = n := by
  unfold Char.ofNat
  rw [dif_pos h]
  rfl

theorem char?_ofChar (c : Char) : CodePoint.char? (CodePoint.ofChar c) = some c := by
  have h : (CodePoint.ofChar c).val.isValidChar := c.valid
  exact (dif_pos h).trans rfl

theorem ofChar_of_char? {c : CodePoint} {x : Char} (h : c.char? = some x) : CodePoint.ofChar x = c := by
  by_cases hvalid : c.val.isValidChar
  · have hx : c.char? = some (Char.ofNatAux c.val hvalid) := dif_pos hvalid
    obtain rfl := Option.some.inj (hx.symm.trans h)
    rfl
  · have hnone : c.char? = none := dif_neg hvalid
    simp [hnone] at h

@[simp] theorem chars?_ofChars (cs : List Char) : (ofChars cs).chars? = some cs := by
  simp only [chars?, ofChars]
  induction cs with
  | nil => rfl
  | cons c cs ih => simp [List.mapM_cons, char?_ofChar, ih]

@[simp] theorem toString?_ofString (s : String) : (ofString s).toString? = some s := by
  simp [toString?, ofString]

theorem ofString_injective {s t : String} (h : ofString s = ofString t) : s = t := by
  have := congrArg toString? h
  simpa using this

@[simp] theorem ofString_inj {s t : String} : ofString s = ofString t ↔ s = t :=
  ⟨ofString_injective, fun h => h ▸ rfl⟩

theorem append_assoc (s t u : Text) : s ++ t ++ u = s ++ (t ++ u) :=
  congrArg mk (List.append_assoc s.points t.points u.points)

theorem append_nil (s : Text) : s ++ ("" : Text) = s := congrArg mk (List.append_nil s.points)

theorem nil_append (t : Text) : ("" : Text) ++ t = t := rfl

/-- A text is longer with something in front of it. -/
theorem append_eq_right_iff {s t : Text} : s ++ t = t ↔ s = "" := by
  constructor
  · intro heq
    have hpoints : s.points ++ t.points = t.points := congrArg points heq
    have hnil : s.points = [] := by simpa using hpoints
    exact congrArg mk hnil
  · rintro rfl
    exact nil_append t

theorem append_left_inj {s t : Text} (u : Text) : s ++ u = t ++ u ↔ s = t := by
  constructor
  · intro heq
    have hpoints : s.points ++ u.points = t.points ++ u.points := congrArg points heq
    exact congrArg mk (List.append_cancel_right hpoints)
  · rintro rfl
    rfl

theorem mem_join_of_notMem {sep : Text} {c : CodePoint} (h : c ∉ sep.points) (ts : List Text) :
    c ∈ (join sep ts).points ↔ ∃ t ∈ ts, c ∈ t.points := by
  have happ (s t : Text) : (s ++ t).points = s.points ++ t.points := rfl
  induction ts with
  | nil => simp [join]
  | cons t ts ih =>
    cases ts with
    | nil => simp [join]
    | cons u us => simp [join, happ, ih, h]

end Text

end Readiness
