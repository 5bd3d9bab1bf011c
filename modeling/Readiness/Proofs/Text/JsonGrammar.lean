import Readiness.Text.Digit

/-!
# The grammar of JSON

Which texts are JSON, rule by rule as RFC 8259 has it, and what each of them stands for. A rule that a text does not
follow can only be seen outside of strings, as inside of them nearly everything may stand. So a text is scanned for what
it shows there (`Shows`): a JSON text shows neither of the capitals that the words for doubles without digits begin with,
and one that does is no JSON text (`not_denotes_of_shows`).
-/
namespace Readiness

open Text

/-- What a JSON text stands for. A number keeps its literal, as it is up to the reader how exactly it is read; a string
is a sequence of sixteen-bit units. Members keep their order. -/
inductive Json
  | null
  | bool (b : Bool)
  | number (literal : List Char)
  | string (units : List Nat)
  | array (items : List Json)
  | object (members : List (List Nat × Json))

namespace Json

/-! ## Numbers -/

structure IsDigits (cs : List Char) : Prop where
  ne_nil : cs ≠ []
  isDigit : ∀ c ∈ cs, c.isDigit = true

/-- No zero stands in front of other digits. -/
structure IsInt (cs : List Char) : Prop extends IsDigits cs where
  lead : cs.head? = some '0' → cs = ['0']

inductive IsFraction : List Char → Prop
  | absent : IsFraction []
  | present {ds : List Char} (h : IsDigits ds) : IsFraction ('.' :: ds)

inductive IsExponent : List Char → Prop
  | absent : IsExponent []
  | present {mark : Char} {sign ds : List Char} (hmark : mark = 'e' ∨ mark = 'E')
      (hsign : sign = [] ∨ sign = ['-'] ∨ sign = ['+']) (h : IsDigits ds) : IsExponent (mark :: (sign ++ ds))

/-- A number without its sign. -/
inductive IsAmount : List Char → Prop
  | parts {int fraction exponent : List Char} (hint : IsInt int) (hfraction : IsFraction fraction)
      (hexponent : IsExponent exponent) : IsAmount (int ++ fraction ++ exponent)

inductive IsNumber : List Char → Prop
  | plain {cs : List Char} (h : IsAmount cs) : IsNumber cs
  | minus {cs : List Char} (h : IsAmount cs) : IsNumber ('-' :: cs)

/-! ## Strings -/

/-- The units of a code point: itself, or two halves beyond the basic plane. -/
def unitsOf (n : Nat) : List Nat :=
  if n < 0x10000 then [n] else [0xD800 + (n - 0x10000) / 0x400, 0xDC00 + (n - 0x10000) % 0x400]

/-- What may follow a backslash, and the unit that it stands for. -/
def escapes : List (Char × Nat) :=
  [('"', 0x22), ('\\', 0x5C), ('/', 0x2F), ('b', 0x08), ('f', 0x0C), ('n', 0x0A), ('r', 0x0D), ('t', 0x09)]

/-- A character or an escape of a string. -/
inductive IsPiece : List Char → List Nat → Prop
  | plain {c : Char} (h : 0x20 ≤ c.toNat) (hquote : c ≠ '"') (hslash : c ≠ '\\') : IsPiece [c] (unitsOf c.toNat)
  | escape {c : Char} {n : Nat} (h : (c, n) ∈ escapes) : IsPiece ['\\', c] [n]
  | unit {ds : List Char} (hlength : ds.length = 4) (h : ∀ d ∈ ds, isHexDigit d = true) :
      IsPiece ('\\' :: 'u' :: ds) [ofHex ds]

/-- What stands between the quotes of a string. -/
inductive IsString : List Char → List Nat → Prop
  | nil : IsString [] []
  | cons {cs ds : List Char} {us vs : List Nat} (h : IsPiece cs us) (hrest : IsString ds vs) :
      IsString (cs ++ ds) (us ++ vs)

theorem IsPiece.isString {cs : List Char} {us : List Nat} (h : IsPiece cs us) : IsString cs us := by
  simpa using IsString.cons h .nil

theorem IsString.append {cs ds : List Char} {us vs : List Nat} (h : IsString cs us) (hrest : IsString ds vs) :
    IsString (cs ++ ds) (us ++ vs) := by
  induction h with
  | nil => exact hrest
  | cons hpiece _ ih => simpa [List.append_assoc] using IsString.cons hpiece ih

/-! ## Values -/

def IsBlank (cs : List Char) : Prop := ∀ c ∈ cs, c = ' ' ∨ c = '\t' ∨ c = '\n' ∨ c = '\r'

/-- A member of an object as it is written, and what it stands for. -/
structure Member where
  before : List Char
  name : List Char
  units : List Nat
  after : List Char
  value : List Char
  json : Json

structure Member.Named (m : Member) : Prop where
  before : IsBlank m.before
  name : IsString m.name m.units
  after : IsBlank m.after

def Member.text (m : Member) : List Char := m.before ++ '"' :: (m.name ++ '"' :: (m.after ++ ':' :: m.value))

def commas (parts : List (List Char)) : List Char := [','].intercalate parts

/-- A text stands for a value. White space may stand around every value, names of members included. -/
inductive Denotes : List Char → Json → Prop
  | null : Denotes ['n', 'u', 'l', 'l'] .null
  | true : Denotes ['t', 'r', 'u', 'e'] (.bool Bool.true)
  | false : Denotes ['f', 'a', 'l', 's', 'e'] (.bool Bool.false)
  | number {cs : List Char} (h : IsNumber cs) : Denotes cs (.number cs)
  | string {cs : List Char} {us : List Nat} (h : IsString cs us) : Denotes ('"' :: (cs ++ ['"'])) (.string us)
  | emptyArray {cs : List Char} (h : IsBlank cs) : Denotes ('[' :: (cs ++ [']'])) (.array [])
  | array {items : List (List Char × Json)} (hne : items ≠ []) (h : ∀ p ∈ items, Denotes p.1 p.2) :
      Denotes ('[' :: (commas (items.map Prod.fst) ++ [']'])) (.array (items.map Prod.snd))
  | emptyObject {cs : List Char} (h : IsBlank cs) : Denotes ('\x7b' :: (cs ++ ['\x7d'])) (.object [])
  | object {members : List Member} (hne : members ≠ []) (hnamed : ∀ m ∈ members, m.Named)
      (h : ∀ m ∈ members, Denotes m.value m.json) :
      Denotes ('\x7b' :: (commas (members.map Member.text) ++ ['\x7d']))
        (.object (members.map fun m => (m.units, m.json)))
  | spaced {before cs after : List Char} {j : Json} (hbefore : IsBlank before) (hafter : IsBlank after)
      (h : Denotes cs j) : Denotes (before ++ cs ++ after) j

/-! ## What stands outside of strings -/

/-- Where in a text a character stands: outside of strings, in one, or behind a backslash. -/
inductive Place
  | outside
  | inside
  | escaped

/-- The characters that stand outside of strings. -/
def shown : Place → List Char → List Char
  | _, [] => []
  | .outside, c :: cs => if c = '"' then shown .inside cs else c :: shown .outside cs
  | .inside, c :: cs => shown (if c = '"' then .outside else if c = '\\' then .escaped else .inside) cs
  | .escaped, _ :: cs => shown .inside cs

/-- A text that ends outside of strings shows some characters there. -/
def Shows (cs shows : List Char) : Prop := ∀ rest, shown .outside (cs ++ rest) = shows ++ shown .outside rest

theorem Shows.unique {cs p q : List Char} (hp : Shows cs p) (hq : Shows cs q) : p = q := by
  have h := (hp []).symm.trans (hq [])
  simpa [shown] using h

theorem Shows.append {cs ds p q : List Char} (hp : Shows cs p) (hq : Shows ds q) : Shows (cs ++ ds) (p ++ q) := by
  intro rest
  rw [List.append_assoc, hp, hq, List.append_assoc]

/-- What has no quotes shows all of itself. -/
theorem shows_self {cs : List Char} (h : '"' ∉ cs) : Shows cs cs := by
  intro rest
  induction cs with
  | nil => rfl
  | cons c cs ih =>
    have hc : c ≠ '"' := fun hc => h (hc ▸ List.mem_cons_self)
    simp only [List.cons_append, shown, hc, if_false]
    rw [ih fun hmem => h (List.mem_cons_of_mem _ hmem)]

theorem shown_inside_of_ne {c : Char} (hquote : c ≠ '"') (hslash : c ≠ '\\') (cs : List Char) :
    shown .inside (c :: cs) = shown .inside cs := by
  simp [shown, hquote, hslash]

theorem shown_inside_of_isPiece {cs : List Char} {us : List Nat} (h : IsPiece cs us) (rest : List Char) :
    shown .inside (cs ++ rest) = shown .inside rest := by
  cases h with
  | plain h hquote hslash => exact shown_inside_of_ne hquote hslash rest
  | escape h => rfl
  | @unit ds hlength h =>
    have hhex : ∀ ds : List Char, (∀ d ∈ ds, isHexDigit d = true) →
        shown .inside (ds ++ rest) = shown .inside rest := by
      intro ds h
      induction ds with
      | nil => rfl
      | cons d ds ih =>
        have hd := h d List.mem_cons_self
        have hquote : d ≠ '"' := by
          rintro rfl
          exact absurd hd (by decide)
        have hslash : d ≠ '\\' := by
          rintro rfl
          exact absurd hd (by decide)
        rw [List.cons_append, shown_inside_of_ne hquote hslash]
        exact ih fun d' hd' => h d' (List.mem_cons_of_mem _ hd')
    exact hhex ds h

/-- A string shows nothing. -/
theorem shows_string {cs : List Char} {us : List Nat} (h : IsString cs us) : Shows ('"' :: (cs ++ ['"'])) [] := by
  intro rest
  have hinside : ∀ rest, shown .inside (cs ++ rest) = shown .inside rest := by
    induction h with
    | nil => exact fun rest => rfl
    | cons hpiece _ ih =>
      intro rest
      rw [List.append_assoc, shown_inside_of_isPiece hpiece, ih]
  show shown .inside (cs ++ ['"'] ++ rest) = _
  rw [List.append_assoc, hinside]
  rfl

/-! ## What JSON texts show -/

/-- Neither of the capitals that the words for doubles without digits begin with. -/
def Wordless (cs : List Char) : Prop := 'N' ∉ cs ∧ 'I' ∉ cs

instance (cs : List Char) : Decidable (Wordless cs) := inferInstanceAs (Decidable (_ ∧ _))

/-- A text that shows neither of them. -/
def Tame (cs : List Char) : Prop := ∃ shows, Shows cs shows ∧ Wordless shows

theorem Tame.append {cs ds : List Char} (h : Tame cs) (h' : Tame ds) : Tame (cs ++ ds) := by
  obtain ⟨p, hp, hN, hI⟩ := h
  obtain ⟨q, hq, hN', hI'⟩ := h'
  exact ⟨p ++ q, hp.append hq, by simp [hN, hN'], by simp [hI, hI']⟩

theorem tame_self {cs : List Char} (hquote : '"' ∉ cs) (h : Wordless cs) : Tame cs := ⟨cs, shows_self hquote, h⟩

theorem tame_string {cs : List Char} {us : List Nat} (h : IsString cs us) : Tame ('"' :: (cs ++ ['"'])) :=
  ⟨[], shows_string h, List.not_mem_nil, List.not_mem_nil⟩

theorem tame_of_isBlank {cs : List Char} (h : IsBlank cs) : Tame cs := by
  have hne : ∀ c : Char, ¬ (c = ' ' ∨ c = '\t' ∨ c = '\n' ∨ c = '\r') → c ∉ cs := fun c hc hmem => hc (h c hmem)
  exact tame_self (hne _ (by decide)) ⟨hne _ (by decide), hne _ (by decide)⟩

theorem mem_of_isAmount {cs : List Char} (h : IsAmount cs) {c : Char} (hc : c ∈ cs) :
    c.isDigit = true ∨ c ∈ ['-', '+', '.', 'e', 'E'] := by
  obtain ⟨hint, hfraction, hexponent⟩ := h
  simp only [List.mem_append] at hc
  rcases hc with (hc | hc) | hc
  · exact .inl (hint.isDigit c hc)
  · cases hfraction with
    | absent => simp at hc
    | present hds =>
      rcases List.mem_cons.1 hc with rfl | hc
      · simp
      · exact .inl (hds.isDigit c hc)
  · cases hexponent with
    | absent => simp at hc
    | present hmark hsign hds =>
      simp only [List.mem_cons, List.mem_append] at hc
      rcases hc with rfl | hc | hc
      · rcases hmark with rfl | rfl <;> simp
      · rcases hsign with rfl | rfl | rfl <;> simp_all
      · exact .inl (hds.isDigit c hc)

/-- A number is made of digits, signs, a point and the mark of an exponent. -/
theorem mem_of_isNumber {cs : List Char} (h : IsNumber cs) {c : Char} (hc : c ∈ cs) :
    c.isDigit = true ∨ c ∈ ['-', '+', '.', 'e', 'E'] := by
  cases h with
  | plain h => exact mem_of_isAmount h hc
  | minus h =>
    rcases List.mem_cons.1 hc with rfl | hc
    · simp
    · exact mem_of_isAmount h hc

theorem not_mem_of_isNumber {cs : List Char} (h : IsNumber cs) {c : Char} (hdigit : c.isDigit = false)
    (hc : c ∉ ['-', '+', '.', 'e', 'E']) : c ∉ cs := by
  intro hmem
  rcases mem_of_isNumber h hmem with hd | hd
  · simp [hdigit] at hd
  · exact hc hd

theorem tame_of_isNumber {cs : List Char} (h : IsNumber cs) : Tame cs :=
  tame_self (not_mem_of_isNumber h (by decide) (by decide))
    ⟨not_mem_of_isNumber h (by decide) (by decide), not_mem_of_isNumber h (by decide) (by decide)⟩

theorem tame_commas {parts : List (List Char)} (h : ∀ cs ∈ parts, Tame cs) : Tame (commas parts) := by
  induction parts with
  | nil => exact tame_self (by simp [commas]) (by simp [commas, Wordless])
  | cons cs parts ih =>
    have hcs : Tame cs := h cs List.mem_cons_self
    cases parts with
    | nil => simpa [commas] using hcs
    | cons ds parts =>
      have hcomma : Tame [','] := tame_self (by decide) (by decide)
      have hrest := ih fun ds hds => h ds (List.mem_cons_of_mem _ hds)
      rw [commas, List.intercalate_cons_cons]
      exact (hcs.append hcomma).append hrest

theorem tame_member {m : Member} (hnamed : m.Named) (h : Tame m.value) : Tame m.text := by
  have hcolon : Tame [':'] := tame_self (by decide) (by decide)
  have htext : m.text = m.before ++ '"' :: (m.name ++ ['"']) ++ m.after ++ [':'] ++ m.value := by simp [Member.text]
  rw [htext]
  exact (((tame_of_isBlank hnamed.before).append (tame_string hnamed.name)).append
    (tame_of_isBlank hnamed.after)).append hcolon |>.append h

/-- Brackets around a text. -/
theorem tame_enclosed {start stop : Char} (hstart : Tame [start]) (hstop : Tame [stop]) {cs : List Char} (h : Tame cs) :
    Tame (start :: (cs ++ [stop])) := (hstart.append h).append hstop

/-- The step, for every rule of the grammar. -/
theorem tame_of_denotes {cs : List Char} {j : Json} (h : Denotes cs j) : Tame cs := by
  have hopen : Tame ['['] := tame_self (by decide) (by decide)
  have hclose : Tame [']'] := tame_self (by decide) (by decide)
  have hbegin : Tame ['\x7b'] := tame_self (by decide) (by decide)
  have hend : Tame ['\x7d'] := tame_self (by decide) (by decide)
  induction h with
  | null => exact tame_self (by decide) (by decide)
  | true => exact tame_self (by decide) (by decide)
  | false => exact tame_self (by decide) (by decide)
  | number h => exact tame_of_isNumber h
  | string h => exact tame_string h
  | emptyArray h => exact tame_enclosed hopen hclose (tame_of_isBlank h)
  | array _ _ ih => exact tame_enclosed hopen hclose (tame_commas (by simpa using ih))
  | emptyObject h => exact tame_enclosed hbegin hend (tame_of_isBlank h)
  | object _ hnamed _ ih =>
    refine tame_enclosed hbegin hend (tame_commas fun cs hcs => ?_)
    obtain ⟨m, hm, rfl⟩ := List.mem_map.1 hcs
    exact tame_member (hnamed m hm) (ih m hm)
  | spaced hbefore hafter _ ih => exact ((tame_of_isBlank hbefore).append ih).append (tame_of_isBlank hafter)

/-- A text that shows one of the two capitals is no JSON. -/
theorem not_denotes_of_shows {cs shows : List Char} (h : Shows cs shows) (hword : ¬ Wordless shows) (j : Json) :
    ¬ Denotes cs j := by
  intro hj
  obtain ⟨p, hp, hwordless⟩ := tame_of_denotes hj
  exact hword (h.unique hp ▸ hwordless)

end Json

end Readiness
