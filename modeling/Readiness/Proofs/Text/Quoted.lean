import Mathlib.Tactic.SplitIfs
import Readiness.Proofs.Text.JsonGrammar
import Readiness.Text.Quoted

/-!
# Texts as JSON strings

The JSON form of a text is a string of the grammar and stands for the units of the text, halves of characters included
(`denotes_jsonQuoted`). Nothing outside of printable ASCII is in it, and so no end of a line (`inLine_jsonQuoted`).
-/
namespace Readiness.Text

open Readiness.Json (unitsOf escapes IsPiece IsString Denotes Shows)

/-- The sixteen-bit units of a text. -/
def units (t : Text) : List Nat := t.points.flatMap fun c => unitsOf c.val

/-- Printable ASCII, in which no line ends. -/
def InLine (cs : List Char) : Prop := ∀ c ∈ cs, 0x20 ≤ c.toNat ∧ c.toNat < 0x7F

instance (cs : List Char) : Decidable (InLine cs) := List.decidableBAll _ cs

theorem inLine_nil : InLine [] := fun _ h => absurd h List.not_mem_nil

theorem InLine.append {cs ds : List Char} (h : InLine cs) (h' : InLine ds) : InLine (cs ++ ds) := by
  intro c hc
  rcases List.mem_append.1 hc with hc | hc
  · exact h c hc
  · exact h' c hc

/-! ## Hexadecimal digits -/

theorem digitChar_of_lt_sixteen : ∀ n < 16, letterDigit? n.digitChar = some n ∧ isHexDigit n.digitChar = true ∧
    InLine [n.digitChar] := by decide

theorem exists_of_mem_hexDigits {width n : Nat} {c : Char} (h : c ∈ hexDigits width n) :
    ∃ d < 16, c = d.digitChar := by
  induction width generalizing n with
  | zero => simp [hexDigits] at h
  | succ width ih =>
    rcases List.mem_append.1 h with h | h
    · exact ih h
    · exact ⟨n % 16, Nat.mod_lt _ (by decide), List.mem_singleton.1 h⟩

theorem length_hexDigits (width n : Nat) : (hexDigits width n).length = width := by
  induction width generalizing n with
  | zero => rfl
  | succ width ih => simp [hexDigits, ih]

/-- The digits are those of the number, as far as they reach. -/
theorem ofHex_hexDigits {width n : Nat} (h : n < .pow 16 width) : ofHex (hexDigits width n) = n := by
  induction width generalizing n with
  | zero =>
    have hzero : n = 0 := Nat.lt_one_iff.1 h
    rw [hzero]
    rfl
  | succ width ih =>
    have hlast := (digitChar_of_lt_sixteen (n % 16) (Nat.mod_lt _ (by decide))).1
    have hfront : ofHex (hexDigits width (n / 16)) = n / 16 := ih (Nat.div_lt_of_lt_mul (Nat.mul_comm 16 _ ▸ h))
    have hsnoc : ofHex (hexDigits (width + 1) n) = ofHex (hexDigits width (n / 16)) * 16 + n % 16 := by
      simp [hexDigits, ofHex, ofDigits, hlast]
    omega

/-! ## Escapes -/

/-- Characters on a line, between the quotes of a string that stands for some units. -/
structure Spells (cs : List Char) (us : List Nat) : Prop where
  inLine : InLine cs
  isString : IsString cs us

theorem Spells.append {cs ds : List Char} {us vs : List Nat} (h : Spells cs us) (h' : Spells ds vs) :
    Spells (cs ++ ds) (us ++ vs) := ⟨h.inLine.append h'.inLine, h.isString.append h'.isString⟩

theorem spells_escapeUnit {n : Nat} (h : n < 0x10000) : Spells (Json.escapeUnit n) [n] where
  inLine := by
    have hmark : InLine ['\\', 'u'] := by decide
    have hdigits : InLine (hexDigits 4 n) := by
      intro c hc
      obtain ⟨d, hd, rfl⟩ := exists_of_mem_hexDigits hc
      exact (digitChar_of_lt_sixteen d hd).2.2 _ List.mem_cons_self
    exact hmark.append hdigits
  isString := by
    have hhex : ∀ c ∈ hexDigits 4 n, isHexDigit c = true := by
      intro c hc
      obtain ⟨d, hd, rfl⟩ := exists_of_mem_hexDigits hc
      exact (digitChar_of_lt_sixteen d hd).2.1
    have hunit := IsPiece.unit (length_hexDigits 4 n) hhex
    rw [ofHex_hexDigits h] at hunit
    exact hunit.isString

theorem unitsOf_of_lt {n : Nat} (h : n < 0x10000) : unitsOf n = [n] := if_pos h

/-- The escapes of one letter. -/
theorem spells_of_mem_escapes {mark : Char} {n : Nat} (h : (mark, n) ∈ escapes) : Spells ['\\', mark] (unitsOf n) := by
  have hall : ∀ e ∈ escapes, InLine ['\\', e.1] ∧ e.2 < 0x10000 := by decide
  obtain ⟨hline, hlt⟩ := hall _ h
  rw [unitsOf_of_lt hlt]
  exact ⟨hline, (IsPiece.escape h).isString⟩

theorem spells_escapeChar (c : Char) : Spells (Json.escapeChar c) (unitsOf c.toNat) := by
  unfold Json.escapeChar
  split_ifs with hself hn hr ht hf hb hplain hbasic
  · rcases hself with rfl | rfl <;> exact spells_of_mem_escapes (by decide)
  · subst hn
    exact spells_of_mem_escapes (by decide)
  · subst hr
    exact spells_of_mem_escapes (by decide)
  · subst ht
    exact spells_of_mem_escapes (by decide)
  · subst hf
    exact spells_of_mem_escapes (by decide)
  · subst hb
    exact spells_of_mem_escapes (by decide)
  · rw [not_or] at hself
    refine ⟨fun d hd => ?_, (IsPiece.plain hplain.1 hself.1 hself.2).isString⟩
    rw [List.mem_singleton.1 hd]
    exact hplain
  · rw [unitsOf_of_lt hbasic]
    exact spells_escapeUnit hbasic
  · have hlt : c.toNat < 0x110000 := (CodePoint.ofChar c).isLt
    rw [unitsOf, if_neg hbasic]
    exact (spells_escapeUnit (by omega)).append (spells_escapeUnit (by omega))

/-- A half of a character has no character, and is less than the code points beyond the basic plane. -/
theorem lt_of_char?_eq_none {c : CodePoint} (h : c.char? = none) : c.val < 0x10000 := by
  refine Nat.lt_of_not_le fun hle => ?_
  have hvalid : c.val.isValidChar := .inr ⟨by omega, c.isLt⟩
  rw [CodePoint.char?, dif_pos hvalid] at h
  cases h

theorem spells_escape (c : CodePoint) : Spells (Json.escape c) (unitsOf c.val) := by
  unfold Json.escape
  cases h : c.char? with
  | some ch =>
    rw [← ofChar_of_char? h]
    exact spells_escapeChar ch
  | none =>
    have hlt := lt_of_char?_eq_none h
    rw [unitsOf_of_lt hlt]
    exact spells_escapeUnit hlt

/-! ## Texts -/

theorem spells_escaped (t : Text) : Spells (t.points.flatMap Json.escape) t.units := by
  unfold units
  induction t.points with
  | nil => exact ⟨inLine_nil, .nil⟩
  | cons c cs ih => exact (spells_escape c).append ih

theorem toList_jsonQuoted (t : Text) : (jsonQuoted t).toList = '"' :: (t.points.flatMap Json.escape ++ ['"']) := by
  simp [jsonQuoted, Json.encode]

theorem denotes_jsonQuoted (t : Text) : Denotes (jsonQuoted t).toList (.string t.units) := by
  rw [toList_jsonQuoted]
  exact .string (spells_escaped t).isString

theorem shows_jsonQuoted (t : Text) : Shows (jsonQuoted t).toList [] := by
  rw [toList_jsonQuoted]
  exact Json.shows_string (spells_escaped t).isString

theorem inLine_jsonQuoted (t : Text) : InLine (jsonQuoted t).toList := by
  have hquote : InLine ['"'] := by decide
  rw [toList_jsonQuoted]
  exact hquote.append ((spells_escaped t).inLine.append hquote)

end Readiness.Text
