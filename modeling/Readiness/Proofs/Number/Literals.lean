import Mathlib.Tactic.SplitIfs
import Readiness.Number.FloatText
import Readiness.Proofs.Text.Quoted

/-!
# Numbers as JSON numbers

Whole numbers and finite doubles are written as numbers of the grammar. What there is to see is that no zero stands in
front of other digits: the shortest decimal of a double other than zero has digits other than zero
(`digits_ofBinary_ne_zero`), and the decimal digits of a number begin with zero only if it is zero.
-/
namespace Readiness.Number

open Readiness.Json (IsDigits IsInt IsFraction IsExponent IsAmount IsNumber Shows Wordless)
open Readiness.Text (InLine)

/-! ## Digits -/

theorem isDigits_append {cs ds : List Char} (h : IsDigits cs) (hds : ∀ d ∈ ds, d.isDigit = true) :
    IsDigits (cs ++ ds) where
  ne_nil := by simp [h.ne_nil]
  isDigit c hc := (List.mem_append.1 hc).elim (h.isDigit c) (hds c)

theorem isDigit_zeros (n : Nat) : ∀ d ∈ List.replicate n '0', d.isDigit = true := by
  intro d hd
  rw [List.eq_of_mem_replicate hd]
  rfl

theorem isDigits_natDigits (n : Nat) : IsDigits (natDigits n) where
  ne_nil := List.ne_nil_of_length_pos Nat.length_toDigits_pos
  isDigit _ hc := Nat.isDigit_of_mem_toDigits (by decide) (by decide) hc

/-- The digits of a number other than zero do not begin with zero. -/
theorem head?_natDigits {n : Nat} (h : n ≠ 0) : (natDigits n).head? ≠ some '0' := by
  induction n using Nat.strongRecOn with
  | ind n ih =>
    have hzero : ∀ d < 10, Nat.digitChar d = '0' → d = 0 := by decide
    unfold natDigits
    rw [Nat.toDigits_eq_if (by decide)]
    split
    · rename_i hlt
      intro hhead
      exact h (hzero n hlt (by simpa using hhead))
    · rename_i hge
      obtain ⟨d, ds, hfront⟩ := List.exists_cons_of_ne_nil (isDigits_natDigits (n / 10)).ne_nil
      have hhead := ih (n / 10) (by omega) (by omega)
      unfold natDigits at hfront hhead
      rw [hfront] at hhead ⊢
      exact hhead

theorem isInt_of_head? {cs : List Char} (h : IsDigits cs) (hhead : cs.head? ≠ some '0') : IsInt cs :=
  ⟨h, fun hzero => absurd hzero hhead⟩

theorem isInt_digit {d : Char} (h : d.isDigit = true) : IsInt [d] where
  ne_nil := List.cons_ne_nil _ _
  isDigit c hc := by rwa [List.mem_singleton.1 hc]
  lead hzero := by simpa using hzero

theorem isInt_natDigits (n : Nat) : IsInt (natDigits n) := by
  by_cases h : n = 0
  · subst h
    exact isInt_digit rfl
  · exact isInt_of_head? (isDigits_natDigits n) (head?_natDigits h)

theorem isAmount_natDigits (n : Nat) : IsAmount (natDigits n) := by
  simpa using IsAmount.parts (isInt_natDigits n) .absent .absent

/-- A whole number as it is written. -/
theorem isNumber_toString (n : Int) : IsNumber (toString n).toList := by
  cases n with
  | ofNat n =>
    have htext : (toString (Int.ofNat n)).toList = natDigits n := Nat.toList_repr
    rw [htext]
    exact .plain (isAmount_natDigits n)
  | negSucc n =>
    have htext : (toString (Int.negSucc n)).toList = '-' :: natDigits (n + 1) := by
      rw [Int.toString_eq_repr, Int.repr, String.toList_append, Nat.toList_repr]
      rfl
    rw [htext]
    exact .minus (isAmount_natDigits (n + 1))

/-! ## Decimals -/

theorem isAmount_positional {digits : List Char} (h : IsDigits digits) (hhead : digits.head? ≠ some '0')
    (point : Int) : IsAmount (positional digits point) := by
  obtain ⟨d, ds, rfl⟩ := List.exists_cons_of_ne_nil h.ne_nil
  unfold positional
  split_ifs with hsmall hwhole
  · -- All digits stand behind the point, after zeros.
    have hfraction : IsDigits (List.replicate (-point).toNat '0' ++ d :: ds) :=
      ⟨by simp, fun c hc => (List.mem_append.1 hc).elim (isDigit_zeros _ c) (h.isDigit c)⟩
    simpa using IsAmount.parts (isInt_digit (d := '0') rfl) (.present hfraction) .absent
  · -- Zeros fill up the digits to a whole number.
    have hint : IsInt (d :: ds ++ List.replicate (point.toNat - (d :: ds).length) '0') :=
      isInt_of_head? (isDigits_append h (isDigit_zeros _)) (by simpa using hhead)
    have hzero : IsDigits ['0'] := (isInt_digit rfl).toIsDigits
    simpa using IsAmount.parts hint (.present hzero) .absent
  · obtain ⟨k, hk⟩ : ∃ k, point.toNat = k + 1 := ⟨point.toNat - 1, by omega⟩
    rw [hk] at hwhole ⊢
    have hint : IsInt ((d :: ds).take (k + 1)) := by
      refine isInt_of_head? ⟨by simp, fun c hc => h.isDigit c (List.mem_of_mem_take hc)⟩ ?_
      simpa using hhead
    have hfraction : IsDigits ((d :: ds).drop (k + 1)) := by
      refine ⟨?_, fun c hc => h.isDigit c (List.mem_of_mem_drop hc)⟩
      rw [ne_eq, List.drop_eq_nil_iff]
      exact hwhole
    simpa using IsAmount.parts hint (.present hfraction) .absent

theorem isDigits_exponentDigits (n : Nat) : IsDigits (exponentDigits n) := by
  unfold exponentDigits
  split
  · exact isDigits_append (isInt_digit (d := '0') rfl).toIsDigits (isDigits_natDigits n).isDigit
  · exact isDigits_natDigits n

theorem isAmount_exponential {digits : List Char} (h : IsDigits digits) (e : Int) :
    IsAmount (exponential digits e) := by
  obtain ⟨d, ds, rfl⟩ := List.exists_cons_of_ne_nil h.ne_nil
  have hint : IsInt [d] := isInt_digit (h.isDigit d List.mem_cons_self)
  have hexponent : IsExponent ('e' :: (if e < 0 then '-' else '+') :: exponentDigits e.natAbs) := by
    have hsign : ∀ s : Char, s = '-' ∨ s = '+' → IsExponent ('e' :: s :: exponentDigits e.natAbs) := by
      intro s hs
      exact @IsExponent.present 'e' [s] _ (.inl rfl) (by simpa using hs) (isDigits_exponentDigits e.natAbs)
    exact hsign _ (by split <;> simp)
  unfold exponential
  cases ds with
  | nil => exact .parts hint .absent hexponent
  | cons d' ds =>
    have hfraction : IsDigits (d' :: ds) :=
      ⟨List.cons_ne_nil _ _, fun c hc => h.isDigit c (List.mem_cons_of_mem _ hc)⟩
    exact .parts hint (.present hfraction) hexponent

theorem isAmount_decimal (style : FloatStyle) {d : Decimal} (h : d.digits ≠ 0) : IsAmount (style.decimal d) := by
  unfold FloatStyle.decimal
  dsimp only
  split
  · exact isAmount_positional (isDigits_natDigits _) (head?_natDigits h) _
  · exact isAmount_exponential (isDigits_natDigits _) _

/-! ## The shortest decimal -/

open Shortest

theorem onGrid_ne_zero {m : Nat} {q k : Int} {d : Nat} (h : onGrid m q k = some d) : d ≠ 0 := by
  unfold onGrid at h
  dsimp only at h
  split at h
  · rename_i hbelow _
    simp only [Bool.and_eq_true, bne_iff_ne] at hbelow
    cases h
    split
    · exact hbelow.2
    · exact Nat.succ_ne_zero _
  · rename_i hbelow _
    simp only [Bool.and_eq_true, bne_iff_ne] at hbelow
    cases h
    exact hbelow.2
  · cases h
    exact Nat.succ_ne_zero _
  · cases h

theorem digits_search_ne_zero {m : Nat} (hm : m ≠ 0) (q top : Int) (fuel n : Nat) :
    (search m q top fuel n).digits ≠ 0 := by
  induction fuel generalizing n with
  | zero => exact hm
  | succ fuel ih =>
    unfold search
    split
    · rename_i hgrid
      exact onGrid_ne_zero hgrid
    · exact ih _

theorem digits_trim_ne_zero {d : Decimal} (h : d.digits ≠ 0) (fuel : Nat) : (trim fuel d).digits ≠ 0 := by
  induction fuel generalizing d with
  | zero => exact h
  | succ fuel ih =>
    unfold trim
    split
    · rename_i hlast
      exact ih (by dsimp only; omega)
    · exact h

theorem digits_ofBinary_ne_zero {m : Nat} (hm : m ≠ 0) (q : Int) : (ofBinary m q).digits ≠ 0 :=
  digits_trim_ne_zero (digits_search_ne_zero hm q _ _ _) _

/-! ## Doubles -/

/-- A finite double as it is written. -/
theorem isNumber_finite (style : FloatStyle) (negative : Bool) (m : Nat) (q : Int) :
    IsNumber (style.parts (.finite negative m q)) := by
  have hamount : IsAmount (if m = 0 then ['0', '.', '0'] else style.decimal (ofBinary m q)) := by
    split
    · have hzero : IsInt ['0'] := isInt_digit rfl
      exact .parts hzero (.present hzero.toIsDigits) .absent
    · rename_i hm
      exact isAmount_decimal style (digits_ofBinary_ne_zero hm q)
  unfold FloatStyle.parts
  cases negative with
  | false => exact .plain hamount
  | true => exact .minus hamount

theorem inLine_of_isNumber {cs : List Char} (h : IsNumber cs) : InLine cs := by
  intro c hc
  rcases Json.mem_of_isNumber h hc with hdigit | hmark
  · simp only [Char.isDigit, Bool.and_eq_true, decide_eq_true_eq] at hdigit
    have hlow : 48 ≤ c.toNat := hdigit.1
    have hhigh : c.toNat ≤ 57 := hdigit.2
    omega
  · have hmarks : InLine ['-', '+', '.', 'e', 'E'] := by decide
    exact hmarks c hmark

/-- The words for the other doubles begin with a capital outside of strings. -/
theorem shows_word {p : Parts} (h : ∀ negative m q, p ≠ .finite negative m q) :
    ∃ shows, Shows (FloatStyle.json.parts p) shows ∧ ¬ Wordless shows ∧ InLine (FloatStyle.json.parts p) := by
  have hword : ∀ cs : List Char, '"' ∉ cs → ¬ Wordless cs → InLine cs →
      ∃ shows, Shows cs shows ∧ ¬ Wordless shows ∧ InLine cs :=
    fun cs hquote hword hline => ⟨cs, Json.shows_self hquote, hword, hline⟩
  cases p with
  | nan => exact hword _ (by decide) (by decide) (by decide)
  | infinite negative => cases negative <;> exact hword _ (by decide) (by decide) (by decide)
  | finite negative m q => exact absurd rfl (h negative m q)

end Readiness.Number
