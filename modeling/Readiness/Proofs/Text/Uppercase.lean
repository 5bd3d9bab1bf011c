import Readiness.Text.Uppercase

/-!
# Upper case is final

A letter that has a capital, by a run or by an expansion, is *changed*, and every letter that a capital is made of lies
apart from the changed ones. This is one check of the tables against each other, run against run (`apart_capitals`).
From it a text in upper case stays as it is when it is put into upper case again (`upper_upper`).
-/
namespace Readiness.Text

/-! ## Runs -/

namespace CaseRun

/-- The run of one letter, in which the letter is its own partner. -/
def single (n : Nat) : CaseRun := ⟨n, n, 1, 0⟩

/-- The run of the partners. -/
def partners (r : CaseRun) : CaseRun := ⟨(r.first + r.shift).toNat, (r.last + r.shift).toNat, r.step, 0⟩

/-- Two runs without a common letter: one lies behind the other, or the letters of one fall between those of the other. -/
def apart (r other : CaseRun) : Bool :=
  r.last.blt other.first || other.last.blt r.first ||
    (other.step == 2 && (r.step == 2 || r.first == r.last) && (r.first + other.first) % 2 == 1)

/-- All letters of a run are characters. -/
def isWhole (r : CaseRun) : Bool := r.last < 0xD800 || (0xDFFF < r.first && r.last < 0x110000)

variable {r other : CaseRun} {n : Nat}

theorem covers_iff : r.covers n ↔ r.first ≤ n ∧ n ≤ r.last ∧ (n - r.first) % r.step = 0 := by
  simp [covers, and_assoc]

theorem covers_single_iff {m : Nat} : (single m).covers n ↔ n = m := by
  rw [covers_iff]
  simp only [single, Nat.mod_one, and_true]
  omega

theorem not_covers_of_apart (hapart : r.apart other) (hn : r.covers n) : other.covers n = false := by
  obtain ⟨hfirst, hlast, hstep⟩ := covers_iff.1 hn
  rw [Bool.eq_false_iff, ne_eq, covers_iff]
  rintro ⟨hfirst', hlast', hstep'⟩
  simp only [apart, Bool.or_eq_true, Bool.and_eq_true, Nat.blt_eq, beq_iff_eq] at hapart
  rcases hapart with (hbefore | hbehind) | ⟨⟨htwo', htwo | hone⟩, hodd⟩
  · omega
  · omega
  · rw [htwo] at hstep
    rw [htwo'] at hstep'
    omega
  · rw [htwo'] at hstep'
    omega

theorem toNat_of_covers (hwhole : r.isWhole) (hn : r.covers n) : (Char.ofNat n).toNat = n := by
  obtain ⟨hfirst, hlast, -⟩ := covers_iff.1 hn
  simp only [isWhole, Bool.or_eq_true, Bool.and_eq_true, decide_eq_true_eq] at hwhole
  exact toNat_ofNat_of_valid (by omega)

theorem covers_partners (hshift : 0 ≤ r.first + r.shift) (hn : r.covers n) :
    r.partners.covers (n + r.shift).toNat := by
  obtain ⟨hfirst, hlast, hstep⟩ := covers_iff.1 hn
  refine covers_iff.2 ⟨?_, ?_, ?_⟩
  · show (r.first + r.shift).toNat ≤ _
    omega
  · show _ ≤ (r.last + r.shift).toNat
    omega
  · have hdistance : (n + r.shift).toNat - (r.first + r.shift).toNat = n - r.first := by omega
    show ((n + r.shift).toNat - (r.first + r.shift).toNat) % r.step = 0
    rw [hdistance, hstep]

end CaseRun

/-! ## The tables -/

/-- The letters that have a capital. -/
def changed : List CaseRun := caseRuns ++ caseExpansions.map fun p => .single p.1

/-- The letters that capitals are made of. -/
def capitals : List CaseRun :=
  caseRuns.map CaseRun.partners ++ caseExpansions.flatMap fun p => p.2.map .single

theorem apart_capitals : (capitals.all fun r => r.isWhole && changed.all r.apart) = true := by
  decide +kernel

theorem shift_caseRuns : ∀ r ∈ caseRuns, 0 ≤ r.first + r.shift := by
  decide +kernel

/-- The short way for ASCII leads to where the tables lead to. -/
theorem toUpper_of_ascii : ∀ n < 0x80, caseExpansions.lookup n = none ∧
    (Char.ofNat n).toUpper = shiftBy caseRuns (Char.ofNat n) := by
  decide +kernel

/-- The letter has no capital. -/
def Stays (n : Nat) : Prop := ∀ r ∈ changed, r.covers n = false

theorem stays_of_capital {r : CaseRun} {n : Nat} (hr : r ∈ capitals) (hn : r.covers n) : Stays n := by
  intro other hother
  have hapart := List.all_eq_true.1 apart_capitals r hr
  rw [Bool.and_eq_true, List.all_eq_true] at hapart
  exact CaseRun.not_covers_of_apart (hapart.2 other hother) hn

/-- The number of a letter that a capital is made of. -/
theorem toNat_of_capital {r : CaseRun} {n : Nat} (hr : r ∈ capitals) (hn : r.covers n) : (Char.ofNat n).toNat = n := by
  have hwhole := List.all_eq_true.1 apart_capitals r hr
  rw [Bool.and_eq_true] at hwhole
  exact CaseRun.toNat_of_covers hwhole.1 hn

/-! ## Letters -/

variable {c d : Char}

theorem upperChar_eq (c : Char) : upperChar c =
    match caseExpansions.lookup c.toNat with
    | some cs => cs.map Char.ofNat
    | none => [shiftBy caseRuns c] := by
  unfold upperChar
  split
  · rename_i hascii
    obtain ⟨hlookup, hupper⟩ := toUpper_of_ascii c.toNat hascii
    rw [Char.ofNat_toNat] at hupper
    rw [hlookup, hupper]
  · rfl

theorem mem_of_lookup {β : Type} {k : Nat} {v : β} {l : List (Nat × β)} (h : l.lookup k = some v) : (k, v) ∈ l := by
  obtain ⟨before, after, rfl, -⟩ := List.lookup_eq_some_iff.1 h
  simp

theorem upperChar_of_stays (h : Stays c.toNat) : upperChar c = [c] := by
  have hlookup : caseExpansions.lookup c.toNat = none := by
    cases hfound : caseExpansions.lookup c.toNat with
    | none => rfl
    | some cs =>
      have hmem : CaseRun.single c.toNat ∈ changed :=
        List.mem_append_right _ (List.mem_map.2 ⟨_, mem_of_lookup hfound, rfl⟩)
      have := h _ hmem
      rw [Bool.eq_false_iff, ne_eq, CaseRun.covers_single_iff] at this
      exact absurd rfl this
  have hruns : caseRuns.find? (·.covers c.toNat) = none :=
    List.find?_eq_none.2 fun r hr => by simp [h r (List.mem_append_left _ hr)]
  rw [upperChar_eq, hlookup]
  simp [shiftBy, hruns]

theorem stays_of_mem_upperChar (h : d ∈ upperChar c) : Stays d.toNat := by
  rw [upperChar_eq] at h
  split at h
  case h_1 cs hfound =>
    obtain ⟨n, hn, rfl⟩ := List.mem_map.1 h
    have hmem : CaseRun.single n ∈ capitals :=
      List.mem_append_right _ (List.mem_flatMap.2 ⟨_, mem_of_lookup hfound, List.mem_map.2 ⟨n, hn, rfl⟩⟩)
    have hcovers : (CaseRun.single n).covers n := CaseRun.covers_single_iff.2 rfl
    rw [toNat_of_capital hmem hcovers]
    exact stays_of_capital hmem hcovers
  case h_2 hlookup =>
    rw [List.mem_singleton.1 h]
    unfold shiftBy
    cases hfind : caseRuns.find? (·.covers c.toNat) with
    | some r =>
      have hr : r ∈ caseRuns := List.mem_of_find?_eq_some hfind
      have hmem : r.partners ∈ capitals := List.mem_append_left _ (List.mem_map.2 ⟨r, hr, rfl⟩)
      have hn : r.covers c.toNat := by simpa using List.find?_some hfind
      have hcovers := CaseRun.covers_partners (shift_caseRuns r hr) hn
      dsimp only
      rw [toNat_of_capital hmem hcovers]
      exact stays_of_capital hmem hcovers
    | none =>
      intro r hr
      rcases List.mem_append.1 hr with hrun | hexpansion
      · simpa using List.find?_eq_none.1 hfind r hrun
      · obtain ⟨p, hp, rfl⟩ := List.mem_map.1 hexpansion
        rw [Bool.eq_false_iff, ne_eq, CaseRun.covers_single_iff]
        intro hkey
        have hne := List.lookup_eq_none_iff.1 hlookup p hp
        simp [hkey] at hne

/-! ## Texts -/

theorem upperPoint_of_mem_upperPoint {a b : CodePoint} (h : b ∈ upperPoint a) : upperPoint b = [b] := by
  unfold upperPoint at h
  split at h
  · obtain ⟨d, hd, rfl⟩ := List.mem_map.1 h
    simp [upperPoint, char?_ofChar, upperChar_of_stays (stays_of_mem_upperChar hd)]
  · rename_i hhalf
    rw [List.mem_singleton.1 h]
    simp [upperPoint, hhalf]

/-- **A text in upper case stays as it is.** -/
theorem upper_upper (t : Text) : upper (upper t) = upper t := by
  have hpoints : ∀ a : CodePoint, (upperPoint a).flatMap upperPoint = upperPoint a := fun a => by
    have hone : ∀ b ∈ upperPoint a, upperPoint b = [b] := fun b hb => upperPoint_of_mem_upperPoint hb
    calc (upperPoint a).flatMap upperPoint
        = (upperPoint a).flatMap fun b => [b] := by simp only [List.flatMap_def, List.map_congr_left hone]
      _ = upperPoint a := List.flatMap_singleton' _
  simp [upper, List.flatMap_assoc, hpoints]

end Readiness.Text
