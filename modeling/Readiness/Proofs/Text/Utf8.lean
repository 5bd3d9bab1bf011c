import Mathlib.Data.List.Basic
import Mathlib.Data.List.TakeWhile
import Mathlib.Tactic.SplitIfs
import Readiness.Text.Basic
import Readiness.Text.Utf8

/-!
# UTF-8 is decoded exactly

Decoding is the inverse of encoding: it gives a text back from its bytes, and it accepts no other bytes
(`decodeUtf8_eq_ok_iff`). Overlong forms, halves of characters and numbers past the last code point are thereby refused,
for they are the encoding of nothing.

Both directions are settled for one character (`encodeChar_of_step`, `step_encodeChar`), by the number of bytes that the
first one announces, and follow for texts by induction.
-/
namespace Readiness.Text

namespace Utf8

/-! ## What a first byte announces -/

/-- The first bytes by their ranges. The second byte is bounded where a sequence could be overlong, half of a character
or past the last code point. -/
theorem lead?_eq (b : UInt8) : lead? b =
    if b.toNat < 0x80 then some ⟨0, 0x80, 0xBF⟩
    else if b.toNat < 0xC2 then none
    else if b.toNat < 0xE0 then some ⟨1, 0x80, 0xBF⟩
    else if b.toNat < 0xF0 then
      some ⟨2, if b.toNat = 0xE0 then 0xA0 else 0x80, if b.toNat = 0xED then 0x9F else 0xBF⟩
    else if b.toNat < 0xF5 then
      some ⟨3, if b.toNat = 0xF0 then 0x90 else 0x80, if b.toNat = 0xF4 then 0x8F else 0xBF⟩
    else none := by
  simp only [lead?, UInt8.lt_iff_toNat_lt, ← UInt8.toNat_inj]
  simp only [UInt8.reduceToNat]
  split_ifs <;> first | rfl | omega

theorem isContinuation_iff {b : UInt8} : isContinuation b = true ↔ 0x80 ≤ b.toNat ∧ b.toNat < 0xC0 := by
  simp [isContinuation, UInt8.le_iff_toNat_le, UInt8.lt_iff_toNat_lt]

/-! ## Encodings by their bytes -/

/-- The second byte of a sequence of three, which keeps halves of characters and overlong forms out. -/
def FitsThree (b x : Nat) : Prop :=
  (0xE0 ≤ b ∧ b < 0xF0) ∧ (0x80 ≤ x ∧ x < 0xC0) ∧ (b = 0xE0 → 0xA0 ≤ x) ∧ (b = 0xED → x < 0xA0)

/-- The second byte of a sequence of four. -/
def FitsFour (b x : Nat) : Prop :=
  (0xF0 ≤ b ∧ b < 0xF5) ∧ (0x80 ≤ x ∧ x < 0xC0) ∧ (b = 0xF0 → 0x90 ≤ x) ∧ (b = 0xF4 → x < 0x90)

section
variable {c : Char} {b x y z : UInt8}

theorem encodeChar_one (hb : b.toNat < 0x80) (hc : c.toNat = b.toNat) : String.utf8EncodeChar c = [b] := by
  have hval : c.val.toNat = b.toNat := hc
  rw [String.utf8EncodeChar, hval, if_pos (by omega)]
  simp

theorem encodeChar_two (hb : 0xC2 ≤ b.toNat ∧ b.toNat < 0xE0) (hx : 0x80 ≤ x.toNat ∧ x.toNat < 0xC0)
    (hc : c.toNat = b.toNat % 0x20 * 0x40 + x.toNat % 0x40) : String.utf8EncodeChar c = [b, x] := by
  have hval : c.val.toNat = b.toNat % 0x20 * 0x40 + x.toNat % 0x40 := hc
  simp only [String.utf8EncodeChar, hval]
  rw [if_neg (by omega), if_pos (by omega)]
  simp only [List.cons.injEq, ← UInt8.toNat_inj, UInt8.toNat_ofNat']
  refine ⟨by omega, by omega, trivial⟩

theorem encodeChar_three (h : FitsThree b.toNat x.toNat) (hy : 0x80 ≤ y.toNat ∧ y.toNat < 0xC0)
    (hc : c.toNat = (b.toNat % 0x10 * 0x40 + x.toNat % 0x40) * 0x40 + y.toNat % 0x40) :
    String.utf8EncodeChar c = [b, x, y] := by
  obtain ⟨hb, hx, hover, _⟩ := h
  have hval : c.val.toNat = (b.toNat % 0x10 * 0x40 + x.toNat % 0x40) * 0x40 + y.toNat % 0x40 := hc
  simp only [String.utf8EncodeChar, hval]
  rw [if_neg (by omega), if_neg (by omega), if_pos (by omega)]
  simp only [List.cons.injEq, ← UInt8.toNat_inj, UInt8.toNat_ofNat']
  refine ⟨by omega, by omega, by omega, trivial⟩

theorem encodeChar_four (h : FitsFour b.toNat x.toNat) (hy : 0x80 ≤ y.toNat ∧ y.toNat < 0xC0)
    (hz : 0x80 ≤ z.toNat ∧ z.toNat < 0xC0)
    (hc : c.toNat =
      ((b.toNat % 0x08 * 0x40 + x.toNat % 0x40) * 0x40 + y.toNat % 0x40) * 0x40 + z.toNat % 0x40) :
    String.utf8EncodeChar c = [b, x, y, z] := by
  obtain ⟨hb, hx, hover, _⟩ := h
  have hval : c.val.toNat =
    ((b.toNat % 0x08 * 0x40 + x.toNat % 0x40) * 0x40 + y.toNat % 0x40) * 0x40 + z.toNat % 0x40 := hc
  simp only [String.utf8EncodeChar, hval]
  rw [if_neg (by omega), if_neg (by omega), if_neg (by omega)]
  simp only [List.cons.injEq, ← UInt8.toNat_inj, UInt8.toNat_ofNat']
  refine ⟨by omega, by omega, by omega, by omega, trivial⟩

end

/-! ## The bytes that follow -/

/-- A sequence is complete when a second byte in its range and enough continuations follow. -/
theorem fitting_eq_iff {l : Lead} {n : Nat} (hn : l.following = n + 1) {rest : List UInt8} {x : UInt8}
    {ys : List UInt8} (hys : ys.length = n) :
    fitting l rest = x :: ys ↔ (∃ more, rest = x :: ys ++ more) ∧ (l.secondFrom ≤ x ∧ x ≤ l.secondTo) ∧
      ∀ y ∈ ys, isContinuation y = true := by
  cases rest with
  | nil => simp [fitting]
  | cons b rest =>
    simp only [fitting, hn, Nat.succ_ne_zero, if_false, Nat.add_sub_cancel, Bool.and_eq_true, decide_eq_true_eq]
    constructor
    · intro h
      split at h
      · rename_i hb
        obtain ⟨rfl, htail⟩ := List.cons.inj h
        have hwhole : (rest.take n).takeWhile isContinuation = rest.take n := by
          refine (List.takeWhile_prefix _).eq_of_length_le ?_
          rw [htail, hys]
          exact (List.length_take_le n rest)
        obtain rfl : rest.take n = ys := hwhole.symm.trans htail
        refine ⟨⟨rest.drop n, ?_⟩, hb, List.takeWhile_eq_self_iff.1 hwhole⟩
        rw [List.cons_append, List.take_append_drop]
      · simp at h
    · rintro ⟨⟨more, hrest⟩, hx, hall⟩
      obtain ⟨rfl, rfl⟩ := List.cons.inj hrest
      have htake : (ys ++ more).take n = ys := List.take_left' hys
      rw [if_pos hx]
      exact congrArg _ ((congrArg _ htake).trans (List.takeWhile_eq_self_iff.2 hall))

theorem exists_of_length_fitting {l : Lead} {n : Nat} {rest : List UInt8} (h : (fitting l rest).length = n + 1) :
    ∃ x ys, fitting l rest = x :: ys ∧ ys.length = n := by
  cases hfit : fitting l rest with
  | nil => simp [hfit] at h
  | cons x ys => exact ⟨x, ys, rfl, by simpa [hfit] using h⟩

/-! ## One character -/

theorem le_bounds_three {b x : UInt8} (hb : 0xE0 ≤ b.toNat ∧ b.toNat < 0xF0) :
    ((if b.toNat = 0xE0 then 0xA0 else 0x80) ≤ x ∧ x ≤ (if b.toNat = 0xED then (0x9F : UInt8) else 0xBF)) ↔
      FitsThree b.toNat x.toNat := by
  unfold FitsThree
  split_ifs <;> simp only [UInt8.le_iff_toNat_le, UInt8.reduceToNat] <;> omega

theorem le_bounds_four {b x : UInt8} (hb : 0xF0 ≤ b.toNat ∧ b.toNat < 0xF5) :
    ((if b.toNat = 0xF0 then 0x90 else 0x80) ≤ x ∧ x ≤ (if b.toNat = 0xF4 then (0x8F : UInt8) else 0xBF)) ↔
      FitsFour b.toNat x.toNat := by
  unfold FitsFour
  split_ifs <;> simp only [UInt8.le_iff_toNat_le, UInt8.reduceToNat] <;> omega

section
variable {position n : Nat} {b : UInt8} {rest : List UInt8} {l : Lead} {c : Char}

theorem step_of_lead (hl : lead? b = some l) : step position b rest = .ok (c, n) ↔
    (fitting l rest).length = l.following ∧ Char.ofNat (codePoint b l (fitting l rest)) = c ∧ l.following = n := by
  simp only [step, hl]
  split
  · rename_i hlen
    simp [hlen]
  · rename_i hlen
    simp [hlen]

theorem step_one (hb : b.toNat < 0x80) :
    step position b rest = .ok (c, n) ↔ Char.ofNat b.toNat = c ∧ 0 = n := by
  have hlead : lead? b = some ⟨0, 0x80, 0xBF⟩ := by rw [lead?_eq, if_pos hb]
  have hfit : fitting ⟨0, 0x80, 0xBF⟩ rest = [] := by cases rest <;> rfl
  rw [step_of_lead hlead, hfit]
  simp [codePoint]

/-- Where further bytes are announced, a step takes just these. -/
theorem step_more {m : Nat} (hlead : lead? b = some l) (hm : l.following = m + 1) :
    step position b rest = .ok (c, n) ↔ ∃ x ys more, rest = x :: ys ++ more ∧ ys.length = m ∧
      (l.secondFrom ≤ x ∧ x ≤ l.secondTo) ∧ (∀ y ∈ ys, isContinuation y = true) ∧
      Char.ofNat (codePoint b l (x :: ys)) = c ∧ m + 1 = n := by
  rw [step_of_lead hlead, hm]
  constructor
  · rintro ⟨hlen, hc, hn⟩
    obtain ⟨x, ys, hfit, hys⟩ := exists_of_length_fitting hlen
    obtain ⟨⟨more, hrest⟩, hx, hall⟩ := (fitting_eq_iff hm hys).1 hfit
    exact ⟨x, ys, more, hrest, hys, hx, hall, hfit ▸ hc, hn⟩
  · rintro ⟨x, ys, more, hrest, hys, hx, hall, hc, hn⟩
    have hfit := (fitting_eq_iff hm hys).2 ⟨⟨more, hrest⟩, hx, hall⟩
    exact ⟨by simp [hfit, hys], hfit ▸ hc, hn⟩

theorem step_two (hb : 0xC2 ≤ b.toNat ∧ b.toNat < 0xE0) :
    step position b rest = .ok (c, n) ↔ ∃ x more, rest = x :: more ∧ (0x80 ≤ x.toNat ∧ x.toNat < 0xC0) ∧
      Char.ofNat (b.toNat % 0x20 * 0x40 + x.toNat % 0x40) = c ∧ 1 = n := by
  have hlead : lead? b = some ⟨1, 0x80, 0xBF⟩ := by
    rw [lead?_eq, if_neg (by omega), if_neg (by omega), if_pos hb.2]
  have hx : ∀ x : UInt8, (0x80 ≤ x ∧ x ≤ 0xBF) ↔ 0x80 ≤ x.toNat ∧ x.toNat < 0xC0 := by
    intro x
    simp only [UInt8.le_iff_toNat_le, UInt8.reduceToNat]
    omega
  rw [step_more (m := 0) hlead rfl]
  simp only [List.length_eq_zero_iff, hx]
  constructor
  · rintro ⟨x, _, more, hrest, rfl, hx, _, hc, hn⟩
    exact ⟨x, more, hrest, hx, hc, hn⟩
  · rintro ⟨x, more, hrest, hx, hc, hn⟩
    exact ⟨x, [], more, hrest, rfl, hx, by simp, hc, hn⟩

theorem step_three (hb : 0xE0 ≤ b.toNat ∧ b.toNat < 0xF0) :
    step position b rest = .ok (c, n) ↔ ∃ x y more, rest = x :: y :: more ∧ FitsThree b.toNat x.toNat ∧
      (0x80 ≤ y.toNat ∧ y.toNat < 0xC0) ∧
      Char.ofNat ((b.toNat % 0x10 * 0x40 + x.toNat % 0x40) * 0x40 + y.toNat % 0x40) = c ∧ 2 = n := by
  have hlead : lead? b = some
      ⟨2, if b.toNat = 0xE0 then 0xA0 else 0x80, if b.toNat = 0xED then 0x9F else 0xBF⟩ := by
    rw [lead?_eq, if_neg (by omega), if_neg (by omega), if_neg (by omega), if_pos hb.2]
  rw [step_more (m := 1) hlead rfl]
  simp only [List.length_eq_one_iff, le_bounds_three hb]
  constructor
  · rintro ⟨x, _, more, hrest, ⟨y, rfl⟩, hx, hy, hc, hn⟩
    exact ⟨x, y, more, hrest, hx, isContinuation_iff.1 (hy y (by simp)), hc, hn⟩
  · rintro ⟨x, y, more, hrest, hx, hy, hc, hn⟩
    exact ⟨x, [y], more, hrest, ⟨y, rfl⟩, hx, by simpa [isContinuation_iff] using hy, hc, hn⟩

theorem step_four (hb : 0xF0 ≤ b.toNat ∧ b.toNat < 0xF5) :
    step position b rest = .ok (c, n) ↔ ∃ x y z more, rest = x :: y :: z :: more ∧ FitsFour b.toNat x.toNat ∧
      (0x80 ≤ y.toNat ∧ y.toNat < 0xC0) ∧ (0x80 ≤ z.toNat ∧ z.toNat < 0xC0) ∧
      Char.ofNat (((b.toNat % 0x08 * 0x40 + x.toNat % 0x40) * 0x40 + y.toNat % 0x40) * 0x40 + z.toNat % 0x40) = c ∧
      3 = n := by
  have hlead : lead? b = some
      ⟨3, if b.toNat = 0xF0 then 0x90 else 0x80, if b.toNat = 0xF4 then 0x8F else 0xBF⟩ := by
    rw [lead?_eq, if_neg (by omega), if_neg (by omega), if_neg (by omega), if_neg (by omega), if_pos hb.2]
  rw [step_more (m := 2) hlead rfl]
  simp only [List.length_eq_two, le_bounds_four hb]
  constructor
  · rintro ⟨x, _, more, hrest, ⟨y, z, rfl⟩, hx, hyz, hc, hn⟩
    exact ⟨x, y, z, more, hrest, hx, isContinuation_iff.1 (hyz y (by simp)), isContinuation_iff.1 (hyz z (by simp)),
      hc, hn⟩
  · rintro ⟨x, y, z, more, hrest, hx, hy, hz, hc, hn⟩
    exact ⟨x, [y, z], more, hrest, ⟨y, z, rfl⟩, hx, by simpa [isContinuation_iff] using ⟨hy, hz⟩, hc, hn⟩

/-- No sequence starts with a continuation, with a byte that would only make overlong forms, or past the last one. -/
theorem step_ne_ok (hb : 0x80 ≤ b.toNat ∧ b.toNat < 0xC2 ∨ 0xF5 ≤ b.toNat) :
    step position b rest ≠ .ok (c, n) := by
  have hlead : lead? b = none := by
    rw [lead?_eq]
    obtain h | h := hb
    · rw [if_neg (by omega), if_pos h.2]
    · rw [if_neg (by omega), if_neg (by omega), if_neg (by omega), if_neg (by omega), if_neg (by omega)]
  simp [step, hlead]

/-- A step reads the bytes of one character. -/
theorem encodeChar_of_step (h : step position b rest = .ok (c, n)) :
    String.utf8EncodeChar c = b :: rest.take n := by
  obtain hb | hb | hb | hb | hb : b.toNat < 0x80 ∨ (0xC2 ≤ b.toNat ∧ b.toNat < 0xE0) ∨
      (0xE0 ≤ b.toNat ∧ b.toNat < 0xF0) ∨ (0xF0 ≤ b.toNat ∧ b.toNat < 0xF5) ∨
      (0x80 ≤ b.toNat ∧ b.toNat < 0xC2 ∨ 0xF5 ≤ b.toNat) := by omega
  · obtain ⟨rfl, rfl⟩ := (step_one hb).1 h
    exact encodeChar_one hb (toNat_ofNat_of_valid (by omega))
  · obtain ⟨x, more, rfl, hx, rfl, rfl⟩ := (step_two hb).1 h
    exact encodeChar_two hb hx (toNat_ofNat_of_valid (by omega))
  · obtain ⟨x, y, more, rfl, hx, hy, rfl, rfl⟩ := (step_three hb).1 h
    refine encodeChar_three hx hy (toNat_ofNat_of_valid ?_)
    obtain ⟨_, _, hover, hhalf⟩ := hx
    omega
  · obtain ⟨x, y, z, more, rfl, hx, hy, hz, rfl, rfl⟩ := (step_four hb).1 h
    refine encodeChar_four hx hy hz (toNat_ofNat_of_valid ?_)
    obtain ⟨_, _, hover, hlast⟩ := hx
    omega
  · exact absurd h (step_ne_ok hb)

theorem exists_byte {k : Nat} (hk : k < 0x100) : ∃ b : UInt8, b.toNat = k :=
  ⟨UInt8.ofNat k, by rw [UInt8.toNat_ofNat', Nat.mod_eq_of_lt hk]⟩

/-- The bytes of a character are read as it, whatever follows them. -/
theorem step_encodeChar (position : Nat) (c : Char) (more : List UInt8) : ∃ b tail,
    String.utf8EncodeChar c = b :: tail ∧ step position b (tail ++ more) = .ok (c, tail.length) := by
  have hvalid : c.toNat < 0xD800 ∨ 0xDFFF < c.toNat ∧ c.toNat < 0x110000 := c.valid
  obtain h | h | h | h : c.toNat < 0x80 ∨ (0x80 ≤ c.toNat ∧ c.toNat < 0x800) ∨
      (0x800 ≤ c.toNat ∧ c.toNat < 0x10000) ∨ (0x10000 ≤ c.toNat ∧ c.toNat < 0x110000) := by omega
  · obtain ⟨b, hb⟩ := exists_byte (k := c.toNat) (by omega)
    refine ⟨b, [], encodeChar_one (by omega) hb.symm, (step_one (by omega)).2 ⟨?_, rfl⟩⟩
    rw [hb, Char.ofNat_toNat]
  · obtain ⟨b, hb⟩ := exists_byte (k := 0xC0 + c.toNat / 0x40) (by omega)
    obtain ⟨x, hx⟩ := exists_byte (k := 0x80 + c.toNat % 0x40) (by omega)
    have hc : c.toNat = b.toNat % 0x20 * 0x40 + x.toNat % 0x40 := by omega
    refine ⟨b, [x], encodeChar_two (by omega) (by omega) hc,
      (step_two (by omega)).2 ⟨x, more, rfl, by omega, ?_, rfl⟩⟩
    rw [← hc, Char.ofNat_toNat]
  · obtain ⟨b, hb⟩ := exists_byte (k := 0xE0 + c.toNat / 0x1000) (by omega)
    obtain ⟨x, hx⟩ := exists_byte (k := 0x80 + c.toNat / 0x40 % 0x40) (by omega)
    obtain ⟨y, hy⟩ := exists_byte (k := 0x80 + c.toNat % 0x40) (by omega)
    have hc : c.toNat = (b.toNat % 0x10 * 0x40 + x.toNat % 0x40) * 0x40 + y.toNat % 0x40 := by omega
    have hfits : FitsThree b.toNat x.toNat := by
      unfold FitsThree
      omega
    refine ⟨b, [x, y], encodeChar_three hfits (by omega) hc,
      (step_three hfits.1).2 ⟨x, y, more, rfl, hfits, by omega, ?_, rfl⟩⟩
    rw [← hc, Char.ofNat_toNat]
  · obtain ⟨b, hb⟩ := exists_byte (k := 0xF0 + c.toNat / 0x40000) (by omega)
    obtain ⟨x, hx⟩ := exists_byte (k := 0x80 + c.toNat / 0x1000 % 0x40) (by omega)
    obtain ⟨y, hy⟩ := exists_byte (k := 0x80 + c.toNat / 0x40 % 0x40) (by omega)
    obtain ⟨z, hz⟩ := exists_byte (k := 0x80 + c.toNat % 0x40) (by omega)
    have hc : c.toNat =
        ((b.toNat % 0x08 * 0x40 + x.toNat % 0x40) * 0x40 + y.toNat % 0x40) * 0x40 + z.toNat % 0x40 := by omega
    have hfits : FitsFour b.toNat x.toNat := by
      unfold FitsFour
      omega
    refine ⟨b, [x, y, z], encodeChar_four hfits (by omega) (by omega) hc,
      (step_four hfits.1).2 ⟨x, y, z, more, rfl, hfits, by omega, by omega, ?_, rfl⟩⟩
    rw [← hc, Char.ofNat_toNat]

end

/-! ## Texts -/

theorem decodeFrom_cons (fuel position : Nat) (b : UInt8) (rest : List UInt8) :
    decodeFrom (fuel + 1) position (b :: rest) = (step position b rest).bind fun r =>
      (decodeFrom fuel (position + 1 + r.2) (rest.drop r.2)).map (r.1 :: ·) := by
  rw [decodeFrom]
  cases step position b rest with
  | error f => rfl
  | ok r =>
    cases h : decodeFrom fuel (position + 1 + r.2) (rest.drop r.2) <;>
      simp [h, bind, Except.bind, Except.map, pure, Except.pure]

theorem flatMap_encodeChar_of_decodeFrom {fuel position : Nat} {bs : List UInt8} {cs : List Char}
    (hfuel : bs.length ≤ fuel) (h : decodeFrom fuel position bs = .ok cs) :
    bs = cs.flatMap String.utf8EncodeChar := by
  induction fuel generalizing position bs cs with
  | zero =>
    obtain rfl := List.eq_nil_of_length_eq_zero (Nat.le_zero.1 hfuel)
    obtain rfl : [] = cs := Except.ok.inj h
    rfl
  | succ fuel ih =>
    cases bs with
    | nil =>
      obtain rfl : [] = cs := Except.ok.inj h
      rfl
    | cons b rest =>
      rw [decodeFrom_cons] at h
      cases hstep : step position b rest with
      | error f => simp [hstep, Except.bind] at h
      | ok r =>
        obtain ⟨c, n⟩ := r
        cases hrest : decodeFrom fuel (position + 1 + n) (rest.drop n) with
        | error f => simp [hstep, hrest, Except.bind, Except.map] at h
        | ok tail =>
          obtain rfl : c :: tail = cs := by simpa [hstep, hrest, Except.bind, Except.map] using h
          have hlen : (rest.drop n).length ≤ fuel := by
            rw [List.length_drop]
            have := Nat.le_of_succ_le_succ hfuel
            omega
          rw [List.flatMap_cons, encodeChar_of_step hstep, ← ih hlen hrest, List.cons_append, List.take_append_drop]

theorem decodeFrom_flatMap_encodeChar (cs : List Char) {fuel position : Nat}
    (hfuel : (cs.flatMap String.utf8EncodeChar).length ≤ fuel) :
    decodeFrom fuel position (cs.flatMap String.utf8EncodeChar) = .ok cs := by
  induction cs generalizing fuel position with
  | nil => cases fuel <;> rfl
  | cons c cs ih =>
    obtain ⟨b, tail, hc, hstep⟩ := step_encodeChar position c (cs.flatMap String.utf8EncodeChar)
    rw [List.flatMap_cons, hc, List.cons_append] at hfuel ⊢
    cases fuel with
    | zero => simp at hfuel
    | succ fuel =>
      have hlen : (cs.flatMap String.utf8EncodeChar).length ≤ fuel := by
        rw [List.length_cons, List.length_append] at hfuel
        omega
      rw [decodeFrom_cons, hstep]
      simp [Except.bind, Except.map, ih hlen]

end Utf8

/-- **Exactly the encodings of texts are decoded.** -/
theorem decodeUtf8_eq_ok_iff {bs : List UInt8} {s : String} :
    decodeUtf8 bs = .ok s ↔ bs = s.toList.flatMap String.utf8EncodeChar := by
  unfold decodeUtf8
  constructor
  · intro h
    cases hdecode : Utf8.decodeFrom bs.length 0 bs with
    | error f => simp [hdecode, Except.map] at h
    | ok cs =>
      obtain rfl : String.ofList cs = s := by simpa [hdecode, Except.map] using h
      rw [String.toList_ofList]
      exact Utf8.flatMap_encodeChar_of_decodeFrom (Nat.le_refl _) hdecode
  · rintro rfl
    rw [Utf8.decodeFrom_flatMap_encodeChar _ (Nat.le_refl _)]
    simp [Except.map]

end Readiness.Text
