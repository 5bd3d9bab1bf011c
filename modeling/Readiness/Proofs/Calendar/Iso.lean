import Readiness.Calendar.Iso

/-!
# Written times are read back

The form that manifests use says everything there is to a point in time, its offset included, and reading it gives the
same point in time again (`ofText_iso_wire`).
-/
namespace Readiness.Calendar

open Readiness.Text

/-- An interpolated text stands as it is. -/
theorem toString_self (s : String) : toString s = s := rfl

/-! ## Digits -/

theorem asciiDigit?_digitChar {n : Nat} (h : n < 10) : asciiDigit? n.digitChar = some n := by
  have hall : ∀ k : Fin 10, asciiDigit? k.val.digitChar = some k.val := by decide
  exact hall ⟨n, h⟩

theorem isDigit_digitChar {n : Nat} (h : n < 10) : n.digitChar.isDigit = true := by
  have hall : ∀ k : Fin 10, k.val.digitChar.isDigit = true := by decide
  exact hall ⟨n, h⟩

theorem toList_padded_one {n : Nat} (h : n < 10) : (padded 1 n).toList = [n.digitChar] := by
  simp [padded, Nat.toDigits_of_lt_base h]

/-- The last digit, after what is left without it. -/
theorem toList_padded_succ {width : Nat} (hw : 0 < width) (n : Nat) :
    (padded (width + 1) n).toList = (padded width (n / 10)).toList ++ [(n % 10).digitChar] := by
  simp only [padded, String.toList_ofList]
  by_cases h : n < 10
  · obtain ⟨w, rfl⟩ := Nat.exists_eq_succ_of_ne_zero (Nat.ne_of_gt hw)
    have hzeros : List.replicate (w + 1) '0' = List.replicate w '0' ++ ['0'] := List.replicate_succ'
    simp [Nat.toDigits_of_lt_base h, Nat.div_eq_of_lt h, Nat.mod_eq_of_lt h, hzeros]
  · rw [Nat.toDigits_of_base_le (by decide) (Nat.le_of_not_lt h), List.length_append, List.length_singleton,
      Nat.add_sub_add_right, List.append_assoc]

theorem toList_padded_two {n : Nat} (h : n < 100) :
    (padded 2 n).toList = [(n / 10).digitChar, (n % 10).digitChar] := by
  rw [toList_padded_succ (by decide), toList_padded_one (by omega)]
  rfl

theorem toList_padded_four {n : Nat} (h : n < 10000) : (padded 4 n).toList =
    [(n / 100 / 10).digitChar, (n / 100 % 10).digitChar, (n % 100 / 10).digitChar, (n % 100 % 10).digitChar] := by
  rw [toList_padded_succ (by decide), toList_padded_succ (by decide), toList_padded_two (by omega)]
  have hhundreds : n / 10 / 10 = n / 100 := by omega
  have htens : n / 10 % 10 = n % 100 / 10 := by omega
  have hones : n % 10 = n % 100 % 10 := by omega
  rw [hhundreds, htens, hones]
  rfl

/-- The digits of a fraction: as many as there should be, and worth the number. -/
theorem toList_padded_spec {width n : Nat} (hw : 0 < width) (h : n < Nat.pow 10 width) :
    (padded width n).toList.length = width ∧ (∀ c ∈ (padded width n).toList, c.isDigit = true) ∧
      ofDigits 10 ((padded width n).toList.map fun c => (asciiDigit? c).getD 0) = n := by
  obtain ⟨w, rfl⟩ := Nat.exists_eq_succ_of_ne_zero (Nat.ne_of_gt hw)
  induction w generalizing n with
  | zero =>
    have hn : n < 10 := h
    rw [toList_padded_one hn]
    simp [isDigit_digitChar hn, asciiDigit?_digitChar hn, ofDigits]
  | succ w ih =>
    have hdiv : n / 10 < Nat.pow 10 (w + 1) := by
      have hpow : Nat.pow 10 (w + 1).succ = Nat.pow 10 (w + 1) * 10 := rfl
      omega
    have hmod : n % 10 < 10 := Nat.mod_lt n (by decide)
    obtain ⟨hlen, hall, hval⟩ := ih (Nat.succ_pos w) hdiv
    rw [toList_padded_succ (Nat.succ_pos w)]
    refine ⟨by simp [hlen], fun c hc => ?_, ?_⟩
    · obtain hc | hc := List.mem_append.1 hc
      · exact hall c hc
      · rw [List.mem_singleton.1 hc]
        exact isDigit_digitChar hmod
    · unfold ofDigits at hval ⊢
      rw [List.map_append, List.foldl_append, hval]
      simp only [List.map_cons, List.map_nil, List.foldl_cons, List.foldl_nil, asciiDigit?_digitChar hmod,
        Option.getD_some]
      omega

namespace Iso

theorem two?_digitChar {n : Nat} (h : n < 100) : two? (n / 10).digitChar (n % 10).digitChar = some n := by
  have hsplit : 10 * (n / 10) + n % 10 = n := Nat.div_add_mod n 10
  simp [two?, asciiDigit?_digitChar (show n / 10 < 10 by omega), asciiDigit?_digitChar (Nat.mod_lt n (by decide)),
    hsplit]

/-! ## Parts -/

theorem readDay?_iso (d : Date) (rest : List Char) :
    readDay? (d.iso.toList ++ rest) = some (⟨d.year, d.month, d.day⟩, rest) := by
  obtain ⟨year, month, day, hy1, hy2, hm1, hm2, hd1, hd2⟩ := d
  have hday : day < 100 := by
    unfold daysInMonth at hd2
    split at hd2
    · split at hd2 <;> omega
    · split at hd2 <;> omega
  have hyear := toList_padded_four (show year < 10000 by omega)
  have hcentury : year / 100 < 100 := by omega
  have hrest : year % 100 < 100 := Nat.mod_lt year (by decide)
  have hsplit : 100 * (year / 100) + year % 100 = year := Nat.div_add_mod year 100
  have hvalid : (⟨year, month, day⟩ : Day).inCalendar = true := by simp [Day.inCalendar, hm1, hm2, hd1, hd2]
  generalize year / 100 = century at *
  generalize year % 100 = ofCentury at *
  simp [Date.iso, toString_self, hyear, toList_padded_two (show month < 100 by omega), toList_padded_two hday, readDay?,
    two?_digitChar hcentury, two?_digitChar hrest, two?_digitChar (show month < 100 by omega), two?_digitChar hday,
    hsplit, hvalid]

theorem ofParts?_val (t : Time) :
    Time.ofParts? t.hour.val t.minute.val t.second.val t.microsecond.val = some t := by
  simp [Time.ofParts?]

/-- Nothing that goes on with the number, and no sign of a fraction. -/
def Ends (rest : List Char) : Prop := ∀ c ∈ rest.head?, c.isDigit = false ∧ c ≠ '.' ∧ c ≠ ','

theorem readFraction?_padded {n : Nat} (h : n < 1000000) {rest : List Char} (hrest : Ends rest) :
    readFraction? ((padded 6 n).toList ++ rest) = some (n, rest) := by
  obtain ⟨hlen, hall, hval⟩ := toList_padded_spec (by decide) (show n < Nat.pow 10 6 from h)
  have hstop : rest.takeWhile Char.isDigit = [] ∧ rest.dropWhile Char.isDigit = rest := by
    cases rest with
    | nil => simp
    | cons c cs => simp [(hrest c rfl).1]
  have htake : ((padded 6 n).toList ++ rest).takeWhile Char.isDigit = (padded 6 n).toList := by
    rw [List.takeWhile_append_of_pos hall, hstop.1, List.append_nil]
  have hdrop : ((padded 6 n).toList ++ rest).dropWhile Char.isDigit = rest := by
    rw [List.dropWhile_append_of_pos hall, hstop.2]
  have hne : (padded 6 n).toList.isEmpty = false := by
    cases hcs : (padded 6 n).toList with
    | nil => simp [hcs] at hlen
    | cons c cs => rfl
  have hsix : (padded 6 n).toList.take 6 = (padded 6 n).toList := List.take_of_length_le (Nat.le_of_eq hlen)
  simp only [readFraction?, htake, hdrop, hne, hsix, hval, List.length_map, hlen]
  simp

def fraction (t : Time) : String := if t.microsecond.val = 0 then "" else s!".{padded 6 t.microsecond.val}"

theorem readTime?_clock (t : Time) {rest : List Char} (hrest : Ends rest) :
    readTime? (t.clock.toList ++ ((fraction t).toList ++ rest)) = some (t, rest) := by
  have hhour := two?_digitChar (n := t.hour.val) (by omega)
  have hminute := two?_digitChar (n := t.minute.val) (by omega)
  have hsecond := two?_digitChar (n := t.second.val) (by omega)
  have hclock : t.clock.toList =
      [(t.hour.val / 10).digitChar, (t.hour.val % 10).digitChar, ':', (t.minute.val / 10).digitChar,
        (t.minute.val % 10).digitChar, ':', (t.second.val / 10).digitChar, (t.second.val % 10).digitChar] := by
    simp [Time.clock, toString_self, toList_padded_two (show t.hour.val < 100 by omega),
      toList_padded_two (show t.minute.val < 100 by omega), toList_padded_two (show t.second.val < 100 by omega)]
  rw [hclock]
  by_cases hzero : t.microsecond.val = 0
  · have hparts : Time.ofParts? t.hour.val t.minute.val t.second.val 0 = some t := hzero ▸ ofParts?_val t
    cases rest with
    | nil => simp [fraction, hzero, readTime?, hhour, hminute, hsecond, hparts]
    | cons c cs =>
      obtain ⟨_, hpoint, hcomma⟩ := hrest c rfl
      simp [fraction, hzero, readTime?, hhour, hminute, hsecond, hparts, hpoint, hcomma]
  · have hfraction := readFraction?_padded t.microsecond.isLt hrest
    have hparts := ofParts?_val t
    simp [fraction, toString_self, hzero, readTime?, hhour, hminute, hsecond, hparts, hfraction]

def offsetText : Option Offset → String
  | none => ""
  | some o => if o.minutes = 0 then "Z" else o.text

theorem toList_offset_text (o : Offset) : o.text.toList =
    [if o.minutes < 0 then '-' else '+', (o.minutes.natAbs / 60 / 10).digitChar, (o.minutes.natAbs / 60 % 10).digitChar,
      ':', (o.minutes.natAbs % 60 / 10).digitChar, (o.minutes.natAbs % 60 % 10).digitChar] := by
  have hbound := o.bounded
  have hhours := toList_padded_two (n := o.minutes.natAbs / 60) (by omega)
  have hminutes := toList_padded_two (n := o.minutes.natAbs % 60) (by omega)
  by_cases hneg : o.minutes < 0 <;> simp [Offset.text, toString_self, hneg, hhours, hminutes]

theorem ends_offsetText (o : Option Offset) : Ends (offsetText o).toList := by
  cases o with
  | none => simp [Ends, offsetText]
  | some o =>
    by_cases hzero : o.minutes = 0
    · simp [Ends, offsetText, hzero]
    · by_cases hneg : o.minutes < 0 <;> simp [Ends, offsetText, hzero, toList_offset_text, hneg]

theorem readOffset?_signed {a b c d : Char} {hours minutes : Nat} (hhours : two? a b = some hours)
    (hminutes : two? c d = some minutes) (hlt : minutes < 60) (negative : Prop) [Decidable negative] :
    readOffset? [if negative then '-' else '+', a, b, ':', c, d] =
      (Offset.ofMinutes? (if negative then -(60 * hours + minutes) else 60 * hours + minutes)).map some := by
  have hread : ∀ sign : Char, sign = '-' ∨ sign = '+' → readOffset? [sign, a, b, ':', c, d] =
      (Offset.ofMinutes? (if sign = '+' then 60 * hours + minutes else -(60 * hours + minutes))).map some := by
    rintro sign (rfl | rfl)
    all_goals
      simp only [readOffset?, hhours, hminutes, Option.bind_some, Option.bind_eq_bind, if_pos hlt]
      rfl
  by_cases hn : negative
  · rw [if_pos hn, if_pos hn, hread '-' (Or.inl rfl)]
    rfl
  · rw [if_neg hn, if_neg hn, hread '+' (Or.inr rfl)]
    rfl

theorem readOffset?_text (o : Option Offset) : readOffset? (offsetText o).toList = some o := by
  cases o with
  | none => rfl
  | some o =>
    obtain ⟨minutes, hbound⟩ := o
    by_cases hzero : minutes = 0
    · simp [offsetText, hzero, readOffset?, Offset.utc]
    · have hhours := two?_digitChar (n := minutes.natAbs / 60) (by omega)
      have hminutes := two?_digitChar (n := minutes.natAbs % 60) (by omega)
      have hsum : (if minutes < 0 then -(60 * ((minutes.natAbs / 60 : Nat) : Int) + (minutes.natAbs % 60 : Nat))
          else 60 * ((minutes.natAbs / 60 : Nat) : Int) + (minutes.natAbs % 60 : Nat)) = minutes := by
        split <;> omega
      rw [offsetText, if_neg hzero, toList_offset_text]
      dsimp only
      rw [readOffset?_signed hhours hminutes (Nat.mod_lt _ (by decide)) (minutes < 0), hsum, Offset.ofMinutes?,
        dif_pos hbound]
      rfl

end Iso

/-! ## The whole -/

theorem toList_iso_wire (t : DateTime) : (t.iso .wire).toList =
    t.date.iso.toList ++ 'T' ::
      (t.time.clock.toList ++ ((Iso.fraction t.time).toList ++ (Iso.offsetText t.offset).toList)) := by
  unfold DateTime.iso Iso.fraction Iso.offsetText
  cases t.offset <;> simp [toString_self, IsoStyle.wire]

theorem readPoint?_iso_wire (t : DateTime) :
    Iso.readPoint? (t.iso .wire).toList = some (⟨t.date.year, t.date.month, t.date.day⟩, t.time, t.offset) := by
  rw [toList_iso_wire]
  simp [Iso.readPoint?, Iso.readDay?_iso, Iso.readTime?_clock t.time (Iso.ends_offsetText t.offset),
    Iso.readOffset?_text]

/-- **A point in time is read back from what manifests say of it.** -/
theorem ofText_iso_wire (t : DateTime) : DateTime.ofText (t.iso .wire) = .ok t := by
  have hdate : Date.ofParts? t.date.year t.date.month t.date.day = some t.date := by
    simp [Date.ofParts?, t.date.valid]
  simp [DateTime.ofText, readPoint?_iso_wire, hdate]

end Readiness.Calendar
