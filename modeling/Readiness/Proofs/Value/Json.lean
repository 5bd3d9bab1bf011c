import Readiness.Proofs.Number.Literals
import Readiness.Value.Json

/-!
# When values are written as JSON

The values of log data are nested mappings with text keys and lists of scalars. Such a value has a text unless there is
a whole number in it that has too many digits (`exists_jsonIn_iff`). The text stays on its line, and it is JSON, and
stands for the value, exactly if no double in it is without digits (`written_jsonIn`, `Written.denotes_iff`).
-/
namespace Readiness

open Number Text
open Json (Denotes Shows Wordless Member IsBlank commas)

namespace Value

/-! ## Values of log data -/

inductive IsPlain : Value → Prop
  | null : IsPlain .null
  | bool (b : Bool) : IsPlain (.bool b)
  | int (n : Int) : IsPlain (.int n)
  | float (x : Float) : IsPlain (.float x)
  | str (s : Text) : IsPlain (.str s)
  | datetime (t : Calendar.DateTime) : IsPlain (.datetime t)
  | list {xs : List Value} (h : ∀ x ∈ xs, IsPlain x) : IsPlain (.list xs)
  | map {es : Entries} (hkeys : ∀ e ∈ es, ∃ s, e.1 = .str s) (h : ∀ e ∈ es, IsPlain e.2) : IsPlain (.map es)

/-- Something is so of a value, or of one somewhere in it. -/
inductive Has (p : Value → Prop) : Value → Prop
  | here {v : Value} (h : p v) : Has p v
  | item {xs : List Value} {x : Value} (hx : x ∈ xs) (h : Has p x) : Has p (.list xs)
  | entry {es : Entries} {e : Value × Value} (he : e ∈ es) (h : Has p e.2) : Has p (.map es)

/-- A whole number that has too many digits to be written. -/
def IsLong : Value → Prop
  | .int n => mostDigits < (Nat.toDigits 10 n.natAbs).length
  | _ => False

/-- A double without digits: infinite, or no number. -/
def IsDigitless : Value → Prop
  | .float x => isFinite x = false
  | _ => False

section Has
variable {p : Value → Prop}

theorem has_list {xs : List Value} : Has p (.list xs) ↔ p (.list xs) ∨ ∃ x ∈ xs, Has p x := by
  constructor
  · rintro (h | ⟨hx, h⟩)
    · exact .inl h
    · exact .inr ⟨_, hx, h⟩
  · rintro (h | ⟨x, hx, h⟩)
    · exact .here h
    · exact .item hx h

theorem has_map {es : Entries} : Has p (.map es) ↔ p (.map es) ∨ ∃ e ∈ es, Has p e.2 := by
  constructor
  · rintro (h | _ | ⟨he, h⟩)
    · exact .inl h
    · exact .inr ⟨_, he, h⟩
  · rintro (h | ⟨e, he, h⟩)
    · exact .here h
    · exact .entry he h

/-- A mapping that is made of some entries. -/
theorem has_map_map {α : Type} {entry : α → Value × Value} {as : List α} (hp : ¬ p (.map (as.map entry))) :
    Has p (.map (as.map entry)) ↔ ∃ a ∈ as, Has p (entry a).2 := by
  rw [has_map]
  constructor
  · rintro (h | ⟨e, he, h⟩)
    · exact absurd h hp
    · obtain ⟨a, ha, rfl⟩ := List.mem_map.1 he
      exact ⟨a, ha, h⟩
  · rintro ⟨a, ha, h⟩
    exact .inr ⟨entry a, List.mem_map_of_mem ha, h⟩

@[simp] theorem has_null : Has p .null ↔ p .null := ⟨fun h => by cases h; assumption, .here⟩

@[simp] theorem has_int {n : Int} : Has p (.int n) ↔ p (.int n) := ⟨fun h => by cases h; assumption, .here⟩

@[simp] theorem has_float {x : Float} : Has p (.float x) ↔ p (.float x) := ⟨fun h => by cases h; assumption, .here⟩

@[simp] theorem has_str {s : Text} : Has p (.str s) ↔ p (.str s) := ⟨fun h => by cases h; assumption, .here⟩

end Has

mutual
/-- What the text of a value stands for. -/
def json : Value → Json
  | .null => .null
  | .bool b => .bool b
  | .int n => .number (toString n).toList
  | .float x => .number (FloatStyle.json.text x).toList
  | .list xs => .array (itemsJson xs)
  | .tuple xs => .array (itemsJson xs)
  | .map es => .object (entriesJson es)
  | .str s => .string s.units
  | v => .string v.text.units

def itemsJson : List Value → List Json
  | [] => []
  | x :: xs => x.json :: itemsJson xs

def entriesJson : Entries → List (List Nat × Json)
  | [] => []
  | (k, v) :: es => (k.text.units, v.json) :: entriesJson es
end

theorem itemsJson_eq (xs : List Value) : itemsJson xs = xs.map json := by
  induction xs with
  | nil => rfl
  | cons x xs ih => simp [itemsJson, ih]

theorem entriesJson_eq (es : Entries) : entriesJson es = es.map fun e => (e.1.text.units, e.2.json) := by
  induction es with
  | nil => rfl
  | cons e es ih => simp [entriesJson, ih]

/-! ## Commas with a space after them -/

def spread (parts : List (List Char)) : List Char := [',', ' '].intercalate parts

/-- The space counts as white space before what comes next. -/
theorem spread_cons (part : List Char) (parts : List (List Char)) :
    spread (part :: parts) = commas (part :: parts.map fun p => ' ' :: p) := by
  unfold spread commas
  induction parts generalizing part with
  | nil => simp
  | cons next parts ih =>
    have hspace : ∀ rest : List (List Char), [','].intercalate ((' ' :: next) :: rest) =
        ' ' :: [','].intercalate (next :: rest) := by
      intro rest
      cases rest <;> simp [List.intercalate_cons_cons]
    rw [List.intercalate_cons_cons, ih, List.map_cons, List.intercalate_cons_cons, hspace]
    simp

theorem toList_enclose (start stop : String) (parts : List String) :
    (enclose start stop parts).toList = start.toList ++ (spread (parts.map String.toList) ++ stop.toList) := by
  simp [enclose, spread, String.toList_intercalate]

theorem isBlank_nil : IsBlank [] := fun _ h => absurd h List.not_mem_nil

theorem isBlank_space : IsBlank [' '] := fun _ h => .inl (List.mem_singleton.1 h)

theorem denotes_array {items : List (List Char × Json)} (h : ∀ p ∈ items, Denotes p.1 p.2) :
    Denotes ('[' :: (spread (items.map Prod.fst) ++ [']'])) (.array (items.map Prod.snd)) := by
  cases items with
  | nil => exact .emptyArray isBlank_nil
  | cons item items =>
    let spaced : List (List Char × Json) := item :: items.map fun p => (' ' :: p.1, p.2)
    have hspaced : ∀ p ∈ spaced, Denotes p.1 p.2 := by
      intro p hp
      rcases List.mem_cons.1 hp with rfl | hp
      · exact h p List.mem_cons_self
      · obtain ⟨q, hq, rfl⟩ := List.mem_map.1 hp
        simpa using Denotes.spaced isBlank_space isBlank_nil (h q (List.mem_cons_of_mem _ hq))
    have harray := Denotes.array (List.cons_ne_nil _ _) hspaced
    simpa [spaced, spread_cons, Function.comp_def] using harray

theorem denotes_object {members : List Member} (hnamed : ∀ m ∈ members, m.Named)
    (h : ∀ m ∈ members, Denotes m.value m.json) :
    Denotes ('\x7b' :: (spread (members.map Member.text) ++ ['\x7d']))
      (.object (members.map fun m => (m.units, m.json))) := by
  cases members with
  | nil => exact .emptyObject isBlank_nil
  | cons member members =>
    let spaced : List Member := member :: members.map fun m => { m with before := ' ' :: m.before }
    have hspaced : ∀ m ∈ spaced, m.Named ∧ Denotes m.value m.json := by
      intro m hm
      rcases List.mem_cons.1 hm with rfl | hm
      · exact ⟨hnamed m List.mem_cons_self, h m List.mem_cons_self⟩
      · obtain ⟨m', hm', rfl⟩ := List.mem_map.1 hm
        have hn := hnamed m' (List.mem_cons_of_mem _ hm')
        refine ⟨⟨fun c hc => ?_, hn.name, hn.after⟩, h m' (List.mem_cons_of_mem _ hm')⟩
        rcases List.mem_cons.1 hc with rfl | hc
        · exact .inl rfl
        · exact hn.before c hc
    have hobject := Denotes.object (List.cons_ne_nil _ _) (fun m hm => (hspaced m hm).1) fun m hm => (hspaced m hm).2
    simpa [spaced, spread_cons, Function.comp_def, Member.text] using hobject

theorem inLine_spread {parts : List (List Char)} (h : ∀ p ∈ parts, InLine p) : InLine (spread parts) := by
  unfold spread
  induction parts with
  | nil => exact inLine_nil
  | cons part parts ih =>
    have hpart : InLine part := h part List.mem_cons_self
    have hrest := ih fun p hp => h p (List.mem_cons_of_mem _ hp)
    cases parts with
    | nil => simpa using hpart
    | cons next parts =>
      have hcomma : InLine [',', ' '] := by decide
      rw [List.intercalate_cons_cons]
      exact (hpart.append hcomma).append hrest

/-- A text shows a capital of a word if there is something in it that has no digits. -/
def Tells (cs : List Char) (digitless : Prop) : Prop := ∃ shows, Shows cs shows ∧ (digitless → ¬ Wordless shows)

theorem tells_of_shows {cs shows : List Char} (h : Shows cs shows) : Tells cs False := ⟨shows, h, False.elim⟩

theorem Tells.append {cs ds : List Char} {p q : Prop} (h : Tells cs p) (h' : Tells ds q) :
    Tells (cs ++ ds) (p ∨ q) := by
  obtain ⟨shows, hs, hp⟩ := h
  obtain ⟨shows', hs', hq⟩ := h'
  refine ⟨shows ++ shows', hs.append hs', ?_⟩
  simp only [Wordless, List.mem_append, not_or] at hp hq ⊢
  rintro (h | h) hwordless
  · exact hp h ⟨hwordless.1.1, hwordless.2.1⟩
  · exact hq h ⟨hwordless.1.2, hwordless.2.2⟩

theorem Tells.mono {cs : List Char} {p q : Prop} (h : Tells cs p) (hqp : q → p) : Tells cs q := by
  obtain ⟨shows, hs, hp⟩ := h
  exact ⟨shows, hs, fun hq => hp (hqp hq)⟩

theorem tells_self {cs : List Char} (h : '"' ∉ cs) : Tells cs False := tells_of_shows (Json.shows_self h)

theorem tells_spread {α : Type} {text : α → List Char} {digitless : α → Prop} {as : List α}
    (h : ∀ a ∈ as, Tells (text a) (digitless a)) : Tells (spread (as.map text)) (∃ a ∈ as, digitless a) := by
  unfold spread
  induction as with
  | nil => exact (tells_self (by simp)).mono (by simp)
  | cons a as ih =>
    have ha := h a List.mem_cons_self
    have hrest := ih fun b hb => h b (List.mem_cons_of_mem _ hb)
    cases as with
    | nil => simpa using ha
    | cons b bs =>
      have hcomma : Tells [',', ' '] False := tells_self (by decide)
      rw [List.map_cons, List.map_cons, List.intercalate_cons_cons]
      exact ((ha.append hcomma).append hrest).mono (by simp)

section Enclose
variable {α : Type} {start stop : String} {text : α → String} {as : List α}

theorem inLine_enclose (hstart : InLine start.toList) (hstop : InLine stop.toList)
    (h : ∀ a ∈ as, InLine (text a).toList) : InLine (enclose start stop (as.map text)).toList := by
  rw [toList_enclose]
  refine hstart.append ((inLine_spread fun part hpart => ?_).append hstop)
  simp only [List.map_map, List.mem_map] at hpart
  obtain ⟨a, ha, rfl⟩ := hpart
  exact h a ha

theorem tells_enclose {digitless : α → Prop} (hstart : '"' ∉ start.toList) (hstop : '"' ∉ stop.toList)
    (h : ∀ a ∈ as, Tells (text a).toList (digitless a)) :
    Tells (enclose start stop (as.map text)).toList (∃ a ∈ as, digitless a) := by
  rw [toList_enclose, List.map_map]
  have hparts := (tells_self hstart).append ((tells_spread h).append (tells_self hstop))
  exact hparts.mono fun hhas => .inr (.inl hhas)

end Enclose

/-! ## Written values -/

/-- What is to be known of the text of a value. -/
structure Written (v : Value) (s : String) : Prop where
  inLine : InLine s.toList
  tells : Tells s.toList (v.Has IsDigitless)
  denotes : ¬ v.Has IsDigitless → Denotes s.toList v.json

theorem written_of_denotes {v : Value} {s : String} (hline : InLine s.toList) {shows : List Char}
    (hshows : Shows s.toList shows) (hv : ¬ v.Has IsDigitless) (h : Denotes s.toList v.json) : Written v s :=
  ⟨hline, (tells_of_shows hshows).mono fun hhas => absurd hhas hv, fun _ => h⟩

theorem written_quoted {v : Value} {t : Text} (hv : ¬ v.Has IsDigitless) (h : v.json = .string t.units) :
    Written v (jsonQuoted t) :=
  written_of_denotes (inLine_jsonQuoted t) (shows_jsonQuoted t) hv (h ▸ denotes_jsonQuoted t)

theorem written_number {v : Value} {s : String} (hv : ¬ v.Has IsDigitless) (hs : Json.IsNumber s.toList)
    (h : v.json = .number s.toList) : Written v s :=
  written_of_denotes (inLine_of_isNumber hs) (Json.shows_self (Json.not_mem_of_isNumber hs (by decide) (by decide))) hv
    (h ▸ .number hs)

theorem written_float (x : Float) : Written (.float x) (FloatStyle.json.text x) := by
  have htext : (FloatStyle.json.text x).toList = FloatStyle.json.parts (.ofFloat x) := String.toList_ofList
  cases hfinite : isFinite x with
  | true =>
    have hdigits : ¬ (Value.float x).Has IsDigitless := by
      rintro (h | _)
      simp [IsDigitless, hfinite] at h
    refine written_number hdigits ?_ rfl
    unfold isFinite at hfinite
    split at hfinite
    · rename_i negative m q hparts
      rw [htext, hparts]
      exact isNumber_finite FloatStyle.json negative m q
    · cases hfinite
  | false =>
    have hparts : ∀ negative m q, Parts.ofFloat x ≠ .finite negative m q := by
      intro negative m q hparts
      simp [isFinite, hparts] at hfinite
    obtain ⟨shows, hshows, hword, hline⟩ := shows_word hparts
    rw [← htext] at hshows hline
    exact ⟨hline, ⟨shows, hshows, fun _ => hword⟩, fun h => absurd (Has.here hfinite) h⟩

theorem written_list {ps : List (Value × String)} (h : ∀ p ∈ ps, Written p.1 p.2) :
    Written (.list (ps.map Prod.fst)) (enclose "[" "]" (ps.map Prod.snd)) := by
  have hhas : Has IsDigitless (.list (ps.map Prod.fst)) ↔ ∃ p ∈ ps, Has IsDigitless p.1 := by
    simp [has_list, IsDigitless]
  constructor
  case inLine => exact inLine_enclose (by decide) (by decide) fun p hp => (h p hp).inLine
  case tells =>
    rw [hhas]
    exact tells_enclose (by decide) (by decide) fun p hp => (h p hp).tells
  case denotes =>
    intro hno
    rw [hhas] at hno
    let items : List (List Char × Json) := ps.map fun p => (p.2.toList, p.1.json)
    have harray : Denotes ('[' :: (spread (items.map Prod.fst) ++ [']'])) (.array (items.map Prod.snd)) := by
      refine denotes_array fun item hitem => ?_
      obtain ⟨p, hp, rfl⟩ := List.mem_map.1 hitem
      exact (h p hp).denotes fun hdigitless => hno ⟨p, hp, hdigitless⟩
    rw [toList_enclose]
    simpa [items, json, itemsJson_eq, Function.comp_def] using harray

/-- A text is JSON exactly if all that its value has has digits. -/
theorem Written.denotes_iff {v : Value} {s : String} (h : Written v s) :
    (∃ j, Denotes s.toList j) ↔ ¬ v.Has IsDigitless := by
  constructor
  · rintro ⟨j, hj⟩ hdigitless
    obtain ⟨shows, hshows, hword⟩ := h.tells
    exact Json.not_denotes_of_shows hshows (hword hdigitless) j hj
  · exact fun hno => ⟨v.json, h.denotes hno⟩

/-- An entry of a text key: its name, its value, and the text of the value. -/
structure Pair where
  name : Text
  value : Value
  text : String

def Pair.entry (p : Pair) : Value × Value := (.str p.name, p.value)

def Pair.line (p : Pair) : String := jsonQuoted p.name ++ ": " ++ p.text

def Pair.member (p : Pair) : Member where
  before := []
  name := p.name.points.flatMap Text.Json.escape
  units := p.name.units
  after := []
  value := ' ' :: p.text.toList
  json := p.value.json

theorem Pair.toList_line (p : Pair) : p.line.toList = p.member.text := by
  simp [Pair.line, Pair.member, Member.text, toList_jsonQuoted]

theorem written_map {ps : List Pair} (h : ∀ p ∈ ps, Written p.value p.text) :
    Written (.map (ps.map Pair.entry)) (enclose "\x7b" "\x7d" (ps.map Pair.line)) := by
  have hhas : Has IsDigitless (.map (ps.map Pair.entry)) ↔ ∃ p ∈ ps, Has IsDigitless p.value := has_map_map id
  have hline : ∀ p : Pair, p.line.toList = (jsonQuoted p.name).toList ++ ([':', ' '] ++ p.text.toList) := by
    simp [Pair.line]
  constructor
  case inLine =>
    have hcolon : InLine [':', ' '] := by decide
    refine inLine_enclose (by decide) (by decide) fun p hp => ?_
    rw [hline]
    exact (inLine_jsonQuoted p.name).append (hcolon.append (h p hp).inLine)
  case tells =>
    have hcolon : Tells [':', ' '] False := tells_self (by decide)
    rw [hhas]
    refine tells_enclose (by decide) (by decide) fun p hp => ?_
    rw [hline]
    have hpair := (tells_of_shows (shows_jsonQuoted p.name)).append (hcolon.append (h p hp).tells)
    exact hpair.mono fun hhas => .inr (.inr hhas)
  case denotes =>
    intro hno
    rw [hhas] at hno
    have hnamed : ∀ m ∈ ps.map Pair.member, m.Named := by
      intro m hm
      obtain ⟨p, _, rfl⟩ := List.mem_map.1 hm
      exact ⟨isBlank_nil, (spells_escaped p.name).isString, isBlank_nil⟩
    have hvalue : ∀ m ∈ ps.map Pair.member, Denotes m.value m.json := by
      intro m hm
      obtain ⟨p, hp, rfl⟩ := List.mem_map.1 hm
      have hdenotes := (h p hp).denotes fun hdigitless => hno ⟨p, hp, hdigitless⟩
      simpa [Pair.member] using Denotes.spaced isBlank_space isBlank_nil hdenotes
    rw [toList_enclose]
    simpa [json, entriesJson_eq, Function.comp_def, Pair.toList_line, Pair.entry, Pair.member, text, text?] using
      denotes_object hnamed hvalue

/-! ## Plain values -/

/-- The results of a loop, each with what it is of. -/
theorem exists_of_mapM {α β ε : Type} {f : α → Except ε β} {as : List α} {bs : List β} (h : as.mapM f = .ok bs) :
    ∃ ps : List (α × β), as = ps.map Prod.fst ∧ bs = ps.map Prod.snd ∧ ∀ p ∈ ps, f p.1 = .ok p.2 := by
  induction as generalizing bs with
  | nil =>
    cases h
    exact ⟨[], rfl, rfl, by simp⟩
  | cons a as ih =>
    rw [List.mapM_cons] at h
    cases ha : f a with
    | error e => simp [ha, bind, Except.bind] at h
    | ok b =>
      cases has : as.mapM f with
      | error e => simp [ha, has, bind, Except.bind] at h
      | ok rest =>
        obtain ⟨ps, rfl, rfl, hps⟩ := ih has
        simp only [ha, has, bind, Except.bind, pure, Except.pure] at h
        cases h
        exact ⟨(a, b) :: ps, rfl, rfl, by simpa [ha] using hps⟩

/-- A loop fails only where one of its steps does. -/
theorem exists_mapM_iff {α β ε : Type} {f : α → Except ε β} {as : List α} :
    (∃ bs, as.mapM f = .ok bs) ↔ ∀ a ∈ as, ∃ b, f a = .ok b := by
  constructor
  · rintro ⟨bs, h⟩ a ha
    obtain ⟨ps, rfl, -, hps⟩ := exists_of_mapM h
    obtain ⟨p, hp, rfl⟩ := List.mem_map.1 ha
    exact ⟨p.2, hps p hp⟩
  · intro h
    induction as with
    | nil => exact ⟨[], rfl⟩
    | cons a as ih =>
      obtain ⟨b, hb⟩ := h a List.mem_cons_self
      obtain ⟨bs, hbs⟩ := ih fun a' ha' => h a' (List.mem_cons_of_mem _ ha')
      exact ⟨b :: bs, by simp [List.mapM_cons, hb, hbs, bind, Except.bind, pure, Except.pure]⟩

variable {link : Nat → Except Unprintable String}

theorem jsonItems_eq (xs : List Value) : jsonItems link xs = xs.mapM (jsonIn link) := by
  induction xs with
  | nil => rfl
  | cons x xs ih => simp [jsonItems, ih]

/-- The text of an entry. -/
def jsonEntry (link : Nat → Except Unprintable String) (e : Value × Value) : Except Unprintable String := do
  let name ← jsonKey e.1
  let s ← jsonIn link e.2
  pure (jsonQuoted name ++ ": " ++ s)

theorem jsonEntries_eq (es : Entries) : jsonEntries link es = es.mapM (jsonEntry link) := by
  induction es with
  | nil => rfl
  | cons e es ih => simp [jsonEntries, jsonEntry, ih]

/-- The entries of text keys, each with its text. -/
theorem exists_of_jsonEntries {es : Entries} (hkeys : ∀ e ∈ es, ∃ s, e.1 = .str s) {ss : List String}
    (h : jsonEntries link es = .ok ss) :
    ∃ ps : List Pair, es = ps.map Pair.entry ∧ ss = ps.map Pair.line ∧ ∀ p ∈ ps, jsonIn link p.value = .ok p.text := by
  induction es generalizing ss with
  | nil =>
    cases h
    exact ⟨[], rfl, rfl, by simp⟩
  | cons e es ih =>
    obtain ⟨k, v⟩ := e
    obtain ⟨name, rfl⟩ : ∃ s, k = .str s := hkeys _ List.mem_cons_self
    cases hv : jsonIn link v with
    | error f => simp [jsonEntries, jsonKey, hv, bind, Except.bind] at h
    | ok s =>
      cases hes : jsonEntries link es with
      | error f => simp [jsonEntries, jsonKey, hv, hes, bind, Except.bind] at h
      | ok rest =>
        obtain ⟨ps, rfl, rfl, hps⟩ := ih (fun e he => hkeys e (List.mem_cons_of_mem _ he)) hes
        simp only [jsonEntries, jsonKey, hv, hes, bind, Except.bind, pure, Except.pure] at h
        cases h
        exact ⟨⟨name, v, s⟩ :: ps, rfl, rfl, by simpa [hv] using hps⟩

theorem jsonInt_eq (n : Int) : printed (displayInt? n) =
    if mostDigits < (Nat.toDigits 10 n.natAbs).length then .error .tooManyDigits else .ok (toString n) := by
  unfold displayInt? printed
  by_cases h : (Nat.toDigits 10 n.natAbs).length ≤ mostDigits
  · simp [h, Nat.not_lt.2 h]
  · simp [h, Nat.lt_of_not_le h]

theorem map_eq_ok_iff {α β ε : Type} {f : α → β} {r : Except ε α} {b : β} :
    r.map f = .ok b ↔ ∃ a, r = .ok a ∧ f a = b := by
  cases r <;> simp [Except.map]

/-- A plain value has a text unless a whole number in it has too many digits. -/
theorem exists_jsonIn_iff {v : Value} (hv : v.IsPlain) : (∃ s, jsonIn link v = .ok s) ↔ ¬ v.Has IsLong := by
  have hscalar : ∀ {v : Value} {s : String}, jsonIn link v = .ok s → (v.Has IsLong → False) →
      ((∃ s, jsonIn link v = .ok s) ↔ ¬ v.Has IsLong) := fun h hno => iff_of_true ⟨_, h⟩ hno
  induction hv with
  | null => exact hscalar rfl nofun
  | bool b => exact hscalar rfl nofun
  | int n =>
    simp only [jsonIn, jsonInt_eq]
    by_cases h : mostDigits < (Nat.toDigits 10 n.natAbs).length
    · refine iff_of_false ?_ fun hno => hno (.here h)
      simp [h]
    · refine iff_of_true ⟨toString n, if_neg h⟩ ?_
      rintro (hlong | _)
      exact h hlong
  | float x => exact hscalar rfl nofun
  | str s => exact hscalar rfl nofun
  | datetime t => exact hscalar rfl nofun
  | @list xs _ ih =>
    have htext : (∃ s, jsonIn link (.list xs) = .ok s) ↔ ∃ ss, xs.mapM (jsonIn link) = .ok ss := by
      simp only [jsonIn, jsonItems_eq, map_eq_ok_iff]
      exact ⟨fun ⟨_, ss, h, _⟩ => ⟨ss, h⟩, fun ⟨ss, h⟩ => ⟨_, ss, h, rfl⟩⟩
    rw [htext, exists_mapM_iff, has_list]
    simp only [IsLong, false_or, not_exists, not_and]
    exact forall₂_congr ih
  | @map es hkeys _ ih =>
    have htext : (∃ s, jsonIn link (.map es) = .ok s) ↔ ∃ ss, es.mapM (jsonEntry link) = .ok ss := by
      simp only [jsonIn, jsonEntries_eq, map_eq_ok_iff]
      exact ⟨fun ⟨_, ss, h, _⟩ => ⟨ss, h⟩, fun ⟨ss, h⟩ => ⟨_, ss, h, rfl⟩⟩
    have hentry : ∀ e ∈ es, (∃ s, jsonEntry link e = .ok s) ↔ ∃ s, jsonIn link e.2 = .ok s := by
      intro e he
      obtain ⟨name, hname⟩ := hkeys e he
      cases h : jsonIn link e.2 <;> simp [jsonEntry, hname, h, jsonKey, bind, Except.bind, pure, Except.pure]
    rw [htext, exists_mapM_iff, has_map]
    simp only [IsLong, false_or, not_exists, not_and]
    exact forall₂_congr fun e he => (hentry e he).trans (ih e he)

/-- The text of a plain value, for every kind of value. -/
theorem written_jsonIn {v : Value} (hv : v.IsPlain) {s : String} (h : jsonIn link v = .ok s) : Written v s := by
  induction hv generalizing s with
  | null =>
    cases h
    exact written_of_denotes (by decide) (Json.shows_self (by decide)) nofun .null
  | bool b =>
    cases h
    cases b
    · exact written_of_denotes (by decide) (Json.shows_self (by decide)) nofun .false
    · exact written_of_denotes (by decide) (Json.shows_self (by decide)) nofun .true
  | int n =>
    simp only [jsonIn, jsonInt_eq] at h
    split at h
    · cases h
    · cases h
      exact written_number nofun (isNumber_toString n) rfl
  | float x =>
    cases h
    exact written_float x
  | str t =>
    obtain rfl : jsonQuoted t = s := Except.ok.inj h
    exact written_quoted nofun rfl
  | datetime t =>
    obtain rfl : jsonQuoted (t.iso .spaced) = s := Except.ok.inj h
    exact written_quoted nofun rfl
  | @list xs _ ih =>
    simp only [jsonIn, jsonItems_eq, map_eq_ok_iff] at h
    obtain ⟨ss, hss, rfl⟩ := h
    obtain ⟨ps, rfl, rfl, hps⟩ := exists_of_mapM hss
    exact written_list fun p hp => ih p.1 (List.mem_map_of_mem hp) (hps p hp)
  | @map es hkeys _ ih =>
    simp only [jsonIn, map_eq_ok_iff] at h
    obtain ⟨ss, hss, rfl⟩ := h
    obtain ⟨ps, rfl, rfl, hps⟩ := exists_of_jsonEntries hkeys hss
    exact written_map fun p hp => ih p.entry (List.mem_map_of_mem hp) (hps p hp)

end Value

end Readiness
