import Readiness.Condition.Set
import Readiness.Proofs.Condition.Lists

/-!
# What marks do to a list of conditions

Every operation of a condition set only records conditions, of the type that it is called with and of the happy type
(`Written`). Shape and frame follow from that alone: the list stays sorted, other types keep their entries, and
nothing tracked disappears.

What becomes of the happy condition differs from one operation to the next and is stated for each of them, always in
terms of the dependents *after* it: marking true raises the happy condition if every dependent is true
(`get?_happy_markTrueWith`), marking a dependent unknown lowers it to false if some dependent is false and to unknown
if none is (`get?_happy_markUnknown`), marking a dependent false takes it along (`get?_happy_markFalse`).
-/
namespace Readiness

open Calendar Schema

/-- Names that conditions can have. -/
def IsTypeName (type : String) : Prop := 1 ≤ type.length ∧ type.length ≤ 316

instance (type : String) : Decidable (IsTypeName type) := inferInstanceAs (Decidable (_ ∧ _))

namespace Conditions

theorem statusOf?_eq_of_get?_eq {cs ds : Conditions} {type : String} (h : cs.get? type = ds.get? type) :
    cs.statusOf? type = ds.statusOf? type := by
  rw [statusOf?, statusOf?, h]

theorem holds_iff {cs : Conditions} {type : String} : cs.holds type = true ↔ cs.statusOf? type = some .yes := by
  simp [holds]

theorem fails_iff {cs : Conditions} {type : String} : cs.fails type = true ↔ cs.statusOf? type = some .no := by
  simp [fails]

theorem statusOf?_eq_none {cs : Conditions} {type : String} : cs.statusOf? type = none ↔ cs.get? type = none := by
  simp [statusOf?]

theorem has_iff {cs : Conditions} {type : String} : cs.has type = true ↔ cs.get? type ≠ none := by
  simp [has, Option.isSome_iff_ne_none]

theorem not_has_iff {cs : Conditions} {type : String} : ¬ cs.has type = true ↔ cs.get? type = none := by
  rw [has_iff, Classical.not_not]

/-! ## Lists that come from one another by recording -/

/-- The second list comes from the first by recording conditions of the given types. -/
inductive Written (types : List String) (cs : Conditions) : Conditions → Prop
  | refl : Written types cs cs
  | set {ds : Conditions} (now : DateTime) (c : Condition) (h : Written types cs ds) (hc : c.type.val ∈ types) :
    Written types cs (ds.set now c)

namespace Written

variable {types : List String} {cs ds : Conditions}

theorem trans {es : Conditions} (h : Written types cs ds) (h' : Written types ds es) : Written types cs es := by
  induction h' with
  | refl => exact h
  | set now c _ hc ih => exact ih.set now c hc

theorem mono {types' : List String} (hsub : ∀ t ∈ types, t ∈ types') (h : Written types cs ds) :
    Written types' cs ds := by
  induction h with
  | refl => exact .refl
  | set now c _ hc ih => exact ih.set now c (hsub _ hc)

theorem distinct (h : Written types cs ds) (hd : cs.Distinct) : ds.Distinct := by
  induction h with
  | refl => exact hd
  | set now c _ _ ih => exact distinct_set ih

theorem sorted (h : Written types cs ds) (hs : cs.Sorted) : ds.Sorted := by
  induction h with
  | refl => exact hs
  | set now c _ _ ih => exact sorted_set ih

/-- Other types keep their entries, in stored order. -/
theorem ofType_eq {type : String} (h : Written types cs ds) (ht : type ∉ types) : ds.ofType type = cs.ofType type := by
  induction h with
  | refl => rfl
  | set now c _ hc ih =>
    have hne : type ≠ c.type.val := fun e => ht (by rw [e]; exact hc)
    rw [ofType_set_of_ne hne, ih]

theorem get?_eq {type : String} (h : Written types cs ds) (ht : type ∉ types) : ds.get? type = cs.get? type := by
  rw [get?_eq_head?, h.ofType_eq ht, get?_eq_head?]

theorem get?_ne_none {type : String} (h : Written types cs ds) (ht : cs.get? type ≠ none) : ds.get? type ≠ none := by
  induction h with
  | refl => exact ht
  | set now c _ _ ih => exact get?_set_ne_none ih

theorem get?_eq_none {type : String} (h : Written types cs ds) (ht : ds.get? type = none) : cs.get? type = none :=
  Classical.not_not.1 fun hp => h.get?_ne_none hp ht

end Written

end Conditions

namespace Declaration

open Conditions

/-- The tracked types are names that conditions can have. -/
structure WellNamed (s : Declaration) : Prop where
  happy : IsTypeName s.happy
  dependents : ∀ d ∈ s.dependents, IsTypeName d

theorem WellNamed.types {s : Declaration} (hn : s.WellNamed) : ∀ t ∈ s.types, IsTypeName t := by
  intro t ht
  rcases List.mem_cons.1 ht with rfl | ht
  · exact hn.happy
  · exact hn.dependents t ht

/-- A condition as this set describes it. -/
def entry (s : Declaration) (type : ConditionType) (status : Status) (reason message : Text) : Condition :=
  ⟨type, status, s.severityOf type.val, none, reason, message⟩

variable {s : Declaration} {now : DateTime} {cs : Conditions} {status : Status} {reason message : Text}

theorem isTerminal_iff {t : String} : s.isTerminal t = true ↔ t ∈ s.types := by simp [isTerminal, types]

theorem severityOf_tracked {t : String} (ht : t ∈ s.types) : s.severityOf t = .error := by
  simp [severityOf, isTerminal_iff.2 ht]

/-! ## Single writes -/

theorem write_eq (type : ConditionType) : s.write now type.val status reason message cs =
    ⟨cs.set now (s.entry type status reason message), none⟩ := by
  unfold write Condition.build Decoder.checkLength
  rw [dif_pos type.property]
  rfl

theorem write_of_not_name {type : String} (h : ¬ IsTypeName type) (s : Declaration) (now : DateTime) (status : Status)
    (reason message : Text) (cs : Conditions) : ∃ r, s.write now type status reason message cs = ⟨cs, some r⟩ := by
  unfold IsTypeName at h
  unfold write Condition.build Decoder.checkLength
  rw [dif_neg h]
  by_cases hlong : 316 < type.length
  · rw [if_pos hlong]
    exact ⟨_, rfl⟩
  · rw [if_neg hlong]
    exact ⟨_, rfl⟩

theorem written_write (type : String) :
    Written [type] cs (s.write now type status reason message cs).conditions := by
  by_cases h : IsTypeName type
  · rw [write_eq ⟨type, h⟩]
    exact Written.refl.set now _ (by simp [entry])
  · obtain ⟨r, hr⟩ := write_of_not_name h s now status reason message cs
    rw [hr]
    exact .refl

theorem get?_write (hd : cs.Distinct) (type : ConditionType) :
    (s.write now type.val status reason message cs).conditions.get? type.val =
      some ((s.entry type status reason message).recorded now (cs.get? type.val)) := by
  rw [write_eq]
  exact (get?_set hd _).trans (if_pos rfl)

/-- An operation whose first step is refused does nothing. -/
theorem exists_andThen_of_not_name {type : String} (h : ¬ IsTypeName type) (next : Conditions → Outcome) :
    ∃ r, (s.write now type status reason message cs).andThen next = ⟨cs, some r⟩ := by
  obtain ⟨r, hr⟩ := write_of_not_name h s now status reason message cs
  rw [hr]
  exact ⟨r, rfl⟩

theorem andThen_of_not_name {type : String} (h : ¬ IsTypeName type) (next : Conditions → Outcome) :
    ((s.write now type status reason message cs).andThen next).conditions = cs := by
  obtain ⟨r, hr⟩ := exists_andThen_of_not_name h next
  rw [hr]

/-- What both parts of an operation keep, the operation keeps. -/
theorem andThen_keeps {P : Conditions → Prop} {o : Outcome} {next : Conditions → Outcome} (ho : P o.conditions)
    (hn : P o.conditions → P (next o.conditions).conditions) : P (o.andThen next).conditions := by
  unfold Outcome.andThen
  split
  · exact hn ho
  · exact ho

theorem written_andThen {types : List String} {o : Outcome} {next : Conditions → Outcome}
    (ho : Written types cs o.conditions) (hn : Written types o.conditions (next o.conditions).conditions) :
    Written types cs (o.andThen next).conditions :=
  andThen_keeps ho fun h => h.trans hn

/-! ## Frames -/

theorem written_raiseHappy : Written [s.happy] cs (s.raiseHappy now cs).conditions := by
  unfold raiseHappy
  split
  · exact written_write s.happy
  · exact .refl

theorem written_markTrueWith (type : String) :
    Written [type, s.happy] cs (s.markTrueWith now type reason message cs).conditions :=
  written_andThen ((written_write type).mono (by simp)) (written_raiseHappy.mono (by simp))

theorem written_markFalse (type : String) :
    Written [type, s.happy] cs (s.markFalse now type reason message cs).conditions := by
  refine written_andThen ((written_write type).mono (by simp)) ?_
  split
  · exact (written_write s.happy).mono (by simp)
  · exact .refl

theorem written_markUnknown (type : String) :
    Written [type, s.happy] cs (s.markUnknown now type reason message cs).conditions := by
  refine written_andThen ((written_write type).mono (by simp)) ?_
  split
  · split
    · exact .refl
    · exact (written_markFalse s.happy).mono (by simp)
  · split
    · exact (written_write s.happy).mono (by simp)
    · exact .refl

/-! ## Clearing -/

/-- What is tracked cannot be cleared. -/
theorem get?_clear (type : String) {t : String} (ht : t ∈ s.types) :
    (s.clear type cs).conditions.get? t = cs.get? t := by
  unfold clear
  split
  · rfl
  · rename_i hterm
    have hne : t ≠ type := by
      rintro rfl
      apply hterm
      simpa [isTerminal, types] using ht
    exact get?_remove_of_ne hne

theorem distinct_clear (hd : cs.Distinct) (type : String) : (s.clear type cs).conditions.Distinct := by
  unfold clear
  split
  · exact hd
  · exact hd.sublist (List.filter_sublist.map _)

theorem sorted_clear (hs : cs.Sorted) (type : String) : (s.clear type cs).conditions.Sorted := by
  unfold clear
  split
  · exact hs
  · exact hs.filter _

/-! ## The verdict of the dependents -/

def allHold (s : Declaration) (cs : Conditions) : Bool := s.dependents.all cs.holds

def anyFails (s : Declaration) (cs : Conditions) : Bool := s.dependents.any cs.fails

/-- False if a dependent is false, true if all are true, and otherwise unknown. -/
def verdict (s : Declaration) (cs : Conditions) : Status :=
  if s.anyFails cs then .no else if s.allHold cs then .yes else .unknown

theorem allHold_iff : s.allHold cs = true ↔ ∀ d ∈ s.dependents, cs.statusOf? d = some .yes := by
  simp [allHold, holds]

theorem anyFails_iff : s.anyFails cs = true ↔ ∃ d ∈ s.dependents, cs.statusOf? d = some .no := by
  simp [anyFails, fails]

theorem not_allHold {d : String} (hd : d ∈ s.dependents) (h : cs.statusOf? d ≠ some .yes) : ¬ s.allHold cs = true :=
  fun hall => h (allHold_iff.1 hall d hd)

theorem allHold_congr {ds : Conditions} (h : ∀ d ∈ s.dependents, ds.statusOf? d = cs.statusOf? d) :
    s.allHold ds = s.allHold cs := by
  rw [Bool.eq_iff_iff, allHold_iff, allHold_iff]
  exact forall₂_congr fun d hd => by rw [h d hd]

theorem anyFails_congr {ds : Conditions} (h : ∀ d ∈ s.dependents, ds.statusOf? d = cs.statusOf? d) :
    s.anyFails ds = s.anyFails cs := by
  rw [Bool.eq_iff_iff, anyFails_iff, anyFails_iff]
  exact exists_congr fun d => and_congr_right fun hd => by rw [h d hd]

theorem verdict_congr {ds : Conditions} (h : ∀ d ∈ s.dependents, ds.statusOf? d = cs.statusOf? d) :
    s.verdict ds = s.verdict cs := by
  rw [verdict, verdict, anyFails_congr h, allHold_congr h]

/-! ## Where the happy condition ends up -/

/-- The happy condition as this set describes it. -/
def happyEntry (s : Declaration) (hn : s.WellNamed) (status : Status) (reason message : Text) : Condition :=
  s.entry ⟨s.happy, hn.happy⟩ status reason message

theorem get?_happy_write (hn : s.WellNamed) (hd : cs.Distinct) :
    (s.write now s.happy status reason message cs).conditions.get? s.happy =
      some ((s.happyEntry hn status reason message).recorded now (cs.get? s.happy)) :=
  get?_write hd ⟨s.happy, hn.happy⟩

theorem get?_happy_raiseHappy (hn : s.WellNamed) (hd : cs.Distinct) :
    (s.raiseHappy now cs).conditions.get? s.happy =
      if s.allHold cs then some ((s.happyEntry hn .yes "" "").recorded now (cs.get? s.happy))
      else cs.get? s.happy := by
  unfold raiseHappy allHold
  split
  · exact get?_happy_write hn hd
  · rfl

/-! What a mark of a well-named type goes on with after it has written that type. -/

theorem markTrueWith_eq (type : ConditionType) : s.markTrueWith now type.val reason message cs =
    s.raiseHappy now (cs.set now (s.entry type .yes reason message)) := by
  rw [markTrueWith, write_eq]
  rfl

theorem markFalse_eq (type : ConditionType) (ht : type.val ≠ s.happy) :
    s.markFalse now type.val reason message cs =
      if type.val ∈ s.dependents then
        s.write now s.happy .no reason message (cs.set now (s.entry type .no reason message))
      else ⟨cs.set now (s.entry type .no reason message), none⟩ := by
  have hterm : (type.val ≠ s.happy ∧ s.isTerminal type.val = true) ↔ type.val ∈ s.dependents := by
    simp [isTerminal, ht]
  rw [markFalse, write_eq]
  simp only [Outcome.andThen, hterm]

theorem markFalse_happy (hn : s.WellNamed) : s.markFalse now s.happy reason message cs =
    ⟨cs.set now (s.happyEntry hn .no reason message), none⟩ := by
  rw [markFalse, write_eq ⟨s.happy, hn.happy⟩]
  simp [Outcome.andThen, happyEntry]

theorem markUnknown_eq (type : ConditionType) : s.markUnknown now type.val reason message cs =
    let mid := cs.set now (s.entry type .unknown reason message)
    if s.anyFails mid then
      if mid.fails s.happy then ⟨mid, none⟩ else s.markFalse now s.happy reason message mid
    else if type.val ∈ s.dependents then s.write now s.happy .unknown reason message mid
    else ⟨mid, none⟩ := by
  rw [markUnknown, write_eq]
  rfl

/-- After its first write, a mark touches the happy condition only. -/
theorem written_of_mark (now : DateTime) (reason message : Text) (cs : Conditions) {type : ConditionType}
    (ht : type.val ≠ s.happy) :
    Written [s.happy] (cs.set now (s.entry type .yes reason message))
      (s.markTrueWith now type.val reason message cs).conditions ∧
    Written [s.happy] (cs.set now (s.entry type .no reason message))
      (s.markFalse now type.val reason message cs).conditions ∧
    Written [s.happy] (cs.set now (s.entry type .unknown reason message))
      (s.markUnknown now type.val reason message cs).conditions := by
  refine ⟨?_, ?_, ?_⟩
  · rw [markTrueWith_eq]
    exact written_raiseHappy
  · rw [markFalse_eq type ht]
    split
    · exact written_write s.happy
    · exact .refl
  · rw [markUnknown_eq]
    dsimp only
    split
    · split
      · exact .refl
      · exact (written_markFalse s.happy).mono (by simp)
    · split
      · exact written_write s.happy
      · exact .refl

section
variable {type : ConditionType} (hd : cs.Distinct) (ht : type.val ≠ s.happy)
include hd ht

theorem get?_markTrueWith : (s.markTrueWith now type.val reason message cs).conditions.get? type.val =
    some ((s.entry type .yes reason message).recorded now (cs.get? type.val)) :=
  ((written_of_mark _ _ _ _ ht).1.get?_eq (by simpa using ht)).trans ((get?_set hd _).trans (if_pos rfl))

theorem get?_markFalse : (s.markFalse now type.val reason message cs).conditions.get? type.val =
    some ((s.entry type .no reason message).recorded now (cs.get? type.val)) :=
  ((written_of_mark _ _ _ _ ht).2.1.get?_eq (by simpa using ht)).trans ((get?_set hd _).trans (if_pos rfl))

theorem get?_markUnknown : (s.markUnknown now type.val reason message cs).conditions.get? type.val =
    some ((s.entry type .unknown reason message).recorded now (cs.get? type.val)) :=
  ((written_of_mark _ _ _ _ ht).2.2.get?_eq (by simpa using ht)).trans ((get?_set hd _).trans (if_pos rfl))

end

/-! ## Seeding -/

theorem seed_of_present {type : String} (h : cs.get? type ≠ none) : s.seed now status type cs = ⟨cs, none⟩ := by
  rw [seed, if_pos (has_iff.2 h)]

theorem seed_of_absent (type : ConditionType) (h : cs.get? type.val = none) :
    s.seed now status type.val cs = ⟨cs.set now (s.entry type status "" ""), none⟩ := by
  rw [seed, if_neg (not_has_iff.2 h), write_eq]

/-- One seed: what is there stays, and what is missing is there afterwards. -/
theorem seed_spec (s : Declaration) (now : DateTime) (status : Status) (type : ConditionType) (cs : Conditions) :
    ∃ out, s.seed now status type.val cs = ⟨out, none⟩ ∧
    Written [type.val] cs out ∧ (∀ u, cs.get? u ≠ none → out.get? u = cs.get? u) ∧
    (cs.get? type.val = none → out.get? type.val = some ((s.entry type status "" "").recorded now none)) := by
  by_cases h : cs.get? type.val = none
  · refine ⟨_, seed_of_absent type h, Written.refl.set now _ (by simp [entry]), ?_, fun _ => get?_set_of_absent h⟩
    intro u hu
    exact get?_set_of_ne fun e => hu (by rw [e]; exact h)
  · exact ⟨cs, seed_of_present h, .refl, fun _ _ => rfl, fun hnone => absurd hnone h⟩

/-- The loop that seeds one type after another. -/
def seedAll (s : Declaration) (now : DateTime) (status : Status) (types : List String) (cs : Conditions) : Outcome :=
  types.foldl (fun o d => o.andThen (s.seed now status d)) ⟨cs, none⟩

theorem seedAll_cons {d : String} {ds : List String} {mid : Conditions}
    (h : s.seed now status d cs = ⟨mid, none⟩) : s.seedAll now status (d :: ds) cs = s.seedAll now status ds mid := by
  show ds.foldl _ (s.seed now status d cs) = _
  rw [h]
  rfl

theorem seedAll_spec (s : Declaration) (now : DateTime) (status : Status) (types : List String)
    (hn : ∀ t ∈ types, IsTypeName t) (cs : Conditions) :
    ∃ out, s.seedAll now status types cs = ⟨out, none⟩ ∧
      Written types cs out ∧ (∀ u, cs.get? u ≠ none → out.get? u = cs.get? u) ∧
      ∀ t : ConditionType, t.val ∈ types → cs.get? t.val = none →
        out.get? t.val = some ((s.entry t status "" "").recorded now none) := by
  induction types generalizing cs with
  | nil => exact ⟨cs, rfl, .refl, fun _ _ => rfl, by simp⟩
  | cons d ds ih =>
    obtain ⟨mid, hseed, hw, hkeep, hnew⟩ := seed_spec s now status ⟨d, hn d (by simp)⟩ cs
    obtain ⟨out, hfold, hw', hkeep', hnew'⟩ := ih (fun t ht => hn t (List.mem_cons_of_mem _ ht)) mid
    have hsub : ∀ t ∈ ds, t ∈ d :: ds := fun t ht => List.mem_cons_of_mem _ ht
    refine ⟨out, (seedAll_cons hseed).trans hfold, (hw.mono (by simp)).trans (hw'.mono hsub), ?_, ?_⟩
    · intro u hu
      rw [hkeep' u (by rwa [hkeep u hu]), hkeep u hu]
    · intro t ht hnone
      by_cases hd : t.val = d
      · have ht' : t = ⟨d, hn d (by simp)⟩ := Subtype.ext hd
        subst ht'
        rw [hkeep' _ (by simp [hnew hnone]), hnew hnone]
      · have hmid : mid.get? t.val = none := by rwa [hw.get?_eq (by simpa using hd)]
        exact hnew' t ((List.mem_cons.1 ht).resolve_left hd) hmid

/-- What each seed keeps, seeding keeps, up to the first seed that is refused. -/
theorem seedAll_keeps {P : Conditions → Prop} (types : List String)
    (hseed : ∀ t ∈ types, ∀ ds, P ds → P (s.seed now status t ds).conditions) (h : P cs) :
    P (s.seedAll now status types cs).conditions := by
  have hfold : ∀ o : Outcome, P o.conditions →
      P (types.foldl (fun o d => o.andThen (s.seed now status d)) o).conditions := by
    induction types with
    | nil => exact fun _ ho => ho
    | cons t ts ih =>
      intro o ho
      exact ih (fun u hu => hseed u (List.mem_cons_of_mem _ hu)) _ (andThen_keeps ho (hseed t (by simp) _))
  exact hfold ⟨cs, none⟩ h

theorem seedMissing_keeps {P : Conditions → Prop}
    (hseed : ∀ status, ∀ t ∈ s.types, ∀ ds, P ds → P (s.seed now status t ds).conditions) (h : P cs) :
    P (s.seedMissing now cs).conditions :=
  andThen_keeps (hseed .unknown s.happy List.mem_cons_self cs h)
    (seedAll_keeps s.dependents fun t ht => hseed _ t (List.mem_cons_of_mem _ ht))

theorem written_seed (type : String) : Written [type] cs (s.seed now status type cs).conditions := by
  unfold seed
  split
  · exact .refl
  · exact written_write type

theorem written_seedMissing (s : Declaration) (now : DateTime) (cs : Conditions) :
    Written s.types cs (s.seedMissing now cs).conditions :=
  seedMissing_keeps (fun _ _ ht _ h => h.trans ((written_seed _).mono (by simpa using ht))) .refl

/-- What missing dependents are seeded with. -/
def seedStatus (s : Declaration) (cs : Conditions) : Status := if cs.holds s.happy then .yes else .unknown

theorem seedMissing_refusal (hn : s.WellNamed) (now : DateTime) (cs : Conditions) :
    (s.seedMissing now cs).refusal = none := by
  obtain ⟨mid, hseed, -⟩ := seed_spec s now .unknown ⟨s.happy, hn.happy⟩ cs
  obtain ⟨out, hfold, -⟩ := seedAll_spec s now (s.seedStatus mid) s.dependents hn.dependents mid
  rw [seedMissing, hseed]
  exact congrArg Outcome.refusal hfold

theorem seedAll_of_present (types : List String) (h : ∀ t ∈ types, cs.get? t ≠ none) :
    s.seedAll now status types cs = ⟨cs, none⟩ := by
  induction types with
  | nil => rfl
  | cons d ds ih =>
    rw [seedAll_cons (seed_of_present (h d (by simp)))]
    exact ih fun t ht => h t (List.mem_cons_of_mem _ ht)

theorem seedMissing_of_present (h : ∀ t ∈ s.types, cs.get? t ≠ none) : s.seedMissing now cs = ⟨cs, none⟩ := by
  have hall : s.seedAll now (s.seedStatus cs) s.dependents cs = ⟨cs, none⟩ :=
    seedAll_of_present s.dependents fun t ht => h t (List.mem_cons_of_mem _ ht)
  rw [seedMissing, seed_of_present (h s.happy (List.mem_cons_self))]
  exact hall

end Declaration

namespace ConditionSet

open Conditions Declaration

variable {s : ConditionSet} {now : DateTime} {cs : Conditions} {reason message : Text}

theorem ne_happy {d : String} (h : d ∈ s.dependents) : d ≠ s.happy := fun e => s.happy_notMem (e ▸ h)

/-- Writing the happy condition leaves the dependents as they are. -/
theorem statusOf?_of_written_happy {ds : Conditions} (h : Written [s.happy] cs ds) :
    ∀ d ∈ s.dependents, ds.statusOf? d = cs.statusOf? d := by
  intro d hd
  exact statusOf?_eq_of_get?_eq (h.get?_eq (by simpa using ne_happy hd))

/-! ## The happy condition after a mark -/

section
variable {type : ConditionType} (hd : cs.Distinct) (ht : type.val ≠ s.happy)
include hd ht

variable (hn : s.WellNamed)
include hn

theorem get?_happy_markTrueWith :
    (s.markTrueWith now type.val reason message cs).conditions.get? s.happy =
      if s.allHold (s.markTrueWith now type.val reason message cs).conditions then
        some ((s.happyEntry hn .yes "" "").recorded now (cs.get? s.happy))
      else cs.get? s.happy := by
  have hmid : (cs.set now (s.entry type .yes reason message)).get? s.happy = cs.get? s.happy :=
    get?_set_of_ne (Ne.symm ht)
  rw [allHold_congr (statusOf?_of_written_happy (written_of_mark _ _ _ _ ht).1), markTrueWith_eq,
    get?_happy_raiseHappy hn (distinct_set hd), hmid]

theorem get?_happy_markFalse :
    (s.markFalse now type.val reason message cs).conditions.get? s.happy =
      if type.val ∈ s.dependents then some ((s.happyEntry hn .no reason message).recorded now (cs.get? s.happy))
      else cs.get? s.happy := by
  have hmid : (cs.set now (s.entry type .no reason message)).get? s.happy = cs.get? s.happy :=
    get?_set_of_ne (Ne.symm ht)
  rw [markFalse_eq type ht]
  split
  · rw [get?_happy_write hn (distinct_set hd), hmid]
  · exact hmid

theorem get?_happy_markUnknown :
    (s.markUnknown now type.val reason message cs).conditions.get? s.happy =
      if s.anyFails (s.markUnknown now type.val reason message cs).conditions then
        if cs.fails s.happy then cs.get? s.happy
        else some ((s.happyEntry hn .no reason message).recorded now (cs.get? s.happy))
      else if type.val ∈ s.dependents then
        some ((s.happyEntry hn .unknown reason message).recorded now (cs.get? s.happy))
      else cs.get? s.happy := by
  have hmid : (cs.set now (s.entry type .unknown reason message)).get? s.happy = cs.get? s.happy :=
    get?_set_of_ne (Ne.symm ht)
  have hfails : (cs.set now (s.entry type .unknown reason message)).fails s.happy = cs.fails s.happy := by
    rw [fails, fails, statusOf?_eq_of_get?_eq hmid]
  have hdist : (cs.set now (s.entry type .unknown reason message)).Distinct := distinct_set hd
  rw [anyFails_congr (statusOf?_of_written_happy (written_of_mark _ _ _ _ ht).2.2), markUnknown_eq]
  dsimp only
  rw [hfails]
  split
  · split
    · exact hmid
    · rw [markFalse_happy hn, ← hmid]
      exact (get?_set hdist _).trans (if_pos rfl)
  · split
    · rw [get?_happy_write hn hdist, hmid]
    · exact hmid

end

/-! ## Seeding what is missing -/

/-- A happy condition that was just seeded decides nothing. -/
theorem seedMissing_eq (hn : s.WellNamed) {mid : Conditions} (h : s.seed now .unknown s.happy cs = ⟨mid, none⟩) :
    s.seedMissing now cs = s.seedAll now (s.seedStatus cs) s.dependents mid := by
  obtain ⟨out, hseed, -, hkeep, hnew⟩ := seed_spec s now .unknown ⟨s.happy, hn.happy⟩ cs
  obtain rfl : out = mid := congrArg Outcome.conditions (hseed.symm.trans h)
  have hstatus : s.seedStatus out = s.seedStatus cs := by
    by_cases hnone : cs.get? s.happy = none
    · simp [seedStatus, holds, statusOf?, hnone, hnew hnone, entry]
    · simp [seedStatus, holds, statusOf?, hkeep _ hnone]
  rw [seedMissing, h, ← hstatus]
  rfl

/-- Seeding keeps every type that is there, and adds the tracked ones that are not: the happy condition as unknown,
the dependents with `seedStatus`. -/
theorem seedMissing_spec (hn : s.WellNamed) (now : DateTime) (cs : Conditions) :
    Written s.types cs (s.seedMissing now cs).conditions ∧
    (∀ u, cs.get? u ≠ none → (s.seedMissing now cs).conditions.get? u = cs.get? u) ∧
    (cs.get? s.happy = none → (s.seedMissing now cs).conditions.get? s.happy =
      some ((s.happyEntry hn .unknown "" "").recorded now none)) ∧
    ∀ t : ConditionType, t.val ∈ s.dependents → cs.get? t.val = none →
      (s.seedMissing now cs).conditions.get? t.val =
        some ((s.entry t (s.seedStatus cs) "" "").recorded now none) := by
  obtain ⟨mid, hseed, hw, hkeep, hnew⟩ := seed_spec s now .unknown ⟨s.happy, hn.happy⟩ cs
  obtain ⟨out, hfold, hw', hkeep', hnew'⟩ := seedAll_spec s now (s.seedStatus cs) s.dependents hn.dependents mid
  have hhappy : out.get? s.happy = mid.get? s.happy := hw'.get?_eq s.happy_notMem
  refine ⟨written_seedMissing s now cs, ?_⟩
  rw [seedMissing_eq hn hseed, hfold]
  refine ⟨?_, ?_, ?_⟩
  · intro u hu
    rw [hkeep' u (by rwa [hkeep u hu]), hkeep u hu]
  · intro h
    rw [hhappy, hnew h]
    rfl
  · intro t ht hnone
    have hmid : mid.get? t.val = none := by rwa [hw.get?_eq (by simpa using ne_happy ht)]
    exact hnew' t ht hmid

theorem get?_seedMissing_ne_none (hn : s.WellNamed) (now : DateTime) (cs : Conditions) :
    ∀ t ∈ s.types, (s.seedMissing now cs).conditions.get? t ≠ none := by
  obtain ⟨-, hkeep, hhappy, hnew⟩ := seedMissing_spec hn now cs
  intro t ht
  by_cases h : cs.get? t = none
  · rcases List.mem_cons.1 ht with rfl | hdep
    · simp [hhappy h]
    · simp [hnew ⟨t, hn.dependents t hdep⟩ hdep h]
  · rwa [hkeep t h]

end ConditionSet

end Readiness
