import Readiness.Proofs.Condition.Marks

/-!
# What seeding adds

Seeding writes one missing type after the other, and each write sorts the list anew. Nothing is lost or merged on the
way, also where types are stored out of order or several times: the list afterwards is what was stored and one
condition for each tracked type that was missing, up to the order between types (`Seeds`). Within a type that was there
the order stays (`ofType_seedMissing`), and with it what a look-up gives.

The loop never meets a type that an earlier round of it has added, so the rounds can be put together (`Seeds.trans`).
-/
namespace Readiness

open Calendar Conditions

namespace Declaration

variable {s : Declaration} {now : DateTime} {cs : Conditions} {status : Status}

/-- The second list holds what the first one holds, and one new condition for each of the types that are missing there,
with a status that depends on the type. -/
def Seeds (s : Declaration) (now : DateTime) (status : String → Status) (types : List String)
    (before after : Conditions) : Prop :=
  ∃ added : Conditions, after.Perm (before ++ added) ∧
    added.map (·.type.val) = types.filter (fun t => !before.has t) ∧
    ∀ c ∈ added, c = (s.entry c.type (status c.type.val) "" "").recorded now none

namespace Seeds

variable {st : String → Status} {types types' : List String} {before mid after : Conditions}

theorem refl (h : ∀ t ∈ types, before.get? t ≠ none) : Seeds s now st types before before := by
  have hnone : types.filter (fun t => !before.has t) = [] := by
    simp only [List.filter_eq_nil_iff]
    intro t ht
    simp [has_iff.2 (h t ht)]
  exact ⟨[], by simp, by simp [hnone], by simp⟩

/-- Seeding some types and then others, of which the first seeds are none. -/
theorem trans (h : Seeds s now st types before mid) (h' : Seeds s now st types' mid after)
    (hsame : ∀ t ∈ types', mid.get? t = before.get? t) : Seeds s now st (types ++ types') before after := by
  obtain ⟨added, hperm, htypes, hadded⟩ := h
  obtain ⟨added', hperm', htypes', hadded'⟩ := h'
  have hmissing : types'.filter (fun t => !mid.has t) = types'.filter (fun t => !before.has t) :=
    List.filter_congr fun t ht => by rw [has, has, hsame t ht]
  refine ⟨added ++ added', ?_, ?_, ?_⟩
  · rw [← List.append_assoc]
    exact hperm'.trans (hperm.append_right added')
  · rw [List.map_append, List.filter_append, htypes, htypes', hmissing]
  · intro c hc
    rcases List.mem_append.1 hc with hc | hc
    · exact hadded c hc
    · exact hadded' c hc

/-- A type that was missing has its seed afterwards, and nothing else. -/
theorem ofType_of_absent (h : Seeds s now st types before after) (hnd : types.Nodup) {type : ConditionType}
    (ht : type.val ∈ types) (hnone : before.get? type.val = none) :
    after.ofType type.val = [(s.entry type (st type.val) "" "").recorded now none] := by
  obtain ⟨added, hperm, htypes, hadded⟩ := h
  have hdistinct : added.Distinct := distinct_of_nodup (htypes ▸ hnd.filter _)
  have hmem : type.val ∈ added.map (·.type.val) := by
    rw [htypes]
    simp [ht, has, hnone]
  obtain ⟨c, hc, hctype⟩ := List.mem_map.1 hmem
  obtain rfl : c.type = type := Subtype.ext hctype
  have hview := ofType_perm c.type.val hperm
  rw [ofType_append, ofType_eq_nil.2 hnone, ofType_of_distinct hdistinct, get?_of_mem hdistinct hc] at hview
  rw [← hadded c hc]
  exact List.perm_singleton.1 hview

end Seeds

/-! ## The loop -/

theorem seeds_seed (s : Declaration) (now : DateTime) (st : String → Status) (type : ConditionType)
    (hst : st type.val = status) (cs : Conditions) :
    Seeds s now st [type.val] cs (s.seed now status type.val cs).conditions := by
  by_cases h : cs.get? type.val = none
  · rw [seed_of_absent type h]
    refine ⟨[(s.entry type status "" "").recorded now none], perm_set_of_absent h, ?_, ?_⟩
    · simp [entry, has, h]
    · simp [entry, Condition.recorded, hst]
  · rw [seed_of_present h]
    exact .refl (by simpa using h)

theorem seeds_seedAll (s : Declaration) (now : DateTime) (st : String → Status) (types : List String)
    (hn : ∀ t ∈ types, IsTypeName t) (hnd : types.Nodup) (hst : ∀ t ∈ types, st t = status) (cs : Conditions) :
    Seeds s now st types cs (s.seedAll now status types cs).conditions := by
  induction types generalizing cs with
  | nil => exact .refl (by simp)
  | cons d ds ih =>
    obtain ⟨hd, hds⟩ := List.nodup_cons.1 hnd
    have hfirst := seeds_seed s now st ⟨d, hn d (by simp)⟩ (hst d (by simp)) cs
    obtain ⟨mid, hseed, hw, -⟩ := seed_spec s now status ⟨d, hn d (by simp)⟩ cs
    rw [hseed] at hfirst
    rw [seedAll_cons hseed]
    have hrest := ih (fun t ht => hn t (List.mem_cons_of_mem _ ht)) hds
      (fun t ht => hst t (List.mem_cons_of_mem _ ht)) mid
    refine hfirst.trans hrest fun t ht => hw.get?_eq ?_
    rw [List.mem_singleton]
    rintro rfl
    exact hd ht

/-- Within a type that is there, not even the order changes. -/
theorem ofType_seedMissing (s : Declaration) (now : DateTime) {type : String} (h : cs.get? type ≠ none) :
    (s.seedMissing now cs).conditions.ofType type = cs.ofType type := by
  refine seedMissing_keeps (P := fun ds => ds.ofType type = cs.ofType type) (fun status t _ ds hds => ?_) rfl
  by_cases ht : type = t
  · -- the type is there, so it is not seeded
    subst ht
    rw [seed_of_present (by rwa [get?_eq_head?, hds, ← get?_eq_head?])]
    exact hds
  · exact ((written_seed t).ofType_eq (by simpa using ht)).trans hds

end Declaration

namespace ConditionSet

open Declaration

variable {s : ConditionSet} {cs : Conditions}

/-- What a tracked type is seeded with where it is missing. -/
def seedStatusOf (s : ConditionSet) (cs : Conditions) (type : String) : Status :=
  if type = s.happy then .unknown else s.seedStatus cs

theorem seeds_of_seedMissing (hn : s.WellNamed) (now : DateTime) (cs : Conditions) :
    Seeds s now (s.seedStatusOf cs) s.types cs (s.seedMissing now cs).conditions := by
  obtain ⟨mid, hseed, hw, -⟩ := seed_spec s now .unknown ⟨s.happy, hn.happy⟩ cs
  have hfirst := seeds_seed s now (s.seedStatusOf cs) ⟨s.happy, hn.happy⟩ (if_pos rfl) cs
  rw [hseed] at hfirst
  rw [seedMissing_eq hn hseed]
  have hrest := seeds_seedAll s now (s.seedStatusOf cs) s.dependents hn.dependents s.nodup
    (fun t ht => if_neg (ne_happy ht)) mid
  exact hfirst.trans hrest fun t ht => hw.get?_eq (by simpa using ne_happy ht)

/-- **Seeding only adds.** Whatever is stored, in any order and with types repeated, seeding is not refused, and
afterwards the list holds what it held and one condition for each tracked type that was missing. What is added is
stamped with the time and gives no reason; the happy condition is added as unknown, a dependent as true if the first
happy condition in store is true, and otherwise as unknown. Of a type that was there all entries stay, in their order,
and a look-up gives what it gave. Seeding again, at any time, changes nothing at all. -/
theorem additions_of_seeding (hn : s.WellNamed) (now : DateTime) (cs : Conditions) :
    let seeded := (s.seedMissing now cs).conditions
    (s.seedMissing now cs).refusal = none ∧
    (∃ added : Conditions, seeded.Perm (cs ++ added) ∧
      added.map (·.type.val) = s.types.filter (fun t => !cs.has t) ∧
      ∀ c ∈ added, c = {
        type := c.type
        status := if c.type.val = s.happy then .unknown else if cs.holds s.happy then .yes else .unknown
        severity := .error
        transition := some now.truncated
        reason := ""
        message := "" }) ∧
    (∀ type, cs.has type = true → seeded.ofType type = cs.ofType type ∧ seeded.get? type = cs.get? type) ∧
    ∀ later, s.seedMissing later seeded = ⟨seeded, none⟩ := by
  intro seeded
  obtain ⟨added, hperm, htypes, hadded⟩ := seeds_of_seedMissing hn now cs
  refine ⟨seedMissing_refusal hn now cs, ⟨added, hperm, htypes, fun c hc => ?_⟩, fun type ht => ⟨?_, ?_⟩, fun later => ?_⟩
  · have hmem : c.type.val ∈ added.map (·.type.val) := List.mem_map_of_mem hc
    rw [htypes] at hmem
    refine (hadded c hc).trans ?_
    rw [entry, severityOf_tracked (List.mem_filter.1 hmem).1]
    rfl
  · exact ofType_seedMissing s now (has_iff.1 ht)
  · exact (seedMissing_spec hn now cs).2.1 type (has_iff.1 ht)
  · exact seedMissing_of_present (get?_seedMissing_ne_none hn now cs)

/-- Types out of order and repeated, with the first of two happy conditions true: what is missing is seeded as true. -/
theorem additions_of_seeding_among_repeated :
    let s := living ["Disk", "Network"]
    let ready (status : Status) : Condition := { type := ⟨"Ready", by decide⟩, status := status }
    let disk : Condition := { type := ⟨"Disk", by decide⟩, status := .no, reason := "Full" }
    let cs : Conditions := [ready .yes, disk, ready .no]
    s.WellNamed ∧ (s.seedMissing default cs).refusal = none ∧
      (s.seedMissing default cs).conditions.ofType "Ready" = [ready .yes, ready .no] ∧
      (s.seedMissing default (s.seedMissing default cs).conditions) = ⟨(s.seedMissing default cs).conditions, none⟩ := by
  intro s ready disk cs
  have hn : s.WellNamed := ⟨by decide, by decide⟩
  obtain ⟨hok, -, hkept, hagain⟩ := additions_of_seeding hn default cs
  exact ⟨hn, hok, (hkept "Ready" (by decide)).1, hagain default⟩

end ConditionSet

end Readiness
