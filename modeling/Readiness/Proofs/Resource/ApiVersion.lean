import Readiness.Defaults

/-!
# Two renderings of the API version

The defaults render the API version of sequences, and so does the type that is made of them. The type leaves out the
slash where there is no group, the defaults write it in any case (`apiVersion_eq`). The two renderings agree exactly
where there is a group (`renderings_agree_iff`), which the environment can take away by an empty text
(`renderings_differ_without_group`).
-/
namespace Readiness

variable (r : ResourceDefaults)

/-- Without a group there is a slash in front. -/
theorem ResourceDefaults.apiVersion_eq :
    r.apiVersion = (if r.group = "" then "/" else "") ++ r.groupVersionKind.apiVersion := by
  unfold apiVersion groupVersionKind GroupVersionKind.apiVersion
  by_cases hgroup : r.group = ""
  · simp only [hgroup, if_true]
    rfl
  · simp only [hgroup, if_false, Text.nil_append]

theorem ResourceDefaults.apiVersion_eq_iff : r.apiVersion = r.groupVersionKind.apiVersion ↔ r.group ≠ "" := by
  rw [apiVersion_eq, Text.append_eq_right_iff]
  by_cases hgroup : r.group = "" <;> simp [hgroup]

theorem ResourceDefaults.group_ofEnvironment_eq_iff (e : Environment) :
    (ofEnvironment e).group = "" ↔ e .apiGroup = some ("" : Text) := by
  unfold ofEnvironment
  cases e .apiGroup with
  | none => simp
  | some group => simp

/-- The type of sequences is printed as the defaults render it where the renderings agree. -/
theorem ResourceDefaults.text_eq_iff :
    r.groupVersionKind.text = r.apiVersion ++ ", Kind=" ++ r.kind ↔ r.apiVersion = r.groupVersionKind.apiVersion := by
  show r.groupVersionKind.apiVersion ++ ", Kind=" ++ r.kind = _ ↔ _
  rw [Text.append_left_inj, Text.append_left_inj, eq_comm]

/-- **The two renderings of the API version agree exactly where there is a group.** Of any defaults, the rendering is
that of their type, after a slash if the group is empty; of those from the environment, that is if the group is set to
the empty text. Whatever the settings, the same holds of the type of sequences, as it is and as it is printed. -/
theorem renderings_agree_iff (r : ResourceDefaults) (e : Environment) (s : Settings) :
    r.apiVersion = (if r.group = "" then "/" else "") ++ r.groupVersionKind.apiVersion ∧
    (r.apiVersion = r.groupVersionKind.apiVersion ↔ r.group ≠ "") ∧
    (let built := ResourceDefaults.ofEnvironment e
     built.apiVersion = built.groupVersionKind.apiVersion ↔ e .apiGroup ≠ some ("" : Text)) ∧
    let current := s.current.resource
    let type := s.sequenceType.1
    (current.apiVersion = type.apiVersion ↔ current.group ≠ "") ∧
    (type.text = current.apiVersion ++ ", Kind=" ++ current.kind ↔ current.group ≠ "") := by
  refine ⟨r.apiVersion_eq, r.apiVersion_eq_iff, ?_, ?_⟩
  · intro built
    rw [built.apiVersion_eq_iff, ne_eq, ResourceDefaults.group_ofEnvironment_eq_iff]
  · intro current type
    have hagree : current.apiVersion = type.apiVersion ↔ current.group ≠ "" := current.apiVersion_eq_iff
    exact ⟨hagree, current.text_eq_iff.trans hagree⟩

/-- With the group set to the empty text, the defaults say `/v1` and the type of sequences says `v1`. -/
theorem renderings_differ_without_group :
    let s : Settings := { environment := Environment.empty.set .apiGroup (some "") }
    s.current.resource.apiVersion = "/v1" ∧ s.sequenceType.1.apiVersion = "v1" ∧
      s.current.resource.apiVersion ≠ s.sequenceType.1.apiVersion := by
  decide

end Readiness
