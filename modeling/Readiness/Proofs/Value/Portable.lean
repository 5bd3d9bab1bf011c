import Readiness.Proofs.Schema.Mapping

/-!
# What JSON can hold stays

Turning a value into one that JSON can hold changes it only once: what comes out is settled, and would come out of a
second turn as it is (`settled_of_portableIn`). Containers that hold themselves never come out, so nothing that is
settled has links.

The induction is over the value, with a hypothesis on what links stand for; a group is settled by following its links
for as long as the trail is.
-/
namespace Readiness

open Schema

namespace Value

/-- A value that is written on a level as it is, whatever links stand for. -/
def Settled (level : Nat) (v : Value) : Prop := ∀ link : Nat → Writing, portableIn link level v = .ok v

/-- Writing that gives nothing but settled values. -/
def Settles (w : Writing) : Prop := ∀ level x, w level = .ok x → Settled level x

/-! ## Keys -/

theorem isWhole_of_text? {v : Value} {t : Text} (hv : ∀ s, v ≠ .str s) (h : v.text? = some t) : t.IsWhole := by
  have hdisplay : v.display?.map Text.ofString = some t → t.IsWhole := by
    intro hdisplay
    obtain ⟨s, _, rfl⟩ := Option.map_eq_some_iff.1 hdisplay
    exact Text.isWhole_ofString s
  cases v with
  | str s => exact absurd rfl (hv s)
  | date d =>
    obtain rfl := Option.some.inj h
    exact Text.isWhole_ofString _
  | datetime t =>
    obtain rfl := Option.some.inj h
    exact Text.isWhole_ofString _
  | _ => exact hdisplay h

/-- Keys are written in characters. -/
theorem isWhole_of_portableKey {k : Value} {name : Text} (h : portableKey k = .ok name) : name.IsWhole := by
  cases k with
  | null | datetime t =>
    obtain rfl := Except.ok.inj h
    exact Text.isWhole_ofString _
  | bool b =>
    obtain rfl := Except.ok.inj h
    split <;> exact Text.isWhole_ofString _
  | float x =>
    obtain rfl := Except.ok.inj h
    split <;> exact Text.isWhole_ofString _
  | str s =>
    simp only [portableKey] at h
    split at h
    · rename_i hs
      obtain rfl := Except.ok.inj h
      exact hs
    · simp at h
  | bytes bs =>
    simp only [portableKey, textOfBytes] at h
    split at h
    · obtain rfl := Except.ok.inj h
      exact Text.isWhole_ofString _
    · simp at h
  | handle _ _ => simp [portableKey] at h
  | int _ | date _ | list _ | tuple _ | set _ | map _ | loop _ _ | link _ =>
    simp only [portableKey] at h
    split at h
    · rename_i htext
      obtain rfl := Except.ok.inj h
      exact isWhole_of_text? (by simp) htext
    · simp at h

theorem portableKey_of_isWhole {name : Text} (h : name.IsWhole) : portableKey (.str name) = .ok name := if_pos h

/-! ## Containers -/

section
variable {level : Nat}

theorem portableItems_of_settled {xs : List Value} (h : ∀ x ∈ xs, Settled level x) (link : Nat → Writing) :
    portableItems link level xs = .ok xs := by
  induction xs with
  | nil => rfl
  | cons x xs ih =>
    rw [portableItems, h x (by simp) link, ih fun y hy => h y (by simp [hy])]
    rfl

theorem portableEntries_of_settled {fs : Fields} (h : ∀ f ∈ fs, f.1.IsWhole ∧ Settled level f.2)
    (link : Nat → Writing) : portableEntries link level (Fields.entries fs) = .ok (Fields.entries fs) := by
  induction fs with
  | nil => rfl
  | cons f fs ih =>
    have hcons : Fields.entries (f :: fs) = (.str f.1, f.2) :: Fields.entries fs := rfl
    obtain ⟨hname, hvalue⟩ := h f (by simp)
    rw [hcons, portableEntries, portableKey_of_isWhole hname, hvalue link, ih fun g hg => h g (by simp [hg])]
    rfl

theorem settled_list {xs : List Value} (hlevel : level ≤ mostLevels) (h : ∀ x ∈ xs, Settled (level + 1) x) :
    Settled level (.list xs) := by
  intro link
  rw [portableIn, if_neg (Nat.not_lt.2 hlevel), portableItems_of_settled h]
  rfl

theorem settled_map {fs : Fields} (hlevel : level ≤ mostLevels) (hd : (names fs).Nodup)
    (h : ∀ f ∈ fs, f.1.IsWhole ∧ Settled (level + 1) f.2) : Settled level (.map (Fields.entries fs)) := by
  intro link
  rw [portableIn, if_neg (Nat.not_lt.2 hlevel), portableEntries_of_settled h, Except.map, ofList_entries,
    distinct_of_nodup hd]

end

/-- Following links gives settled values if each container gives them, given that its links do. -/
theorem settles_walk {pieces : List ((Nat → Writing) → Writing)}
    (h : ∀ piece ∈ pieces, ∀ link, (∀ i, Settles (link i)) → Settles (piece link)) (fuel : Nat) (trail : List Nat)
    (i : Nat) : Settles (walk pieces (fun _ _ => .error .circular) fuel trail i) := by
  have hagain : Settles fun _ => Except.error .circular := by
    intro level x hx
    simp at hx
  induction fuel generalizing trail i with
  | zero => exact hagain
  | succ fuel ih =>
    rw [walk]
    split
    · exact hagain
    · split
      · rename_i piece hpiece
        exact h piece (List.mem_of_getElem? hpiece) _ fun j => ih (i :: trail) j
      · exact hagain

/-! ## Values -/

section
variable {link : Nat → Writing} {level : Nat} {x : Value}

/-- What is written on every level, unless it is too deep. -/
def atLevel (level : Nat) (written : Except Unwritable Value) : Except Unwritable Value :=
  if mostLevels < level then .error .tooDeep else written

theorem atLevel_eq_ok {written : Except Unwritable Value} (h : atLevel level written = .ok x) :
    level ≤ mostLevels ∧ written = .ok x := by
  unfold atLevel at h
  split at h
  · simp at h
  · exact ⟨Nat.le_of_not_lt ‹_›, h⟩

/-- Values without parts that stand for themselves. -/
theorem settled_of_scalar {y : Value} (hy : ∀ link, portableIn link level y = atLevel level (.ok y))
    (h : atLevel level (.ok y) = .ok x) : Settled level x := by
  obtain rfl := Except.ok.inj (atLevel_eq_ok h).2
  exact fun link => (hy link).trans h

theorem settled_of_items {xs : List Value}
    (hitems : ∀ ys, portableItems link (level + 1) xs = .ok ys → ∀ y ∈ ys, Settled (level + 1) y)
    (h : atLevel level ((portableItems link (level + 1) xs).map .list) = .ok x) : Settled level x := by
  obtain ⟨hlevel, h⟩ := atLevel_eq_ok h
  cases hys : portableItems link (level + 1) xs with
  | error f => simp [hys, Except.map] at h
  | ok ys =>
    obtain rfl : Value.list ys = x := by simpa [hys, Except.map] using h
    exact settled_list hlevel (hitems ys hys)

theorem settled_of_entries {es : Entries}
    (hentries : ∀ found, portableEntries link (level + 1) es = .ok found →
      ∃ fs : Fields, found = Fields.entries fs ∧ ∀ f ∈ fs, f.1.IsWhole ∧ Settled (level + 1) f.2)
    (h : atLevel level ((portableEntries link (level + 1) es).map fun found => .map (Entries.ofList found)) = .ok x) :
    Settled level x := by
  obtain ⟨hlevel, h⟩ := atLevel_eq_ok h
  cases hfound : portableEntries link (level + 1) es with
  | error f => simp [hfound, Except.map] at h
  | ok found =>
    obtain ⟨fs, rfl, hfs⟩ := hentries found hfound
    obtain rfl : Value.map (Fields.entries (distinct fs)) = x := by
      simpa [hfound, Except.map, ofList_entries] using h
    exact settled_map hlevel (nodup_names_distinct fs) fun f hf => hfs f (mem_of_mem_distinct hf)

end

mutual
/-- **Whatever comes out is settled.** -/
theorem settled_of_portableIn (link : Nat → Writing) (hlink : ∀ i, Settles (link i)) :
    ∀ (v : Value) (level : Nat) (x : Value), portableIn link level v = .ok x → Settled level x
  | .null, _, _, h => settled_of_scalar (fun _ => rfl) h
  | .bool _, _, _, h => settled_of_scalar (fun _ => rfl) h
  | .int _, _, _, h => settled_of_scalar (fun _ => rfl) h
  | .str _, _, _, h => settled_of_scalar (fun _ => rfl) h
  | .date _, _, _, h => settled_of_scalar (fun _ => rfl) h
  | .datetime _, _, _, h => settled_of_scalar (fun _ => rfl) h
  | .float y, level, x, h => by
    have hwritten : atLevel level (.ok (if isFinite y then .float y else .null)) = .ok x := h
    by_cases hy : isFinite y = true
    · rw [if_pos hy] at hwritten
      exact settled_of_scalar (fun link => by simp [portableIn, atLevel, hy]) hwritten
    · rw [if_neg hy] at hwritten
      exact settled_of_scalar (fun _ => rfl) hwritten
  | .bytes bs, level, x, h => by
    have hwritten : atLevel level ((textOfBytes bs).map .str) = .ok x := h
    cases hbs : textOfBytes bs with
    | error f => simpa [hbs, Except.map] using (atLevel_eq_ok hwritten).2
    | ok s =>
      rw [hbs] at hwritten
      exact settled_of_scalar (y := .str s) (fun _ => rfl) hwritten
  | .list xs, level, _, h => settled_of_items (settled_of_portableItems link hlink xs (level + 1)) h
  | .tuple xs, level, _, h => settled_of_items (settled_of_portableItems link hlink xs (level + 1)) h
  | .set xs, level, _, h => settled_of_items (settled_of_portableItems link hlink xs (level + 1)) h
  | .map es, level, _, h => settled_of_entries (fields_of_portableEntries link hlink es (level + 1)) h
  | .handle kind _, level, x, h => by
    have hwritten : atLevel level (.error (.unknownKind kind)) = .ok x := h
    simpa using (atLevel_eq_ok hwritten).2
  | .loop cells i, level, x, h => by
    have hwritten : atLevel level (walkFrom (portableCells cells) (fun _ _ => .error .circular) i level) = .ok x := h
    exact settles_walk (settles_portableCells cells) _ _ i level x (atLevel_eq_ok hwritten).2
  | .link i, level, x, h => by
    have hwritten : atLevel level (link i level) = .ok x := h
    exact hlink i level x (atLevel_eq_ok hwritten).2

theorem settled_of_portableItems (link : Nat → Writing) (hlink : ∀ i, Settles (link i)) :
    ∀ (xs : List Value) (level : Nat) (ys : List Value), portableItems link level xs = .ok ys →
      ∀ y ∈ ys, Settled level y
  | [], _, ys, h => by
    obtain rfl : [] = ys := Except.ok.inj h
    simp
  | x :: xs, level, ys, h => by
    cases hx : portableIn link level x with
    | error f => simp [portableItems, hx, bind, Except.bind] at h
    | ok y =>
      cases hxs : portableItems link level xs with
      | error f => simp [portableItems, hx, hxs, bind, Except.bind] at h
      | ok rest =>
        obtain rfl : y :: rest = ys := by simpa [portableItems, hx, hxs, bind, Except.bind, pure, Except.pure] using h
        exact List.forall_mem_cons.2
          ⟨settled_of_portableIn link hlink x level y hx, settled_of_portableItems link hlink xs level rest hxs⟩

theorem fields_of_portableEntries (link : Nat → Writing) (hlink : ∀ i, Settles (link i)) :
    ∀ (es : Entries) (level : Nat) (found : Entries), portableEntries link level es = .ok found →
      ∃ fs : Fields, found = Fields.entries fs ∧ ∀ f ∈ fs, f.1.IsWhole ∧ Settled level f.2
  | [], _, found, h => by
    obtain rfl : [] = found := Except.ok.inj h
    exact ⟨[], rfl, by simp⟩
  | (k, v) :: es, level, found, h => by
    cases hk : portableKey k with
    | error f => simp [portableEntries, hk, bind, Except.bind] at h
    | ok name =>
      cases hv : portableIn link level v with
      | error f => simp [portableEntries, hk, hv, bind, Except.bind] at h
      | ok x =>
        cases hes : portableEntries link level es with
        | error f => simp [portableEntries, hk, hv, hes, bind, Except.bind] at h
        | ok rest =>
          obtain rfl : (.str name, x) :: rest = found := by
            simpa [portableEntries, hk, hv, hes, bind, Except.bind, pure, Except.pure] using h
          obtain ⟨fs, rfl, hfs⟩ := fields_of_portableEntries link hlink es level rest hes
          exact ⟨(name, x) :: fs, rfl, List.forall_mem_cons.2
            ⟨⟨isWhole_of_portableKey hk, settled_of_portableIn link hlink v level x hv⟩, hfs⟩⟩

theorem settles_portableCells : ∀ (cells : List Value), ∀ piece ∈ portableCells cells, ∀ link,
      (∀ i, Settles (link i)) → Settles (piece link)
  | [] => by simp [portableCells]
  | v :: vs => List.forall_mem_cons.2
    ⟨fun link hlink level x h => settled_of_portableIn link hlink v level x h, settles_portableCells vs⟩
end

theorem settled_of_portable {v x : Value} (h : v.portable = .ok x) : Settled 1 x :=
  settled_of_portableIn _ (fun _ _ _ hx => by simp at hx) v 1 x h

/-- A second turn changes nothing. -/
theorem portable_of_portable {v x : Value} (h : v.portable = .ok x) : x.portable = .ok x := settled_of_portable h _

end Value

/-! ## Fields -/

/-- Fields as JSON holds them: under whole names, no name twice, with values that stay. -/
structure Fields.IsPortable (fs : Fields) : Prop where
  nodup : (names fs).Nodup
  whole : ∀ f ∈ fs, f.1.IsWhole
  stays : ∀ f ∈ fs, f.2.portable = .ok f.2

namespace Fields

/-- What becomes of one field. -/
def portableField (f : Text × Value) : Except Unwritable (Value × Value) := do
  pure (.str f.1.lossy, ← f.2.portable)

theorem portable_eq (fs : Fields) :
    fs.portable = (fs.mapM portableField).map fun es => .map (Entries.ofList es) := by
  show (fs.mapM portableField >>= fun es => pure (Value.map (Entries.ofList es))) = _
  cases fs.mapM portableField <;> rfl

theorem exists_of_mapM {fs : Fields} {es : Entries} (h : fs.mapM portableField = .ok es) :
    ∃ ps : Fields, es = Fields.entries ps ∧ ∀ p ∈ ps, p.1.IsWhole ∧ p.2.portable = .ok p.2 := by
  induction fs generalizing es with
  | nil =>
    obtain rfl : [] = es := Except.ok.inj h
    exact ⟨[], rfl, by simp⟩
  | cons f fs ih =>
    cases hf : f.2.portable with
    | error g => simp [portableField, hf, bind, Except.bind] at h
    | ok x =>
      cases hfs : fs.mapM portableField with
      | error g => simp [portableField, hf, hfs, bind, Except.bind, pure, Except.pure] at h
      | ok rest =>
        obtain rfl : (.str f.1.lossy, x) :: rest = es := by
          simpa [portableField, hf, hfs, bind, Except.bind, pure, Except.pure] using h
        obtain ⟨ps, rfl, hps⟩ := ih hfs
        exact ⟨(f.1.lossy, x) :: ps, rfl,
          List.forall_mem_cons.2 ⟨⟨Text.isWhole_ofString _, Value.portable_of_portable hf⟩, hps⟩⟩

/-- What fields are written as is a mapping of fields that stay. -/
theorem exists_of_portable {fs : Fields} {v : Value} (h : fs.portable = .ok v) :
    ∃ ps : Fields, v = .map (Fields.entries ps) ∧ IsPortable ps := by
  rw [portable_eq] at h
  cases hes : fs.mapM portableField with
  | error g => simp [hes, Except.map] at h
  | ok es =>
    obtain ⟨ps, rfl, hps⟩ := exists_of_mapM hes
    obtain rfl : Value.map (Fields.entries (distinct ps)) = v := by
      simpa [hes, Except.map, ofList_entries] using h
    exact ⟨distinct ps, rfl, nodup_names_distinct ps, fun p hp => (hps p (mem_of_mem_distinct hp)).1,
      fun p hp => (hps p (mem_of_mem_distinct hp)).2⟩

theorem portable_of_isPortable {fs : Fields} (h : fs.IsPortable) : fs.portable = .ok (.map (Fields.entries fs)) := by
  have hall : ∀ ps : Fields, (∀ p ∈ ps, p.1.IsWhole ∧ p.2.portable = .ok p.2) →
      ps.mapM portableField = .ok (Fields.entries ps) := by
    intro ps hps
    induction ps with
    | nil => rfl
    | cons p ps ih =>
      obtain ⟨hname, hvalue⟩ := hps p (by simp)
      have hrest := ih fun q hq => hps q (by simp [hq])
      simp [portableField, Text.lossy_eq_self_iff.2 hname, hvalue, hrest, Fields.entries, bind, Except.bind, pure,
        Except.pure]
  rw [portable_eq, hall fs fun p hp => ⟨h.whole p hp, h.stays p hp⟩, Except.map, ofList_entries,
    distinct_of_nodup h.nodup]

end Fields

end Readiness
