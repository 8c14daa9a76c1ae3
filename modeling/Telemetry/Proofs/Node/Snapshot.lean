import Telemetry.Node.Snapshot
import Telemetry.Proofs.Frame.FieldOrder
import Telemetry.Proofs.Json.Members
import Telemetry.Proofs.Store.Encodable
/-!
# Telemetry.Proofs.Node.Snapshot

**A snapshot shows every field once**, and nothing else. `Schema.Shows` says so of a JSON value: it
is an object with one member for each tier, which is an object with one member for each field of
the tier. The names of fields differ, so none of them hides another.

The main statement is `Store.exists_snapshot`: a store without linked fields has a snapshot that
shows what the fields hold.
-/

namespace Telemetry

open Json (KeysDiffer insertAll)

/-- The value shows each field of the schema once, at its place and as `shown` says. -/
structure Schema.Shows (s : Schema) (shown : Field → Json → Prop) (snapshot : Json) : Prop where
  /-- There is one object for each tier, and no other. -/
  tiers : ∃ objects, snapshot = .object objects ∧
    (objects.map Prod.fst).Perm (Tier.all.map Tier.name)
  /-- The object of a tier has one entry for each field of the tier, under its name, and no
  other. -/
  names : ∀ t, ∃ entries, snapshot.member? t.name = some (.object entries) ∧
    (entries.map Prod.fst).Perm ((s.fieldsIn t).map Field.name)
  values : ∀ f ∈ s.fields, ∃ value,
    (snapshot.member? f.tier.name).bind (Json.member? f.name) = some value ∧ shown f value

theorem Schema.Shows.imp {s : Schema} {shown shown' : Field → Json → Prop} {snapshot : Json}
    (h : s.Shows shown snapshot) (himp : ∀ f ∈ s.fields, ∀ v, shown f v → shown' f v) :
    s.Shows shown' snapshot where
  tiers := h.tiers
  names := h.names
  values f hf := by
    obtain ⟨value, hvalue, hshown⟩ := h.values f hf
    exact ⟨value, hvalue, himp f hf value hshown⟩

namespace Store

variable {schema : Schema} {s : Store schema} {sources : Sources}

/-! ### One tier -/

/-- The member of the field at an index. -/
def IsMember (s : Store schema) (i : Nat) (m : String × Json) : Prop :=
  ∃ f r, schema.fields[i]? = some f ∧ s.slots[i]? = some (.owned r) ∧ m = (f.name, r.toJson)

theorem Unlinked.exists_owned (h : s.Unlinked) {i : Nat} {f : Field}
    (hf : schema.fields[i]? = some f) : ∃ r, s.slots[i]? = some (.owned r) := by
  obtain ⟨slot, hslot⟩ := s.exists_slot hf
  cases slot with
  | owned r => exact ⟨r, hslot⟩
  | linked source => exact absurd hslot (h i source)

theorem exists_members (h : s.Unlinked) (sources : Sources) {l : List Nat}
    (hl : schema.InRange l) :
    ∃ ms, s.members sources l = .ok ms ∧ List.Forall₂ s.IsMember l ms := by
  induction l with
  | nil => exact ⟨[], rfl, .nil⟩
  | cons i rest ih =>
    obtain ⟨f, hf⟩ := hl i List.mem_cons_self
    obtain ⟨r, hr⟩ := h.exists_owned hf
    obtain ⟨ms, hms, hall⟩ := ih hl.tail
    have hget : s.get sources i = .ok r := by rw [get, hr]; rfl
    refine ⟨(f.name, r.toJson) :: ms, ?_, .cons ⟨f, r, hf, hr, rfl⟩ hall⟩
    rw [members, hf, hget, hms]

theorem map_fst_of_isMember {l : List Nat} {ms : List (String × Json)}
    (h : List.Forall₂ s.IsMember l ms) :
    ms.map Prod.fst = (l.filterMap fun i => schema.fields[i]?).map Field.name := by
  induction h with
  | nil => rfl
  | cons hm _ ih =>
    obtain ⟨f, r, hf, -, rfl⟩ := hm
    rw [List.map_cons, ih, List.filterMap_cons_some hf, List.map_cons]

/-- The object of a tier has one entry for each of its fields, with what the field holds. -/
structure IsTierObject (s : Store schema) (t : Tier) (entries : List (String × Json)) : Prop where
  names : (entries.map Prod.fst).Perm ((schema.fieldsIn t).map Field.name)
  values : ∀ (i : Nat) (f : Field), schema.fields[i]? = some f → f.tier = t →
    ∃ r, s.slots[i]? = some (.owned r) ∧ entries.lookup f.name = some r.toJson

theorem exists_tierObject (hs : schema.Canonical) (h : s.Unlinked) (sources : Sources) (t : Tier) :
    ∃ ms, s.members sources (schema.span t).indices = .ok ms ∧
      s.IsTierObject t (sortMembers ms) := by
  have hrange : schema.InRange (schema.span t).indices := by
    intro i hi
    obtain ⟨f, hf, -⟩ := hs.mem_span_indices.mp hi
    exact ⟨f, hf⟩
  obtain ⟨ms, hms, hall⟩ := exists_members h sources hrange
  have hnames : ms.map Prod.fst = (schema.fieldsIn t).map Field.name := by
    rw [map_fst_of_isMember hall, hs.filterMap_span]
  have hdiffer : KeysDiffer ms := by
    rw [KeysDiffer, hnames]
    exact hs.names_differ.sublist (List.filter_sublist.map Field.name)
  have hperm : (sortMembers ms).Perm ms := Json.insertAll_nil_perm hdiffer
  refine ⟨ms, hms, ⟨hnames ▸ hperm.map Prod.fst, fun i f hf ht => ?_⟩⟩
  have hi : i ∈ (schema.span t).indices := hs.mem_span_indices.mpr ⟨f, hf, ht⟩
  obtain ⟨m, hm, g, r, hg, hr, rfl⟩ := Schema.exists_of_forall₂ hall hi
  obtain rfl : f = g := Option.some.inj (hf.symm.trans hg)
  refine ⟨r, hr, (Json.lookup_eq_some_iff_mem (hdiffer.of_perm hperm)).mpr ?_⟩
  exact hperm.mem_iff.mpr hm

/-! ### All tiers -/

theorem exists_tierObjects (hs : schema.Canonical) (h : s.Unlinked) (sources : Sources)
    (ts : List Tier) : ∃ objects, s.tierObjects sources ts = .ok objects ∧
      objects.map Prod.fst = ts.map Tier.name ∧
      ∀ t ∈ ts, ∃ entries, (t.name, Json.object entries) ∈ objects ∧ s.IsTierObject t entries := by
  induction ts with
  | nil => exact ⟨[], rfl, rfl, by simp⟩
  | cons t rest ih =>
    obtain ⟨ms, hms, hobject⟩ := exists_tierObject hs h sources t
    obtain ⟨objects, hobjects, hnames, hall⟩ := ih
    refine ⟨(t.name, .object (sortMembers ms)) :: objects, ?_, ?_, ?_⟩
    · rw [tierObjects, hms]
      dsimp only
      rw [hobjects]
      rfl
    · rw [List.map_cons, hnames, List.map_cons]
    · rintro u hu
      rcases List.mem_cons.mp hu with rfl | hu
      · exact ⟨_, List.mem_cons_self, hobject⟩
      · obtain ⟨entries, hmem, hobject'⟩ := hall u hu
        exact ⟨entries, List.mem_cons_of_mem _ hmem, hobject'⟩

/-- The value is what the field holds. -/
def HoldsValue (s : Store schema) (f : Field) (value : Json) : Prop :=
  ∃ (i : Nat) (r : Reading), schema.fields[i]? = some f ∧ s.slots[i]? = some (.owned r) ∧
    value = r.toJson

/-- **A store without linked fields has a snapshot**, which shows what each field holds. -/
theorem exists_snapshot (hs : schema.Canonical) (h : s.Unlinked) (sources : Sources) :
    ∃ snapshot, s.snapshot sources = .ok snapshot ∧ schema.Shows s.HoldsValue snapshot := by
  obtain ⟨objects, hobjects, hnames, hall⟩ := exists_tierObjects hs h sources Tier.all
  have hdiffer : KeysDiffer objects := by
    rw [KeysDiffer, hnames]
    decide
  have hperm : (sortMembers objects).Perm objects := Json.insertAll_nil_perm hdiffer
  have hlookup : ∀ t, ∃ entries, (sortMembers objects).lookup t.name = some (.object entries) ∧
      s.IsTierObject t entries := by
    intro t
    obtain ⟨entries, hmem, hobject⟩ := hall t t.mem_all
    refine ⟨entries, (Json.lookup_eq_some_iff_mem (hdiffer.of_perm hperm)).mpr ?_, hobject⟩
    exact hperm.mem_iff.mpr hmem
  refine ⟨.object (sortMembers objects), by rw [snapshot, hobjects]; rfl, ?_⟩
  exact {
    tiers := ⟨_, rfl, hnames ▸ hperm.map Prod.fst⟩
    names := fun t => by
      obtain ⟨entries, hentries, hobject⟩ := hlookup t
      exact ⟨entries, hentries, hobject.names⟩
    values := fun f hf => by
      obtain ⟨entries, hentries, hobject⟩ := hlookup f.tier
      obtain ⟨i, hi⟩ := List.mem_iff_getElem?.mp hf
      obtain ⟨r, hr, hvalue⟩ := hobject.values i f hi rfl
      refine ⟨r.toJson, ?_, i, r, hi, hr, rfl⟩
      show ((sortMembers objects).lookup f.tier.name).bind (Json.member? f.name) = _
      rw [hentries]
      exact hvalue }

end Store

end Telemetry
