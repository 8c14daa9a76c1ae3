import Mathlib.Data.List.Nodup
import Telemetry.Proofs.Frame.Acceptance
import Telemetry.Proofs.Schema.Building
/-!
# Telemetry.Proofs.Frame.FieldOrder

**The fields of a frame, in the order of their bytes.** Writing and reading walk a list of indices,
which is put together from the spans of the tiers and a look-up for each event. Here the same
fields are read off the schema without an index: `Schema.frameFields` takes each tier that the code
has, and then what is bound to each of its events. The two lists go side by side
(`Canonical.forall₂_carried`).

Each field of the list is there once, and it is there if the code selects it. So the length of a
frame can be counted tier by tier and event by event (`Canonical.payloadSize_carried`).
-/

namespace Telemetry

namespace Schema

/-- The fields that are bound to an event. In a built schema there is one at most. -/
def boundTo (s : Schema) (event : Nat) : List Field :=
  s.fields.filter fun f => f.event = some event

/-- The fields of a frame with this code: fast, medium and slow ones as far as the code has their
tier, and then those that are bound to its events, by ascending event. -/
def frameFields (s : Schema) (code : MessageCode) : List Field :=
  (Tier.periodic.filter code.hasTier).flatMap s.fieldsIn ++
    ((List.range (maxEvent + 1)).filter code.hasEvent).flatMap s.boundTo

variable {s : Schema}

/-! ### Events -/

/-- If events ascend along some fields, the first field with an event is the only one. -/
theorem filter_event_eq_find? {fields : List Field}
    (h : (fields.filterMap Field.event).Pairwise (· < ·)) (event : Nat) :
    fields.filter (fun f => f.event = some event) =
      (fields.find? fun f => f.event = some event).toList := by
  induction fields with
  | nil => rfl
  | cons f rest ih =>
    by_cases he : f.event = some event
    · rw [List.filterMap_cons_some he] at h
      have hnone : rest.filter (fun g => g.event = some event) = [] := by
        rw [List.filter_eq_nil_iff]
        intro g hg
        rw [decide_eq_true_iff]
        intro hge
        have hlt := List.rel_of_pairwise_cons h (List.mem_filterMap.mpr ⟨g, hg, hge⟩)
        exact Nat.lt_irrefl event hlt
      simp [he, hnone]
    · have hrest : (rest.filterMap Field.event).Pairwise (· < ·) :=
        h.sublist (List.Sublist.filterMap _ (List.sublist_cons_self f rest))
      simp [he, ih hrest]

/-- The look-up of an event leads to the field that is bound to it. -/
theorem Canonical.boundTo_eq (h : s.Canonical) (event : Nat) :
    s.boundTo event = ((s.conditionalIndex? event).bind fun i => s.fields[i]?).toList := by
  rw [boundTo, filter_event_eq_find? h.events_ascend]
  congr 1
  cases hfind : s.fields.find? fun f => f.event = some event with
  | none =>
    cases hi : s.conditionalIndex? event with
    | none => rfl
    | some i =>
      obtain ⟨f, hf, he⟩ := h.conditionalIndex?_eq_some_iff.mp hi
      have hne := List.find?_eq_none.mp hfind f (List.mem_of_getElem? hf)
      exact absurd (decide_eq_true he) hne
  | some f =>
    have he : f.event = some event := by simpa using List.find?_some hfind
    obtain ⟨i, hi⟩ := List.getElem?_of_mem (List.mem_of_find?_eq_some hfind)
    rw [h.conditionalIndex?_eq_some_iff.mpr ⟨f, hi, he⟩, Option.bind_some, hi]

/-! ### Indices and fields side by side -/

theorem Canonical.filterMap_carried (h : s.Canonical) (code : MessageCode) :
    ((s.carried code).filterMap fun i => s.fields[i]?) = s.frameFields code := by
  unfold carried frameFields
  rw [List.filterMap_append, List.filterMap_flatMap]
  simp only [h.filterMap_span]
  rw [List.filterMap_filterMap, List.filterMap_eq_flatMap_toList]
  simp only [← h.boundTo_eq]

theorem InRange.forall₂_filterMap {l : List Nat} (h : s.InRange l) :
    List.Forall₂ (fun i f => s.fields[i]? = some f) l (l.filterMap fun i => s.fields[i]?) := by
  induction l with
  | nil => exact .nil
  | cons i rest ih =>
    obtain ⟨f, hf⟩ := h i List.mem_cons_self
    rw [List.filterMap_cons_some hf]
    exact .cons hf (ih h.tail)

/-- **The indices that a frame goes through are those of its fields**, one by one. -/
theorem Canonical.forall₂_carried (h : s.Canonical) (code : MessageCode) :
    List.Forall₂ (fun i f => s.fields[i]? = some f) (s.carried code) (s.frameFields code) := by
  rw [← h.filterMap_carried]
  exact (h.inRange_carried code).forall₂_filterMap

/-- Of two lists side by side, each member of the one has a member of the other beside it. -/
theorem exists_of_forall₂ {α β : Type} {R : α → β → Prop} {l : List α} {m : List β}
    (h : List.Forall₂ R l m) {a : α} (ha : a ∈ l) : ∃ b ∈ m, R a b := by
  induction h with
  | nil => cases ha
  | @cons a' b l m hab _ ih =>
    rcases List.mem_cons.mp ha with rfl | ha
    · exact ⟨b, List.mem_cons_self, hab⟩
    · obtain ⟨b', hb', hab'⟩ := ih ha
      exact ⟨b', List.mem_cons_of_mem b hb', hab'⟩

theorem payloadSize_eq_totalSize {l : List Nat} {fields : List Field}
    (h : List.Forall₂ (fun i f => s.fields[i]? = some f) l fields) :
    s.payloadSize l = totalSize fields := by
  induction h with
  | nil => rfl
  | cons hf _ ih => rw [payloadSize_cons hf, totalSize, ih]

/-! ### As a collection -/

theorem Canonical.mem_frameFields (h : s.Canonical) {code : MessageCode} {f : Field} :
    f ∈ s.frameFields code ↔ f ∈ s.fields ∧ code.selects f = true := by
  rw [← h.filterMap_carried, List.mem_filterMap]
  constructor
  · rintro ⟨i, hi, hf⟩
    obtain ⟨g, hg, hselects⟩ := h.mem_carried.mp hi
    obtain rfl : f = g := Option.some.inj (hf.symm.trans hg)
    exact ⟨List.mem_of_getElem? hf, hselects⟩
  · rintro ⟨hf, hselects⟩
    obtain ⟨i, hi⟩ := List.getElem?_of_mem hf
    exact ⟨i, h.mem_carried.mpr ⟨f, hi, hselects⟩, hi⟩

theorem Canonical.nodup_fields (h : s.Canonical) : s.fields.Nodup := List.Nodup.of_map _ h.names_differ

theorem Canonical.nodup_frameFields (h : s.Canonical) (code : MessageCode) :
    (s.frameFields code).Nodup := by
  rw [← h.filterMap_carried]
  refine List.Nodup.filterMap ?_ (h.nodup_carried code)
  intro i j f hi hj
  have hlt : i < s.fields.length := (List.getElem?_eq_some_iff.mp hi).1
  exact (List.getElem?_inj hlt h.nodup_fields).mp (hi.trans hj.symm)

/-- **Events and conditional fields match.** To go through the events of a code is to go through
the conditional fields whose event it has. An event without a field adds nothing. -/
theorem Canonical.flatMap_boundTo_perm (h : s.Canonical) (code : MessageCode) :
    (((List.range (maxEvent + 1)).filter code.hasEvent).flatMap s.boundTo).Perm
      ((s.fieldsIn .conditional).filter fun f => f.event.any code.hasEvent) := by
  have hnodup : (((List.range (maxEvent + 1)).filter code.hasEvent).flatMap s.boundTo).Nodup :=
    (h.nodup_frameFields code).sublist (List.sublist_append_right _ _)
  have hnodup' : ((s.fieldsIn .conditional).filter fun f => f.event.any code.hasEvent).Nodup :=
    (h.nodup_fields.filter _).filter _
  rw [List.perm_ext_iff_of_nodup hnodup hnodup']
  intro f
  simp only [List.mem_flatMap, List.mem_filter, List.mem_range, boundTo, fieldsIn,
    decide_eq_true_eq, Option.any_eq_true]
  constructor
  · rintro ⟨event, ⟨-, hset⟩, hf, he⟩
    exact ⟨⟨hf, (h.valid f hf).tier_of_event he⟩, event, he, hset⟩
  · rintro ⟨⟨hf, -⟩, event, he, hset⟩
    have hle := MessageCode.le_maxEvent_of_hasEvent hset
    exact ⟨event, ⟨Nat.lt_succ_of_le hle, hset⟩, hf, he⟩

/-! ### Sizes -/

theorem totalSize_flatMap {α : Type} (l : List α) (g : α → List Field) :
    totalSize (l.flatMap g) = (l.map fun a => totalSize (g a)).sum := by
  induction l with
  | nil => rfl
  | cons a rest ih => rw [List.flatMap_cons, totalSize_append, ih, List.map_cons, List.sum_cons]

/-- A payload has room for each periodic tier of the code, and for each conditional field whose
event it has. -/
theorem Canonical.payloadSize_carried (h : s.Canonical) (code : MessageCode) :
    s.payloadSize (s.carried code) =
      ((Tier.periodic.filter code.hasTier).map s.tierSize).sum +
        totalSize ((s.fieldsIn .conditional).filter fun f => f.event.any code.hasEvent) := by
  rw [payloadSize_eq_totalSize (h.forall₂_carried code), frameFields, totalSize_append,
    totalSize_flatMap, totalSize_perm (h.flatMap_boundTo_perm code)]
  rfl

end Schema

end Telemetry
