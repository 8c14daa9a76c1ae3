import Mathlib.Algebra.GroupWithZero.Nat
import Mathlib.Algebra.Order.BigOperators.Group.List
import Mathlib.Algebra.Order.Group.Nat
import Telemetry.Frame.Basic
import Telemetry.Proofs.Schema.Layout
/-!
# Telemetry.Proofs.Frame.Selection

**Which fields a code calls for.** `MessageCode.selects` reads this off one field: a
periodic field is called for by the bit of its tier, a conditional one by the bit of its
event. `Schema.carried` computes the same fields as a list of indices, tier by tier and
then event by event. Of a canonical schema this list holds exactly the selected fields
(`mem_carried`), in strictly ascending order (`pairwise_carried`).
-/

namespace Telemetry

/-- Whether a frame with this code carries a field. -/
def MessageCode.selects (code : MessageCode) (f : Field) : Bool :=
  match f.tier.bit? with
  | some bit => code.bits.getLsbD bit
  | none => f.event.any code.hasEvent

namespace MessageCode

theorem selects_conditional {code : MessageCode} {f : Field} (ht : f.tier = .conditional) :
    code.selects f = true ↔ ∃ event, f.event = some event ∧ code.hasEvent event = true := by
  simp only [selects, ht, Tier.bit?]
  cases f.event <;> simp

theorem selects_periodic {code : MessageCode} {f : Field} (ht : f.tier ≠ .conditional) :
    code.selects f = code.hasTier f.tier := by
  cases htier : f.tier with
  | conditional => exact absurd htier ht
  | fast | medium | slow => simp [selects, hasTier, htier, Tier.bit?]

theorem hasTier_conditional_iff {code : MessageCode} :
    code.hasTier .conditional = true ↔ ∃ event, code.hasEvent event = true := by
  have hzero : ∀ event, (0 : BitVec 16).getLsbD event = false := fun _ => BitVec.getLsbD_zero
  rw [hasTier, Tier.bit?, bne_iff_ne]
  constructor
  · intro hne
    by_contra hnone
    refine hne (BitVec.eq_of_getLsbD_eq fun event _ => ?_)
    rw [code.getLsbD_events, hzero, Bool.eq_false_iff]
    exact fun hset => hnone ⟨event, hset⟩
  · rintro ⟨event, hset⟩ hnone
    rw [← code.getLsbD_events, hnone, hzero] at hset
    cases hset

/-- A code that calls for a field has something of its tier. -/
theorem hasTier_of_selects {code : MessageCode} {f : Field} (h : code.selects f = true) :
    code.hasTier f.tier = true := by
  by_cases ht : f.tier = .conditional
  · obtain ⟨event, -, hset⟩ := (selects_conditional ht).mp h
    rw [ht]
    exact hasTier_conditional_iff.mpr ⟨event, hset⟩
  · rw [← selects_periodic ht]
    exact h

theorem eq_empty {code : MessageCode} (h : code.isEmpty = true) : code = empty := by
  obtain ⟨bits⟩ := code
  exact congrArg mk (eq_of_beq h)

/-- The empty code calls for no field. -/
theorem selects_empty (f : Field) : empty.selects f = false := by
  have hbit : ∀ bit, (empty.bits.getLsbD bit) = false := fun bit => BitVec.getLsbD_zero
  unfold selects
  cases hb : f.tier.bit? with
  | some bit => exact hbit bit
  | none => cases f.event <;> simp [hasEvent, hbit]

/-- A code calls for whatever one with fewer bits calls for. -/
theorem selects_mono {code code' : MessageCode}
    (h : ∀ bit, code.bits.getLsbD bit = true → code'.bits.getLsbD bit = true) {f : Field}
    (hf : code.selects f = true) : code'.selects f = true := by
  unfold selects at hf ⊢
  cases hb : f.tier.bit? with
  | some bit =>
    simp only [hb] at hf ⊢
    exact h bit hf
  | none =>
    cases he : f.event with
    | none => simp [hb, he] at hf
    | some event =>
      simp only [hb, he, Option.any_some] at hf ⊢
      exact h (eventBit event) hf

/-- The code with all bits set calls for every field. -/
theorem selects_full {f : Field} (hf : f.Valid) : (ofBytes 255 255).selects f = true := by
  cases ht : f.tier with
  | fast | medium | slow =>
    rw [selects_periodic (by rw [ht]; decide), ht]
    decide
  | conditional =>
    obtain ⟨event, he⟩ := hf.exists_event ht
    have hevents : ∀ event < 13, (ofBytes 255 255).hasEvent event = true := by decide
    exact (selects_conditional ht).mpr
      ⟨event, he, hevents event (Nat.lt_succ_of_le (hf.event_le he))⟩

end MessageCode

namespace Schema

variable {s : Schema}

/-! ### The carried indices -/

theorem mem_carried_periodic (h : s.Canonical) {code : MessageCode} {i : Nat} :
    i ∈ ((Tier.periodic.filter code.hasTier).flatMap fun t => (s.span t).indices) ↔
      ∃ f, s.fields[i]? = some f ∧ f.tier ≠ .conditional ∧ code.hasTier f.tier = true := by
  have hperiodic : ∀ t : Tier, t ∈ Tier.periodic ↔ t ≠ .conditional := by
    intro t
    cases t <;> decide
  simp only [List.mem_flatMap, List.mem_filter, h.mem_span_indices, hperiodic]
  constructor
  · rintro ⟨t, ⟨ht, hset⟩, f, hf, rfl⟩
    exact ⟨f, hf, ht, hset⟩
  · rintro ⟨f, hf, ht, hset⟩
    exact ⟨f.tier, ⟨ht, hset⟩, f, hf, rfl⟩

theorem mem_carried_conditional (h : s.Canonical) {code : MessageCode} {i : Nat} :
    i ∈ ((List.range (maxEvent + 1)).filter code.hasEvent).filterMap s.conditionalIndex? ↔
      ∃ f event, s.fields[i]? = some f ∧ f.event = some event ∧
        code.hasEvent event = true := by
  simp only [List.mem_filterMap, List.mem_filter, List.mem_range, Nat.lt_succ_iff,
    h.conditionalIndex?_eq_some_iff]
  constructor
  · rintro ⟨event, ⟨-, hset⟩, f, hf, he⟩
    exact ⟨f, event, hf, he, hset⟩
  · rintro ⟨f, event, hf, he, hset⟩
    exact ⟨event, ⟨MessageCode.le_maxEvent_of_hasEvent hset, hset⟩, f, hf, he⟩

/-- A frame carries exactly the fields that its code selects. -/
theorem Canonical.mem_carried (h : s.Canonical) {code : MessageCode} {i : Nat} :
    i ∈ s.carried code ↔ ∃ f, s.fields[i]? = some f ∧ code.selects f = true := by
  unfold carried
  rw [List.mem_append, mem_carried_periodic h, mem_carried_conditional h]
  constructor
  · rintro (⟨f, hf, ht, hset⟩ | ⟨f, event, hf, he, hset⟩)
    · exact ⟨f, hf, by rw [MessageCode.selects_periodic ht]; exact hset⟩
    · have ht := (h.valid f (List.mem_of_getElem? hf)).tier_of_event he
      exact ⟨f, hf, (MessageCode.selects_conditional ht).mpr ⟨event, he, hset⟩⟩
  · rintro ⟨f, hf, hset⟩
    by_cases ht : f.tier = .conditional
    · obtain ⟨event, he, hevent⟩ := (MessageCode.selects_conditional ht).mp hset
      exact Or.inr ⟨f, event, hf, he, hevent⟩
    · rw [MessageCode.selects_periodic ht] at hset
      exact Or.inl ⟨f, hf, ht, hset⟩

theorem Canonical.getElem?_of_mem_carried (h : s.Canonical) {code : MessageCode} {i : Nat}
    (hi : i ∈ s.carried code) : ∃ f, s.fields[i]? = some f := by
  obtain ⟨f, hf, -⟩ := h.mem_carried.mp hi
  exact ⟨f, hf⟩

theorem Canonical.carried_lt_length (h : s.Canonical) {code : MessageCode} {i : Nat}
    (hi : i ∈ s.carried code) : i < s.fields.length := by
  obtain ⟨f, hf⟩ := h.getElem?_of_mem_carried hi
  exact (List.getElem?_eq_some_iff.mp hf).1

/-! ### Their order -/

/-- Frames go through the fields in schema order, each at most once. -/
theorem Canonical.pairwise_carried (h : s.Canonical) (code : MessageCode) :
    (s.carried code).Pairwise (· < ·) := by
  unfold carried
  rw [List.pairwise_append]
  refine ⟨?_, ?_, ?_⟩
  · rw [List.pairwise_flatMap]
    refine ⟨fun t _ => List.pairwise_lt_range', ?_⟩
    have hperiodic : Tier.periodic.Pairwise fun t u => t.index < u.index := by decide
    refine (hperiodic.filter _).imp fun {t u} htu i hi j hj => ?_
    obtain ⟨f, hf, rfl⟩ := h.mem_span_indices.mp hi
    obtain ⟨g, hg, rfl⟩ := h.mem_span_indices.mp hj
    exact h.lt_of_tier_lt hf hg htu
  · rw [List.pairwise_filterMap]
    refine (List.pairwise_lt_range.filter _).imp fun {e e'} hlt i hi j hj => ?_
    obtain ⟨f, hf, he⟩ := h.conditionalIndex?_eq_some_iff.mp hi
    obtain ⟨g, hg, he'⟩ := h.conditionalIndex?_eq_some_iff.mp hj
    exact h.lt_of_event_lt hf hg he he' hlt
  · intro i hi j hj
    obtain ⟨f, hf, ht, -⟩ := (mem_carried_periodic h).mp hi
    obtain ⟨g, event, hg, he, -⟩ := (mem_carried_conditional h).mp hj
    have hg' := (h.valid g (List.mem_of_getElem? hg)).tier_of_event he
    refine h.lt_of_tier_lt hf hg ?_
    rw [hg']
    cases htier : f.tier with
    | conditional => exact absurd htier ht
    | fast | medium | slow => decide

theorem Canonical.nodup_carried (h : s.Canonical) (code : MessageCode) :
    (s.carried code).Nodup :=
  (h.pairwise_carried code).imp fun hlt => Nat.ne_of_lt hlt

/-! ### Their sizes -/

theorem payloadSize_eq_sum (s : Schema) (l : List Nat) :
    s.payloadSize l = (l.map s.fieldSize).sum := by
  induction l with
  | nil => rfl
  | cons i rest ih => rw [payloadSize, ih, List.map_cons, List.sum_cons]

theorem totalSize_eq_sum (l : List Field) : totalSize l = (l.map Field.size).sum := by
  induction l with
  | nil => rfl
  | cons f rest ih => rw [totalSize, ih, List.map_cons, List.sum_cons]

theorem totalSize_perm {l m : List Field} (h : l.Perm m) : totalSize l = totalSize m := by
  rw [totalSize_eq_sum, totalSize_eq_sum]
  exact (h.map Field.size).sum_nat

theorem fieldSize_eq {i : Nat} {f : Field} (hf : s.fields[i]? = some f) :
    s.fieldSize i = f.size := by
  simp [fieldSize, hf]

theorem payloadSize_range (s : Schema) :
    s.payloadSize (List.range s.fields.length) = totalSize s.fields := by
  rw [payloadSize_eq_sum, totalSize_eq_sum]
  congr 1
  apply List.ext_getElem
  · simp
  · intro i hi _
    have hlt : i < s.fields.length := by simpa using hi
    simp [fieldSize, List.getElem?_eq_getElem hlt]

/-- Fewer fields take fewer bytes. -/
theorem payloadSize_le_of_subset {l m : List Nat} (hl : l.Nodup) (hlm : l ⊆ m) :
    s.payloadSize l ≤ s.payloadSize m := by
  obtain ⟨l', hperm, hsub⟩ := List.subperm_of_subset hl hlm
  rw [payloadSize_eq_sum, payloadSize_eq_sum, ← (hperm.map s.fieldSize).sum_nat]
  exact (hsub.map s.fieldSize).sum_le_sum (by simp)

/-- No code calls for a frame longer than the one that carries every field. -/
theorem Canonical.frameLen_le_maxFrameLen (h : s.Canonical) (code : MessageCode) :
    s.frameLen code ≤ s.maxFrameLen := by
  unfold frameLen maxFrameLen
  split
  · exact Nat.zero_le _
  · rw [← payloadSize_range]
    have hsub : s.carried code ⊆ List.range s.fields.length := fun i hi =>
      List.mem_range.mpr (h.carried_lt_length hi)
    exact Nat.add_le_add_left (payloadSize_le_of_subset (h.nodup_carried code) hsub) _

end Schema

end Telemetry
