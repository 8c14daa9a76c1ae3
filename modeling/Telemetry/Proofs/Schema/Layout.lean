import Mathlib.Data.List.Basic
import Telemetry.Schema.Builder
/-!
# Telemetry.Proofs.Schema.Layout

**What a built schema guarantees.** `Schema.Canonical` gathers the facts that `build`
establishes and that everything about frames rests on: the tiers stand in priority
order, events stand on conditional fields only and ascend along them, names differ, and
quantized kinds have a usable scale.

From these follow the two ways in which a frame finds its fields: a span holds the
indices of its tier (`mem_span_indices`) and an event leads to the one field that is
bound to it (`conditionalIndex?_eq_some_iff`).
-/

namespace Telemetry

/-! ### One declaration -/

/-- The field has an event exactly if it is conditional, and one that fits the message
code. -/
def Field.EventFits (f : Field) : Prop :=
  match f.event with
  | some event => f.tier = .conditional ∧ event ≤ maxEvent
  | none => f.tier ≠ .conditional

/-- A quantized kind has a usable scale and bias. -/
def FieldKind.IsUsable : FieldKind → Prop
  | .quantized _ scale bias => IsUsableScale scale bias
  | _ => True

/-- What is asked of a declaration on its own. -/
structure Field.Valid (f : Field) : Prop where
  named : f.name ≠ ""
  usable : f.kind.IsUsable
  event_fits : f.EventFits

theorem Field.Valid.event_le {f : Field} {event : Nat} (h : f.Valid)
    (he : f.event = some event) : event ≤ maxEvent := by
  have hfits := h.event_fits
  rw [EventFits, he] at hfits
  exact hfits.2

theorem Field.Valid.tier_of_event {f : Field} {event : Nat} (h : f.Valid)
    (he : f.event = some event) : f.tier = .conditional := by
  have hfits := h.event_fits
  rw [EventFits, he] at hfits
  exact hfits.1

theorem Field.Valid.exists_event {f : Field} (h : f.Valid) (ht : f.tier = .conditional) :
    ∃ event, f.event = some event := by
  have hfits := h.event_fits
  rw [EventFits] at hfits
  cases he : f.event with
  | some event => exact ⟨event, rfl⟩
  | none =>
    rw [he] at hfits
    exact absurd ht hfits

theorem Field.Valid.event_eq_none {f : Field} (h : f.Valid) (ht : f.tier ≠ .conditional) :
    f.event = none := by
  cases he : f.event with
  | none => rfl
  | some event => exact absurd (h.tier_of_event he) ht

namespace Schema

/-! ### The checks of `build` -/

theorem checkKind_eq_ok {f : Field} (h : checkKind f = .ok ()) : f.kind.IsUsable := by
  unfold checkKind at h
  cases hk : f.kind with
  | unsigned w | signed w | single | double => trivial
  | quantized raw scale bias =>
    simp only [hk] at h
    by_cases hs : IsUsableScale scale bias
    · exact hs
    · rw [if_neg hs] at h
      exact absurd h (by simp)

/-- An accepted event fits its field, comes after the events before it, and is the one
that the next must come after. -/
theorem checkEvent_eq_ok {previous next : Option Nat} {f : Field}
    (h : checkEvent previous f = .ok next) :
    f.EventFits ∧ (∀ event ∈ f.event, ∀ before ∈ previous, before < event) ∧
      next = f.event.or previous := by
  unfold checkEvent at h
  unfold Field.EventFits
  by_cases ht : f.tier = .conditional
  · rw [if_pos ht] at h
    cases he : f.event with
    | none => simp [he] at h
    | some event =>
      simp only [he] at h
      by_cases hmax : maxEvent < event
      · rw [if_pos hmax] at h
        exact absurd h (by simp)
      · rw [if_neg hmax] at h
        refine ⟨⟨ht, Nat.not_lt.mp hmax⟩, ?_⟩
        cases previous with
        | none => simpa using h.symm
        | some before =>
          by_cases hle : event ≤ before
          · simp [hle] at h
          · simp only [hle, if_false, Except.ok.injEq] at h
            simp [← h, Nat.not_le.mp hle]
  · rw [if_neg ht] at h
    cases he : f.event with
    | none => simpa [he, ht] using h.symm
    | some event => simp [he] at h

theorem checkField_eq_ok {previous next : Option Nat} {f : Field}
    (h : checkField previous f = .ok next) :
    f.Valid ∧ (∀ event ∈ f.event, ∀ before ∈ previous, before < event) ∧
      next = f.event.or previous := by
  unfold checkField at h
  by_cases hn : f.name = ""
  · rw [if_pos hn] at h
    exact absurd h (by simp)
  · rw [if_neg hn] at h
    cases hk : checkKind f with
    | error e => simp [hk] at h
    | ok u =>
      simp only [hk] at h
      obtain ⟨hfits, hafter, hnext⟩ := checkEvent_eq_ok h
      exact ⟨⟨hn, checkKind_eq_ok hk, hfits⟩, hafter, hnext⟩

/-- Accepted declarations are valid one by one and their events ascend. -/
theorem checkFields_eq_ok {previous : Option Nat} {declared : List Field}
    (h : checkFields previous declared = .ok ()) :
    (∀ f ∈ declared, f.Valid) ∧ (declared.filterMap Field.event).Pairwise (· < ·) ∧
      ∀ event ∈ declared.filterMap Field.event, ∀ before ∈ previous, before < event := by
  induction declared generalizing previous with
  | nil => simp
  | cons f rest ih =>
    rw [checkFields] at h
    cases hf : checkField previous f with
    | error e => simp [hf] at h
    | ok next =>
      simp only [hf] at h
      obtain ⟨hvalid, hafter, rfl⟩ := checkField_eq_ok hf
      obtain ⟨hrest, hsorted, hlow⟩ := ih h
      refine ⟨List.forall_mem_cons.mpr ⟨hvalid, hrest⟩, ?_⟩
      -- the event that the rest must come after is that of `f`, or else the one before it
      cases he : f.event with
      | none =>
        rw [List.filterMap_cons_none he]
        exact ⟨hsorted, by simpa [he] using hlow⟩
      | some event =>
        rw [List.filterMap_cons_some he]
        have hgt : ∀ e ∈ rest.filterMap Field.event, event < e := by simpa [he] using hlow
        refine ⟨List.pairwise_cons.mpr ⟨hgt, hsorted⟩, ?_⟩
        have hfirst : ∀ before ∈ previous, before < event := hafter event he
        rintro e hmem before hb
        rcases List.mem_cons.mp hmem with rfl | hmem
        · exact hfirst before hb
        · exact Nat.lt_trans (hfirst before hb) (hgt e hmem)

/-! ### Priority order -/

/-- Reordering by tier keeps the sequence of events, since only one tier has any. -/
theorem filterMap_event_inPriorityOrder {declared : List Field}
    (h : ∀ f ∈ declared, f.Valid) :
    (inPriorityOrder declared).filterMap Field.event = declared.filterMap Field.event := by
  have hperiodic : ∀ t, t ≠ Tier.conditional →
      (declared.filter fun f => f.tier = t).filterMap Field.event = [] := by
    intro t ht
    rw [List.filterMap_eq_nil_iff]
    intro f hf
    simp only [List.mem_filter, decide_eq_true_eq] at hf
    exact (h f hf.1).event_eq_none (hf.2 ▸ ht)
  have hconditional : (declared.filter fun f => f.tier = .conditional).filterMap Field.event =
      declared.filterMap Field.event := by
    rw [List.filterMap_filter]
    apply List.filterMap_congr
    intro f hf
    by_cases ht : f.tier = .conditional
    · simp [ht]
    · simp [ht, (h f hf).event_eq_none ht]
  rw [inPriorityOrder_eq, List.filterMap_flatMap]
  simp only [Tier.all, List.flatMap_cons, List.flatMap_nil, hperiodic .fast (by decide),
    hperiodic .medium (by decide), hperiodic .slow (by decide), hconditional, List.nil_append,
    List.append_nil]

/-! ### The layout of a built schema -/

/-- The facts about its list of fields that a built schema guarantees. -/
structure Canonical (s : Schema) : Prop where
  /-- No field stands before one of higher priority. -/
  tiers_ascend : s.fields.Pairwise fun f g => f.tier.index ≤ g.tier.index
  /-- Each event stands on one field, and the fields stand in the order of their events. -/
  events_ascend : (s.fields.filterMap Field.event).Pairwise (· < ·)
  valid : ∀ f ∈ s.fields, f.Valid
  names_differ : (s.fields.map Field.name).Nodup

/-- A schema is built only after every check has passed, and it is the declarations in
priority order. -/
theorem build_inv {limits : SchemaLimits} {name : String} {declared : List Field} {s : Schema}
    (h : build limits name declared = .ok s) :
    declared.length ≤ limits.maxFields ∧ checkFields none declared = .ok () ∧
      repeatedName? [] (inPriorityOrder declared) = none ∧
      s.maxFrameLen ≤ limits.maxFrameSize ∧ s = ⟨name, inPriorityOrder declared⟩ := by
  unfold build at h
  split at h
  · exact absurd h (by simp)
  rename_i hcount
  cases hc : checkFields none declared with
  | error e => simp [hc] at h
  | ok u =>
    simp only [hc] at h
    cases hr : repeatedName? [] (inPriorityOrder declared) with
    | some repeated => simp [hr] at h
    | none =>
      simp only [hr] at h
      split at h
      · exact absurd h (by simp)
      · rename_i hshort
        obtain rfl := Except.ok.inj h
        exact ⟨Nat.not_lt.mp hcount, rfl, rfl, Nat.not_lt.mp hshort, rfl⟩

/-- Whatever is declared, a schema that `build` answers is canonical. -/
theorem build_eq_ok {limits : SchemaLimits} {name : String} {declared : List Field}
    {s : Schema} (h : build limits name declared = .ok s) : s.Canonical := by
  obtain ⟨-, hchecked, hdiffer, -, rfl⟩ := build_inv h
  obtain ⟨hvalid, hevents, -⟩ := checkFields_eq_ok hchecked
  exact {
    tiers_ascend := pairwise_inPriorityOrder declared
    events_ascend := by
      rw [filterMap_event_inPriorityOrder hvalid]
      exact hevents
    valid := fun f hf => hvalid f (mem_inPriorityOrder.mp hf)
    names_differ := (repeatedName?_eq_none_iff.mp hdiffer).1 }

/-! ### Spans -/

/-- If `p` holds of a prefix only, the indices below its count are those where it holds. -/
theorem lt_countP_iff {α : Type} {p : α → Bool} {l : List α}
    (h : l.Pairwise fun a b => p b = true → p a = true) {i : Nat} :
    i < l.countP p ↔ ∃ a, l[i]? = some a ∧ p a = true := by
  induction l generalizing i with
  | nil => simp
  | cons a rest ih =>
    obtain ⟨hhead, htail⟩ := List.pairwise_cons.mp h
    by_cases hp : p a = true
    · rw [List.countP_cons_of_pos hp]
      cases i with
      | zero => simp [hp]
      | succ i => simpa using ih htail
    · have hnone : ∀ b ∈ rest, ¬ p b = true := fun b hb hpb => hp (hhead b hb hpb)
      have hzero : rest.countP p = 0 := List.countP_eq_zero.mpr hnone
      rw [List.countP_cons_of_neg hp, hzero]
      constructor
      · intro hi
        exact absurd hi (Nat.not_lt_zero i)
      · rintro ⟨b, hb, hpb⟩
        rcases List.mem_cons.mp (List.mem_of_getElem? hb) with rfl | hmem
        · exact absurd hpb hp
        · exact absurd hpb (hnone b hmem)

namespace Canonical

variable {s : Schema}

theorem lt_countP_tier_iff (h : s.Canonical) {i n : Nat} :
    i < (s.fields.countP fun f => f.tier.index < n) ↔
      ∃ f, s.fields[i]? = some f ∧ f.tier.index < n := by
  have hprefix : s.fields.Pairwise fun f g =>
      decide (g.tier.index < n) = true → decide (f.tier.index < n) = true := by
    refine h.tiers_ascend.imp fun {f g} hfg hg => ?_
    exact decide_eq_true (Nat.lt_of_le_of_lt hfg (of_decide_eq_true hg))
  simpa using lt_countP_iff hprefix (i := i)

/-- The span of a tier holds the indices of its fields. -/
theorem mem_span_indices (h : s.Canonical) {t : Tier} {i : Nat} :
    i ∈ (s.span t).indices ↔ ∃ f, s.fields[i]? = some f ∧ f.tier = t := by
  have hstart := h.lt_countP_tier_iff (i := i) (n := t.index)
  have hstop := h.lt_countP_tier_iff (i := i) (n := t.index + 1)
  simp only [Nat.lt_succ_iff] at hstop
  rw [Span.mem_indices, span, ← Nat.not_lt, hstart, hstop]
  constructor
  · rintro ⟨hnot, f, hf, hle⟩
    have hge : t.index ≤ f.tier.index := Nat.not_lt.mp fun hlt => hnot ⟨f, hf, hlt⟩
    exact ⟨f, hf, Tier.index_inj.mp (Nat.le_antisymm hle hge)⟩
  · rintro ⟨f, hf, rfl⟩
    refine ⟨?_, f, hf, Nat.le_refl _⟩
    rintro ⟨g, hg, hlt⟩
    obtain rfl : f = g := Option.some.inj (hf.symm.trans hg)
    exact Nat.lt_irrefl _ hlt

/-- Fields of higher priority have the smaller indices. -/
theorem lt_of_tier_lt (h : s.Canonical) {i j : Nat} {f g : Field} (hf : s.fields[i]? = some f)
    (hg : s.fields[j]? = some g) (hlt : f.tier.index < g.tier.index) : i < j := by
  have hi : i < s.fields.countP fun f => f.tier.index < g.tier.index :=
    h.lt_countP_tier_iff.mpr ⟨f, hf, hlt⟩
  have hj : ¬ j < s.fields.countP fun f => f.tier.index < g.tier.index := by
    rw [h.lt_countP_tier_iff]
    rintro ⟨g', hg', hlt'⟩
    obtain rfl : g = g' := Option.some.inj (hg.symm.trans hg')
    exact Nat.lt_irrefl _ hlt'
  omega

/-! ### Events -/

theorem event_lt (h : s.Canonical) {i j : Nat} {f g : Field} {e e' : Nat}
    (hf : s.fields[i]? = some f) (hg : s.fields[j]? = some g) (he : f.event = some e)
    (he' : g.event = some e') (hij : i < j) : e < e' := by
  obtain ⟨hi, rfl⟩ := List.getElem?_eq_some_iff.mp hf
  obtain ⟨hj, rfl⟩ := List.getElem?_eq_some_iff.mp hg
  have hpair := List.pairwise_filterMap.mp h.events_ascend
  exact List.pairwise_iff_getElem.mp hpair i j hi hj hij e he e' he'

/-- The later of two events stands on the later field. -/
theorem lt_of_event_lt (h : s.Canonical) {i j : Nat} {f g : Field} {e e' : Nat}
    (hf : s.fields[i]? = some f) (hg : s.fields[j]? = some g) (he : f.event = some e)
    (he' : g.event = some e') (hlt : e < e') : i < j := by
  rcases Nat.lt_trichotomy i j with hij | rfl | hji
  · exact hij
  · obtain rfl : f = g := Option.some.inj (hf.symm.trans hg)
    obtain rfl : e = e' := Option.some.inj (he.symm.trans he')
    exact absurd hlt (Nat.lt_irrefl e)
  · exact absurd (h.event_lt hg hf he' he hji) (Nat.lt_asymm hlt)

/-- An event leads to the one field that is bound to it. -/
theorem conditionalIndex?_eq_some_iff (h : s.Canonical) {event i : Nat} :
    s.conditionalIndex? event = some i ↔ ∃ f, s.fields[i]? = some f ∧ f.event = some event := by
  let bound : Nat → Bool := fun j => s.fields[j]?.bind Field.event == some event
  have hbound : ∀ j, bound j = true ↔ ∃ f, s.fields[j]? = some f ∧ f.event = some event := by
    intro j
    rw [beq_iff_eq, Option.bind_eq_some_iff]
  unfold conditionalIndex?
  constructor
  · intro hfind
    exact (hbound i).mp (List.find?_some (p := bound) hfind)
  · rintro ⟨f, hf, he⟩
    have htier : f.tier = .conditional :=
      (h.valid f (List.mem_of_getElem? hf)).tier_of_event he
    have hmem : i ∈ (s.span .conditional).indices := h.mem_span_indices.mpr ⟨f, hf, htier⟩
    cases hfind : (s.span .conditional).indices.find? bound with
    | none => exact absurd ((hbound i).mpr ⟨f, hf, he⟩) (List.find?_eq_none.mp hfind i hmem)
    | some j =>
      -- whichever index is found first carries the same event, so it is this one
      obtain ⟨g, hg, he'⟩ := (hbound j).mp (List.find?_some hfind)
      rcases Nat.lt_trichotomy i j with hij | rfl | hji
      · exact absurd (h.event_lt hf hg he he' hij) (Nat.lt_irrefl event)
      · rfl
      · exact absurd (h.event_lt hg hf he' he hji) (Nat.lt_irrefl event)

/-! ### Names -/

theorem indexOf?_eq_some_iff (h : s.Canonical) {name : String} {i : Nat} :
    s.indexOf? name = some i ↔ ∃ f, s.fields[i]? = some f ∧ f.name = name := by
  unfold indexOf?
  rw [List.findIdx?_eq_some_iff_getElem]
  constructor
  · rintro ⟨hi, hname, -⟩
    exact ⟨s.fields[i], List.getElem?_eq_getElem hi, by simpa using hname⟩
  · rintro ⟨f, hf, rfl⟩
    obtain ⟨hi, rfl⟩ := List.getElem?_eq_some_iff.mp hf
    refine ⟨hi, by simp, fun j hji => ?_⟩
    have hpair := List.pairwise_map.mp h.names_differ
    have hne := List.pairwise_iff_getElem.mp hpair j i (Nat.lt_trans hji hi) hi hji
    simpa using hne

/-- A field is found under its own name. -/
theorem indexOf?_name (h : s.Canonical) {i : Nat} {f : Field} (hf : s.fields[i]? = some f) :
    s.indexOf? f.name = some i :=
  h.indexOf?_eq_some_iff.mpr ⟨f, hf, rfl⟩

end Canonical

end Schema

end Telemetry
