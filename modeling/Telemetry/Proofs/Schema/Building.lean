import Telemetry.Proofs.Frame.Selection
import Telemetry.Schema.Variants
/-!
# Telemetry.Proofs.Schema.Building

**Which declarations are built, and into what.** `Schema.Refusal` gives for each error the
check that fails on the declarations, and `Schema.Layout` what is known of a schema that was
built: how its fields are arranged, where its tiers lie, and what its two look-ups find.

The main statement is `build_outcome`: `build` answers a schema with this layout if no check
fails, and otherwise the error of one that does.
-/

namespace Telemetry

namespace Schema

/-! ### Why declarations are refused -/

/-- An error and the check that fails on the declarations when it is answered. -/
inductive Refusal (limits : SchemaLimits) (declared : List Field) : SchemaError → Prop
  | tooManyFields (h : limits.maxFields < declared.length) :
      Refusal limits declared (.tooManyFields declared.length limits.maxFields)
  | emptyFieldName {f : Field} (hf : f ∈ declared) (h : f.name = "") :
      Refusal limits declared .emptyFieldName
  | invalidQuantizer {f : Field} {raw : RawWidth} {scale bias : Binary64} (hf : f ∈ declared)
      (hk : f.kind = .quantized raw scale bias) (h : ¬ IsUsableScale scale bias) :
      Refusal limits declared (.invalidQuantizer f.name scale bias)
  /-- A conditional field without an event that fits the message code, or a periodic field
  with any event. -/
  | invalidEvent {f : Field} (hf : f ∈ declared) (h : ¬ f.EventFits) :
      Refusal limits declared (.invalidEvent f.name f.event)
  | eventOrder {before f : Field} {earlier event : Nat} (hdeclared : [before, f].Sublist declared)
      (hbefore : before.event = some earlier) (hf : f.event = some event)
      (h : event ≤ earlier) :
      Refusal limits declared (.eventOrder f.name event earlier)
  | duplicateField {name : String} (h : 1 < (declared.map Field.name).count name) :
      Refusal limits declared (.duplicateField name)
  | frameTooLarge (h : limits.maxFrameSize < headerSize + totalSize declared) :
      Refusal limits declared
        (.frameTooLarge (headerSize + totalSize declared) limits.maxFrameSize)

variable {limits : SchemaLimits} {declared : List Field}

theorem checkKind_eq_error {f : Field} {e : SchemaError} (hf : f ∈ declared)
    (h : checkKind f = .error e) : Refusal limits declared e := by
  unfold checkKind at h
  cases hk : f.kind with
  | unsigned w | signed w | single | double => simp [hk] at h
  | quantized raw scale bias =>
    simp only [hk] at h
    by_cases hs : IsUsableScale scale bias
    · simp [hs] at h
    · rw [if_neg hs] at h
      obtain rfl := Except.error.inj h
      exact .invalidQuantizer hf hk hs

/-- An event is refused on its own account, or because of one that was declared before. -/
theorem checkEvent_eq_error {done rest : List Field} {previous : Option Nat} {f : Field}
    {e : SchemaError} (hprevious : ∀ earlier ∈ previous, ∃ before ∈ done,
      before.event = some earlier) (h : checkEvent previous f = .error e) :
    Refusal limits (done ++ f :: rest) e := by
  have hf : f ∈ done ++ f :: rest := by simp
  unfold checkEvent at h
  by_cases ht : f.tier = .conditional
  · rw [if_pos ht] at h
    cases he : f.event with
    | none =>
      simp only [he] at h
      obtain rfl := Except.error.inj h
      rw [← he]
      exact .invalidEvent hf (by simp [Field.EventFits, he, ht])
    | some event =>
      simp only [he] at h
      by_cases hmax : maxEvent < event
      · rw [if_pos hmax] at h
        obtain rfl := Except.error.inj h
        rw [← he]
        exact .invalidEvent hf (by simp [Field.EventFits, he, hmax])
      · rw [if_neg hmax] at h
        cases previous with
        | none => simp at h
        | some earlier =>
          by_cases hle : event ≤ earlier
          · simp only [if_pos hle] at h
            obtain rfl := Except.error.inj h
            obtain ⟨before, hmem, hbefore⟩ := hprevious earlier rfl
            have hsub : [before, f].Sublist (done ++ f :: rest) :=
              (List.singleton_sublist.mpr hmem).append
                (List.singleton_sublist.mpr List.mem_cons_self)
            exact .eventOrder hsub hbefore he hle
          · simp [hle] at h
  · rw [if_neg ht] at h
    cases he : f.event with
    | none => simp [he] at h
    | some event =>
      simp only [he] at h
      obtain rfl := Except.error.inj h
      rw [← he]
      exact .invalidEvent hf (by simp [Field.EventFits, he, ht])

theorem checkField_eq_error {done rest : List Field} {previous : Option Nat} {f : Field}
    {e : SchemaError} (hprevious : ∀ earlier ∈ previous, ∃ before ∈ done,
      before.event = some earlier) (h : checkField previous f = .error e) :
    Refusal limits (done ++ f :: rest) e := by
  have hf : f ∈ done ++ f :: rest := by simp
  unfold checkField at h
  by_cases hn : f.name = ""
  · rw [if_pos hn] at h
    obtain rfl := Except.error.inj h
    exact .emptyFieldName hf hn
  · rw [if_neg hn] at h
    cases hk : checkKind f with
    | error e' =>
      simp only [hk] at h
      obtain rfl := Except.error.inj h
      exact checkKind_eq_error hf hk
    | ok u =>
      simp only [hk] at h
      exact checkEvent_eq_error hprevious h

/-- A check of one declaration after the other stops at one that is at fault. -/
theorem checkFields_eq_error {done rest : List Field} {previous : Option Nat} {e : SchemaError}
    (hprevious : ∀ earlier ∈ previous, ∃ before ∈ done, before.event = some earlier)
    (h : checkFields previous rest = .error e) : Refusal limits (done ++ rest) e := by
  induction rest generalizing done previous with
  | nil => simp [checkFields] at h
  | cons f rest ih =>
    rw [checkFields] at h
    cases hf : checkField previous f with
    | error e' =>
      simp only [hf] at h
      obtain rfl := Except.error.inj h
      exact checkField_eq_error hprevious hf
    | ok next =>
      simp only [hf] at h
      obtain ⟨-, -, rfl⟩ := checkField_eq_ok hf
      rw [List.append_cons]
      refine ih ?_ h
      -- the event to come after is that of `f`, or else one that was declared before
      intro earlier hearlier
      cases he : f.event with
      | some event =>
        obtain rfl : event = earlier := by simpa [he] using hearlier
        exact ⟨f, by simp, he⟩
      | none =>
        obtain ⟨before, hmem, hbefore⟩ := hprevious earlier (by simpa [he] using hearlier)
        exact ⟨before, by simp [hmem], hbefore⟩

/-- A name that is reported as repeated stands twice, or was there before. -/
theorem repeatedName?_eq_some {seen : List String} {fields : List Field} {name : String}
    (h : repeatedName? seen fields = some name) :
    name ∈ seen ∧ name ∈ fields.map Field.name ∨ 1 < (fields.map Field.name).count name := by
  induction fields generalizing seen with
  | nil => simp [repeatedName?] at h
  | cons f rest ih =>
    unfold repeatedName? at h
    by_cases hseen : f.name ∈ seen
    · rw [if_pos hseen] at h
      obtain rfl := Option.some.inj h
      exact Or.inl ⟨hseen, by simp⟩
    · rw [if_neg hseen] at h
      rcases ih h with ⟨hmem, hrest⟩ | hcount
      · rcases List.mem_cons.mp hmem with rfl | hmem
        · have hpos : 0 < (rest.map Field.name).count f.name := List.count_pos_iff.mpr hrest
          exact Or.inr (by simp [hpos])
        · exact Or.inl ⟨hmem, List.mem_cons_of_mem _ hrest⟩
      · have hle : (rest.map Field.name).count name ≤ ((f :: rest).map Field.name).count name :=
          List.Sublist.count_le name (List.sublist_cons_self _ _)
        exact Or.inr (by omega)

/-! ### Priority order -/

theorem totalSize_inPriorityOrder (declared : List Field) :
    totalSize (inPriorityOrder declared) = totalSize declared :=
  totalSize_perm (inPriorityOrder_perm declared)

/-! ### Success and failure -/

/-- The checks that `build` makes, each one passed. -/
structure Admissible (limits : SchemaLimits) (declared : List Field) : Prop where
  count : declared.length ≤ limits.maxFields
  valid : ∀ f ∈ declared, f.Valid
  events_ascend : (declared.filterMap Field.event).Pairwise (· < ·)
  names_differ : (declared.map Field.name).Nodup
  short : headerSize + totalSize declared ≤ limits.maxFrameSize

theorem admissible_of_build {name : String} {s : Schema}
    (h : build limits name declared = .ok s) : Admissible limits declared := by
  obtain ⟨hcount, hchecked, hdiffer, hshort, rfl⟩ := build_inv h
  obtain ⟨hvalid, hevents, -⟩ := checkFields_eq_ok hchecked
  rw [maxFrameLen, totalSize_inPriorityOrder] at hshort
  have hnames := ((inPriorityOrder_perm declared).map Field.name).nodup_iff.mp
    (repeatedName?_eq_none_iff.mp hdiffer).1
  exact ⟨hcount, hvalid, hevents, hnames, hshort⟩

/-- The checks look at each declaration on its own, at all of them together, and at the order of
their events. -/
theorem Admissible.of_perm {other : List Field} (h : Admissible limits declared)
    (hperm : declared.Perm other)
    (hevents : declared.filterMap Field.event = other.filterMap Field.event) :
    Admissible limits other where
  count := by
    rw [← hperm.length_eq]
    exact h.count
  valid f hf := h.valid f (hperm.mem_iff.mpr hf)
  events_ascend := by
    rw [← hevents]
    exact h.events_ascend
  names_differ := (hperm.map Field.name).nodup_iff.mp h.names_differ
  short := by
    rw [← totalSize_perm hperm]
    exact h.short

/-- No error fits declarations that pass every check. -/
theorem Admissible.not_refusal (h : Admissible limits declared) (e : SchemaError) :
    ¬ Refusal limits declared e := by
  intro hrefusal
  cases hrefusal with
  | tooManyFields hcount => exact absurd h.count (Nat.not_le.mpr hcount)
  | emptyFieldName hf hn => exact (h.valid _ hf).named hn
  | invalidQuantizer hf hk hs =>
    have husable := (h.valid _ hf).usable
    rw [hk] at husable
    exact hs husable
  | invalidEvent hf hfits => exact hfits (h.valid _ hf).event_fits
  | eventOrder hdeclared hbefore hf hle =>
    have hpair := h.events_ascend.sublist (hdeclared.filterMap Field.event)
    simp only [List.filterMap_cons, hbefore, hf, List.filterMap_nil] at hpair
    have hlt := List.rel_of_pairwise_cons hpair List.mem_cons_self
    exact absurd hle (Nat.not_le.mpr hlt)
  | duplicateField hcount =>
    exact absurd (List.nodup_iff_count.mp h.names_differ _) (Nat.not_le.mpr hcount)
  | frameTooLarge hlong => exact absurd h.short (Nat.not_le.mpr hlong)

/-- `build` fails only with the error of a check that fails. -/
theorem refusal_of_build {name : String} {e : SchemaError}
    (h : build limits name declared = .error e) : Refusal limits declared e := by
  unfold build at h
  split at h
  · rename_i hcount
    obtain rfl := Except.error.inj h
    exact .tooManyFields hcount
  cases hc : checkFields none declared with
  | error e' =>
    simp only [hc] at h
    obtain rfl := Except.error.inj h
    have hrefusal : Refusal limits ([] ++ declared) e' := checkFields_eq_error (by simp) hc
    exact hrefusal
  | ok u =>
    simp only [hc] at h
    cases hr : repeatedName? [] (inPriorityOrder declared) with
    | some repeated =>
      simp only [hr] at h
      obtain rfl := Except.error.inj h
      rcases repeatedName?_eq_some hr with ⟨hseen, -⟩ | hcount
      · exact absurd hseen List.not_mem_nil
      · rw [((inPriorityOrder_perm declared).map Field.name).count_eq] at hcount
        exact .duplicateField hcount
    | none =>
      simp only [hr, maxFrameLen, totalSize_inPriorityOrder] at h
      split at h
      · rename_i hlong
        obtain rfl := Except.error.inj h
        exact .frameTooLarge hlong
      · cases h

/-! ### Spans -/

/-- Of a list sorted by a key, the elements with one value of the key lie together, behind
those with a smaller one. -/
theorem filter_eq_drop_take {α : Type} {key : α → Nat} {l : List α}
    (h : l.Pairwise fun a b => key a ≤ key b) (k : Nat) :
    l.filter (fun a => key a = k) =
      (l.take (l.countP fun a => key a ≤ k)).drop (l.countP fun a => key a < k) := by
  induction l with
  | nil => simp
  | cons a rest ih =>
    obtain ⟨hhead, htail⟩ := List.pairwise_cons.mp h
    rcases Nat.lt_trichotomy (key a) k with hlt | heq | hgt
    · simp [hlt, Nat.ne_of_lt hlt, Nat.le_of_lt hlt, ih htail]
    · have hnone : (rest.countP fun b => key b < k) = 0 := by
        rw [List.countP_eq_zero]
        intro b hb
        have hle := hhead b hb
        simp only [decide_eq_true_eq]
        omega
      simp [heq, ih htail, hnone]
    · have hnone : ∀ b ∈ rest, k < key b := fun b hb => Nat.lt_of_lt_of_le hgt (hhead b hb)
      have hzero : ((a :: rest).countP fun b => key b ≤ k) = 0 := by
        rw [List.countP_eq_zero]
        intro b hb
        rcases List.mem_cons.mp hb with rfl | hb
        · simpa using hgt
        · simpa using hnone b hb
      rw [hzero, List.take_zero, List.drop_nil, List.filter_eq_nil_iff]
      intro b hb
      rcases List.mem_cons.mp hb with rfl | hb
      · simp [Nat.ne_of_gt hgt]
      · simp [Nat.ne_of_gt (hnone b hb)]

variable {s : Schema}

/-- The fields of a tier are those at the indices of its span. -/
theorem Canonical.fieldsIn_eq (h : s.Canonical) (t : Tier) :
    s.fieldsIn t = (s.fields.take (s.span t).stop).drop (s.span t).start := by
  rw [fieldsIn, span, ← filter_eq_drop_take h.tiers_ascend]
  simp only [Tier.index_inj]

theorem filterMap_range'_getElem? {α : Type} (l : List α) (start n : Nat) :
    ((List.range' start n).filterMap fun i => l[i]?) = (l.drop start).take n := by
  induction n generalizing start with
  | zero => simp
  | succ n ih =>
    rw [List.range'_succ, List.filterMap_cons, ih]
    cases hi : l[start]? with
    | none =>
      have hend : l.length ≤ start := List.getElem?_eq_none_iff.mp hi
      simp [List.drop_eq_nil_of_le hend, List.drop_eq_nil_of_le (Nat.le_succ_of_le hend)]
    | some a =>
      obtain ⟨hlt, rfl⟩ := List.getElem?_eq_some_iff.mp hi
      rw [List.drop_eq_getElem_cons hlt, List.take_succ_cons]

/-- Going through a span is going through the fields of its tier. -/
theorem Canonical.filterMap_span (h : s.Canonical) (t : Tier) :
    ((s.span t).indices.filterMap fun i => s.fields[i]?) = s.fieldsIn t := by
  rw [Span.indices, filterMap_range'_getElem?, h.fieldsIn_eq, List.drop_take]

theorem span_start_le_stop (s : Schema) (t : Tier) : (s.span t).start ≤ (s.span t).stop := by
  apply List.countP_mono_left
  intro f _ hlt
  exact decide_eq_true (Nat.le_of_lt (of_decide_eq_true hlt))

/-- A span stops where that of the tier of the next lower priority starts. -/
theorem span_stop_eq_start (s : Schema) {t u : Tier} (h : u.index = t.index + 1) :
    (s.span t).stop = (s.span u).start := by
  simp only [span, h, Nat.lt_succ_iff]

theorem span_conditional_stop (s : Schema) : (s.span .conditional).stop = s.size := by
  have hall : ∀ t : Tier, t.index ≤ Tier.conditional.index := by
    intro t
    cases t <;> decide
  simp [span, size, hall]

/-- The spans of the four tiers cover all indices one after the other. -/
structure SpansTile (s : Schema) : Prop where
  first : (s.span .fast).start = 0
  fast_medium : (s.span .fast).stop = (s.span .medium).start
  medium_slow : (s.span .medium).stop = (s.span .slow).start
  slow_conditional : (s.span .slow).stop = (s.span .conditional).start
  last : (s.span .conditional).stop = s.size
  forward : ∀ t, (s.span t).start ≤ (s.span t).stop

theorem spansTile (s : Schema) : s.SpansTile where
  first := by simp [span, Tier.index]
  fast_medium := s.span_stop_eq_start rfl
  medium_slow := s.span_stop_eq_start rfl
  slow_conditional := s.span_stop_eq_start rfl
  last := s.span_conditional_stop
  forward := s.span_start_le_stop

/-- Each index lies in the span of one tier. -/
theorem Canonical.existsUnique_span (h : s.Canonical) {i : Nat} (hi : i < s.size) :
    ∃! t, i ∈ (s.span t).indices := by
  have hf : s.fields[i]? = some s.fields[i] := List.getElem?_eq_getElem hi
  refine ⟨s.fields[i].tier, h.mem_span_indices.mpr ⟨_, hf, rfl⟩, ?_⟩
  intro t ht
  obtain ⟨g, hg, rfl⟩ := h.mem_span_indices.mp ht
  rw [Option.some.inj (hf.symm.trans hg)]

/-! ### Sizes -/

theorem payloadSize_range' (s : Schema) {start n : Nat} (h : start + n ≤ s.fields.length) :
    s.payloadSize (List.range' start n) = totalSize ((s.fields.drop start).take n) := by
  rw [payloadSize_eq_sum, totalSize_eq_sum]
  congr 1
  apply List.ext_getElem
  · simp
    omega
  · intro i hi _
    have hlt : i < n := by simpa using hi
    have hfield : s.fields[start + i]? = some s.fields[start + i] :=
      List.getElem?_eq_getElem (by omega)
    simp [fieldSize, hfield]

/-- The size of a tier is that of the fields in its span. -/
theorem Canonical.tierSize_eq (h : s.Canonical) (t : Tier) :
    s.tierSize t = s.payloadSize (s.span t).indices := by
  have hstop : (s.span t).stop ≤ s.fields.length := List.countP_le_length
  have hforward := s.span_start_le_stop t
  rw [tierSize, h.fieldsIn_eq, Span.indices, payloadSize_range' s (by omega), List.drop_take]

/-! ### The layout of a built schema -/

/-- What is known of a schema that was built from some declarations. -/
structure Layout (limits : SchemaLimits) (declared : List Field) (s : Schema) : Prop where
  /-- No declared field is lost, and none is added. -/
  perm : s.fields.Perm declared
  /-- The tiers stand one after the other, by falling priority. -/
  by_tier : s.fields = Tier.all.flatMap s.fieldsIn
  /-- Inside a tier the fields stand as they were declared. -/
  declared_order : ∀ t, s.fieldsIn t = declared.filter fun f => f.tier = t
  spans_tile : s.SpansTile
  /-- A span holds the indices of the fields of its tier and no other. -/
  mem_span : ∀ t i, i ∈ (s.span t).indices ↔ ∃ f, s.fields[i]? = some f ∧ f.tier = t
  /-- No index is left out, and none lies in two spans. -/
  one_span : ∀ i < s.size, ∃! t, i ∈ (s.span t).indices
  fieldsIn_eq : ∀ t, s.fieldsIn t = (s.fields.take (s.span t).stop).drop (s.span t).start
  tierSize_eq : ∀ t, s.tierSize t = ((s.span t).indices.map s.fieldSize).sum
  maxFrameLen_eq : s.maxFrameLen = 2 + (Tier.all.map s.tierSize).sum
  maxFrameLen_le : s.maxFrameLen ≤ limits.maxFrameSize
  named : ∀ f ∈ s.fields, f.name ≠ ""
  names_differ : (s.fields.map Field.name).Nodup
  /-- A name leads to the index of its field, and any other name nowhere. -/
  indexOf : ∀ name i, s.indexOf? name = some i ↔ ∃ f, s.fields[i]? = some f ∧ f.name = name
  event_iff : ∀ f ∈ s.fields, f.event.isSome = true ↔ f.tier = .conditional
  event_le : ∀ f ∈ s.fields, ∀ event ∈ f.event, event ≤ 12
  /-- Along the conditional span the events ascend. -/
  events_ascend : ∀ {i j : Nat} {f g : Field} {event later : Nat}, s.fields[i]? = some f →
    s.fields[j]? = some g → f.event = some event → g.event = some later → i < j → event < later
  /-- An event leads to the one field that is bound to it, and any other event nowhere. -/
  conditionalIndex : ∀ event i,
    s.conditionalIndex? event = some i ↔ ∃ f, s.fields[i]? = some f ∧ f.event = some event
  usable : ∀ f ∈ s.fields, ∀ raw scale bias, f.kind = .quantized raw scale bias →
    scale.isFinite = true ∧ scale.isPositive = true ∧ bias.isFinite = true

theorem fieldsIn_inPriorityOrder (name : String) (declared : List Field) (t : Tier) :
    fieldsIn ⟨name, inPriorityOrder declared⟩ t = declared.filter fun f => f.tier = t :=
  filter_inPriorityOrder declared t

/-- The longest frame has room for each tier in turn. -/
theorem maxFrameLen_eq_sum (h : s.fields = Tier.all.flatMap s.fieldsIn) :
    s.maxFrameLen = headerSize + (Tier.all.map s.tierSize).sum := by
  rw [maxFrameLen, h]
  simp [Tier.all, totalSize_append, tierSize]

theorem event_isSome_iff {f : Field} (h : f.Valid) :
    f.event.isSome = true ↔ f.tier = .conditional := by
  rw [Option.isSome_iff_exists]
  constructor
  · rintro ⟨event, he⟩
    exact h.tier_of_event he
  · exact h.exists_event

theorem layout_of_build {name : String} (h : build limits name declared = .ok s) :
    s.Layout limits declared := by
  have hs := build_eq_ok h
  obtain ⟨-, -, -, hshort, rfl⟩ := build_inv h
  have hby_tier : inPriorityOrder declared =
      Tier.all.flatMap (fieldsIn ⟨name, inPriorityOrder declared⟩) :=
    eq_flatMap_filter_of_pairwise hs.tiers_ascend
  exact {
    perm := inPriorityOrder_perm declared
    by_tier := hby_tier
    declared_order := fieldsIn_inPriorityOrder name declared
    spans_tile := spansTile _
    mem_span := fun _ _ => hs.mem_span_indices
    one_span := fun _ hi => hs.existsUnique_span hi
    fieldsIn_eq := hs.fieldsIn_eq
    tierSize_eq := fun t => by rw [hs.tierSize_eq, payloadSize_eq_sum]
    maxFrameLen_eq := maxFrameLen_eq_sum hby_tier
    maxFrameLen_le := hshort
    named := fun f hf => (hs.valid f hf).named
    names_differ := hs.names_differ
    indexOf := fun _ _ => hs.indexOf?_eq_some_iff
    event_iff := fun f hf => event_isSome_iff (hs.valid f hf)
    event_le := fun f hf _ he => (hs.valid f hf).event_le he
    events_ascend := hs.event_lt
    conditionalIndex := fun _ _ => hs.conditionalIndex?_eq_some_iff
    usable := fun f hf raw scale bias hk => by
      have husable := (hs.valid f hf).usable
      rw [hk] at husable
      exact husable }

/-- **Declarations are built into the layout of their tiers, or refused for a check that they
fail.** There is no other outcome: a schema is answered only if no check fails, and an error
only if its own check does. -/
theorem build_outcome (limits : SchemaLimits) (name : String) (declared : List Field) :
    match build limits name declared with
    | .ok s => s.name = name ∧ s.Layout limits declared ∧ ∀ e, ¬ Refusal limits declared e
    | .error e => Refusal limits declared e := by
  cases h : build limits name declared with
  | error e => exact refusal_of_build h
  | ok s =>
    have hname : s.name = name := by
      obtain ⟨-, -, -, -, rfl⟩ := build_inv h
      rfl
    exact ⟨hname, layout_of_build h, (admissible_of_build h).not_refusal⟩

/-- Conditional fields may be declared before and between periodic ones. -/
example :
    let c := conditionalField "c" 3 (.unsigned .w8)
    let d := conditionalField "d" 5 (.unsigned .w8)
    let slow := periodicField .slow "s" .single
    let fast := periodicField .fast "f" .double
    build {} "mixed" [c, slow, d, fast] = .ok ⟨"mixed", [fast, slow, c, d]⟩ := by
  intro c d slow fast
  rw [build, inPriorityOrder_eq]
  decide +kernel

end Schema

end Telemetry
