import Telemetry.Proofs.Frame.RoundTrip
import Telemetry.Schema.Variants
/-!
# Telemetry.Proofs.Frame.Overlay

**Frames act on a store like assignments to the fields that they carry.** Where a frame has a
value for a field, the value takes the place of whatever the slot held, a value or a link; every
other slot shows through (`getElem?_slots_apply`). So two frames can meet only in the fields that
both of them carry.

An accepted frame has one value at most for a field and none for an index without a field
(`DecodedFrame.Fits`). Nothing else about it matters here, and nothing about the store. The main
statement is `apply_laws`.
-/

namespace Telemetry

variable {schema : Schema}

/-- Two stores are the same if their slots are. -/
theorem Store.eq_of_getElem?_slots {s t : Store schema}
    (h : ∀ i < schema.fields.length, s.slots[i]? = t.slots[i]?) : s = t := by
  obtain ⟨slots⟩ := s
  obtain ⟨slots'⟩ := t
  congr 1
  apply Vector.ext
  intro i hi
  have hslot := h i hi
  rw [Vector.getElem?_eq_getElem hi, Vector.getElem?_eq_getElem hi] at hslot
  exact Option.some.inj hslot

namespace DecodedFrame

/-- The frame has a value for the field at an index. -/
def Carries (frame : DecodedFrame) (i : Nat) : Prop := i ∈ frame.updates.map Prod.fst

instance (frame : DecodedFrame) (i : Nat) : Decidable (frame.Carries i) :=
  inferInstanceAs (Decidable (_ ∈ _))

/-- The value that the frame has for the field at an index. -/
def value? (frame : DecodedFrame) (i : Nat) : Option Reading := frame.updates.lookup i

variable {frame f g : DecodedFrame}

theorem mem_updates_of_value? {i : Nat} {r : Reading} (h : frame.value? i = some r) :
    (i, r) ∈ frame.updates := by
  obtain ⟨before, after, hupdates, -⟩ := List.lookup_eq_some_iff.mp h
  rw [hupdates]
  exact List.mem_append_right before List.mem_cons_self

theorem value?_eq_none_iff {i : Nat} : frame.value? i = none ↔ ¬ frame.Carries i := by
  rw [value?, List.lookup_eq_none_iff, Carries, List.mem_map]
  constructor
  · rintro h ⟨u, hu, rfl⟩
    simpa using h u hu
  · intro h u hu
    rw [bne_iff_ne]
    rintro rfl
    exact h ⟨u, hu, rfl⟩

theorem exists_value? {i : Nat} (h : frame.Carries i) : ∃ r, frame.value? i = some r := by
  cases hr : frame.value? i with
  | some r => exact ⟨r, rfl⟩
  | none => exact absurd h (value?_eq_none_iff.mp hr)

/-- The frame has one value at most for a field, and none for an index without a field. -/
structure Fits (schema : Schema) (frame : DecodedFrame) : Prop where
  nodup : (frame.updates.map Prod.fst).Nodup
  inside : ∀ i, frame.Carries i → i < schema.fields.length

/-- What is accepted fits the schema. -/
theorem fits_of_decodeFrame (hs : schema.Canonical) {config : FrameConfig} {src : Bytes}
    (h : schema.decodeFrame config src = .ok frame) : frame.Fits schema := by
  have hreads := hs.reads_of_decodeFrame h
  refine ⟨hreads.nodup, ?_⟩
  intro i hi
  obtain ⟨field, hfield, -⟩ := (hreads.selected i).mp hi
  exact (List.getElem?_eq_some_iff.mp hfield).1

/-- **A frame lies over the store.** Its values stand in front, and the slots that it has no value
for show through. -/
theorem getElem?_slots_apply (h : frame.Fits schema) (s : Store schema) (i : Nat) :
    (frame.apply s).slots[i]? = ((frame.value? i).map Slot.owned).or s.slots[i]? := by
  cases hr : frame.value? i with
  | none =>
    simp only [Option.map_none, Option.none_or]
    exact frame.getElem?_slots_apply_of_not_mem s (value?_eq_none_iff.mp hr)
  | some r =>
    have hmem := mem_updates_of_value? hr
    have hlt := h.inside i (List.mem_map_of_mem hmem)
    simp only [Option.map_some, Option.some_or]
    exact frame.getElem?_slots_apply_of_mem s h.nodup hlt hmem

/-! ### Two frames -/

theorem apply_apply_self (h : f.Fits schema) (s : Store schema) :
    f.apply (f.apply s) = f.apply s := by
  apply Store.eq_of_getElem?_slots
  intro i _
  simp only [getElem?_slots_apply h, ← Option.or_assoc, Option.or_self]

/-- Frames that have no field in common may come in either order. -/
theorem apply_comm (hf : f.Fits schema) (hg : g.Fits schema)
    (h : ∀ i, ¬ (f.Carries i ∧ g.Carries i)) (s : Store schema) :
    g.apply (f.apply s) = f.apply (g.apply s) := by
  apply Store.eq_of_getElem?_slots
  intro i _
  simp only [getElem?_slots_apply hf, getElem?_slots_apply hg]
  by_cases hfi : f.Carries i
  · have hgi : g.value? i = none := value?_eq_none_iff.mpr fun hgi => h i ⟨hfi, hgi⟩
    simp [hgi]
  · simp [value?_eq_none_iff.mpr hfi]

/-- Nothing is left of a frame whose fields a later one carries as well. -/
theorem apply_apply_of_covered (hf : f.Fits schema) (hg : g.Fits schema)
    (h : ∀ i, f.Carries i → g.Carries i) (s : Store schema) :
    g.apply (f.apply s) = g.apply s := by
  apply Store.eq_of_getElem?_slots
  intro i _
  simp only [getElem?_slots_apply hf, getElem?_slots_apply hg]
  by_cases hfi : f.Carries i
  · obtain ⟨r, hr⟩ := exists_value? (h i hfi)
    simp [hr]
  · simp [value?_eq_none_iff.mpr hfi]

/-- **Accepted frames compose like assignments.** Whatever the store, applying a frame twice is
applying it once; two frames without a common field may be applied in either order; a frame whose
fields are all carried by the next one leaves no trace. A frame puts its values into the slots of
the fields that it carries, and leaves any other slot as it is, a value or a link. -/
theorem apply_laws {limits : SchemaLimits} {name : String} {declared : List Field}
    (hbuild : Schema.build limits name declared = .ok schema) {config config' : FrameConfig}
    {src src' : Bytes} {f g : DecodedFrame} (hf : schema.decodeFrame config src = .ok f)
    (hg : schema.decodeFrame config' src' = .ok g) (s : Store schema) :
    f.apply (f.apply s) = f.apply s ∧
      ((∀ i, ¬ (f.Carries i ∧ g.Carries i)) → g.apply (f.apply s) = f.apply (g.apply s)) ∧
      ((∀ i, f.Carries i → g.Carries i) → g.apply (f.apply s) = g.apply s) ∧
      (∀ i r, (i, r) ∈ f.updates → (f.apply s).slots[i]? = some (.owned r)) ∧
      ∀ i, ¬ f.Carries i → (f.apply s).slots[i]? = s.slots[i]? := by
  have hs := Schema.build_eq_ok hbuild
  have hf := fits_of_decodeFrame hs hf
  have hg := fits_of_decodeFrame hs hg
  refine ⟨apply_apply_self hf s, fun h => apply_comm hf hg h s,
    fun h => apply_apply_of_covered hf hg h s, ?_, ?_⟩
  · intro i r hmem
    have hlt := hf.inside i (List.mem_map_of_mem hmem)
    exact f.getElem?_slots_apply_of_mem s hf.nodup hlt hmem
  · intro i hi
    exact f.getElem?_slots_apply_of_not_mem s hi

/-- In the scenario layout, over a store with links: a frame of the slow tier and one of the fast
tier with event 1 may come in either order; the latter leaves no trace of a frame of the fast tier
alone, which a lenient reader took with a surplus byte. -/
theorem apply_laws_scenario :
    let schema : Schema := ⟨"scenario", Schema.scenarioFields⟩
    let s : Store schema := ⟨#v[.linked "a", .owned (.unsigned 5), .linked "s", .linked "c"]⟩
    let slow : DecodedFrame := ⟨.ofNat 4, [(2, .unsigned 9)]⟩
    let full : DecodedFrame :=
      ⟨.ofNat 17, [(0, .unsigned 100), (1, .unsigned 200), (3, .unsigned 7)]⟩
    let fast : DecodedFrame := ⟨.ofNat 1, [(0, .unsigned 300), (1, .unsigned 2)]⟩
    schema.decodeFrame {} [4, 0, 9, 0] = .ok slow ∧
      schema.decodeFrame {} [17, 0, 100, 0, 200, 0, 7] = .ok full ∧
      schema.decodeFrame { rejectTrailingBytes := false } [1, 0, 44, 1, 2, 0, 255] = .ok fast ∧
      full.apply (slow.apply s) = slow.apply (full.apply s) ∧
      full.apply (fast.apply s) = full.apply s ∧ (fast.apply s).slots[3]? = some (.linked "c") := by
  intro schema s slow full fast
  have hbuild : Schema.build {} "scenario" Schema.scenarioFields = .ok schema :=
    Schema.build_scenario
  have hslow : schema.decodeFrame {} [4, 0, 9, 0] = .ok slow := by decide +kernel
  have hfull : schema.decodeFrame {} [17, 0, 100, 0, 200, 0, 7] = .ok full := by decide +kernel
  have hfast : schema.decodeFrame { rejectTrailingBytes := false } [1, 0, 44, 1, 2, 0, 255] =
      .ok fast := by decide +kernel
  obtain ⟨-, hcomm, -, -, -⟩ := apply_laws hbuild hslow hfull s
  obtain ⟨-, -, hcovered, -, hkept⟩ := apply_laws hbuild hfast hfull s
  have hslows : ∀ i, slow.Carries i ↔ i ∈ [2] := fun _ => Iff.rfl
  have hfulls : ∀ i, full.Carries i ↔ i ∈ [0, 1, 3] := fun _ => Iff.rfl
  have hfasts : ∀ i, fast.Carries i ↔ i ∈ [0, 1] := fun _ => Iff.rfl
  have hapart : ∀ i, ¬ (slow.Carries i ∧ full.Carries i) := by
    intro i
    rw [hslows, hfulls, List.mem_singleton]
    rintro ⟨rfl, hi⟩
    exact absurd hi (by decide)
  have hinside : ∀ i, fast.Carries i → full.Carries i := by
    intro i
    rw [hfasts, hfulls]
    have hsubset : [0, 1] ⊆ [0, 1, 3] := by decide
    exact fun hi => hsubset hi
  exact ⟨hslow, hfull, hfast, hcomm hapart, hcovered hinside, hkept 3 (by decide)⟩

end DecodedFrame

end Telemetry
