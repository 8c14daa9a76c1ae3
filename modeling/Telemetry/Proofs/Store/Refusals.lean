import Telemetry.Store
/-!
# Telemetry.Proofs.Store.Refusals

**Why a field refuses a value, and what else can go wrong with it.** `Reading.Refusal` lists the
errors of encoding. Each of them names the field that the value was meant for, and none tells of
anything outside the value and the field: neither of a buffer nor of a live source.

A crash can only come from reading. `Store.Crashes` says of a field that it is linked to a source
that crashes; nothing else keeps a store from telling the value of a field that it has
(`getByName_eq_error_iff`).
-/

namespace Telemetry

/-! ### Encoding -/

namespace Reading

/-- An error with which a field refuses a value. -/
inductive Refusal (r : Reading) (f : Field) : FrameError → Prop
  | kindMismatch : Refusal r f (.kindMismatch f.name f.kind.label)
  | valueOutOfRange : Refusal r f (.valueOutOfRange f.name r.text f.kind.label)
  | overflow (cause : QuantizeError) : Refusal r f (.overflow f.name cause)

variable {r : Reading} {f : Field} {e : FrameError}

theorem refusal_of_encodeWhole {signed : Bool} {w : IntWidth}
    (h : r.encodeWhole f signed w = .error e) : r.Refusal f e := by
  unfold encodeWhole wholeIn at h
  cases hint : r.toInt? with
  | none =>
    simp only [hint, Except.error.injEq] at h
    subst h
    exact .kindMismatch
  | some n =>
    by_cases hn : lowest signed w ≤ n ∧ n ≤ highest signed w
    · simp [hint, hn] at h
    · simp only [hint, hn, if_false, Except.error.injEq] at h
      subst h
      exact .valueOutOfRange

theorem refusal_of_toSingle (h : r.toSingle f = .error e) : r.Refusal f e := by
  unfold toSingle at h
  dsimp only at h
  split at h
  · cases h
    exact .valueOutOfRange
  · cases h

theorem refusal_of_toRaw {raw : RawWidth} {scale bias : Binary64}
    (h : r.toRaw f raw scale bias = .error e) : r.Refusal f e := by
  unfold toRaw at h
  cases hq : Quantizer.ofScale scale bias with
  | error cause =>
    simp only [hq, Except.error.injEq] at h
    subst h
    exact .overflow cause
  | ok q =>
    cases hn : q.encode r.toBinary64 raw with
    | error cause =>
      simp only [hq, hn, Except.error.injEq] at h
      subst h
      exact .overflow cause
    | ok n => simp [hq, hn] at h

/-- **Every refusal names the field** that the value was meant for. -/
theorem refusal_of_encode (h : r.encode f = .error e) : r.Refusal f e := by
  unfold encode at h
  cases hk : f.kind with
  | unsigned w | signed w =>
    simp only [hk] at h
    exact refusal_of_encodeWhole h
  | single =>
    simp only [hk] at h
    cases hx : r.toSingle f with
    | ok x => simp [hx, Except.map] at h
    | error e' =>
      simp only [hx, Except.map, Except.error.injEq] at h
      subst h
      exact refusal_of_toSingle hx
  | double => simp [hk] at h
  | quantized raw scale bias =>
    simp only [hk] at h
    cases hraw : r.toRaw f raw scale bias with
    | ok n => simp [hraw, Except.map] at h
    | error e' =>
      simp only [hraw, Except.map, Except.error.injEq] at h
      subst h
      exact refusal_of_toRaw hraw

/-- Encoding reads no source. -/
theorem encode_ne_crashed (r : Reading) (f : Field) : r.encode f ≠ .error .sourceCrashed := by
  intro h
  cases refusal_of_encode h

end Reading

/-! ### Live sources -/

/-- No live source crashes when it is read. -/
def Sources.Reliable (sources : Sources) : Prop := ∀ name, sources name ≠ .crashes

namespace Store

variable {schema : Schema}

/-- The field of this name is linked to a source that crashes when it is read. -/
def Crashes (s : Store schema) (sources : Sources) (name : String) : Prop :=
  ∃ i source, schema.indexOf? name = some i ∧ s.slots[i]? = some (.linked source) ∧
    sources source = .crashes

/-- The schema has a slot for each of its fields. -/
theorem exists_slot (s : Store schema) {i : Nat} {f : Field} (hf : schema.fields[i]? = some f) :
    ∃ slot, s.slots[i]? = some slot := by
  have hlt : i < schema.fields.length := (List.getElem?_eq_some_iff.mp hf).1
  exact ⟨s.slots[i], Vector.getElem?_eq_getElem hlt⟩

theorem exists_field_of_indexOf? {name : String} {i : Nat} (hi : schema.indexOf? name = some i) :
    ∃ f, schema.fields[i]? = some f := by
  obtain ⟨hlt, -⟩ := List.findIdx?_eq_some_iff_getElem.mp hi
  exact ⟨schema.fields[i], List.getElem?_eq_getElem hlt⟩

/-- **Reading a field of the schema fails only where its source crashes.** -/
theorem getByName_eq_error_iff {s : Store schema} {sources : Sources} {name : String} {i : Nat}
    (hi : schema.indexOf? name = some i) {e : FrameError} :
    s.getByName sources name = .error e ↔ s.Crashes sources name ∧ e = .sourceCrashed := by
  obtain ⟨f, hf⟩ := exists_field_of_indexOf? hi
  obtain ⟨slot, hslot⟩ := s.exists_slot hf
  have hget : s.getByName sources name = readSlot sources slot := by
    simp [getByName, index, hi, get, hslot]
  rw [hget]
  constructor
  · intro h
    cases slot with
    | owned r => cases h
    | linked source =>
      unfold readSlot at h
      cases hread : sources source with
      | yields r => simp [hread] at h
      | crashes =>
        simp only [hread, Except.error.injEq] at h
        exact ⟨⟨i, source, hi, hslot, hread⟩, h.symm⟩
  · rintro ⟨⟨j, source, hj, hlinked, hread⟩, rfl⟩
    obtain rfl : i = j := Option.some.inj (hi.symm.trans hj)
    obtain rfl : slot = .linked source := Option.some.inj (hslot.symm.trans hlinked)
    simp [readSlot, hread]

theorem Crashes.getByName_eq {s : Store schema} {sources : Sources} {name : String}
    (h : s.Crashes sources name) : s.getByName sources name = .error .sourceCrashed := by
  obtain ⟨i, _, hi, -⟩ := id h
  exact (getByName_eq_error_iff hi).mpr ⟨h, rfl⟩

/-- A crash is what comes of reading the field. -/
theorem crashes_iff {s : Store schema} {sources : Sources} {name : String} :
    s.Crashes sources name ↔
      ∃ i, schema.indexOf? name = some i ∧ s.get sources i = .error .sourceCrashed := by
  have hget : ∀ {i}, schema.indexOf? name = some i →
      s.getByName sources name = s.get sources i := by
    intro i hi
    simp [getByName, index, hi]
  constructor
  · intro h
    obtain ⟨i, _, hi, -⟩ := id h
    exact ⟨i, hi, (hget hi).symm.trans h.getByName_eq⟩
  · rintro ⟨i, hi, hcrash⟩
    exact ((getByName_eq_error_iff hi).mp ((hget hi).trans hcrash)).1

theorem Crashes.not_reliable {s : Store schema} {sources : Sources} {name : String}
    (h : s.Crashes sources name) : ¬ sources.Reliable := by
  obtain ⟨i, source, -, -, hread⟩ := h
  exact fun hreliable => hreliable source hread

/-- What a store is told to hold is encoded once. No source is read for that. -/
theorem set_ne_crashed (s : Store schema) (i : Nat) (r : Reading) :
    s.set i r ≠ .error .sourceCrashed := by
  intro h
  unfold set at h
  cases hf : schema.fields[i]? with
  | none => simp [hf] at h
  | some f =>
    cases hr : r.encode f with
    | ok bytes => simp [hf, hr] at h
    | error e =>
      simp only [hf, hr, Except.error.injEq] at h
      exact r.encode_ne_crashed f (h ▸ hr)

/-- What a field cannot encode is refused with the error of encoding it. -/
theorem set_of_encode_error {s : Store schema} {i : Nat} {f : Field} {r : Reading} {e : FrameError}
    (hf : schema.fields[i]? = some f) (hr : r.encode f = .error e) : s.set i r = .error e := by
  simp [set, hf, hr]

theorem link_ne_crashed (s : Store schema) (i : Nat) (source : String) :
    s.link i source ≠ .error .sourceCrashed := by
  unfold link
  split <;> simp

variable {sources : Sources}

/-- Sources that do not crash have a value for every slot. -/
theorem exists_readSlot (h : sources.Reliable) (slot : Slot) :
    ∃ r, readSlot sources slot = .ok r := by
  cases slot with
  | owned r => exact ⟨r, rfl⟩
  | linked source =>
    cases hread : sources source with
    | crashes => exact absurd hread (h source)
    | yields r => exact ⟨r, by simp [readSlot, hread]⟩

theorem get_ne_crashed (h : sources.Reliable) (s : Store schema) (i : Nat) :
    s.get sources i ≠ .error .sourceCrashed := by
  unfold get
  cases s.slots[i]? with
  | none => simp
  | some slot =>
    cases slot with
    | owned r => simp [readSlot]
    | linked source =>
      have hsource := h source
      unfold readSlot
      cases hread : sources source with
      | yields r => simp [hread]
      | crashes => exact absurd hread hsource

end Store

end Telemetry
