import Telemetry.Proofs.Frame.FieldOrder
import Telemetry.Proofs.Frame.RoundTrip
import Telemetry.Proofs.Store.Refusals
/-!
# Telemetry.Proofs.Frame.Serialization

**What a store serializes.** The frame of a code is the code, low byte first, and behind it the
bytes of each field in frame order (`Store.IsFrame`). Packing goes through the same fields until
one of them fails, and `Store.Reaches` says which one that is. A field fails because its value does
not encode, or because its source crashes (`Store.Faults`).

There are two writers. One writes over the front of a buffer, the other appends to a buffer and
takes its bytes back when it fails. Both pack the same fields, so `pack_eq_ok` and
`pack_eq_error_iff` settle both of them. The main statement is `serialize_outcome`.
-/

namespace Telemetry

variable {schema : Schema}

namespace Store

/-! ### One field -/

section

variable (s : Store schema) (sources : Sources) (f : Field)

/-- These bytes are the value that the store has for the field now. -/
def Encodes (bytes : Bytes) : Prop :=
  ∃ r, s.getByName sources f.name = .ok r ∧ r.encode f = .ok bytes

/-- The field refuses the value that the store has for it now. -/
def Misfits (e : FrameError) : Prop :=
  ∃ r, s.getByName sources f.name = .ok r ∧ r.encode f = .error e

/-- Why there are no bytes for the field. -/
inductive Faults : FrameError → Prop
  | misfits {e : FrameError} (h : s.Misfits sources f e) : Faults e
  | crashes (h : s.Crashes sources f.name) : Faults .sourceCrashed

end

variable {s : Store schema} {sources : Sources} {f : Field} {e : FrameError}

theorem Encodes.not_faults {bytes : Bytes} (h : s.Encodes sources f bytes) :
    ¬ s.Faults sources f e := by
  obtain ⟨r, hr, hencode⟩ := h
  intro hfault
  cases hfault with
  | misfits hmisfits =>
    obtain ⟨r', hr', hrefused⟩ := hmisfits
    obtain rfl : r = r' := Except.ok.inj (hr.symm.trans hr')
    exact absurd (hencode.symm.trans hrefused) (by simp)
  | crashes hcrash => exact absurd (hr.symm.trans hcrash.getByName_eq) (by simp)

theorem Misfits.not_crashes (h : s.Misfits sources f e) : ¬ s.Crashes sources f.name := by
  obtain ⟨r, hr, -⟩ := h
  intro hcrash
  exact absurd (hr.symm.trans hcrash.getByName_eq) (by simp)

/-- A value that is refused is no crash. -/
theorem Misfits.ne_crashed (h : s.Misfits sources f e) : e ≠ .sourceCrashed := by
  obtain ⟨r, -, hrefused⟩ := h
  rintro rfl
  exact r.encode_ne_crashed f hrefused

/-- A field has one fault at most. -/
theorem Faults.eq {e' : FrameError} (h : s.Faults sources f e) (h' : s.Faults sources f e') :
    e = e' := by
  cases h with
  | crashes hcrash =>
    cases h' with
    | crashes => rfl
    | misfits hmisfits => exact absurd hcrash hmisfits.not_crashes
  | misfits hmisfits =>
    cases h' with
    | crashes hcrash => exact absurd hcrash hmisfits.not_crashes
    | misfits hmisfits' =>
      obtain ⟨r, hr, hrefused⟩ := hmisfits
      obtain ⟨r', hr', hrefused'⟩ := hmisfits'
      obtain rfl : r = r' := Except.ok.inj (hr.symm.trans hr')
      exact Except.error.inj (hrefused.symm.trans hrefused')

/-- Only a source tells of a crash. -/
theorem faults_sourceCrashed_iff :
    s.Faults sources f .sourceCrashed ↔ s.Crashes sources f.name := by
  constructor
  · intro h
    cases h with
    | misfits hmisfits => exact absurd rfl hmisfits.ne_crashed
    | crashes hcrash => exact hcrash
  · exact .crashes

/-- Where no source crashes, the value is at fault. -/
theorem Faults.misfits_of_reliable (h : s.Faults sources f e) (hsources : sources.Reliable) :
    s.Misfits sources f e := by
  cases h with
  | misfits hmisfits => exact hmisfits
  | crashes hcrash => exact absurd hsources hcrash.not_reliable

/-- A fault is a refusal of the field, or a crash. It tells nothing about a buffer or a link. -/
theorem Faults.eq_crashed_or_refusal (h : s.Faults sources f e) :
    e = .sourceCrashed ∨ ∃ r : Reading, r.Refusal f e := by
  cases h with
  | misfits hmisfits =>
    obtain ⟨r, -, hrefused⟩ := hmisfits
    exact Or.inr ⟨r, Reading.refusal_of_encode hrefused⟩
  | crashes => exact Or.inl rfl

section

variable {i : Nat} (hs : schema.Canonical) (hf : schema.fields[i]? = some f)
include hs hf

/-- A field can be read by its index or by its name. -/
theorem getByName_eq_get : s.getByName sources f.name = s.get sources i := by
  simp [getByName, index, hs.indexOf?_name hf]

theorem encodes_of_encodeField {bytes : Bytes} (h : s.encodeField sources i = .ok bytes) :
    s.Encodes sources f bytes := by
  obtain ⟨r, hr, hencode⟩ := encodeField_eq_ok hf h
  exact ⟨r, (getByName_eq_get hs hf).trans hr, hencode⟩

theorem faults_of_encodeField (h : s.encodeField sources i = .error e) :
    s.Faults sources f e := by
  have hget : s.getByName sources f.name = s.get sources i := getByName_eq_get hs hf
  simp only [encodeField, hf] at h
  cases hr : s.get sources i with
  | ok r =>
    simp only [hr] at h
    exact .misfits ⟨r, hget.trans hr, h⟩
  | error e' =>
    simp only [hr, Except.error.injEq] at h
    subst h
    obtain ⟨hcrash, rfl⟩ := (getByName_eq_error_iff (hs.indexOf?_name hf)).mp (hget.trans hr)
    exact .crashes hcrash

end

/-! ### Some fields one after the other -/

/-- Packing some fields one after the other gets as far as this one: there are bytes for each
field before it. -/
inductive Reaches (s : Store schema) (sources : Sources) : List Field → Field → Prop
  | here (f : Field) (rest : List Field) : Reaches s sources (f :: rest) f
  | there {f g : Field} {rest : List Field} {bytes : Bytes} (hf : s.Encodes sources f bytes)
      (hrest : Reaches s sources rest g) : Reaches s sources (f :: rest) g

theorem Reaches.mem {fields : List Field} (h : s.Reaches sources fields f) : f ∈ fields := by
  induction h with
  | here f rest => exact List.mem_cons_self
  | there _ _ ih => exact List.mem_cons_of_mem _ ih

/-- What is packed are the bytes of the fields. -/
theorem pack_eq_ok (hs : schema.Canonical) {l : List Nat} {fields : List Field}
    (hl : List.Forall₂ (fun i f => schema.fields[i]? = some f) l fields) {payload : Bytes}
    (h : s.pack sources l = (payload, .ok ())) :
    ∃ parts, List.Forall₂ (s.Encodes sources) fields parts ∧ payload = parts.flatten := by
  induction hl generalizing payload with
  | nil =>
    obtain ⟨rfl, -⟩ := Prod.mk.inj h
    exact ⟨[], .nil, rfl⟩
  | cons hf _ ih =>
    obtain ⟨bytes, more, hbytes, hmore, rfl⟩ := pack_cons_eq_ok h
    obtain ⟨parts, hparts, rfl⟩ := ih hmore
    exact ⟨bytes :: parts, .cons (encodes_of_encodeField hs hf hbytes) hparts, rfl⟩

/-- Packing fails with the fault of the field that it gets to. -/
theorem pack_eq_error_iff (hs : schema.Canonical) {l : List Nat} {fields : List Field}
    (hl : List.Forall₂ (fun i f => schema.fields[i]? = some f) l fields) :
    (s.pack sources l).2 = .error e ↔
      ∃ f, s.Reaches sources fields f ∧ s.Faults sources f e := by
  induction hl with
  | nil =>
    constructor
    · intro h
      cases h
    · rintro ⟨f, hreaches, -⟩
      cases hreaches
  | @cons i f l fields hf _ ih =>
    unfold pack
    cases hfield : s.encodeField sources i with
    | error e' =>
      dsimp only
      have hfault := faults_of_encodeField hs hf hfield
      constructor
      · intro h
        obtain rfl := Except.error.inj h
        exact ⟨f, .here f fields, hfault⟩
      · rintro ⟨g, hreaches, hg⟩
        cases hreaches with
        | here => rw [hfault.eq hg]
        | there hencodes => exact absurd hfault hencodes.not_faults
    | ok bytes =>
      dsimp only
      have hencodes := encodes_of_encodeField hs hf hfield
      rw [ih]
      constructor
      · rintro ⟨g, hreaches, hg⟩
        exact ⟨g, .there hencodes hreaches, hg⟩
      · rintro ⟨g, hreaches, hg⟩
        cases hreaches with
        | here => exact absurd hg hencodes.not_faults
        | there _ hreaches => exact ⟨g, hreaches, hg⟩

/-- Packing the frame of a code comes to a field whose source crashes, past fields that all have
bytes. -/
def CrashesFirst (s : Store schema) (sources : Sources) (code : MessageCode) : Prop :=
  ∃ f, s.Reaches sources (schema.frameFields code) f ∧ s.Crashes sources f.name

theorem pack_eq_crashed_iff (hs : schema.Canonical) {code : MessageCode} :
    (s.pack sources (schema.carried code)).2 = .error .sourceCrashed ↔
      s.CrashesFirst sources code := by
  rw [pack_eq_error_iff hs (hs.forall₂_carried code)]
  simp only [faults_sourceCrashed_iff]
  rfl

theorem CrashesFirst.not_reliable {code : MessageCode} (h : s.CrashesFirst sources code) :
    ¬ sources.Reliable := by
  obtain ⟨f, -, hcrash⟩ := h
  exact hcrash.not_reliable

/-- The empty code has no field to come to. -/
theorem not_crashesFirst_of_isEmpty (hs : schema.Canonical) {code : MessageCode}
    (hcode : code.isEmpty = true) : ¬ s.CrashesFirst sources code := by
  rintro ⟨f, hreaches, -⟩
  obtain ⟨-, hselects⟩ := hs.mem_frameFields.mp hreaches.mem
  rw [MessageCode.eq_empty hcode, MessageCode.selects_empty] at hselects
  cases hselects

/-- What is packed depends on the bytes of the fields alone. -/
theorem pack_congr {s' : Store schema} {sources' : Sources} {l : List Nat}
    (h : ∀ i ∈ l, s'.encodeField sources' i = s.encodeField sources i) :
    s'.pack sources' l = s.pack sources l := by
  induction l with
  | nil => rfl
  | cons i rest ih =>
    unfold pack
    rw [h i List.mem_cons_self, ih fun j hj => h j (List.mem_cons_of_mem i hj)]

/-! ### The two writers -/

section

variable {code : MessageCode}

/-- The bytes are the frame of a code: the code, low byte first, and then the bytes of each of its
fields in frame order. -/
def IsFrame (s : Store schema) (sources : Sources) (code : MessageCode) (frame : Bytes) : Prop :=
  ∃ parts, List.Forall₂ (s.Encodes sources) (schema.frameFields code) parts ∧
    frame = bytesOfNat headerSize code.toNat ++ parts.flatten

theorem Packs.isFrame (hs : schema.Canonical) {frame : Bytes} (h : s.Packs sources code frame) :
    s.IsFrame sources code frame := by
  obtain ⟨payload, hpack, rfl⟩ := h
  obtain ⟨parts, hparts, rfl⟩ := pack_eq_ok hs (hs.forall₂_carried code) hpack
  exact ⟨parts, hparts, rfl⟩

theorem Packs.not_crashesFirst (hs : schema.Canonical) {frame : Bytes}
    (h : s.Packs sources code frame) : ¬ s.CrashesFirst sources code := by
  obtain ⟨payload, hpack, -⟩ := h
  rw [← pack_eq_crashed_iff hs, hpack]
  simp

/-- A field of a frame has bytes. -/
theorem IsFrame.exists_encodes {frame : Bytes} (h : s.IsFrame sources code frame)
    (hf : f ∈ schema.frameFields code) : ∃ bytes, s.Encodes sources f bytes := by
  obtain ⟨parts, hparts, -⟩ := h
  obtain ⟨bytes, -, hbytes⟩ := Schema.exists_of_forall₂ hparts hf
  exact ⟨bytes, hbytes⟩

/-- **Appending works on room of its own**, and what the buffer holds comes back. The room is given
up unless the frame was packed or a source crashed. -/
theorem serializeInto_eq (hcode : code.isEmpty = false) (buffer : Bytes) :
    s.serializeInto sources code buffer =
      match s.serialize sources code (List.replicate (schema.frameLen code) 0) with
      | (.ok n, frame) => (.ok n, buffer ++ frame)
      | (.error e, part) => (.error e, buffer ++ if e = .sourceCrashed then part else []) := by
  have hlength : schema.frameLen code ≠ 0 := by
    rw [Schema.frameLen, hcode, if_neg Bool.false_ne_true, headerSize]
    omega
  unfold serializeInto
  dsimp only
  rw [if_neg hlength, List.drop_left, List.take_left]
  generalize s.serialize sources code (List.replicate (schema.frameLen code) 0) = packed
  obtain ⟨outcome, written⟩ := packed
  cases outcome with
  | ok n => rfl
  | error e =>
    dsimp only
    split
    · rfl
    · rw [List.take_left, List.append_nil]

/-- The empty code has no frame to append. -/
theorem serializeInto_of_isEmpty (hcode : code.isEmpty = true) (buffer : Bytes) :
    s.serializeInto sources code buffer = (.ok 0, buffer) :=
  if_pos (if_pos hcode)

/-- Appending does not look at what the buffer holds. -/
theorem serializeInto_eq_append (buffer : Bytes) :
    s.serializeInto sources code buffer =
      ((s.serializeInto sources code []).1, buffer ++ (s.serializeInto sources code []).2) := by
  cases hcode : code.isEmpty with
  | true => rw [serializeInto_of_isEmpty hcode, serializeInto_of_isEmpty hcode, List.append_nil]
  | false =>
    rw [serializeInto_eq hcode, serializeInto_eq hcode]
    generalize s.serialize sources code (List.replicate (schema.frameLen code) 0) = packed
    obtain ⟨outcome, written⟩ := packed
    cases outcome <;> rfl

/-- Appending a frame to nothing gives the frame. -/
theorem serializeInto_of_packs (hs : schema.Canonical) {frame : Bytes}
    (hcode : code.isEmpty = false) (h : s.Packs sources code frame) :
    s.serializeInto sources code [] = (.ok frame.length, frame) := by
  have hserialize : s.serialize sources code (List.replicate frame.length 0) =
      (.ok frame.length, frame ++ (List.replicate frame.length 0).drop frame.length) :=
    serialize_of_packs hs hcode h (Nat.le_of_eq List.length_replicate.symm)
  rw [List.drop_replicate, Nat.sub_self, List.replicate_zero, List.append_nil] at hserialize
  rw [serializeInto_eq hcode, ← h.length_eq_frameLen hs hcode, hserialize]
  rfl

/-- Without room for the frame nothing is written. -/
theorem serialize_of_lt (hcode : code.isEmpty = false) {buffer : Bytes}
    (h : buffer.length < schema.frameLen code) :
    s.serialize sources code buffer =
      (.error (.bufferTooSmall (schema.frameLen code) buffer.length), buffer) := by
  rw [serialize, hcode, if_neg Bool.false_ne_true]
  exact if_pos h

/-- With room for the frame, serializing fails as packing does. -/
theorem serialize_of_pack (hcode : code.isEmpty = false)
    (h : (s.pack sources (schema.carried code)).2 = .error e) {buffer : Bytes}
    (hroom : schema.frameLen code ≤ buffer.length) :
    (s.serialize sources code buffer).1 = .error e := by
  rw [serialize, hcode, if_neg Bool.false_ne_true]
  dsimp only
  rw [if_neg (Nat.not_lt.mpr hroom), h]
  rfl

/-- Where packing fails, so does appending. There is room for the whole frame, so there is no other
way to fail. -/
theorem serializeInto_fst_of_pack (hcode : code.isEmpty = false)
    (h : (s.pack sources (schema.carried code)).2 = .error e) (buffer : Bytes) :
    (s.serializeInto sources code buffer).1 = .error e := by
  have hserialize : (s.serialize sources code (List.replicate (schema.frameLen code) 0)).1 =
      .error e :=
    serialize_of_pack hcode h (Nat.le_of_eq List.length_replicate.symm)
  rw [serializeInto_eq hcode]
  generalize s.serialize sources code (List.replicate (schema.frameLen code) 0) = packed
    at hserialize ⊢
  obtain ⟨outcome, written⟩ := packed
  obtain rfl : outcome = .error e := hserialize
  rfl

/-- Unless a source crashed, **a buffer that nothing could be appended to is as it was**. -/
theorem serializeInto_of_error {buffer : Bytes}
    (h : (s.serializeInto sources code buffer).1 = .error e) (he : e ≠ .sourceCrashed) :
    s.serializeInto sources code buffer = (.error e, buffer) := by
  cases hcode : code.isEmpty with
  | true =>
    rw [serializeInto_of_isEmpty hcode] at h
    cases h
  | false =>
    rw [serializeInto_eq hcode] at h ⊢
    generalize s.serialize sources code (List.replicate (schema.frameLen code) 0) = packed at h ⊢
    obtain ⟨outcome, written⟩ := packed
    cases outcome with
    | ok n => cases h
    | error e' =>
      obtain rfl : e' = e := Except.error.inj h
      dsimp only
      rw [if_neg he, List.append_nil]

/-- Packing gives the frame of a code, or fails at one of its fields. -/
theorem packs_or_faults (hs : schema.Canonical) (s : Store schema) (sources : Sources)
    (code : MessageCode) :
    (∃ frame, s.Packs sources code frame) ∨
      ∃ e f, (s.pack sources (schema.carried code)).2 = .error e ∧
        s.Reaches sources (schema.frameFields code) f ∧ s.Faults sources f e := by
  cases hpack : (s.pack sources (schema.carried code)).2 with
  | ok u => exact Or.inl ⟨_, _, Prod.ext rfl hpack, rfl⟩
  | error e =>
    obtain ⟨f, hreaches, hfault⟩ := (pack_eq_error_iff hs (hs.forall₂_carried code)).mp hpack
    exact Or.inr ⟨e, f, rfl, hreaches, hfault⟩

/-- Appending fails with the fault of a field and in no other way. -/
theorem faults_of_serializeInto (hs : schema.Canonical) {buffer : Bytes}
    (h : (s.serializeInto sources code buffer).1 = .error e) :
    ∃ f, s.Reaches sources (schema.frameFields code) f ∧ s.Faults sources f e := by
  cases hcode : code.isEmpty with
  | true =>
    rw [serializeInto_of_isEmpty hcode] at h
    cases h
  | false =>
    rcases packs_or_faults hs s sources code with ⟨frame, hpacks⟩ | ⟨e', f, hpack, hreaches, hfault⟩
    · rw [serializeInto_eq_append, serializeInto_of_packs hs hcode hpacks] at h
      cases h
    · rw [serializeInto_fst_of_pack hcode hpack] at h
      obtain rfl := Except.error.inj h
      exact ⟨f, hreaches, hfault⟩

/-- What is serialized depends on the bytes of the carried fields alone. -/
theorem serialize_congr_of_encodeField {s' : Store schema} {sources' : Sources}
    (h : ∀ i ∈ schema.carried code, s'.encodeField sources' i = s.encodeField sources i)
    (buffer : Bytes) : s'.serialize sources' code buffer = s.serialize sources code buffer := by
  rw [serialize, serialize, pack_congr h]

/-- So it depends on their values alone. -/
theorem serialize_congr (hs : schema.Canonical) {s' : Store schema} {sources' : Sources}
    (h : ∀ f ∈ schema.frameFields code,
      s'.getByName sources' f.name = s.getByName sources f.name) (buffer : Bytes) :
    s'.serialize sources' code buffer = s.serialize sources code buffer := by
  apply serialize_congr_of_encodeField
  intro i hi
  obtain ⟨f, hf, hselects⟩ := hs.mem_carried.mp hi
  have hagree := h f (hs.mem_frameFields.mpr ⟨List.mem_of_getElem? hf, hselects⟩)
  rw [getByName_eq_get hs hf, getByName_eq_get hs hf] at hagree
  simp only [encodeField, hf, hagree]

end

/-- **Serializing gives the reference frame, and both writers agree on it.** The empty code has no
frame. Any other has one, of the length that its code calls for, exactly as long as there are bytes
for each of its fields: it goes over the front of a buffer that has room for it, or behind what a
buffer holds. Where a field refuses its value, the error is that of the first such field in frame
order, and nothing is appended. A buffer without room is left as it is, and only there is this the
error. Values of fields that the code does not carry have no influence. -/
theorem serialize_outcome {limits : SchemaLimits} {name : String} {declared : List Field}
    (hbuild : Schema.build limits name declared = .ok schema) (s : Store schema)
    (sources : Sources) (hsources : sources.Reliable) (code : MessageCode) :
    (code.isEmpty = true → ∀ buffer, s.serialize sources code buffer = (.ok 0, buffer) ∧
      s.serializeInto sources code buffer = (.ok 0, buffer)) ∧
    (code.isEmpty = false →
      (∀ buffer, buffer.length < schema.frameLen code → s.serialize sources code buffer =
        (.error (.bufferTooSmall (schema.frameLen code) buffer.length), buffer)) ∧
      ((∀ f ∈ schema.frameFields code, ∃ bytes, s.Encodes sources f bytes) →
        ∃ frame, s.IsFrame sources code frame ∧ frame.length = schema.frameLen code ∧
          (∀ buffer, schema.frameLen code ≤ buffer.length → s.serialize sources code buffer =
            (.ok (schema.frameLen code), frame ++ buffer.drop (schema.frameLen code))) ∧
          ∀ held, s.serializeInto sources code held = (.ok (schema.frameLen code), held ++ frame)) ∧
      ((¬ ∀ f ∈ schema.frameFields code, ∃ bytes, s.Encodes sources f bytes) →
        ∃ f e, s.Reaches sources (schema.frameFields code) f ∧ s.Misfits sources f e ∧
          (∀ buffer, schema.frameLen code ≤ buffer.length →
            (s.serialize sources code buffer).1 = .error e) ∧
          ∀ held, s.serializeInto sources code held = (.error e, held))) ∧
    (∀ held needed capacity,
      (s.serializeInto sources code held).1 ≠ .error (.bufferTooSmall needed capacity)) ∧
    ∀ (s' : Store schema) (sources' : Sources),
      (∀ f ∈ schema.frameFields code,
        s'.getByName sources' f.name = s.getByName sources f.name) →
      ∀ buffer, s'.serialize sources' code buffer = s.serialize sources code buffer ∧
        s'.serializeInto sources' code buffer = s.serializeInto sources code buffer := by
  have hs := Schema.build_eq_ok hbuild
  refine ⟨?_, ?_, ?_, ?_⟩
  · intro hcode buffer
    exact ⟨if_pos hcode, serializeInto_of_isEmpty hcode buffer⟩
  · intro hcode
    refine ⟨fun buffer hshort => serialize_of_lt hcode hshort, ?_, ?_⟩
    · intro hall
      rcases packs_or_faults hs s sources code with ⟨frame, hpacks⟩ | ⟨e, f, -, hreaches, hfault⟩
      · have hlength := hpacks.length_eq_frameLen hs hcode
        refine ⟨frame, hpacks.isFrame hs, hlength, ?_, ?_⟩
        · intro buffer hroom
          rw [← hlength] at hroom ⊢
          exact serialize_of_packs hs hcode hpacks hroom
        · intro held
          rw [serializeInto_eq_append, serializeInto_of_packs hs hcode hpacks, hlength]
      · obtain ⟨bytes, hbytes⟩ := hall f hreaches.mem
        exact absurd hfault hbytes.not_faults
    · intro hsome
      rcases packs_or_faults hs s sources code with
        ⟨frame, hpacks⟩ | ⟨e, f, hpack, hreaches, hfault⟩
      · exact absurd (fun f hf => (hpacks.isFrame hs).exists_encodes hf) hsome
      · have hmisfits := hfault.misfits_of_reliable hsources
        exact ⟨f, e, hreaches, hmisfits, fun _ hroom => serialize_of_pack hcode hpack hroom,
          fun held => serializeInto_of_error (serializeInto_fst_of_pack hcode hpack held)
            hmisfits.ne_crashed⟩
  · intro held needed capacity h
    obtain ⟨f, -, hfault⟩ := faults_of_serializeInto hs h
    rcases hfault.eq_crashed_or_refusal with hcrash | ⟨r, hrefusal⟩
    · cases hcrash
    · cases hrefusal
  · intro s' sources' hagree buffer
    have hserialize := serialize_congr hs hagree
    refine ⟨hserialize buffer, ?_⟩
    simp only [serializeInto, hserialize]

/-- The fast tier and event 1 of the scenario layout, with the first field linked. If its source
yields what fits, the frame goes over the front of a buffer or behind what a buffer holds, and
otherwise both writers tell that the field is at fault. -/
theorem serialize_outcome_scenario :
    let schema : Schema := ⟨"scenario", Schema.scenarioFields⟩
    let yielding : UInt64 → Sources := fun n _ => .yields (.unsigned n)
    let s : Store schema := ⟨#v[.linked "gauge", .owned (.unsigned 5), .owned (.unsigned 6),
      .owned (.unsigned 7)]⟩
    let code := MessageCode.ofNat 17
    code.isEmpty = false ∧ (yielding 300).Reliable ∧ (yielding 65536).Reliable ∧
      (∃ frame, s.IsFrame (yielding 300) code frame ∧ frame.length = 7 ∧
        s.serialize (yielding 300) code (List.replicate 9 255) = (.ok 7, frame ++ [255, 255]) ∧
        s.serializeInto (yielding 300) code [1, 2] = (.ok 7, [1, 2] ++ frame)) ∧
      s.serialize (yielding 65536) code [0, 0, 0] = (.error (.bufferTooSmall 7 3), [0, 0, 0]) ∧
      ∃ f e, s.Misfits (yielding 65536) f e ∧
        s.serializeInto (yielding 65536) code [1, 2] = (.error e, [1, 2]) := by
  intro schema yielding s code
  have hbuild : Schema.build {} "scenario" Schema.scenarioFields = .ok schema :=
    Schema.build_scenario
  have hcode : code.isEmpty = false := by decide
  have hreliable : ∀ n, (yielding n).Reliable := fun n source hread => nomatch hread
  have hlength : schema.frameLen code = 7 := by decide +kernel
  have hfields : schema.frameFields code = [Schema.periodicField .fast "a" (.unsigned .w16),
      Schema.periodicField .fast "b" (.unsigned .w16),
      Schema.conditionalField "c" 1 (.unsigned .w8)] := by decide +kernel
  obtain ⟨-, hgood, -, -⟩ := serialize_outcome hbuild s (yielding 300) (hreliable 300) code
  obtain ⟨-, hbad, -, -⟩ := serialize_outcome hbuild s (yielding 65536) (hreliable 65536) code
  obtain ⟨-, hframe, -⟩ := hgood hcode
  obtain ⟨hshort, -, hfirst⟩ := hbad hcode
  rw [hlength] at hframe hshort
  have hall : ∀ f ∈ schema.frameFields code, ∃ bytes, s.Encodes (yielding 300) f bytes := by
    simp only [hfields, List.forall_mem_cons]
    exact ⟨⟨[44, 1], .unsigned 300, by decide +kernel⟩, ⟨[5, 0], .unsigned 5, by decide +kernel⟩,
      ⟨[7], .unsigned 7, by decide +kernel⟩, nofun⟩
  have hsome : ¬ ∀ f ∈ schema.frameFields code, ∃ bytes, s.Encodes (yielding 65536) f bytes := by
    simp only [hfields, List.forall_mem_cons]
    rintro ⟨⟨bytes, r, hr, hencode⟩, -⟩
    have hmisfits : s.Misfits (yielding 65536) (Schema.periodicField .fast "a" (.unsigned .w16))
        (.valueOutOfRange "a" "65536" "u16") := ⟨.unsigned 65536, by decide +kernel⟩
    exact Encodes.not_faults ⟨r, hr, hencode⟩ (.misfits hmisfits)
  obtain ⟨frame, hisFrame, hlen, hover, hbehind⟩ := hframe hall
  obtain ⟨f, e, -, hmisfits, -, hkept⟩ := hfirst hsome
  exact ⟨hcode, hreliable 300, hreliable 65536, ⟨frame, hisFrame, hlen,
    hover (List.replicate 9 255) (by decide), hbehind [1, 2]⟩, hshort [0, 0, 0] (by decide), f, e,
    hmisfits, hkept [1, 2]⟩

end Store

end Telemetry
