import Telemetry.Proofs.Frame.Acceptance
import Telemetry.Proofs.Frame.WireImage
/-!
# Telemetry.Proofs.Frame.RoundTrip

**A frame brings across what was packed into it.** The writer and the reader walk the same
list of indices with cursors of their own. `unpack_pack` keeps the two cursors together,
field by field; the rest follows from it:

* `Store.Packs` says that some bytes are the frame of a code, and what is known of them:
  their length, their header and the updates that are read from them.
* applying a frame changes the fields that its code selects and no other
  (`getElem?_slots_apply`).

The main statement is `deserialize_serialize`.
-/

namespace Telemetry

/-! ### Putting updates into a store -/

namespace DecodedFrame

variable {schema : Schema}

theorem apply_cons (code : MessageCode) (i : Nat) (r : Reading) (rest : List (Nat × Reading))
    (s : Store schema) :
    (⟨code, (i, r) :: rest⟩ : DecodedFrame).apply s =
      (⟨code, rest⟩ : DecodedFrame).apply (s.put i r) :=
  rfl

/-- A frame leaves the slots alone that it has no update for. -/
theorem getElem?_slots_apply_of_not_mem (frame : DecodedFrame) (s : Store schema) {i : Nat}
    (hi : i ∉ frame.updates.map Prod.fst) : (frame.apply s).slots[i]? = s.slots[i]? := by
  obtain ⟨code, updates⟩ := frame
  induction updates generalizing s with
  | nil => rfl
  | cons u rest ih =>
    obtain ⟨j, r⟩ := u
    rw [List.map_cons, List.mem_cons, not_or] at hi
    rw [apply_cons, ih _ hi.2, Store.getElem?_slots_put, if_neg (Ne.symm hi.1)]

/-- An update that is the only one of its field ends up in the store. -/
theorem getElem?_slots_apply_of_mem (frame : DecodedFrame) (s : Store schema) {i : Nat}
    {r : Reading} (hnodup : (frame.updates.map Prod.fst).Nodup)
    (hi : i < schema.fields.length) (hmem : (i, r) ∈ frame.updates) :
    (frame.apply s).slots[i]? = some (.owned r) := by
  obtain ⟨code, updates⟩ := frame
  induction updates generalizing s with
  | nil => exact absurd hmem List.not_mem_nil
  | cons u rest ih =>
    obtain ⟨j, r'⟩ := u
    rw [List.map_cons, List.nodup_cons] at hnodup
    rw [apply_cons]
    rcases List.mem_cons.mp hmem with heq | hrest
    · -- the later updates are of other fields
      obtain ⟨rfl, rfl⟩ := Prod.mk.inj heq
      rw [getElem?_slots_apply_of_not_mem ⟨code, rest⟩ _ hnodup.1, Store.getElem?_slots_put,
        if_pos rfl, if_pos hi]
    · exact ih _ hnodup.2 hrest

end DecodedFrame

/-! ### Packing and reading back -/

namespace Store

variable {schema : Schema}

/-- The reading that the other end decodes from a field of this store. -/
def Sends (s : Store schema) (sources : Sources) (i : Nat) (image : Reading) : Prop :=
  ∃ f r bytes, schema.fields[i]? = some f ∧ s.get sources i = .ok r ∧
    r.encode f = .ok bytes ∧ image = Reading.decode f.kind bytes

/-- What is put into another field does not matter. -/
theorem Sends.put_of_ne {s : Store schema} {sources : Sources} {i j : Nat} {image r : Reading}
    (h : s.Sends sources i image) (hji : j ≠ i) : (s.put j r).Sends sources i image := by
  obtain ⟨f, r', bytes, hf, hget, hencode, himage⟩ := h
  refine ⟨f, r', bytes, hf, ?_, hencode, himage⟩
  rw [get, getElem?_slots_put, if_neg hji]
  exact hget

theorem encodeField_eq_ok {s : Store schema} {sources : Sources} {i : Nat} {f : Field}
    {bytes : Bytes} (hf : schema.fields[i]? = some f)
    (h : s.encodeField sources i = .ok bytes) :
    ∃ r, s.get sources i = .ok r ∧ r.encode f = .ok bytes := by
  simp only [encodeField, hf] at h
  cases hr : s.get sources i with
  | error e => simp [hr] at h
  | ok r =>
    simp only [hr] at h
    exact ⟨r, rfl, h⟩

theorem pack_cons_eq_ok {s : Store schema} {sources : Sources} {i : Nat} {rest : List Nat}
    {payload : Bytes} (h : s.pack sources (i :: rest) = (payload, .ok ())) :
    ∃ bytes more, s.encodeField sources i = .ok bytes ∧
      s.pack sources rest = (more, .ok ()) ∧ payload = bytes ++ more := by
  unfold pack at h
  cases hb : s.encodeField sources i with
  | error e => simp [hb] at h
  | ok bytes =>
    simp only [hb] at h
    obtain ⟨hpayload, hrest⟩ := Prod.mk.inj h
    exact ⟨bytes, (s.pack sources rest).1, rfl, Prod.ext rfl hrest, hpayload.symm⟩

/-- **The two cursors agree.** What was packed takes the bytes of its fields, and reading it
back gives for each field what the store sends, whatever follows. -/
theorem unpack_pack {s : Store schema} {sources : Sources} {l : List Nat} {payload : Bytes}
    (hl : schema.InRange l) (h : s.pack sources l = (payload, .ok ())) (rest : Bytes) :
    payload.length = schema.payloadSize l ∧
      ∀ u ∈ schema.unpack l (payload ++ rest), s.Sends sources u.1 u.2 := by
  induction l generalizing payload with
  | nil =>
    rw [pack, Prod.mk.injEq] at h
    rw [← h.1]
    exact ⟨rfl, fun u hu => absurd hu List.not_mem_nil⟩
  | cons i l ih =>
    obtain ⟨f, hf⟩ := hl i List.mem_cons_self
    obtain ⟨bytes, more, hbytes, hmore, rfl⟩ := pack_cons_eq_ok h
    obtain ⟨r, hr, hencode⟩ := encodeField_eq_ok hf hbytes
    obtain ⟨hlength, hrest⟩ := ih hl.tail hmore
    have hsize : bytes.length = f.size := (Reading.decode_encode hencode).1
    rw [Schema.payloadSize_cons hf, Schema.unpack_cons hf, List.append_assoc, ← hsize,
      List.take_left, List.drop_left]
    refine ⟨by rw [List.length_append, hlength], ?_⟩
    rintro u hu
    rcases List.mem_cons.mp hu with rfl | hu
    · exact ⟨f, r, bytes, hf, hr, hencode, rfl⟩
    · exact hrest u hu

/-- The bytes are the frame of a code. -/
def Packs (s : Store schema) (sources : Sources) (code : MessageCode) (frame : Bytes) :
    Prop :=
  ∃ payload, s.pack sources (schema.carried code) = (payload, .ok ()) ∧
    frame = code.toBytes ++ payload

namespace Packs

variable {s : Store schema} {sources : Sources} {code : MessageCode} {frame : Bytes}

theorem headerOf_eq (h : s.Packs sources code frame) : Schema.headerOf frame = code := by
  obtain ⟨payload, -, rfl⟩ := h
  exact MessageCode.ofBytes_toBytes code

theorem length_eq (h : s.Packs sources code frame) (hs : schema.Canonical) :
    frame.length = schema.impliedLen code := by
  obtain ⟨payload, hpack, rfl⟩ := h
  obtain ⟨hlength, -⟩ := unpack_pack (hs.inRange_carried code) hpack []
  rw [List.length_append, hlength, hs.impliedLen_eq]
  rfl

theorem length_eq_frameLen (h : s.Packs sources code frame) (hs : schema.Canonical)
    (hcode : code.isEmpty = false) : frame.length = schema.frameLen code := by
  rw [h.length_eq hs, hs.impliedLen_eq, Schema.frameLen, hcode, if_neg Bool.false_ne_true]

theorem decodeFrame_eq (h : s.Packs sources code frame) (hs : schema.Canonical)
    {config : FrameConfig} (hmax : frame.length ≤ config.maxFrameSize) :
    schema.decodeFrame config frame = .ok (schema.frameOf frame) := by
  have hlength := h.length_eq hs
  apply Schema.decodeFrame_eq_ok hmax
  · rw [h.headerOf_eq, hlength]
  · rw [h.headerOf_eq, hlength]
    exact fun hlt => absurd hlt (Nat.lt_irrefl _)

theorem sends_of_mem (h : s.Packs sources code frame) (hs : schema.Canonical)
    {u : Nat × Reading} (hu : u ∈ (schema.frameOf frame).updates) :
    s.Sends sources u.1 u.2 := by
  have hheader := h.headerOf_eq
  obtain ⟨payload, hpack, rfl⟩ := h
  have hupdates : (schema.frameOf (code.toBytes ++ payload)).updates =
      schema.unpack (schema.carried code) (payload ++ []) := by
    rw [Schema.frameOf, hheader, List.append_nil]
    rfl
  rw [hupdates] at hu
  exact (unpack_pack (hs.inRange_carried code) hpack []).2 u hu

/-- A packed frame gives each field that its code selects what the store sends, and leaves
every other slot alone. -/
theorem getElem?_slots_apply (h : s.Packs sources code frame) (hs : schema.Canonical)
    (receiver : Store schema) {i : Nat} {f : Field} (hf : schema.fields[i]? = some f) :
    (code.selects f = true → ∃ image, s.Sends sources i image ∧
      ((schema.frameOf frame).apply receiver).slots[i]? = some (.owned image)) ∧
    (code.selects f = false →
      ((schema.frameOf frame).apply receiver).slots[i]? = receiver.slots[i]?) := by
  have hcode : (schema.frameOf frame).code = code := h.headerOf_eq
  have hreads : schema.Reads frame (schema.impliedLen (Schema.headerOf frame))
      (schema.frameOf frame) :=
    hs.reads_frameOf (by rw [h.headerOf_eq, h.length_eq hs])
  have hselected : i ∈ (schema.frameOf frame).updates.map Prod.fst ↔ code.selects f = true := by
    rw [hreads.selected, hcode]
    constructor
    · rintro ⟨g, hg, hsel⟩
      obtain rfl : f = g := Option.some.inj (hf.symm.trans hg)
      exact hsel
    · exact fun hsel => ⟨f, hf, hsel⟩
  constructor
  · intro hsel
    obtain ⟨⟨j, image⟩, hmem, rfl⟩ := List.mem_map.mp (hselected.mpr hsel)
    have hlt := (List.getElem?_eq_some_iff.mp hf).1
    exact ⟨image, h.sends_of_mem hs hmem,
      DecodedFrame.getElem?_slots_apply_of_mem _ _ hreads.nodup hlt hmem⟩
  · intro hsel
    apply DecodedFrame.getElem?_slots_apply_of_not_mem
    rw [hselected, hsel]
    exact Bool.false_ne_true

end Packs

/-! ### Serializing -/

/-- The frame of a code is written over the front of a buffer with room for it. -/
theorem serialize_of_packs {s : Store schema} {sources : Sources} {code : MessageCode}
    {frame buffer : Bytes} (hs : schema.Canonical) (hcode : code.isEmpty = false)
    (h : s.Packs sources code frame) (hroom : frame.length ≤ buffer.length) :
    s.serialize sources code buffer = (.ok frame.length, frame ++ buffer.drop frame.length) := by
  have hlength := h.length_eq_frameLen hs hcode
  obtain ⟨payload, hpack, rfl⟩ := h
  unfold serialize
  rw [hcode, if_neg Bool.false_ne_true]
  dsimp only
  rw [if_neg (by omega), hpack]
  rfl

/-- Serializing that succeeds puts the frame of the code at the front of the buffer. -/
theorem serialize_eq_ok {s : Store schema} {sources : Sources} {code : MessageCode}
    {buffer : Bytes} {n : Nat} (hcode : code.isEmpty = false)
    (h : (s.serialize sources code buffer).1 = .ok n) :
    s.Packs sources code ((s.serialize sources code buffer).2.take n) ∧
      n = ((s.serialize sources code buffer).2.take n).length := by
  unfold serialize at h ⊢
  rw [if_neg (by rw [hcode]; exact Bool.false_ne_true)] at h ⊢
  dsimp only at h ⊢
  split at h
  · exact absurd h (by simp)
  · rename_i hfits
    rw [if_neg hfits]
    generalize hpack : s.pack sources (schema.carried code) = packed at h ⊢
    obtain ⟨payload, outcome⟩ := packed
    cases outcome with
    | error e => exact absurd h (by simp [Except.map])
    | ok u =>
      obtain rfl : (code.toBytes ++ payload).length = n := Except.ok.inj h
      dsimp only
      rw [List.take_left]
      exact ⟨⟨payload, hpack, rfl⟩, rfl⟩

/-- **Deserializing undoes serializing.** What a store serializes, another store over the
same schema accepts under its code. Afterwards each field that the code selects holds the
wire image of the sender's value, and every other slot is as it was, linked or not. -/
theorem deserialize_serialize {limits : SchemaLimits} {name : String} {declared : List Field}
    (hbuild : Schema.build limits name declared = .ok schema) (sender receiver : Store schema)
    (sources : Sources) {code : MessageCode} (hcode : code.isEmpty = false) {buffer : Bytes}
    {n : Nat} (hserialize : (sender.serialize sources code buffer).1 = .ok n)
    (config : FrameConfig) (hmax : n ≤ config.maxFrameSize) :
    ∃ after : Store schema,
      receiver.deserialize config ((sender.serialize sources code buffer).2.take n) =
        (.ok code, after) ∧
      ∀ i f, schema.fields[i]? = some f →
        (code.selects f = true → ∃ r image, sender.get sources i = .ok r ∧
          Reading.WireImage f.kind r image ∧ after.slots[i]? = some (.owned image)) ∧
        (code.selects f = false → after.slots[i]? = receiver.slots[i]?) := by
  have hcanonical := Schema.build_eq_ok hbuild
  obtain ⟨hpacks, hlength⟩ := serialize_eq_ok hcode hserialize
  generalize (sender.serialize sources code buffer).2.take n = frame at hpacks hlength ⊢
  have hdecode : schema.decodeFrame config frame = .ok (schema.frameOf frame) :=
    hpacks.decodeFrame_eq hcanonical (by rw [← hlength]; exact hmax)
  refine ⟨(schema.frameOf frame).apply receiver, ?_, fun i f hf => ?_⟩
  · rw [deserialize, hdecode]
    exact congrArg (fun c => (Except.ok c, _)) hpacks.headerOf_eq
  · obtain ⟨hcarried, hkept⟩ := hpacks.getElem?_slots_apply hcanonical receiver hf
    refine ⟨fun hselects => ?_, hkept⟩
    obtain ⟨image, ⟨g, r, bytes, hg, hget, hencode, rfl⟩, hslot⟩ := hcarried hselects
    obtain rfl : f = g := Option.some.inj (hf.symm.trans hg)
    exact ⟨r, _, hget, (Reading.decode_encode hencode).2, hslot⟩

/-- The fast tier of the scenario layout with its first field linked. The frame reaches a
receiver whose own link it replaces, and whose event field it leaves alone. -/
theorem deserialize_serialize_scenario :
    let schema : Schema := ⟨"scenario", Schema.scenarioFields⟩
    let sources : Sources := fun _ => .yields (.signed 300)
    let sender : Store schema := ⟨#v[.linked "a", .owned (.unsigned 5), .owned (.unsigned 6),
      .owned (.unsigned 7)]⟩
    let receiver : Store schema := ⟨#v[.owned (.unsigned 0), .linked "b", .owned (.unsigned 0),
      .linked "c"]⟩
    let code := MessageCode.ofNat 1
    let serialized := sender.serialize sources code (List.replicate 8 0)
    serialized.1 = .ok 6 ∧ ∃ after : Store schema,
      receiver.deserialize {} (serialized.2.take 6) = (.ok code, after) ∧
        (∃ r image, sender.get sources 0 = .ok r ∧
          Reading.WireImage (.unsigned .w16) r image ∧ after.slots[0]? = some (.owned image)) ∧
        after.slots[3]? = some (.linked "c") := by
  intro schema sources sender receiver code serialized
  have hbuild : Schema.build {} "scenario" Schema.scenarioFields = .ok schema :=
    Schema.build_scenario
  have hserialize : serialized.1 = .ok 6 := by decide +kernel
  obtain ⟨after, hafter, hslots⟩ := deserialize_serialize hbuild sender receiver sources
    (by decide) hserialize {} (by decide)
  refine ⟨hserialize, after, hafter, (hslots 0 _ rfl).1 (by decide), ?_⟩
  exact (hslots 3 _ rfl).2 (by decide)

end Store

end Telemetry
