import Telemetry.Proofs.Frame.Reencoding
import Telemetry.Proofs.Frame.RoundTrip
import Telemetry.Proofs.Store.Refusals
import Telemetry.Schema.Variants
/-!
# Telemetry.Proofs.Store.Encodable

**Can a store send what it owns?** Values that are set are checked, linked fields are not
owned, and values that come off the wire are taken without a check. The last is sound as
long as every decoded value can be encoded again, which for a quantized field depends on
its scale and bias (`FieldKind.RangeEncodes`).

`Store.Encodable` is the invariant: each of `Store.Write` keeps it if all fields have this
property. If one does not, a single frame breaks it. Both directions together are
`writes_encodable_iff`.
-/

namespace Telemetry

/-! ### Frames -/

/-- All fields of the schema can send every value that they can receive. -/
def Schema.RangesEncode (s : Schema) : Prop := ∀ f ∈ s.fields, f.kind.RangeEncodes

/-- The readings of a frame can be encoded again in their fields. -/
theorem Schema.RangesEncode.encodes_of_mem_unpack {s : Schema} (h : s.RangesEncode) {l : List Nat}
    {payload : Bytes} {u : Nat × Reading} (hu : u ∈ s.unpack l payload) {f : Field}
    (hf : s.fields[u.1]? = some f) : u.2.Encodes f := by
  induction l generalizing payload with
  | nil => exact absurd hu List.not_mem_nil
  | cons i rest ih =>
    cases hi : s.fields[i]? with
    | none =>
      rw [unpack, hi] at hu
      exact ih hu
    | some g =>
      rw [unpack_cons hi] at hu
      rcases List.mem_cons.mp hu with rfl | hu
      · obtain rfl : f = g := Option.some.inj (hf.symm.trans hi)
        exact Reading.encodes_decode (h f (List.mem_of_getElem? hf)) (List.length_take_le _ _)
      · exact ih hu

/-- The bytes of a frame that selects everything and has all bits set. -/
def Schema.fullFrame (s : Schema) : Bytes :=
  255 :: 255 :: List.replicate (s.payloadSize (s.carried (.ofBytes 255 255))) 255

theorem Schema.mem_unpack_replicate {s : Schema} {l : List Nat} (hl : s.InRange l) (b : UInt8)
    {i : Nat} {f : Field} (hf : s.fields[i]? = some f) (hi : i ∈ l) :
    (i, Reading.decode f.kind (List.replicate f.size b)) ∈
      s.unpack l (List.replicate (s.payloadSize l) b) := by
  induction l with
  | nil => exact absurd hi List.not_mem_nil
  | cons j rest ih =>
    obtain ⟨g, hg⟩ := hl j List.mem_cons_self
    rw [payloadSize_cons hg, unpack_cons hg, List.take_replicate, List.drop_replicate,
      Nat.min_eq_left (Nat.le_add_right _ _), Nat.add_sub_cancel_left]
    rcases List.mem_cons.mp hi with rfl | hi
    · obtain rfl : f = g := Option.some.inj (hf.symm.trans hg)
      exact List.mem_cons_self
    · exact List.mem_cons_of_mem _ (ih hl.tail hi)

namespace Store

variable {schema : Schema}

/-! ### Writes -/

/-- What changes a store. -/
inductive Write
  | set (index : Nat) (r : Reading)
  | setByName (name : String) (r : Reading)
  | link (index : Nat) (source : String)
  | deserialize (config : FrameConfig) (frame : Bytes)

/-- The store after a change that may have been refused. -/
def orKeep (s : Store schema) : Except FrameError (Store schema) → Store schema
  | .ok after => after
  | .error _ => s

/-- The store after a write. A refused one leaves it as it was. -/
def write (s : Store schema) : Write → Store schema
  | .set index r => s.orKeep (s.set index r)
  | .setByName name r => s.orKeep (s.setByName name r)
  | .link index source => s.orKeep (s.link index source)
  | .deserialize config frame => (s.deserialize config frame).2

/-- The store after some writes, the first one first. -/
def writes (s : Store schema) (ws : List Write) : Store schema := ws.foldl write s

/-- Every value that the store owns has an encoding in its field. -/
def Encodable (s : Store schema) : Prop :=
  ∀ (i : Nat) (f : Field) (r : Reading), schema.fields[i]? = some f →
    s.slots[i]? = some (.owned r) → r.Encodes f

/-! ### Each write keeps it -/

theorem encodable_initial (hs : schema.Canonical) : (initial schema).Encodable := by
  intro i f r hf hslot
  rw [getElem?_slots_initial, hf] at hslot
  obtain rfl : Reading.initial f.kind = r := by simpa using hslot
  exact Reading.encodes_initial (hs.valid f (List.mem_of_getElem? hf)).usable

/-- Putting a value into a field keeps the store encodable if the field can encode it. -/
theorem Encodable.put {s : Store schema} (h : s.Encodable) {i : Nat} {r : Reading}
    (hr : ∀ f, schema.fields[i]? = some f → r.Encodes f) : (s.put i r).Encodable := by
  intro j f r' hf hslot
  rw [getElem?_slots_put] at hslot
  by_cases hij : i = j
  · subst hij
    have hlt := (List.getElem?_eq_some_iff.mp hf).1
    rw [if_pos rfl, if_pos hlt] at hslot
    obtain rfl : r = r' := by simpa using hslot
    exact hr f hf
  · rw [if_neg hij] at hslot
    exact h j f r' hf hslot

/-- A value is set only after it has been encoded. -/
theorem set_eq_ok {s after : Store schema} {i : Nat} {r : Reading}
    (h : s.set i r = .ok after) :
    ∃ f, schema.fields[i]? = some f ∧ r.Encodes f ∧ after = s.put i r := by
  unfold set at h
  cases hf : schema.fields[i]? with
  | none => simp [hf] at h
  | some f =>
    cases hr : r.encode f with
    | error e => simp [hf, hr] at h
    | ok bytes =>
      simp only [hf, hr] at h
      exact ⟨f, rfl, ⟨bytes, hr⟩, (Except.ok.inj h).symm⟩

/-- A value that its field can encode is set. -/
theorem set_of_encodes {s : Store schema} {i : Nat} {f : Field} {r : Reading}
    (hf : schema.fields[i]? = some f) (hr : r.Encodes f) : s.set i r = .ok (s.put i r) := by
  obtain ⟨bytes, hbytes⟩ := hr
  simp [set, hf, hbytes]

/-- A name stands for the one field that has it. -/
theorem setByName_eq_ok_iff (hs : schema.Canonical) {s after : Store schema} {name : String}
    {r : Reading} : s.setByName name r = .ok after ↔
      ∃ i f, schema.fields[i]? = some f ∧ f.name = name ∧ r.Encodes f ∧ after = s.put i r := by
  unfold Store.setByName index
  constructor
  · intro h
    cases hi : schema.indexOf? name with
    | none => simp [hi] at h
    | some i =>
      simp only [hi] at h
      obtain ⟨f, hf, hencodes, rfl⟩ := set_eq_ok h
      obtain ⟨g, hg, hname⟩ := hs.indexOf?_eq_some_iff.mp hi
      obtain rfl : f = g := Option.some.inj (hf.symm.trans hg)
      exact ⟨i, f, hf, hname, hencodes, rfl⟩
  · rintro ⟨i, f, hf, rfl, ⟨bytes, hbytes⟩, rfl⟩
    rw [hs.indexOf?_name hf]
    simp [set, hf, hbytes]

theorem Encodable.set {s after : Store schema} (h : s.Encodable) {i : Nat} {r : Reading}
    (hset : s.set i r = .ok after) : after.Encodable := by
  obtain ⟨f, hf, hr, rfl⟩ := set_eq_ok hset
  apply h.put
  intro g hg
  obtain rfl : f = g := Option.some.inj (hf.symm.trans hg)
  exact hr

theorem Encodable.link {s after : Store schema} (h : s.Encodable) {i : Nat} {source : String}
    (hlink : s.link i source = .ok after) : after.Encodable := by
  unfold Store.link at hlink
  split at hlink
  · obtain rfl := Except.ok.inj hlink
    intro j f r hf hslot
    rw [Vector.getElem?_setIfInBounds] at hslot
    by_cases hij : i = j
    · simp [hij] at hslot
    · rw [if_neg hij] at hslot
      exact h j f r hf hslot
  · exact absurd hlink (by simp)

theorem Encodable.apply {s : Store schema} (h : s.Encodable) {frame : DecodedFrame}
    (hframe : ∀ u ∈ frame.updates, ∀ f, schema.fields[u.1]? = some f → u.2.Encodes f) :
    (frame.apply s).Encodable := by
  obtain ⟨code, updates⟩ := frame
  induction updates generalizing s with
  | nil => exact h
  | cons u rest ih =>
    rw [DecodedFrame.apply_cons]
    apply ih
    · exact h.put (hframe u List.mem_cons_self)
    · exact fun v hv => hframe v (List.mem_cons_of_mem u hv)

theorem Encodable.deserialize {s : Store schema} (h : s.Encodable) (hranges : schema.RangesEncode)
    (config : FrameConfig) (frame : Bytes) : (s.deserialize config frame).2.Encodable := by
  unfold Store.deserialize
  cases hdecode : schema.decodeFrame config frame with
  | error e => exact h
  | ok decoded =>
    obtain rfl := Schema.eq_frameOf_of_decodeFrame hdecode
    exact h.apply fun u hu f hf => hranges.encodes_of_mem_unpack hu hf

theorem Encodable.setByName {s after : Store schema} (h : s.Encodable) {name : String}
    {r : Reading} (hset : s.setByName name r = .ok after) : after.Encodable := by
  unfold Store.setByName at hset
  cases hi : index schema name with
  | error e => simp [hi] at hset
  | ok i =>
    simp only [hi] at hset
    exact h.set hset

theorem Encodable.orKeep {s : Store schema} (h : s.Encodable)
    {outcome : Except FrameError (Store schema)}
    (hok : ∀ after, outcome = .ok after → after.Encodable) : (s.orKeep outcome).Encodable := by
  cases outcome with
  | ok after => exact hok after rfl
  | error e => exact h

/-- **No write makes a store unencodable**, if its fields can send what they can receive. -/
theorem Encodable.write {s : Store schema} (h : s.Encodable) (hranges : schema.RangesEncode)
    (w : Write) : (s.write w).Encodable := by
  cases w with
  | set i r => exact h.orKeep fun _ hset => h.set hset
  | setByName name r => exact h.orKeep fun _ hset => h.setByName hset
  | link i source => exact h.orKeep fun _ hlink => h.link hlink
  | deserialize config frame => exact h.deserialize hranges config frame

theorem Encodable.writes {s : Store schema} (h : s.Encodable) (hranges : schema.RangesEncode)
    (ws : List Write) : (s.writes ws).Encodable := by
  induction ws generalizing s with
  | nil => exact h
  | cons w rest ih => exact ih (h.write hranges w)

/-! ### What can still fail -/

theorem pack_eq_error {s : Store schema} {sources : Sources} {l : List Nat} {e : FrameError}
    (h : (s.pack sources l).2 = .error e) : ∃ i ∈ l, s.encodeField sources i = .error e := by
  induction l with
  | nil => cases h
  | cons i rest ih =>
    unfold pack at h
    cases hi : s.encodeField sources i with
    | error e' =>
      simp only [hi] at h
      cases h
      exact ⟨i, List.mem_cons_self, hi⟩
    | ok bytes =>
      simp only [hi] at h
      obtain ⟨j, hj, hfail⟩ := ih h
      exact ⟨j, List.mem_cons_of_mem i hj, hfail⟩

/-- With room for the frame, serializing fails only at a field that it carries. -/
theorem serialize_eq_error {s : Store schema} {sources : Sources} {code : MessageCode}
    {buffer : Bytes} {e : FrameError} (hroom : schema.frameLen code ≤ buffer.length)
    (h : (s.serialize sources code buffer).1 = .error e) :
    ∃ i ∈ schema.carried code, s.encodeField sources i = .error e := by
  unfold serialize at h
  split at h
  · cases h
  · dsimp only at h
    rw [if_neg (Nat.not_lt.mpr hroom)] at h
    apply pack_eq_error
    cases hpack : (s.pack sources (schema.carried code)).2 with
    | ok u =>
      rw [hpack] at h
      cases h
    | error e' =>
      rw [hpack] at h
      cases h
      rfl

/-- A field of an encodable store that fails to encode is a linked one. -/
theorem Encodable.exists_linked {s : Store schema} (h : s.Encodable) {sources : Sources}
    {i : Nat} {f : Field} {e : FrameError} (hf : schema.fields[i]? = some f)
    (hfail : s.encodeField sources i = .error e) :
    ∃ source, s.slots[i]? = some (.linked source) := by
  obtain ⟨slot, hslot⟩ := s.exists_slot hf
  cases slot with
  | linked source => exact ⟨source, hslot⟩
  | owned r =>
    obtain ⟨bytes, hbytes⟩ := h i f r hf hslot
    simp [encodeField, hf, get, hslot, readSlot, hbytes] at hfail

/-! ### Stores without linked fields -/

/-- No field is linked. -/
def Unlinked (s : Store schema) : Prop :=
  ∀ (i : Nat) (source : String), s.slots[i]? ≠ some (.linked source)

theorem unlinked_initial (schema : Schema) : (initial schema).Unlinked := by
  intro i source h
  rw [getElem?_slots_initial] at h
  cases hf : schema.fields[i]? <;> simp [hf] at h

theorem Unlinked.put {s : Store schema} (h : s.Unlinked) (i : Nat) (r : Reading) :
    (s.put i r).Unlinked := by
  intro j source hslot
  rw [getElem?_slots_put] at hslot
  split at hslot
  · split at hslot <;> cases hslot
  · exact h j source hslot

theorem Unlinked.apply {s : Store schema} (h : s.Unlinked) (frame : DecodedFrame) :
    (frame.apply s).Unlinked := by
  obtain ⟨code, updates⟩ := frame
  induction updates generalizing s with
  | nil => exact h
  | cons u rest ih =>
    rw [DecodedFrame.apply_cons]
    exact ih (h.put u.1 u.2)

/-- **An encodable store without linked fields can send every frame.** -/
theorem Encodable.exists_packs {s : Store schema} (h : s.Encodable) (hlinked : s.Unlinked)
    (hs : schema.Canonical) (sources : Sources) (code : MessageCode) :
    ∃ frame, s.Packs sources code frame := by
  -- packing ends early only at a linked field, and there is none
  cases houtcome : (s.pack sources (schema.carried code)).2 with
  | ok u => exact ⟨_, _, Prod.ext rfl houtcome, rfl⟩
  | error e =>
    obtain ⟨i, hi, hfail⟩ := pack_eq_error houtcome
    obtain ⟨f, hf⟩ := hs.getElem?_of_mem_carried hi
    obtain ⟨source, hsource⟩ := h.exists_linked hf hfail
    exact absurd hsource (hlinked i source)

/-! ### A frame that stores the largest raw numbers -/

theorem getElem?_slots_deserialize_fullFrame (hs : schema.Canonical) (s : Store schema)
    {i : Nat} {f : Field} (hf : schema.fields[i]? = some f) :
    (s.deserialize ⟨schema.fullFrame.length, true⟩ schema.fullFrame).2.slots[i]? =
      some (.owned (Reading.decode f.kind (List.replicate f.size 255))) := by
  have hheader : Schema.headerOf schema.fullFrame = .ofBytes 255 255 := rfl
  have hlength : schema.fullFrame.length = schema.impliedLen (.ofBytes 255 255) := by
    rw [hs.impliedLen_eq, Schema.fullFrame, List.length_cons, List.length_cons,
      List.length_replicate, Nat.add_comm headerSize]
    rfl
  have hdecode : schema.decodeFrame ⟨schema.fullFrame.length, true⟩ schema.fullFrame =
      .ok (schema.frameOf schema.fullFrame) := by
    apply Schema.decodeFrame_eq_ok (Nat.le_refl _)
    · rw [hheader, hlength]
    · rw [hheader, hlength]
      exact fun hlt => absurd hlt (Nat.lt_irrefl _)
  have hrange := hs.inRange_carried (.ofBytes 255 255)
  have hcarried : i ∈ schema.carried (.ofBytes 255 255) :=
    hs.mem_carried.mpr
      ⟨f, hf, MessageCode.selects_full (hs.valid f (List.mem_of_getElem? hf))⟩
  rw [deserialize, hdecode]
  apply DecodedFrame.getElem?_slots_apply_of_mem
  · have hfst : (schema.frameOf schema.fullFrame).updates.map Prod.fst =
        schema.carried (.ofBytes 255 255) := Schema.map_fst_unpack hrange _
    rw [hfst]
    exact hs.nodup_carried _
  · exact (List.getElem?_eq_some_iff.mp hf).1
  · exact Schema.mem_unpack_replicate hrange 255 hf hcarried

/-- All bits set are the largest raw number. -/
theorem natOfBytes_replicate (raw : RawWidth) :
    natOfBytes (List.replicate raw.bytes 255) = raw.maxRaw := by
  cases raw <;> decide

theorem rangeEncodes_of_encodable_fullFrame (hs : schema.Canonical) {s : Store schema}
    (h : (s.deserialize ⟨schema.fullFrame.length, true⟩ schema.fullFrame).2.Encodable) :
    schema.RangesEncode := by
  intro f hmem
  obtain ⟨i, hf⟩ := List.getElem?_of_mem hmem
  have hencodes := h i f _ hf (getElem?_slots_deserialize_fullFrame hs s hf)
  have husable := (hs.valid f hmem).usable
  cases hk : f.kind with
  | unsigned w | signed w | single | double => trivial
  | quantized raw scale bias =>
    rw [hk] at husable
    rw [Field.size, hk] at hencodes
    have hq := (Reading.encodes_quantized_iff ⟨scale, bias, husable⟩ hk _).mp hencodes
    rw [FieldKind.size, Reading.decode, natOfBytes_replicate] at hq
    exact ⟨⟨scale, bias, husable⟩, rfl, rfl, hq⟩

/-- **Exactly if every field can send the largest raw number that it can receive**, a store
never owns a value that it could not send, whatever is written to it. Then serializing into
a buffer with room for the frame can fail only at a linked field. -/
theorem writes_encodable_iff {limits : SchemaLimits} {name : String} {declared : List Field}
    (hbuild : Schema.build limits name declared = .ok schema) :
    (∀ f ∈ schema.fields, f.kind.RangeEncodes) ↔
      ∀ ws : List Write, ((initial schema).writes ws).Encodable ∧
        ∀ sources code (buffer : Bytes) e, schema.frameLen code ≤ buffer.length →
          (((initial schema).writes ws).serialize sources code buffer).1 = .error e →
          ∃ i f source, schema.fields[i]? = some f ∧ code.selects f = true ∧
            ((initial schema).writes ws).slots[i]? = some (.linked source) ∧
            ((initial schema).writes ws).encodeField sources i = .error e := by
  have hs := Schema.build_eq_ok hbuild
  constructor
  · intro hranges ws
    have hencodable : ((initial schema).writes ws).Encodable :=
      (encodable_initial hs).writes hranges ws
    refine ⟨hencodable, fun sources code buffer e hroom hserialize => ?_⟩
    obtain ⟨i, hi, hfail⟩ := serialize_eq_error hroom hserialize
    obtain ⟨f, hf, hselects⟩ := hs.mem_carried.mp hi
    obtain ⟨source, hsource⟩ := hencodable.exists_linked hf hfail
    exact ⟨i, f, source, hf, hselects, hsource, hfail⟩
  · intro hall
    obtain ⟨hencodable, -⟩ := hall [.deserialize ⟨schema.fullFrame.length, true⟩ schema.fullFrame]
    exact rangeEncodes_of_encodable_fullFrame hs hencodable

/-- The battery voltage of the vehicle layout: its largest raw number comes back, so whatever
is written to a store of it can be sent. -/
theorem writes_encodable_voltage :
    let f := Schema.periodicField .fast "hv_battery_voltage" Schema.batteryVoltage
    let schema : Schema := ⟨"battery", [f]⟩
    Schema.build {} "battery" [f] = .ok schema ∧ f.kind.RangeEncodes ∧
      ∀ ws : List Write, ((initial schema).writes ws).Encodable := by
  intro f schema
  have hbuild : Schema.build {} "battery" [f] = .ok schema :=
    Schema.build_of_pairwise (by decide) (by decide) (by decide +kernel) (by decide) (by decide)
  have hrange : f.kind.RangeEncodes :=
    ⟨⟨Binary64.ofNat 100, Decimal.toBinary64 false ⟨0, -3⟩, by decide +kernel⟩, rfl, rfl, 65535,
      by decide +kernel⟩
  have hall : ∀ g ∈ schema.fields, g.kind.RangeEncodes := by
    intro g hg
    obtain rfl := List.mem_singleton.mp hg
    exact hrange
  exact ⟨hbuild, hrange, fun ws => ((writes_encodable_iff hbuild).mp hall ws).1⟩

/-- A byte in steps of one from `2 ^ 60` upward, where numbers of binary64 lie 256 apart. -/
def shiftedField : Field :=
  Schema.periodicField .fast "x" (.quantized .w8 ⟨0x3ff0000000000000⟩ ⟨0x43b0000000000000⟩)

/-- Its largest raw number is read as `2 ^ 60 + 256`, which is one too many to be packed:
a store of this field can receive a value that it cannot send. -/
theorem not_encodable_shiftedField :
    ¬ ∀ (limits : SchemaLimits) (name : String) (declared : List Field) (schema : Schema),
      Schema.build limits name declared = .ok schema →
      ∀ ws : List Write, ((initial schema).writes ws).Encodable := by
  intro hall
  have hbuild : Schema.build {} "one" [shiftedField] = .ok ⟨"one", [shiftedField]⟩ :=
    Schema.build_of_pairwise (by decide) (by decide) (by decide +kernel) (by decide) (by decide)
  have hencodes := hall {} "one" [shiftedField] _ hbuild [.deserialize {} [1, 0, 255]]
    0 shiftedField (.float ⟨0x43b0000000000001⟩) rfl (by decide +kernel)
  obtain ⟨bytes, hbytes⟩ := hencodes
  have hrefused : (Reading.encode (.float ⟨0x43b0000000000001⟩) shiftedField).isOk = false := by
    decide +kernel
  rw [hbytes] at hrefused
  cases hrefused

end Store

end Telemetry
