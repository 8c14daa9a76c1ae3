import Telemetry.Proofs.Frame.Reencoding
import Telemetry.Proofs.Frame.RoundTrip
import Telemetry.Schema.Variants
/-!
# Telemetry.Proofs.Frame.CanonicalForm

**A frame has one form only.** Where no field is quantized, the bytes of an accepted frame can
be got back from what was read of it: each value is sent as the bytes that it came from
(`Reading.encode_decode`), and packing goes through the fields in the order in which they were
read (`Store.pack_of_holds`). The header is kept as it is, with the bits of tiers that have no
fields and of events that no field is bound to.

Two kinds of values do not come back. A quantized field may round, and a NaN of binary32 may
become quiet when it is read. The main statement is `serialize_deserialize`.
-/

namespace Telemetry

/-- A reading that is not a NaN. -/
def Reading.IsNumber : Reading → Prop
  | .float x => x.isNaN = false
  | _ => True

instance : DecidablePred Reading.IsNumber
  | .float x => inferInstanceAs (Decidable (x.isNaN = false))
  | .unsigned _ => inferInstanceAs (Decidable True)
  | .signed _ => inferInstanceAs (Decidable True)

/-- **Encoding undoes decoding.** The value of a field that is not quantized is sent as the
bytes that it came from. -/
theorem Reading.encode_decode {f : Field} (hplain : f.kind ∈ FieldKind.plain) {bytes : Bytes}
    (hlength : bytes.length = f.size) (hnumber : (decode f.kind bytes).IsNumber) :
    (decode f.kind bytes).encode f = .ok bytes := by
  have hbytes : bytesOfNat f.size (natOfBytes bytes) = bytes := by
    rw [← hlength]
    exact bytesOfNat_natOfBytes bytes
  have hlt : natOfBytes bytes < Nat.pow 256 f.size := natOfBytes_lt_of_le (Nat.le_of_eq hlength)
  unfold Field.size at hlength hbytes hlt
  cases hk : f.kind with
  | unsigned w =>
    rw [hk] at hlength hbytes
    rw [encode_decode_unsigned hk (Nat.le_of_eq hlength)]
    exact congrArg Except.ok hbytes
  | signed w =>
    rw [hk] at hlength hbytes
    rw [encode_decode_signed hk (Nat.le_of_eq hlength)]
    exact congrArg Except.ok hbytes
  | single =>
    rw [hk] at hnumber hbytes hlt
    -- the widened number passes the range check and narrows to the same bits
    have hbits : (UInt32.ofNat (natOfBytes bytes)).toNat = natOfBytes bytes :=
      UInt32.toNat_ofNat_of_lt' hlt
    have hencode : (decode .single bytes).encode f =
        .ok (bytesOfNat 4 (Binary32.narrow (decode .single bytes).toBinary64).bits.toNat) :=
      encode_single hk (Binary32.widen_spec _)
    simp only [decode, toBinary64] at hencode hnumber ⊢
    rw [hencode, Binary32.narrow_widen hnumber, hbits]
    exact congrArg Except.ok hbytes
  | double =>
    rw [hk] at hbytes hlt
    have hbits : (UInt64.ofNat (natOfBytes bytes)).toNat = natOfBytes bytes :=
      UInt64.toNat_ofNat_of_lt' hlt
    rw [encode_double hk]
    simp only [decode, toBinary64]
    rw [hbits]
    exact congrArg Except.ok hbytes
  | quantized raw scale bias =>
    rw [hk] at hplain
    simp [FieldKind.plain] at hplain

/-- A header of two bytes is that of its code. -/
theorem MessageCode.toBytes_ofBytes (low high : UInt8) :
    (ofBytes low high).toBytes = [low, high] := by
  have hlow := low.toNat_lt
  have hhigh := high.toNat_lt
  have hfirst : UInt8.ofNat (low.toNat + 256 * high.toNat) = low := by
    apply UInt8.toNat_inj.mp
    rw [UInt8.toNat_ofNat']
    omega
  have hsecond : UInt8.ofNat ((low.toNat + 256 * high.toNat) / 256) = high := by
    apply UInt8.toNat_inj.mp
    rw [UInt8.toNat_ofNat']
    omega
  rw [toBytes, toNat_ofBytes, hfirst, hsecond]

/-- The first two bytes of a frame are its header. -/
theorem Schema.toBytes_headerOf {src : Bytes} (h : headerSize ≤ src.length) :
    (headerOf src).toBytes = src.take headerSize := by
  match src, h with
  | low :: high :: rest, _ => exact MessageCode.toBytes_ofBytes low high

namespace Store

variable {schema : Schema}

/-- The updates are in the store. -/
def Holds (s : Store schema) (updates : List (Nat × Reading)) : Prop :=
  ∀ u ∈ updates, s.slots[u.1]? = some (.owned u.2)

/-- An accepted frame is in the store that it was put into. -/
theorem holds_apply (hs : schema.Canonical) {config : FrameConfig} {src : Bytes}
    {frame : DecodedFrame} (h : schema.decodeFrame config src = .ok frame) (s : Store schema) :
    (frame.apply s).Holds frame.updates := by
  have hreads := hs.reads_of_decodeFrame h
  intro u hu
  obtain ⟨f, hf, -⟩ := (hreads.selected u.1).mp (List.mem_map_of_mem hu)
  have hlt : u.1 < schema.fields.length := (List.getElem?_eq_some_iff.mp hf).1
  exact DecodedFrame.getElem?_slots_apply_of_mem frame s hreads.nodup hlt hu

/-- **Packing undoes unpacking**, once the values are in the store. -/
theorem pack_of_holds (hplain : ∀ f ∈ schema.fields, f.kind ∈ FieldKind.plain) {s : Store schema}
    (sources : Sources) {l : List Nat} (hl : schema.InRange l) {payload : Bytes}
    (hlength : payload.length = schema.payloadSize l) (hholds : s.Holds (schema.unpack l payload))
    (hnumber : ∀ u ∈ schema.unpack l payload, u.2.IsNumber) :
    s.pack sources l = (payload, .ok ()) := by
  induction l generalizing payload with
  | nil =>
    obtain rfl := List.eq_nil_of_length_eq_zero hlength
    rfl
  | cons i rest ih =>
    obtain ⟨f, hf⟩ := hl i List.mem_cons_self
    rw [Schema.payloadSize_cons hf] at hlength
    rw [Schema.unpack_cons hf] at hholds hnumber
    have hslot := hholds _ List.mem_cons_self
    have hsize : (payload.take f.size).length = f.size := by
      rw [List.length_take, Nat.min_eq_left (by omega)]
    have hencode := Reading.encode_decode (hplain f (List.mem_of_getElem? hf)) hsize
      (hnumber _ List.mem_cons_self)
    have hfield : s.encodeField sources i = .ok (payload.take f.size) := by
      simp only [encodeField, hf, get, hslot, readSlot]
      exact hencode
    have hrest : s.pack sources rest = (payload.drop f.size, .ok ()) := by
      apply ih hl.tail
      · rw [List.length_drop]
        omega
      · exact fun u hu => hholds u (List.mem_cons_of_mem _ hu)
      · exact fun u hu => hnumber u (List.mem_cons_of_mem _ hu)
    simp only [pack, hfield, hrest, List.take_append_drop]

/-- A store that a frame was read into sends the same frame again. -/
theorem packs_of_decodeFrame (hs : schema.Canonical)
    (hplain : ∀ f ∈ schema.fields, f.kind ∈ FieldKind.plain) {config : FrameConfig}
    (hstrict : config.rejectTrailingBytes = true) {src : Bytes} {frame : DecodedFrame}
    (h : schema.decodeFrame config src = .ok frame) (hnumber : ∀ u ∈ frame.updates, u.2.IsNumber)
    (s : Store schema) (sources : Sources) : (frame.apply s).Packs sources frame.code src := by
  have hholds := holds_apply hs h s
  -- nothing follows the last field, since surplus bytes are refused
  have hlength := (Schema.length_of_decodeFrame h).2 hstrict
  have hheader : headerSize ≤ src.length := by
    rw [hlength]
    exact Nat.le_max_right _ _
  obtain rfl := Schema.eq_frameOf_of_decodeFrame h
  rw [hs.impliedLen_eq] at hlength
  refine ⟨src.drop headerSize, ?_, ?_⟩
  · apply pack_of_holds hplain sources (hs.inRange_carried _) _ hholds hnumber
    rw [List.length_drop]
    show src.length - headerSize = schema.payloadSize (schema.carried (Schema.headerOf src))
    omega
  · show src = (Schema.headerOf src).toBytes ++ src.drop headerSize
    rw [Schema.toBytes_headerOf hheader, List.take_append_drop]

/-- **The frame format is canonical.** What a strict reader accepts, and whose floats are not
NaN, comes back byte for byte from any store that it was put into, if no field is quantized and
the code is one that is sent. The bytes of the buffer after the frame are left alone. -/
theorem serialize_deserialize {limits : SchemaLimits} {name : String} {declared : List Field}
    (hbuild : Schema.build limits name declared = .ok schema)
    (hplain : ∀ f ∈ schema.fields, f.kind ∈ FieldKind.plain) (config : FrameConfig)
    (hstrict : config.rejectTrailingBytes = true) (src : Bytes) (frame : DecodedFrame)
    (hdecode : schema.decodeFrame config src = .ok frame) (hcode : frame.code.isEmpty = false)
    (hnumber : ∀ u ∈ frame.updates, u.2.IsNumber) (s : Store schema) (sources : Sources)
    (buffer : Bytes) (hroom : src.length ≤ buffer.length) :
    ∃ after, s.deserialize config src = (.ok frame.code, after) ∧
      after.serialize sources frame.code buffer =
        (.ok src.length, src ++ buffer.drop src.length) := by
  have hs := Schema.build_eq_ok hbuild
  refine ⟨frame.apply s, by rw [deserialize, hdecode], ?_⟩
  have hpacks := packs_of_decodeFrame hs hplain hstrict hdecode hnumber s sources
  exact serialize_of_packs hs hcode hpacks hroom

/-- A frame of the fast tier and event 2, whose header also has the bits of the slow tier, which
has no fields, and of event 5, to which no field is bound. Its float is the negative
infinity. The link that it replaces does not come back. -/
theorem serialize_deserialize_scenario :
    let fields : List Field := [Schema.periodicField .fast "a" (.signed .w16),
      Schema.periodicField .fast "x" .single, Schema.conditionalField "c" 2 (.unsigned .w8)]
    let schema : Schema := ⟨"canonical", fields⟩
    let s : Store schema := ⟨#v[.linked "a", .owned (.unsigned 0), .owned (.unsigned 0)]⟩
    let src : Bytes := [0x25, 1, 254, 255, 0, 0, 128, 255, 9]
    let code := MessageCode.ofNat 0x125
    Schema.build {} "canonical" fields = .ok schema ∧
      ∃ after, s.deserialize {} src = (.ok code, after) ∧
        after.serialize (fun _ => .crashes) code (List.replicate 11 7) =
          (.ok 9, src ++ [7, 7]) := by
  intro fields schema s src code
  have hbuild : Schema.build {} "canonical" fields = .ok schema :=
    Schema.build_of_pairwise (by decide) (by decide) (by decide) (by decide) (by decide)
  have hplain : ∀ f ∈ schema.fields, f.kind ∈ FieldKind.plain := by decide
  have hdecode : schema.decodeFrame {} src = .ok (schema.frameOf src) :=
    Schema.decodeFrame_eq_ok (by decide) (by decide) (by decide)
  have hnumber : ∀ u ∈ (schema.frameOf src).updates, u.2.IsNumber := by decide +kernel
  exact ⟨hbuild, serialize_deserialize hbuild hplain {} rfl src _ hdecode (by decide) hnumber s _
    (List.replicate 11 7) (by decide)⟩

end Store

end Telemetry
