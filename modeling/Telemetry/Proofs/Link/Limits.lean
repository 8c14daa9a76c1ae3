import Telemetry.Proofs.Link.FrameReader
import Telemetry.Proofs.Link.FrameWriter
/-!
# Telemetry.Proofs.Link.Limits

**No frame outgrows the limit that its schema was checked against.** A schema is built only if the
frame with all of its fields keeps to the limit. `Schema.FrameLengths` says how the lengths of the
other frames come about, and that this one is the longest.

So where a writer, a link and a reader allow for the limit, none of them ever refuses a frame for
its size (`Schema.frames_fit`). This holds for any link that carries what it says it does;
`Outbound` is what a writer knows of one, as `Inbound` is what a reader does.
-/

namespace Telemetry

/-! ### Lengths -/

namespace Schema

/-- How long the frames of a schema are that was built under some limits. -/
structure FrameLengths (s : Schema) (limits : SchemaLimits) : Prop where
  /-- The header, each periodic tier that the code has, and each conditional field whose event it
  has. -/
  frameLen_eq : ∀ code, s.frameLen code =
    if code.isEmpty then 0
    else 2 + ((Tier.periodic.filter code.hasTier).map s.tierSize).sum +
      (((s.fieldsIn .conditional).filter fun f => f.event.any code.hasEvent).map Field.size).sum
  frameLen_mono : ∀ code code',
    (∀ bit, code.bits.getLsbD bit = true → code'.bits.getLsbD bit = true) →
      s.frameLen code ≤ s.frameLen code'
  frameLen_le : ∀ code, s.frameLen code ≤ s.maxFrameLen
  maxFrameLen_le : s.maxFrameLen ≤ limits.maxFrameSize
  /-- The code with all bits set has the longest frame. -/
  frameLen_full : s.frameLen (.ofNat 65535) = s.maxFrameLen

variable {s : Schema} (h : s.Canonical)
include h

theorem Canonical.frameLen_eq (code : MessageCode) :
    s.frameLen code =
      if code.isEmpty then 0
      else headerSize + ((Tier.periodic.filter code.hasTier).map s.tierSize).sum +
        (((s.fieldsIn .conditional).filter fun f => f.event.any code.hasEvent).map
          Field.size).sum := by
  rw [frameLen, h.payloadSize_carried, totalSize_eq_sum, ← Nat.add_assoc]

/-- Further bits never make a frame shorter. -/
theorem Canonical.frameLen_mono {code code' : MessageCode}
    (hbits : ∀ bit, code.bits.getLsbD bit = true → code'.bits.getLsbD bit = true) :
    s.frameLen code ≤ s.frameLen code' := by
  have hsub : s.carried code ⊆ s.carried code' := by
    intro i hi
    obtain ⟨f, hf, hselects⟩ := h.mem_carried.mp hi
    exact h.mem_carried.mpr ⟨f, hf, MessageCode.selects_mono hbits hselects⟩
  have hpayload := payloadSize_le_of_subset (s := s) (h.nodup_carried code) hsub
  cases hcode : code.isEmpty with
  | true => simp [frameLen, hcode]
  | false =>
    -- a code with the bits of one that is not empty is not empty either
    have hcode' : code'.isEmpty = false := by
      rw [MessageCode.isEmpty, beq_eq_false_iff_ne] at hcode ⊢
      intro hzero
      apply hcode
      apply BitVec.eq_of_getLsbD_eq
      intro bit _
      cases hbit : code.bits.getLsbD bit with
      | false => exact BitVec.getLsbD_zero.symm
      | true =>
        have hset := hbits bit hbit
        rw [hzero] at hset
        exact absurd hset (by simp)
    simp only [frameLen, hcode, hcode', if_neg Bool.false_ne_true]
    exact Nat.add_le_add_left hpayload headerSize

/-- The frame of all bits has every field. -/
theorem Canonical.frameLen_full : s.frameLen (.ofNat 65535) = s.maxFrameLen := by
  have hall : List.range s.fields.length ⊆ s.carried (.ofNat 65535) := by
    intro i hi
    have hlt : i < s.fields.length := List.mem_range.mp hi
    have hvalid := h.valid s.fields[i] (List.getElem_mem hlt)
    exact h.mem_carried.mpr
      ⟨s.fields[i], List.getElem?_eq_getElem hlt, MessageCode.selects_full hvalid⟩
  have hpayload := payloadSize_le_of_subset (s := s) List.nodup_range hall
  rw [payloadSize_range] at hpayload
  apply Nat.le_antisymm (h.frameLen_le_maxFrameLen _)
  exact Nat.add_le_add_left hpayload headerSize

omit h in
theorem frameLengths_of_build {limits : SchemaLimits} {name : String} {declared : List Field}
    (hbuild : build limits name declared = .ok s) : s.FrameLengths limits := by
  have hs := build_eq_ok hbuild
  obtain ⟨-, -, -, hshort, -⟩ := build_inv hbuild
  exact {
    frameLen_eq := hs.frameLen_eq
    frameLen_mono := fun _ _ => hs.frameLen_mono
    frameLen_le := hs.frameLen_le_maxFrameLen
    maxFrameLen_le := hshort
    frameLen_full := hs.frameLen_full }

end Schema

/-! ### Sending -/

/-- A link as a writer uses it: the longest frame that it carries, and a send, which answers why a
frame was not carried, if it was not. -/
structure Outbound (σ : Type) where
  maxFrameSize : σ → Nat
  send : σ → Bytes → Except LinkError Unit × σ

namespace Outbound

variable {σ : Type}

/-- The link carries every frame that is no longer than it says. -/
def Carries (io : Outbound σ) : Prop :=
  ∀ link frame, frame.length ≤ io.maxFrameSize link → (io.send link frame).1 = .ok ()

/-- An end of a pair. -/
def ofEnd (e : LinkEnd) : Outbound Loopback where
  maxFrameSize := Loopback.maxFrameSize
  send link frame := link.send e frame

theorem carries_ofEnd (e : LinkEnd) : (ofEnd e).Carries := by
  intro link frame hframe
  exact congrArg Prod.fst (link.send_of_le e frame hframe)

end Outbound

namespace FrameWriter

variable {σ : Type} {schema : Schema}

/-- Packs the fields of a code and sends the frame over any link. -/
def sendOver (w : FrameWriter) (io : Outbound σ) (sources : Sources) (s : Store schema)
    (code : MessageCode) (link : σ) : Except FrameError Nat × σ :=
  match s.serializeInto sources code [] with
  | (.error e, _) => (.error e, link)
  | (.ok n, frame) =>
    let limit := min w.config.maxFrameSize (io.maxFrameSize link)
    if n = 0 then (.ok 0, link)
    else if limit < n then (.error (.link (.frameTooLarge n limit)), link)
    else
      match io.send link frame with
      | (.ok (), link) => (.ok n, link)
      | (.error e, link) => (.error (.link e), link)

theorem sendOver_ofEnd (w : FrameWriter) (sources : Sources) (s : Store schema)
    (code : MessageCode) (link : Loopback) :
    w.sendOver (.ofEnd w.linkEnd) sources s code link = w.send sources s code link := by
  unfold sendOver send Outbound.ofEnd
  cases s.serializeInto sources code [] with
  | mk outcome frame =>
    cases outcome with
    | error e => rfl
    | ok n =>
      dsimp only
      generalize link.send w.linkEnd frame = sent
      obtain ⟨answer, link'⟩ := sent
      cases answer <;> rfl

/-- What is appended for a code is never longer than the schema says. -/
theorem length_le_of_serializeInto (hs : schema.Canonical) {s : Store schema} {sources : Sources}
    {code : MessageCode} {n : Nat} {frame : Bytes}
    (h : s.serializeInto sources code [] = (.ok n, frame)) :
    frame.length = n ∧ n ≤ schema.maxFrameLen := by
  cases hcode : code.isEmpty with
  | true =>
    rw [Store.serializeInto_of_isEmpty hcode] at h
    cases h
    exact ⟨rfl, Nat.zero_le _⟩
  | false =>
    rcases Store.packs_or_faults hs s sources code with ⟨frame', hpacks⟩ | ⟨e, f, hpack, -, -⟩
    · rw [Store.serializeInto_of_packs hs hcode hpacks] at h
      cases h
      rw [hpacks.length_eq_frameLen hs hcode]
      exact ⟨rfl, hs.frameLen_le_maxFrameLen code⟩
    · have hfailed := Store.serializeInto_fst_of_pack hcode hpack []
      rw [h] at hfailed
      cases hfailed

/-- **With room for the longest frame, sending answers what packing does.** -/
theorem sendOver_fst (hs : schema.Canonical) (w : FrameWriter) {io : Outbound σ}
    (hio : io.Carries) {link : σ} (hwriter : schema.maxFrameLen ≤ w.config.maxFrameSize)
    (hlink : schema.maxFrameLen ≤ io.maxFrameSize link) (sources : Sources) (s : Store schema)
    (code : MessageCode) :
    (w.sendOver io sources s code link).1 = (s.serializeInto sources code []).1 := by
  unfold sendOver
  cases hinto : s.serializeInto sources code [] with
  | mk outcome frame =>
    cases outcome with
    | error e => rfl
    | ok n =>
      obtain ⟨hlength, hmax⟩ := length_le_of_serializeInto hs hinto
      have hlimit : ¬ min w.config.maxFrameSize (io.maxFrameSize link) < n := by omega
      have hcarried : (io.send link frame).1 = .ok () := hio link frame (by omega)
      dsimp only
      by_cases hn : n = 0
      · rw [if_pos hn, hn]
      · rw [if_neg hn, if_neg hlimit]
        generalize io.send link frame = sent at hcarried ⊢
        obtain ⟨answer, link'⟩ := sent
        obtain rfl : answer = .ok () := hcarried
        rfl

/-- Packing tells nothing about a link. -/
theorem serializeInto_ne_link (hs : schema.Canonical) (s : Store schema) (sources : Sources)
    (code : MessageCode) (buffer : Bytes) (cause : LinkError) :
    (s.serializeInto sources code buffer).1 ≠ .error (.link cause) := by
  intro h
  obtain ⟨f, -, hfault⟩ := Store.faults_of_serializeInto hs h
  rcases hfault.eq_crashed_or_refusal with hcrash | ⟨r, hrefusal⟩
  · cases hcrash
  · cases hrefusal

end FrameWriter

/-! ### Receiving -/

namespace Schema

variable {s : Schema}

/-- Bytes of the length of a frame are not too large, and they are a frame if their header is that
of its code. -/
theorem Canonical.decodeFrame_of_length (h : s.Canonical) {config : FrameConfig}
    (hmax : s.maxFrameLen ≤ config.maxFrameSize) {src : Bytes} {code : MessageCode}
    (hlength : src.length = s.frameLen code) :
    (∀ size max, s.decodeFrame config src ≠ .error (.frameTooLarge size max)) ∧
      (code.isEmpty = false → headerOf src = code →
        s.decodeFrame config src = .ok (s.frameOf src)) := by
  have hle : src.length ≤ config.maxFrameSize := by
    rw [hlength]
    exact Nat.le_trans (h.frameLen_le_maxFrameLen code) hmax
  constructor
  · intro size max
    rw [decodeFrame_eq, if_neg (Nat.not_lt.mpr hle)]
    split
    · simp
    · split
      · simp
      · split <;> simp
  · intro hcode hheader
    have himplied : s.impliedLen (headerOf src) = src.length := by
      rw [hheader, hlength, h.impliedLen_eq, frameLen, hcode, if_neg Bool.false_ne_true]
    apply decodeFrame_eq_ok hle (Nat.le_of_eq himplied)
    rw [himplied]
    exact fun hlt => absurd hlt (Nat.lt_irrefl _)

/-- **No frame is too large for the limit that its schema was checked against.** The length of a
frame is counted tier by tier and event by event; it grows with the code up to the length of the
frame of all fields, which keeps to the limit. A writer and a link that allow for the limit answer
what packing does, whichever link that is. A reader that allows for it reads what waits on its link
whole and does not refuse it for its size, if it has the length of a frame; it takes the frame. -/
theorem frames_fit {limits : SchemaLimits} {name : String} {declared : List Field}
    (hbuild : build limits name declared = .ok s) :
    s.FrameLengths limits ∧
      (∀ {σ : Type} (io : Outbound σ) (link : σ) (w : FrameWriter), io.Carries →
        limits.maxFrameSize ≤ w.config.maxFrameSize → limits.maxFrameSize ≤ io.maxFrameSize link →
        ∀ (sources : Sources) (store : Store s) (code : MessageCode),
          (w.sendOver io sources store code link).1 = (store.serializeInto sources code []).1 ∧
            ∀ size max, (w.sendOver io sources store code link).1 ≠
              .error (.link (.frameTooLarge size max))) ∧
      (∀ (link : Loopback) (w : FrameWriter), limits.maxFrameSize ≤ w.config.maxFrameSize →
        limits.maxFrameSize ≤ link.maxFrameSize →
        ∀ (sources : Sources) (store : Store s) (code : MessageCode),
          (w.send sources store code link).1 = (store.serializeInto sources code []).1 ∧
            ∀ size max, (w.send sources store code link).1 ≠
              .error (.link (.frameTooLarge size max))) ∧
      ∀ (r : FrameReader) (datagram : Bytes) (code : MessageCode),
        limits.maxFrameSize ≤ r.config.maxFrameSize → datagram.length = s.frameLen code →
        (∀ size max, s.decodeFrame r.config datagram ≠ .error (.frameTooLarge size max)) ∧
          (code.isEmpty = false → headerOf datagram = code →
            s.decodeFrame r.config datagram = .ok (s.frameOf datagram)) ∧
          (∀ link rest, link.waiting r.linkEnd = datagram :: rest →
            (r.receive s link).1 = (s.decodeFrame r.config datagram).map some) ∧
          ∀ {σ : Type} (io : Inbound σ) (link rest : σ) (buffer : Bytes),
            io.Offers link datagram rest →
            buffer.length = max r.config.maxFrameSize (io.maxFrameSize link) + 1 →
            (r.receiveThrough io s buffer link).1 =
              (s.decodeFrame r.config datagram).map some := by
  have hs := build_eq_ok hbuild
  have hlengths := frameLengths_of_build hbuild
  have hover : ∀ {σ : Type} (io : Outbound σ) (link : σ) (w : FrameWriter), io.Carries →
      limits.maxFrameSize ≤ w.config.maxFrameSize → limits.maxFrameSize ≤ io.maxFrameSize link →
      ∀ (sources : Sources) (store : Store s) (code : MessageCode),
        (w.sendOver io sources store code link).1 = (store.serializeInto sources code []).1 ∧
          ∀ size max, (w.sendOver io sources store code link).1 ≠
            .error (.link (.frameTooLarge size max)) := by
    intro σ io link w hio hwriter hlink sources store code
    have hanswer := w.sendOver_fst hs hio (Nat.le_trans hlengths.maxFrameLen_le hwriter)
      (Nat.le_trans hlengths.maxFrameLen_le hlink) sources store code
    refine ⟨hanswer, ?_⟩
    intro size max
    rw [hanswer]
    exact FrameWriter.serializeInto_ne_link hs store sources code [] _
  refine ⟨hlengths, hover, ?_, ?_⟩
  · intro link w hwriter hlink sources store code
    rw [← w.sendOver_ofEnd]
    exact hover (.ofEnd w.linkEnd) link w (Outbound.carries_ofEnd _) hwriter hlink sources store
      code
  · intro r datagram code hreader hlength
    have hmax := Nat.le_trans hlengths.maxFrameLen_le hreader
    obtain ⟨hnot, hok⟩ := hs.decodeFrame_of_length hmax hlength
    have hle : datagram.length ≤ r.config.maxFrameSize := by
      rw [hlength]
      exact Nat.le_trans (hs.frameLen_le_maxFrameLen code) hmax
    refine ⟨hnot, hok, ?_, ?_⟩
    · intro link rest hwaiting
      have hfits : datagram.length ≤ r.capacity link :=
        Nat.le_succ_of_le (Nat.le_trans hle (Nat.le_max_left _ _))
      rw [FrameReader.receive_of_cons s hwaiting, FrameReader.take_capacity hfits]
    · intro σ io link rest buffer hoffers hbuffer
      obtain ⟨buffer', hreceive⟩ := FrameReader.receiveThrough_of_offers hoffers r s buffer
      rw [hreceive, List.take_of_length_le (by omega)]

/-- The scenario layout has frames of nine bytes at most. The code of its fast tier and of event 3,
which no field is bound to, has one of six; a writer and a link with the default limits send it, and
a reader with the default limit takes it. -/
theorem frames_fit_scenario :
    let s : Schema := ⟨"scenario", scenarioFields⟩
    let code := MessageCode.ofNat 0b1000001
    let frame : Bytes := [65, 0, 0, 0, 0, 0]
    build {} "scenario" scenarioFields = .ok s ∧ s.frameLen code = 6 ∧
      s.frameLen code ≤ s.frameLen (.ofNat 0b1010001) ∧ s.frameLen (.ofNat 65535) = 9 ∧
      (({} : FrameWriter).send (fun _ => .crashes) (Store.initial s) code {}).1 = .ok 6 ∧
      (({} : FrameReader).receive s { toB := [frame] }).1 = .ok (some (s.frameOf frame)) := by
  intro s code frame
  have hbuild : build {} "scenario" scenarioFields = .ok s := build_scenario
  obtain ⟨hlengths, -, hsend, hreceive⟩ := frames_fit hbuild
  have hcode : s.frameLen code = 6 := by
    rw [hlengths.frameLen_eq]
    decide +kernel
  have hmono : s.frameLen code ≤ s.frameLen (.ofNat 0b1010001) := by
    apply hlengths.frameLen_mono
    have hbits : ∀ bit < 16, code.bits.getLsbD bit = true →
        (MessageCode.ofNat 0b1010001).bits.getLsbD bit = true := by decide
    exact fun bit hset => hbits bit (BitVec.lt_of_getLsbD hset) hset
  obtain ⟨hanswer, -⟩ := hsend {} {} (Nat.le_refl _) (Nat.le_refl _) (fun _ => .crashes)
    (Store.initial s) code
  obtain ⟨-, htaken, hwhole, -⟩ := hreceive {} frame code (Nat.le_refl _) hcode.symm
  refine ⟨hbuild, hcode, hmono, ?_, ?_, ?_⟩
  · rw [hlengths.frameLen_full]
    rfl
  · rw [hanswer]
    decide +kernel
  · rw [hwhole { toB := [frame] } [] rfl, htaken (by decide) rfl]
    rfl

end Schema

end Telemetry
