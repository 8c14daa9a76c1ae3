import Telemetry.Node.Receiver
import Telemetry.Proofs.Link.FrameReader
import Telemetry.Proofs.Node.Snapshot
import Telemetry.Schema.Variants
/-!
# Telemetry.Proofs.Node.Receiving

**All ways of taking in a datagram agree.** A datagram may be read on its own, through a datagram
codec, off a link by a reader, into a store or by a receiver. Under one configuration all of them
accept it, as the same frame, or all of them refuse it (`Receiver.Accepted`, `Receiver.Refused`).

They differ only in what they see. A reader sees no more than its buffer holds, but a datagram
that is longer is refused in any case. A receiver also needs its lock, which nothing poisons
(`Receiver.Sound.run`). The main statement is `receive_paths_agree`.
-/

namespace Telemetry

variable {schema : Schema}

namespace Receiver

/-! ### The lock -/

/-- The lock is healthy, and no field is linked that could crash under it. -/
structure Sound (n : Receiver schema) : Prop where
  healthy : n.poisoned = false
  unlinked : n.store.Unlinked

theorem sound_initial (schema : Schema) (config : FrameConfig) : (initial schema config).Sound :=
  ⟨rfl, Store.unlinked_initial schema⟩

/-- Reading the store leaves the receiver as it was, unless it crashes. -/
theorem locked_snd_of_read {α : Type} {n : Receiver schema} (hlock : n.poisoned = false)
    {read : Store schema → Except FrameError α} (hread : read n.store ≠ .error .sourceCrashed) :
    (n.locked fun store => (read store, store)).2 = n := by
  cases h : read n.store with
  | ok a => rw [locked_of_ok hlock (by rw [h])]
  | error e =>
    have hne : (e == .sourceCrashed) = false := by
      rw [beq_eq_false_iff_ne]
      rintro rfl
      exact hread h
    obtain ⟨store, config, received, dropped, poisoned⟩ := n
    obtain rfl : poisoned = false := hlock
    simp only [locked, Bool.false_eq_true, if_false, h, hne]

theorem Sound.get_snd {n : Receiver schema} (h : n.Sound) (name : String) :
    (n.get name).2 = n := by
  unfold get
  cases schema.indexOf? name with
  | none => rfl
  | some i =>
    refine locked_snd_of_read h.healthy ?_
    unfold Store.get
    cases hslot : n.store.slots[i]? with
    | none => simp
    | some slot =>
      cases slot with
      | owned r => simp [Store.readSlot]
      | linked source => exact absurd hslot (h.unlinked i source)

theorem Sound.exists_snapshot (hs : schema.Canonical) {n : Receiver schema} (h : n.Sound) :
    ∃ snapshot, n.snapshot = (.ok snapshot, n) ∧ schema.Shows n.store.HoldsValue snapshot := by
  obtain ⟨snapshot, hsnapshot, hshows⟩ := Store.exists_snapshot hs h.unlinked noSources
  exact ⟨snapshot, locked_of_ok h.healthy (by rw [hsnapshot]), hshows⟩

theorem Sound.accept {n : Receiver schema} (h : n.Sound) (read : Except FrameError DecodedFrame) :
    (n.accept read).2.Sound := by
  cases read with
  | ok frame =>
    rw [accept_ok h.healthy]
    exact ⟨h.healthy, h.unlinked.apply frame⟩
  | error e => exact ⟨h.healthy, h.unlinked⟩

theorem Sound.receive {n : Receiver schema} (h : n.Sound) (reader : FrameReader)
    (link : Loopback) : (n.receive reader link).2.1.Sound := by
  unfold Receiver.receive
  split
  · exact h
  · exact h.accept _
  · exact h.accept _

/-- A field is read from its slot. -/
theorem get_of_owned (hs : schema.Canonical) {n : Receiver schema} (hlock : n.poisoned = false)
    {i : Nat} {f : Field} {r : Reading} (hf : schema.fields[i]? = some f)
    (hslot : n.store.slots[i]? = some (.owned r)) : n.get f.name = (.ok r, n) := by
  have hread : n.store.get noSources i = .ok r := by
    rw [Store.get, hslot]
    rfl
  rw [get, hs.indexOf?_name hf]
  exact locked_of_ok hlock (by rw [hread])

/-- What is done to a receiver. -/
inductive Operation
  | apply (frame : Bytes)
  | receive (reader : FrameReader) (link : Loopback)
  | get (name : String)
  | snapshot

/-- The receiver after an operation. -/
def step (n : Receiver schema) : Operation → Receiver schema
  | .apply frame => (n.apply frame).2
  | .receive reader link => (n.receive reader link).2.1
  | .get name => (n.get name).2
  | .snapshot => n.snapshot.2

theorem Sound.step (hs : schema.Canonical) {n : Receiver schema} (h : n.Sound) (op : Operation) :
    (n.step op).Sound := by
  cases op with
  | apply frame => exact h.accept _
  | receive reader link => exact h.receive reader link
  | get name =>
    rw [Receiver.step, h.get_snd]
    exact h
  | snapshot =>
    obtain ⟨snapshot, hsnapshot, -⟩ := h.exists_snapshot hs
    rw [Receiver.step, hsnapshot]
    exact h

/-- Nothing that is done to a receiver poisons its lock. -/
theorem Sound.run (hs : schema.Canonical) {n : Receiver schema} (h : n.Sound)
    (ops : List Operation) : (ops.foldl Receiver.step n).Sound := by
  induction ops generalizing n with
  | nil => exact h
  | cons op rest ih => exact ih (h.step hs op)

/-! ### The ways of taking in a datagram -/

variable (n : Receiver schema) (reader : FrameReader) (link after : Loopback) (datagram : Bytes)

/-- Every way of taking in the datagram accepts it as one frame, and puts the values of the frame
into the store. -/
structure Accepted (frame : DecodedFrame) : Prop where
  decodeFrame : schema.decodeFrame n.config datagram = .ok frame
  decodeDatagram : schema.decodeDatagram n.config datagram = (.ok (some frame), [])
  deserialize :
    n.store.deserialize n.config datagram = (.ok frame.code, frame.apply n.store)
  readerReceive : reader.receive schema link = (.ok (some frame), after)
  readerPoll : reader.poll n.store link = (.ok (some frame.code), frame.apply n.store, after)
  apply : n.apply datagram =
    (.ok frame.code, { n with store := frame.apply n.store, received := n.received + 1 })
  receive : n.receive reader link =
    (.ok (some frame.code), { n with store := frame.apply n.store, received := n.received + 1 },
      after)

/-- Every way of taking in the datagram refuses it and leaves the store as it was. What sees the
datagram whole refuses it for `whole`, and a reader for `seen`. -/
structure Refused (whole seen : FrameError) : Prop where
  decodeFrame : schema.decodeFrame n.config datagram = .error whole
  decodeDatagram : schema.decodeDatagram n.config datagram = (.error whole, [])
  deserialize : n.store.deserialize n.config datagram = (.error whole, n.store)
  readerReceive : reader.receive schema link = (.error seen, after)
  readerPoll : reader.poll n.store link = (.error seen, n.store, after)
  apply : n.apply datagram = (.error (.frame whole), { n with dropped := n.dropped + 1 })
  receive : n.receive reader link =
    (.error (.frame seen), { n with dropped := n.dropped + 1 }, after)
  /-- The two refusals are the same, but for the size of a datagram that does not fit the
  buffer. -/
  cause : seen = whole ∨ reader.capacity link < datagram.length ∧
    whole = .frameTooLarge datagram.length n.config.maxFrameSize ∧
    seen = .frameTooLarge (reader.capacity link) n.config.maxFrameSize

variable {n reader link after datagram}

theorem decodeDatagram_eq (h : datagram ≠ []) (config : FrameConfig) :
    schema.decodeDatagram config datagram =
      ((schema.decodeFrame config datagram).map some, []) := by
  rw [Schema.decodeDatagram, if_neg (by simpa using h)]

/-- Once the bytes and what the reader sees of them are accepted as one frame, so they are by
everything else. -/
theorem accepted_of_decodeFrame {frame : DecodedFrame} (hlock : n.poisoned = false)
    (hne : datagram ≠ []) (hwhole : schema.decodeFrame n.config datagram = .ok frame)
    (hreader : reader.receive schema link = (.ok (some frame), after)) :
    n.Accepted reader link after datagram frame where
  decodeFrame := hwhole
  decodeDatagram := by rw [decodeDatagram_eq hne, hwhole]; rfl
  deserialize := by rw [Store.deserialize, hwhole]
  readerReceive := hreader
  readerPoll := by rw [FrameReader.poll, hreader]
  apply := by rw [Receiver.apply, hwhole, accept_ok hlock]
  receive := by rw [Receiver.receive, hreader]; dsimp only; rw [accept_ok hlock]; rfl

theorem refused_of_decodeFrame {whole seen : FrameError} (hne : datagram ≠ [])
    (hwhole : schema.decodeFrame n.config datagram = .error whole)
    (hreader : reader.receive schema link = (.error seen, after))
    (hcause : seen = whole ∨ reader.capacity link < datagram.length ∧
      whole = .frameTooLarge datagram.length n.config.maxFrameSize ∧
      seen = .frameTooLarge (reader.capacity link) n.config.maxFrameSize) :
    n.Refused reader link after datagram whole seen where
  decodeFrame := hwhole
  decodeDatagram := by rw [decodeDatagram_eq hne, hwhole]; rfl
  deserialize := by rw [Store.deserialize, hwhole]
  readerReceive := hreader
  readerPoll := by rw [FrameReader.poll, hreader]
  apply := by rw [Receiver.apply, hwhole]; rfl
  receive := by rw [Receiver.receive, hreader]; rfl
  cause := hcause

/-- **All receive paths agree.** A datagram that is next on the link is accepted by every way of
taking it in, with the same frame and the same store afterwards, or refused by every one, with
the same kind of error and the store as it was. It is taken off the link in either case. One
that the reader's buffer cuts off is refused. The reader gets the same from any other link that
offers the datagram, whatever its buffer held before. The lock of the receiver is taken to be
healthy; nothing that a receiver does poisons it. -/
theorem receive_paths_agree (n : Receiver schema) (hlock : n.poisoned = false)
    (reader : FrameReader) (link : Loopback) (hconfig : reader.config = n.config)
    {datagram : Bytes} (hne : datagram ≠ []) {rest : List Bytes}
    (hnext : link.waiting reader.linkEnd = datagram :: rest) :
    let after := link.withWaiting reader.linkEnd rest
    ((∃ frame, n.Accepted reader link after datagram frame) ∨
        ∃ whole seen, n.Refused reader link after datagram whole seen) ∧
      after.waiting reader.linkEnd = rest ∧
      (reader.capacity link < datagram.length →
        ∃ whole seen, n.Refused reader link after datagram whole seen) ∧
      ∀ {σ : Type} (io : Inbound σ) (other otherAfter : σ) (buffer : Bytes),
        io.maxFrameSize other = link.maxFrameSize → io.Offers other datagram otherAfter →
        buffer.length = max reader.config.maxFrameSize (io.maxFrameSize other) + 1 →
        ∃ buffer', reader.receiveThrough io schema buffer other =
          ((reader.receive schema link).1, buffer', otherAfter) := by
  intro after
  have hreader := reader.receive_of_cons schema hnext
  have hcut : reader.capacity link < datagram.length →
      ∃ whole seen, n.Refused reader link after datagram whole seen := by
    intro hlong
    obtain ⟨hseen, hwhole⟩ := FrameReader.decodeFrame_of_cut schema hlong
    rw [hseen] at hreader
    rw [hconfig] at hwhole hreader
    exact ⟨_, _, refused_of_decodeFrame hne hwhole hreader (Or.inr ⟨hlong, rfl, rfl⟩)⟩
  refine ⟨?_, Loopback.waiting_withWaiting link _ rest, hcut, ?_⟩
  · rcases Nat.lt_or_ge (reader.capacity link) datagram.length with hlong | hfits
    · exact Or.inr (hcut hlong)
    · -- seen whole, the datagram is the same to all
      rw [FrameReader.take_capacity hfits, hconfig] at hreader
      cases hwhole : schema.decodeFrame n.config datagram with
      | ok frame =>
        rw [hwhole] at hreader
        exact Or.inl ⟨frame, accepted_of_decodeFrame hlock hne hwhole hreader⟩
      | error e =>
        rw [hwhole] at hreader
        exact Or.inr ⟨e, e, refused_of_decodeFrame hne hwhole hreader (Or.inl rfl)⟩
  · intro σ io other otherAfter buffer hmax hoffers hbuffer
    obtain ⟨buffer', hthrough⟩ := FrameReader.receiveThrough_of_offers hoffers reader schema buffer
    have hcapacity : buffer.length = reader.capacity link := by
      rw [hbuffer, hmax]
      rfl
    exact ⟨buffer', by rw [hthrough, hreader, hcapacity]⟩

/-- A link that carries six bytes and a lenient reader that accepts five, so that its buffer holds
seven. Cut off there, the eight bytes would still spell a frame of the slow tier; they are refused
all the same, and the next datagram is seen. -/
theorem receive_paths_agree_scenario :
    let schema : Schema := ⟨"scenario", Schema.scenarioFields⟩
    let config : FrameConfig := ⟨5, false⟩
    let n := initial schema config
    let reader : FrameReader := { config }
    let datagram : Bytes := [4, 0, 9, 0, 1, 2, 3, 4]
    let link : Loopback := { maxFrameSize := 6, toB := [datagram, [4, 0, 9, 0]] }
    let after : Loopback := { maxFrameSize := 6, toB := [[4, 0, 9, 0]] }
    let frame : DecodedFrame := ⟨.ofNat 4, [(2, .unsigned 9)]⟩
    (∃ whole seen, n.Refused reader link after datagram whole seen) ∧
      n.Accepted reader after { maxFrameSize := 6 } [4, 0, 9, 0] frame ∧
      ∃ buffer', reader.receiveThrough (.ofEnd .b) schema (List.replicate 7 255) link =
        (.error (.frameTooLarge 7 5), buffer', after) := by
  intro schema config n reader datagram link after frame
  have hfirst : link.waiting .b = [datagram, [4, 0, 9, 0]] := rfl
  have hsecond : after.waiting .b = [[4, 0, 9, 0]] := rfl
  obtain ⟨-, -, hcut, hothers⟩ := receive_paths_agree n rfl reader link rfl (by decide) hfirst
  obtain ⟨hpaths, -, -, -⟩ := receive_paths_agree n rfl reader after rfl (by decide) hsecond
  refine ⟨hcut (by decide), ?_, ?_⟩
  · have hframe : schema.decodeFrame config [4, 0, 9, 0] = .ok frame := by decide +kernel
    rcases hpaths with ⟨found, haccepted⟩ | ⟨whole, seen, hrefused⟩
    · obtain rfl : found = frame := Except.ok.inj (haccepted.decodeFrame.symm.trans hframe)
      exact haccepted
    · exact nomatch hrefused.decodeFrame.symm.trans hframe
  · exact hothers (.ofEnd .b) link after _ rfl (Inbound.offers_ofEnd hfirst) rfl

end Receiver

end Telemetry
