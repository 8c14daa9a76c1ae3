import Telemetry.Link.Channel
import Telemetry.Proofs.Frame.Serialization
/-!
# Telemetry.Proofs.Link.FrameWriter

**What a writer does with the frame of a code.** Sending has four ends. There is nothing to
send, or the frame goes out, or it is past a limit, or one of its fields cannot be packed. The
link changes in the second case only, and there by exactly this frame. `FrameWriter.Outcome`
has one constructor for each of them; the main statement is `FrameWriter.outcome_send`.

A writer may keep a buffer from one frame to the next (`FrameWriter.sendThrough`). What it finds
there makes no difference.
-/

namespace Telemetry

variable {schema : Schema}

namespace FrameWriter

/-- The longest frame that is sent over a link. -/
def limit (w : FrameWriter) (link : Loopback) : Nat := min w.config.maxFrameSize link.maxFrameSize

/-- The link with a frame at the other end, behind those that wait there. -/
def sentOn (w : FrameWriter) (link : Loopback) (frame : Bytes) : Loopback :=
  link.withWaiting w.linkEnd.other (link.waiting w.linkEnd.other ++ [frame])

/-- The empty code has no frame to send. -/
theorem send_of_isEmpty (w : FrameWriter) {sources : Sources} {s : Store schema}
    {code : MessageCode} (hcode : code.isEmpty = true) (link : Loopback) :
    w.send sources s code link = (.ok 0, link) := by
  rw [send, Store.serializeInto_of_isEmpty hcode]
  rfl

/-- What cannot be packed is not sent. -/
theorem send_of_error (w : FrameWriter) {sources : Sources} {s : Store schema}
    {code : MessageCode} {e : FrameError} (h : (s.serializeInto sources code []).1 = .error e)
    (link : Loopback) : w.send sources s code link = (.error e, link) := by
  unfold send
  generalize s.serializeInto sources code [] = packed at h ⊢
  obtain ⟨outcome, written⟩ := packed
  obtain rfl : outcome = .error e := h
  rfl

/-- A frame that neither limit refuses goes out. -/
theorem send_of_packs (hs : schema.Canonical) (w : FrameWriter) {sources : Sources}
    {s : Store schema} {code : MessageCode} {frame : Bytes} (hcode : code.isEmpty = false)
    (h : s.Packs sources code frame) (link : Loopback) :
    w.send sources s code link =
      if w.limit link < frame.length then
        (.error (.link (.frameTooLarge frame.length (w.limit link))), link)
      else (.ok frame.length, w.sentOn link frame) := by
  have hpos : frame.length ≠ 0 := by
    rw [h.length_eq hs, hs.impliedLen_eq, headerSize]
    omega
  rw [send, Store.serializeInto_of_packs hs hcode h]
  dsimp only
  rw [if_neg hpos]
  show (if w.limit link < frame.length then _ else _) = _
  split
  · rfl
  · rename_i hlimit
    have hlink : frame.length ≤ link.maxFrameSize :=
      Nat.le_trans (Nat.not_lt.mp hlimit) (Nat.min_le_right _ _)
    rw [link.send_of_le _ _ hlink]
    rfl

/-- How sending ends. -/
inductive Outcome (w : FrameWriter) (sources : Sources) (s : Store schema) (code : MessageCode)
    (link : Loopback) : Except FrameError Nat × Loopback → Prop
  /-- The empty code has no frame. -/
  | nothing (hcode : code.isEmpty = true) : Outcome w sources s code link (.ok 0, link)
  | sent {frame : Bytes} (hcode : code.isEmpty = false) (hpacks : s.Packs sources code frame)
      (hlimit : frame.length ≤ w.limit link) :
      Outcome w sources s code link (.ok frame.length, w.sentOn link frame)
  | tooLong {frame : Bytes} (hcode : code.isEmpty = false) (hpacks : s.Packs sources code frame)
      (hlimit : w.limit link < frame.length) :
      Outcome w sources s code link
        (.error (.link (.frameTooLarge frame.length (w.limit link))), link)
  /-- A field that the code carries cannot be packed. -/
  | unpacked {e : FrameError} (hcode : code.isEmpty = false)
      (hpack : (s.pack sources (schema.carried code)).2 = .error e) :
      Outcome w sources s code link (.error e, link)

/-- **Sending ends in one of four ways**, and only a frame that is within both limits changes
the link. -/
theorem outcome_send (hs : schema.Canonical) (w : FrameWriter) (sources : Sources)
    (s : Store schema) (code : MessageCode) (link : Loopback) :
    w.Outcome sources s code link (w.send sources s code link) := by
  cases hcode : code.isEmpty with
  | true =>
    rw [w.send_of_isEmpty hcode]
    exact .nothing hcode
  | false =>
    cases hpack : (s.pack sources (schema.carried code)).2 with
    | error e =>
      rw [w.send_of_error (Store.serializeInto_fst_of_pack hcode hpack [])]
      exact .unpacked hcode hpack
    | ok u =>
      have hpacks : s.Packs sources code
          (code.toBytes ++ (s.pack sources (schema.carried code)).1) :=
        ⟨_, Prod.ext rfl hpack, rfl⟩
      rw [w.send_of_packs hs hcode hpacks]
      split
      · rename_i hlong
        exact .tooLong hcode hpacks hlong
      · rename_i hlimit
        exact .sent hcode hpacks (Nat.not_lt.mp hlimit)

/-- Sending crashes where packing does. -/
theorem send_eq_crashed_iff (hs : schema.Canonical) (w : FrameWriter) {sources : Sources}
    {s : Store schema} {code : MessageCode} (link : Loopback) :
    (w.send sources s code link).1 = .error .sourceCrashed ↔ s.CrashesFirst sources code := by
  have houtcome := w.outcome_send hs sources s code link
  generalize w.send sources s code link = sent at houtcome ⊢
  cases houtcome with
  | nothing hcode => exact iff_of_false nofun (Store.not_crashesFirst_of_isEmpty hs hcode)
  | sent _ hpacks | tooLong _ hpacks => exact iff_of_false nofun (hpacks.not_crashesFirst hs)
  | unpacked _ hpack =>
    rw [← Store.pack_eq_crashed_iff hs, hpack, Except.error.injEq, Except.error.injEq]

theorem send_ne_crashed (hs : schema.Canonical) {sources : Sources} (h : sources.Reliable)
    (w : FrameWriter) (s : Store schema) (code : MessageCode) (link : Loopback) :
    (w.send sources s code link).1 ≠ .error .sourceCrashed :=
  fun hcrash => ((send_eq_crashed_iff hs w link).mp hcrash).not_reliable h

/-- A send that fails leaves the link as it was. -/
theorem send_link_of_error (hs : schema.Canonical) {w : FrameWriter} {sources : Sources}
    {s : Store schema} {code : MessageCode} {link : Loopback} {e : FrameError}
    (h : (w.send sources s code link).1 = .error e) : (w.send sources s code link).2 = link := by
  have houtcome := w.outcome_send hs sources s code link
  generalize w.send sources s code link = sent at houtcome h ⊢
  cases houtcome with
  | sent => cases h
  | nothing | tooLong | unpacked => rfl

/-! ### The buffer of a writer -/

/-- Sends through a buffer that is kept from frame to frame. It is emptied first, and keeps the
new frame unless a field could not be packed. -/
def sendThrough (w : FrameWriter) (sources : Sources) (s : Store schema) (code : MessageCode)
    (buffer : Bytes) (link : Loopback) : Except FrameError Nat × Bytes × Loopback :=
  match s.serializeInto sources code (buffer.take 0) with
  | (.error e, buffer) => (.error e, buffer, link)
  | (.ok n, buffer) =>
    if n = 0 then (.ok 0, buffer, link)
    else if w.limit link < n then (.error (.link (.frameTooLarge n (w.limit link))), buffer, link)
    else
      match link.send w.linkEnd buffer with
      | (.ok (), link) => (.ok n, buffer, link)
      | (.error e, link) => (.error (.link e), buffer, link)

/-- What earlier frames have left in the buffer makes no difference. -/
theorem sendThrough_eq (w : FrameWriter) (sources : Sources) (s : Store schema)
    (code : MessageCode) (buffer : Bytes) (link : Loopback) :
    w.sendThrough sources s code buffer link =
      ((w.send sources s code link).1, (s.serializeInto sources code []).2,
        (w.send sources s code link).2) := by
  unfold sendThrough send limit
  rw [List.take_zero]
  generalize s.serializeInto sources code [] = packed
  obtain ⟨outcome, frame⟩ := packed
  cases outcome with
  | error e => rfl
  | ok n =>
    dsimp only
    split
    · rfl
    · split
      · rfl
      · generalize link.send w.linkEnd frame = sent
        obtain ⟨answer, link'⟩ := sent
        cases answer <;> rfl

end FrameWriter

end Telemetry
