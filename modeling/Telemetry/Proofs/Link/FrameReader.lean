import Telemetry.Link.Channel
import Telemetry.Proofs.Frame.Acceptance
/-!
# Telemetry.Proofs.Link.FrameReader

**What a reader makes of the next datagram.** It takes the datagram off the link and reads as much
of it as its buffer holds. The buffer is one byte longer than the longest frame that is accepted,
so a datagram that it cuts off is refused as too long, like the whole one would be
(`decodeFrame_of_cut`).

`Inbound` is any link that keeps to the same rules. A reader gets the same from each, and never
reads what earlier datagrams have left in its buffer (`receiveThrough_of_offers`).
-/

namespace Telemetry

namespace FrameReader

variable (schema : Schema) {r : FrameReader} {link : Loopback}

/-- Without a waiting datagram nothing is received. -/
theorem receive_of_nil (h : link.waiting r.linkEnd = []) :
    r.receive schema link = (.ok none, link) := by
  simp [receive, Loopback.receiveUpTo, Loopback.next?, h]

/-- The next datagram is taken off the link and read through the buffer. -/
theorem receive_of_cons {datagram : Bytes} {rest : List Bytes}
    (h : link.waiting r.linkEnd = datagram :: rest) :
    r.receive schema link =
      ((schema.decodeFrame r.config (datagram.take (r.capacity link))).map some,
        link.withWaiting r.linkEnd rest) := by
  simp [receive, Loopback.receiveUpTo, Loopback.next?, h]

/-- A datagram that fits the buffer is read whole. -/
theorem take_capacity {datagram : Bytes} (h : datagram.length ≤ r.capacity link) :
    datagram.take (r.capacity link) = datagram :=
  List.take_of_length_le h

/-- Whatever the link carries does fit. -/
theorem length_le_capacity {datagram : Bytes} (h : datagram.length ≤ link.maxFrameSize) :
    datagram.length ≤ r.capacity link :=
  Nat.le_succ_of_le (Nat.le_trans h (Nat.le_max_right _ _))

/-- Too long a string of bytes is refused for its length, whatever it holds. -/
theorem decodeFrame_of_lt {config : FrameConfig} {src : Bytes}
    (h : config.maxFrameSize < src.length) :
    schema.decodeFrame config src = .error (.frameTooLarge src.length config.maxFrameSize) := by
  rw [Schema.decodeFrame_eq, if_pos h]

/-- **A datagram that the buffer cuts off is refused**, and so is the whole one. The two refusals
tell different sizes, for the reader knows only what it has seen. -/
theorem decodeFrame_of_cut {datagram : Bytes} (h : r.capacity link < datagram.length) :
    schema.decodeFrame r.config (datagram.take (r.capacity link)) =
        .error (.frameTooLarge (r.capacity link) r.config.maxFrameSize) ∧
      schema.decodeFrame r.config datagram =
        .error (.frameTooLarge datagram.length r.config.maxFrameSize) := by
  have hspare : r.config.maxFrameSize < r.capacity link :=
    Nat.lt_succ_of_le (Nat.le_max_left _ _)
  have hseen : (datagram.take (r.capacity link)).length = r.capacity link :=
    List.length_take_of_le (Nat.le_of_lt h)
  constructor
  · rw [decodeFrame_of_lt schema (by rw [hseen]; exact hspare), hseen]
  · exact decodeFrame_of_lt schema (Nat.lt_trans hspare h)

end FrameReader

/-! ### Other links -/

/-- A link as a reader uses it: the longest frame that it carries, and a receive into a buffer,
which answers how many bytes were written, the buffer and the link afterwards. -/
structure Inbound (σ : Type) where
  maxFrameSize : σ → Nat
  receive : σ → Bytes → Option Nat × Bytes × σ

namespace Inbound

variable {σ : Type}

/-- The datagram is next on the link. As much of it as the buffer holds is written to the front of
the buffer, and the rest is lost. -/
def Offers (io : Inbound σ) (link : σ) (datagram : Bytes) (rest : σ) : Prop :=
  ∀ buffer, io.receive link buffer =
    (some (min datagram.length buffer.length),
      datagram.take buffer.length ++ buffer.drop datagram.length, rest)

/-- An end of a pair. -/
def ofEnd (e : LinkEnd) : Inbound Loopback where
  maxFrameSize := Loopback.maxFrameSize
  receive link buffer := link.receive e buffer

/-- The oldest frame that waits at an end of a pair is next there. -/
theorem offers_ofEnd {e : LinkEnd} {link : Loopback} {datagram : Bytes} {rest : List Bytes}
    (h : link.waiting e = datagram :: rest) :
    (ofEnd e).Offers link datagram (link.withWaiting e rest) := by
  intro buffer
  have hdrop : buffer.drop (min datagram.length buffer.length) = buffer.drop datagram.length := by
    rcases Nat.le_total datagram.length buffer.length with hle | hle
    · rw [Nat.min_eq_left hle]
    · rw [Nat.min_eq_right hle, List.drop_length, List.drop_eq_nil_of_le hle]
  have htake : datagram.take (min datagram.length buffer.length) =
      datagram.take buffer.length := by
    rw [List.take_eq_take_iff]
    omega
  show link.receive e buffer = _
  rw [Loopback.receive_of_cons h, hdrop, htake]

end Inbound

namespace FrameReader

variable {σ : Type}

/-- Receives into a buffer that is kept from datagram to datagram, and reads the bytes that were
written to its front. -/
def receiveThrough (r : FrameReader) (io : Inbound σ) (schema : Schema) (buffer : Bytes)
    (link : σ) : Except FrameError (Option DecodedFrame) × Bytes × σ :=
  match io.receive link buffer with
  | (none, buffer, link) => (.ok none, buffer, link)
  | (some n, buffer, link) =>
    ((schema.decodeFrame r.config (buffer.take n)).map some, buffer, link)

/-- The reader reads what the buffer holds of the next datagram, and nothing that earlier ones
have left there. -/
theorem receiveThrough_of_offers {io : Inbound σ} {link rest : σ} {datagram : Bytes}
    (h : io.Offers link datagram rest) (r : FrameReader) (schema : Schema) (buffer : Bytes) :
    ∃ buffer', r.receiveThrough io schema buffer link =
      ((schema.decodeFrame r.config (datagram.take buffer.length)).map some, buffer', rest) := by
  have hlength : min datagram.length buffer.length = (datagram.take buffer.length).length := by
    rw [List.length_take, Nat.min_comm]
  rw [receiveThrough, h buffer]
  dsimp only
  rw [hlength, List.take_left]
  exact ⟨_, rfl⟩

end FrameReader

end Telemetry
