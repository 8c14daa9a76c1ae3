import Mathlib.Data.List.Forall2
import Telemetry.Link.Handle
/-!
# Telemetry.Proofs.Link.Fifo

**A pair of ends is two queues that know nothing of each other.** Whatever calls are made on
both ends, in any order and through whatever handle, the frames that one end accepted for
sending are received at the other end in their order, each of them once.

One call moves at most one frame: behind those that wait at the other end, or off the front of
those that wait at its own (`Conserves`). Along a run, what waited at an end and what was accepted
for it is therefore what was received there and what waits there now (`conserves_run`). A call
looks at the frames of one direction only, so the two directions can be told apart in a run
(`filter_run`).

The main statement is `run_fifo`.
-/

namespace Telemetry.Loopback

/-! ### Calls and what becomes of them -/

/-- A call on an end of a pair. -/
inductive Call
  | send (h : LinkHandle) (frame : List UInt8)
  | receive (h : LinkHandle) (buffer : List UInt8)

/-- What a call answers: whether the frame was accepted, or how many bytes were received, if
anything was, and the buffer afterwards. -/
inductive Answer
  | sent (outcome : Except LinkError Unit)
  | received (count : Option Nat) (buffer : List UInt8)

def call (l : Loopback) : Call → Answer × Loopback
  | .send h frame => (.sent (h.send l frame).1, (h.send l frame).2)
  | .receive h buffer =>
    (.received (h.receive l buffer).1 (h.receive l buffer).2.1, (h.receive l buffer).2.2)

/-- Some calls one after the other, each with its answer, and the pair after the last one. -/
def run (l : Loopback) : List Call → List (Call × Answer) × Loopback
  | [] => ([], l)
  | c :: rest => ((c, (l.call c).1) :: ((l.call c).2.run rest).1, ((l.call c).2.run rest).2)

/-- The frame of a send at this end that was accepted. -/
def accepted? (e : LinkEnd) : Call × Answer → Option (List UInt8)
  | (.send h frame, .sent (.ok ())) => if h.linkEnd = e then some frame else none
  | _ => none

/-- A receive that returned a frame: the buffer before, how many bytes were written and the
buffer afterwards. -/
structure Receipt where
  before : List UInt8
  count : Nat
  after : List UInt8

/-- The receipt of a receive at this end that returned a frame. -/
def receipt? (e : LinkEnd) : Call × Answer → Option Receipt
  | (.receive h buffer, .received (some n) after) =>
    if h.linkEnd = e then some ⟨buffer, n, after⟩ else none
  | _ => none

/-- The frames that an end accepted for sending, in their order. -/
def accepted (e : LinkEnd) (log : List (Call × Answer)) : List (List UInt8) :=
  log.filterMap (accepted? e)

/-- The receives at an end that returned a frame, in their order. -/
def receipts (e : LinkEnd) (log : List (Call × Answer)) : List Receipt :=
  log.filterMap (receipt? e)

/-- The frame, as far as the buffer holds it, stands at the front of the buffer, and the rest of
the buffer is as it was. -/
def Receipt.Holds (r : Receipt) (frame : List UInt8) : Prop :=
  r.count = min frame.length r.before.length ∧
    r.after = frame.take r.count ++ r.before.drop r.count

/-! ### One call -/

theorem other_other (e : LinkEnd) : e.other.other = e := by
  cases e <;> rfl

theorem call_send_of_le {l : Loopback} (h : LinkHandle) {frame : List UInt8}
    (hle : frame.length ≤ l.maxFrameSize) : l.call (.send h frame) =
      (.sent (.ok ()), l.withWaiting h.linkEnd.other (l.waiting h.linkEnd.other ++ [frame])) := by
  rw [call, LinkHandle.send_eq, send_of_le _ _ _ hle]

/-- A refused frame leaves the pair as it was. -/
theorem call_send_of_lt {l : Loopback} (h : LinkHandle) {frame : List UInt8}
    (hlt : l.maxFrameSize < frame.length) : l.call (.send h frame) =
      (.sent (.error (.frameTooLarge frame.length l.maxFrameSize)), l) := by
  rw [call, LinkHandle.send_eq, send_of_lt _ _ _ hlt]

theorem call_receive_of_nil {l : Loopback} {h : LinkHandle} (hnil : l.waiting h.linkEnd = [])
    (buffer : List UInt8) : l.call (.receive h buffer) = (.received none buffer, l) := by
  rw [call, LinkHandle.receive_eq, receive_of_nil hnil]

theorem call_receive_of_cons {l : Loopback} {h : LinkHandle} {frame : List UInt8}
    {rest : List (List UInt8)} (hcons : l.waiting h.linkEnd = frame :: rest)
    (buffer : List UInt8) :
    ∃ r : Receipt, r.before = buffer ∧ r.Holds frame ∧ l.call (.receive h buffer) =
      (.received (some r.count) r.after, l.withWaiting h.linkEnd rest) := by
  rw [call, LinkHandle.receive_eq, receive_of_cons hcons]
  exact ⟨⟨buffer, _, _⟩, rfl, ⟨rfl, rfl⟩, rfl⟩

@[simp]
theorem maxFrameSize_call (l : Loopback) (c : Call) :
    (l.call c).2.maxFrameSize = l.maxFrameSize := by
  cases c with
  | send h frame =>
    rcases Nat.lt_or_ge l.maxFrameSize frame.length with hlt | hle
    · rw [call_send_of_lt h hlt]
    · rw [call_send_of_le h hle, maxFrameSize_withWaiting]
  | receive h buffer =>
    cases hwaiting : l.waiting h.linkEnd with
    | nil => rw [call_receive_of_nil hwaiting]
    | cons frame rest =>
      obtain ⟨r, -, -, hcall⟩ := call_receive_of_cons hwaiting buffer
      rw [hcall, maxFrameSize_withWaiting]

/-! ### The two directions -/

/-- The end that the frame of a call goes to. -/
def Call.receiver : Call → LinkEnd
  | send h _ => h.linkEnd.other
  | receive h _ => h.linkEnd

theorem accepted?_of_ne {c : Call} {e : LinkEnd} (h : c.receiver ≠ e) (a : Answer) :
    accepted? e.other (c, a) = none := by
  cases c with
  | receive => rfl
  | send handle frame =>
    have hne : handle.linkEnd ≠ e.other := by
      intro heq
      exact h (by rw [Call.receiver, heq, other_other])
    unfold accepted?
    split
    · rename_i heq
      cases heq
      exact if_neg hne
    · rfl

theorem receipt?_of_ne {c : Call} {e : LinkEnd} (h : c.receiver ≠ e) (a : Answer) :
    receipt? e (c, a) = none := by
  cases c with
  | send => rfl
  | receive handle buffer =>
    unfold receipt?
    split
    · rename_i heq
      cases heq
      exact if_neg h
    · rfl

/-- A call leaves the frames of the other direction alone. -/
theorem waiting_call_of_ne {c : Call} {e : LinkEnd} (h : c.receiver ≠ e) (l : Loopback) :
    (l.call c).2.waiting e = l.waiting e := by
  cases c with
  | send handle frame =>
    rcases Nat.lt_or_ge l.maxFrameSize frame.length with hlt | hle
    · rw [call_send_of_lt handle hlt]
    · rw [call_send_of_le handle hle]
      exact waiting_withWaiting_of_ne h l _
  | receive handle buffer =>
    cases hwaiting : l.waiting handle.linkEnd with
    | nil => rw [call_receive_of_nil hwaiting]
    | cons frame rest =>
      obtain ⟨r, -, -, hcall⟩ := call_receive_of_cons hwaiting buffer
      rw [hcall]
      exact waiting_withWaiting_of_ne h l _

/-- The pairs do not differ in the direction to an end. -/
structure Agrees (e : LinkEnd) (l l' : Loopback) : Prop where
  maxFrameSize : l.maxFrameSize = l'.maxFrameSize
  waiting : l.waiting e = l'.waiting e

/-- A call is answered for the frames of its own direction. -/
theorem Agrees.call {c : Call} {l l' : Loopback} (h : Agrees c.receiver l l') :
    (l.call c).1 = (l'.call c).1 ∧ Agrees c.receiver (l.call c).2 (l'.call c).2 := by
  cases c with
  | send handle frame =>
    have hwaiting : l.waiting handle.linkEnd.other = l'.waiting handle.linkEnd.other := h.waiting
    rcases Nat.lt_or_ge l.maxFrameSize frame.length with hlt | hle
    · rw [call_send_of_lt handle hlt, call_send_of_lt handle (h.maxFrameSize ▸ hlt),
        h.maxFrameSize]
      exact ⟨rfl, h⟩
    · rw [call_send_of_le handle hle, call_send_of_le handle (h.maxFrameSize ▸ hle), hwaiting]
      exact ⟨rfl, by simp [h.maxFrameSize], by simp [Call.receiver]⟩
  | receive handle buffer =>
    have hsame : l.waiting handle.linkEnd = l'.waiting handle.linkEnd := h.waiting
    cases hwaiting : l.waiting handle.linkEnd with
    | nil =>
      rw [call_receive_of_nil hwaiting, call_receive_of_nil (hsame ▸ hwaiting)]
      exact ⟨rfl, h⟩
    | cons frame rest =>
      rw [Loopback.call, Loopback.call, LinkHandle.receive_eq, LinkHandle.receive_eq,
        receive_of_cons hwaiting, receive_of_cons (hsame ▸ hwaiting)]
      exact ⟨rfl, by simp [h.maxFrameSize], by simp [Call.receiver]⟩

/-- Leaving out the calls of the other direction leaves the answers to the rest as they are. -/
theorem filter_run {e : LinkEnd} {l l' : Loopback} (h : Agrees e l l') (calls : List Call) :
    (l'.run (calls.filter fun c => c.receiver = e)).1 =
      (l.run calls).1.filter fun entry => entry.1.receiver = e := by
  induction calls generalizing l l' with
  | nil => rfl
  | cons c rest ih =>
    by_cases hc : c.receiver = e
    · subst hc
      obtain ⟨hanswer, hafter⟩ := h.call
      simp [run, hanswer, ih hafter]
    · have hafter : Agrees e (l.call c).2 l' :=
        ⟨(maxFrameSize_call l c).trans h.maxFrameSize, (waiting_call_of_ne hc l).trans h.waiting⟩
      simp [run, hc, ih hafter]

/-! ### Frames are conserved -/

/-- What some calls did to the frames for one end: those that waited there and those that were
accepted for it are those that were received there and those that wait there now. -/
def Conserves (e : LinkEnd) (l : Loopback) (log : List (Call × Answer)) (l' : Loopback) : Prop :=
  ∃ frames, List.Forall₂ Receipt.Holds (receipts e log) frames ∧
    l.waiting e ++ accepted e.other log = frames ++ l'.waiting e

theorem conserves_send (l : Loopback) (h : LinkHandle) (frame : List UInt8) :
    Conserves h.linkEnd.other l [(.send h frame, (l.call (.send h frame)).1)]
      (l.call (.send h frame)).2 := by
  refine ⟨[], .nil, ?_⟩
  rcases Nat.lt_or_ge l.maxFrameSize frame.length with hlt | hle
  · rw [call_send_of_lt h hlt]
    simp [accepted, accepted?]
  · rw [call_send_of_le h hle]
    simp [accepted, accepted?, other_other]

theorem conserves_receive (l : Loopback) (h : LinkHandle) (buffer : List UInt8) :
    Conserves h.linkEnd l [(.receive h buffer, (l.call (.receive h buffer)).1)]
      (l.call (.receive h buffer)).2 := by
  cases hwaiting : l.waiting h.linkEnd with
  | nil =>
    rw [call_receive_of_nil hwaiting]
    exact ⟨[], .nil, by simp [accepted, accepted?]⟩
  | cons frame rest =>
    obtain ⟨r, rfl, hholds, hcall⟩ := call_receive_of_cons hwaiting buffer
    rw [hcall]
    refine ⟨[frame], ?_, by simp [accepted, accepted?, hwaiting]⟩
    simpa [receipts, receipt?] using hholds

theorem conserves_call (l : Loopback) (c : Call) (e : LinkEnd) :
    Conserves e l [(c, (l.call c).1)] (l.call c).2 := by
  by_cases hc : c.receiver = e
  · subst hc
    cases c with
    | send h frame => exact conserves_send l h frame
    | receive h buffer => exact conserves_receive l h buffer
  · refine ⟨[], ?_, ?_⟩
    · simp [receipts, receipt?_of_ne hc]
    · simp [accepted, accepted?_of_ne hc, waiting_call_of_ne hc]

/-- Frames that are conserved twice in a row are conserved. -/
theorem Conserves.append {e : LinkEnd} {l l' l'' : Loopback} {log log' : List (Call × Answer)}
    (h : Conserves e l log l') (h' : Conserves e l' log' l'') :
    Conserves e l (log ++ log') l'' := by
  obtain ⟨frames, hholds, hframes⟩ := h
  obtain ⟨frames', hholds', hframes'⟩ := h'
  refine ⟨frames ++ frames', ?_, ?_⟩
  · rw [receipts, List.filterMap_append]
    exact List.rel_append hholds hholds'
  · calc l.waiting e ++ accepted e.other (log ++ log')
        = (l.waiting e ++ accepted e.other log) ++ accepted e.other log' := by
          simp [accepted]
      _ = frames ++ (l'.waiting e ++ accepted e.other log') := by
          rw [hframes, List.append_assoc]
      _ = (frames ++ frames') ++ l''.waiting e := by
          rw [hframes', List.append_assoc]

theorem conserves_run (l : Loopback) (calls : List Call) (e : LinkEnd) :
    Conserves e l (l.run calls).1 (l.run calls).2 := by
  induction calls generalizing l with
  | nil => exact ⟨[], .nil, by simp [run, accepted]⟩
  | cons c rest ih => exact (conserves_call l c e).append (ih (l.call c).2)

theorem map_fst_run (l : Loopback) (calls : List Call) :
    (l.run calls).1.map Prod.fst = calls := by
  induction calls generalizing l with
  | nil => rfl
  | cons c rest ih => exact congrArg (c :: ·) (ih (l.call c).2)

theorem run_append (l : Loopback) (calls more : List Call) : l.run (calls ++ more) =
    ((l.run calls).1 ++ ((l.run calls).2.run more).1, ((l.run calls).2.run more).2) := by
  induction calls generalizing l with
  | nil => rfl
  | cons c rest ih => simp only [List.cons_append, run, ih (l.call c).2]

theorem maxFrameSize_run (l : Loopback) (calls : List Call) :
    (l.run calls).2.maxFrameSize = l.maxFrameSize := by
  induction calls generalizing l with
  | nil => rfl
  | cons c rest ih => exact (ih _).trans (maxFrameSize_call l c)

/-! ### Two queues -/

/-- What is known of the frames for one end after some calls on a pair that was empty before. -/
structure Fifo (log : List (Call × Answer)) (l : Loopback) (e : LinkEnd) : Prop where
  /-- The receives that returned a frame yield the frames that the other end accepted, one by one
  from the first. -/
  in_order : List.Forall₂ Receipt.Holds (receipts e log)
    ((accepted e.other log).take (receipts e log).length)
  /-- The frames that were accepted and not received yet wait, in the same order. -/
  waiting : l.waiting e = (accepted e.other log).drop (receipts e log).length
  pending : l.pending e + (receipts e log).length = (accepted e.other log).length

theorem Conserves.fifo {e : LinkEnd} {l l' : Loopback} {log : List (Call × Answer)}
    (h : Conserves e l log l') (hempty : l.waiting e = []) : Fifo log l' e := by
  obtain ⟨frames, hholds, hframes⟩ := h
  rw [hempty, List.nil_append] at hframes
  have hlength := hholds.length_eq
  constructor
  · rw [hframes, hlength, List.take_left]
    exact hholds
  · rw [hframes, hlength, List.drop_left]
  · rw [hframes, hlength, List.length_append, pending, Nat.add_comm]

/-- What a pair answers to the next call. -/
structure Answers (l : Loopback) : Prop where
  too_long : ∀ h frame, l.maxFrameSize < frame.length → l.call (.send h frame) =
    (.sent (.error (.frameTooLarge frame.length l.maxFrameSize)), l)
  accepts : ∀ h frame, frame.length ≤ l.maxFrameSize →
    (l.call (.send h frame)).1 = .sent (.ok ())
  nothing : ∀ h buffer, l.pending h.linkEnd = 0 →
    l.call (.receive h buffer) = (.received none buffer, l)
  something : ∀ h buffer, 0 < l.pending h.linkEnd →
    ∃ n after, (l.call (.receive h buffer)).1 = .received (some n) after
  limit : ∀ h : LinkHandle, h.maxFrameSize l = l.maxFrameSize

theorem answers (l : Loopback) : l.Answers where
  too_long h _ hlt := call_send_of_lt h hlt
  accepts h _ hle := by rw [call_send_of_le h hle]
  nothing _ buffer hpending := call_receive_of_nil (List.length_eq_zero_iff.mp hpending) buffer
  something h buffer hpending := by
    obtain ⟨frame, rest, hcons⟩ := List.exists_cons_of_length_pos hpending
    obtain ⟨r, -, -, hcall⟩ := call_receive_of_cons hcons buffer
    rw [hcall]
    exact ⟨r.count, r.after, rfl⟩
  limit h := h.maxFrameSize_eq l

/-- **A pair is two lossless queues that do not touch each other.** After any calls on both ends
of a new pair, each end has received the frames that the other end accepted, in their order and
none of them twice, and those that are left wait there. Calls that follow go on from there: the
next one is refused for its length, or finds nothing, exactly when it should. The calls of one
direction are answered as if there were no others. -/
theorem run_fifo (maxFrameSize : Nat) (calls : List Call) :
    let new : Loopback := ⟨maxFrameSize, [], []⟩
    let log := (new.run calls).1
    let l := (new.run calls).2
    log.map Prod.fst = calls ∧
      (∀ more, new.run (calls ++ more) = (log ++ (l.run more).1, (l.run more).2)) ∧
      l.maxFrameSize = maxFrameSize ∧ l.Answers ∧ (∀ e, Fifo log l e) ∧
      ∀ e, (new.run (calls.filter fun c => c.receiver = e)).1 =
        log.filter fun entry => entry.1.receiver = e := by
  intro new log l
  have hempty : ∀ e, new.waiting e = [] := by
    intro e
    cases e <;> rfl
  exact ⟨map_fst_run new calls, run_append new calls, maxFrameSize_run new calls, l.answers,
    fun e => (conserves_run new calls e).fifo (hempty e),
    fun e => filter_run ⟨rfl, rfl⟩ calls⟩

/-- Both ends send. The second frame for `b` is too long, the first one is cut off by its buffer,
and what `a` receives comes from `b`. -/
theorem run_fifo_scenario :
    let a := LinkHandle.itself .a
    let b := LinkHandle.boxed (.itself .b)
    let calls : List Call := [.send a [1, 2], .send b [9], .send a [3, 4, 5, 6], .send a [7],
      .receive b [0], .receive a [0, 0], .receive a [0, 0], .send a [8]]
    let log := ((⟨3, [], []⟩ : Loopback).run calls).1
    let l := ((⟨3, [], []⟩ : Loopback).run calls).2
    accepted .a log = [[1, 2], [7], [8]] ∧ receipts .b log = [⟨[0], 1, [1]⟩] ∧
      receipts .a log = [⟨[0, 0], 1, [9, 0]⟩] ∧ l.waiting .b = [[7], [8]] ∧
      l.pending .b + 1 = 3 ∧
      l.call (.send b [3, 4, 5, 6]) = (.sent (.error (.frameTooLarge 4 3)), l) ∧
      l.call (.receive a [0]) = (.received none [0], l) := by
  intro a b calls log l
  obtain ⟨-, -, -, hanswers, hfifo, -⟩ := run_fifo 3 calls
  have hfifo_b : Fifo log l .b := hfifo .b
  have hpending : l.pending .b + 1 = 3 := hfifo_b.pending
  exact ⟨rfl, rfl, rfl, hfifo_b.waiting, hpending, hanswers.too_long b _ (by decide),
    hanswers.nothing a _ (by decide)⟩

end Telemetry.Loopback
