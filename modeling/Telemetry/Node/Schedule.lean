import Telemetry.Json.Reader
import Telemetry.Json.Writer
/-!
# Telemetry.Node.Schedule

**When the handlers of the transmit loop run.** Times are nanoseconds from any fixed
moment. A handler that is due fires once. Its next deadline is one period after the last
one, which keeps its phase; a handler that has fallen behind starts anew one period from
now, so missed periods are skipped and not replayed in a burst.
-/

namespace Telemetry

/-- One thing for each handler of the loop. -/
structure PerHandler (α : Type) where
  fast : α
  medium : α
  slow : α
  send : α
  deriving DecidableEq

namespace PerHandler

variable {α β γ : Type}

def map (f : α → β) (p : PerHandler α) : PerHandler β :=
  ⟨f p.fast, f p.medium, f p.slow, f p.send⟩

def zipWith (f : α → β → γ) (p : PerHandler α) (q : PerHandler β) : PerHandler γ :=
  ⟨f p.fast q.fast, f p.medium q.medium, f p.slow q.slow, f p.send q.send⟩

def toList (p : PerHandler α) : List α := [p.fast, p.medium, p.slow, p.send]

end PerHandler

/-- Which handlers are to run on this turn of the loop. -/
abbrev Due := PerHandler Bool

def Due.any (d : Due) : Bool := d.fast || d.medium || d.slow || d.send

/-- The periods of the handlers. -/
abbrev TickIntervals := PerHandler Nat

def nanosPerMilli : Nat := 1000000

def nanosPerSecond : Nat := 1000000000

/-- Fast and send every 10 ms, medium every 100 ms, slow every second. -/
def TickIntervals.standard : TickIntervals :=
  ⟨10 * nanosPerMilli, 100 * nanosPerMilli, 1000 * nanosPerMilli, 10 * nanosPerMilli⟩

/-! ### Periods as JSON -/

/-- A period as whole seconds and the nanoseconds beyond them. -/
def periodToJson (period : Nat) : Json :=
  .object [("secs", Json.ofNat (period / nanosPerSecond)),
    ("nanos", Json.ofNat (period % nanosPerSecond))]

/-- A whole number that is not negative. -/
def natOfJson? : Json → Option Nat
  | .number (.unsigned n) => some n.toNat
  | _ => none

def periodOfJson? (j : Json) : Option Nat := do
  let secs ← j.member? "secs" >>= natOfJson?
  let nanos ← j.member? "nanos" >>= natOfJson?
  return secs * nanosPerSecond + nanos

namespace TickIntervals

def toJson (p : TickIntervals) : Json :=
  .object [("fast", periodToJson p.fast), ("medium", periodToJson p.medium),
    ("slow", periodToJson p.slow), ("send", periodToJson p.send)]

def ofJson? (j : Json) : Option TickIntervals := do
  return ⟨← j.member? "fast" >>= periodOfJson?, ← j.member? "medium" >>= periodOfJson?,
    ← j.member? "slow" >>= periodOfJson?, ← j.member? "send" >>= periodOfJson?⟩

end TickIntervals

/-- The periods and the next deadline of each handler. -/
structure Schedule where
  intervals : TickIntervals
  deadlines : PerHandler Nat
  deriving DecidableEq

namespace Schedule

/-- A schedule whose first deadlines are one period after `start`. -/
def start (intervals : TickIntervals) (start : Nat) : Schedule :=
  ⟨intervals, intervals.map fun period => start + period⟩

/-- The deadline of a handler after a turn at `now`. -/
def reschedule (now period deadline : Nat) : Nat :=
  if now < deadline then deadline
  else if deadline + period ≤ now then now + period
  else deadline + period

/-- A deadline that has not come is kept. -/
theorem reschedule_of_lt {now period deadline : Nat} (h : now < deadline) :
    reschedule now period deadline = deadline :=
  if_pos h

/-- With a positive period the next deadline lies after this turn. -/
theorem lt_reschedule {now period deadline : Nat} (h : 0 < period) :
    now < reschedule now period deadline := by
  unfold reschedule
  split
  · assumption
  · split <;> omega

/-- The handlers whose deadline has come, and the schedule after they have run. -/
def due (s : Schedule) (now : Nat) : Due × Schedule :=
  (s.deadlines.map fun deadline => decide (deadline ≤ now),
    { s with deadlines := s.intervals.zipWith (reschedule now) s.deadlines })

/-- The earliest deadline; until then there is nothing to do. -/
def nextDeadline (s : Schedule) : Nat :=
  min (min s.deadlines.fast s.deadlines.medium) (min s.deadlines.slow s.deadlines.send)

end Schedule

end Telemetry
