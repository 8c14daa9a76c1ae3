/-!
# Telemetry.Tier

**Update-rate classes.** The order of the tiers is transmit priority: it is the order
of the fields in a frame and, for the three periodic tiers, the order of their bits in
the message code. Conditional fields have no tier bit; each is flagged by the bit of
the event that it is bound to.
-/

namespace Telemetry

/-- The update-rate class of a field, by falling priority. -/
inductive Tier
  | fast
  | medium
  | slow
  | conditional
  deriving DecidableEq

/-- Bytes that the message code takes at the front of a frame. -/
def headerSize : Nat := 2

/-- The highest event that fits the message code. -/
def maxEvent : Nat := 12

/-- The bit of the message code that belongs to event zero. -/
def eventShift : Nat := 3

/-- The bit of the message code that belongs to an event. -/
def eventBit (event : Nat) : Nat := eventShift + event

namespace Tier

/-- All tiers by falling priority. -/
def all : List Tier := [fast, medium, slow, conditional]

/-- The tiers that own a bit of the message code. -/
def periodic : List Tier := [fast, medium, slow]

/-- The position in priority order. -/
def index : Tier → Nat
  | fast => 0
  | medium => 1
  | slow => 2
  | conditional => 3

/-- The bit of the message code that a periodic tier owns. -/
def bit? : Tier → Option Nat
  | fast => some 0
  | medium => some 1
  | slow => some 2
  | conditional => none

def name : Tier → String
  | fast => "fast"
  | medium => "medium"
  | slow => "slow"
  | conditional => "conditional"

/-- The tier of this name. -/
def ofName? (s : String) : Option Tier := all.find? fun t => t.name == s

theorem mem_all (t : Tier) : t ∈ all := by
  cases t <;> decide

theorem index_inj {s t : Tier} : s.index = t.index ↔ s = t := by
  cases s <;> cases t <;> decide

theorem ofName?_name (t : Tier) : ofName? t.name = some t := by
  cases t <;> decide

end Tier

end Telemetry
