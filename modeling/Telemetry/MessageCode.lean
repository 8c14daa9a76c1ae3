import Telemetry.Tier
/-!
# Telemetry.MessageCode

**The frame header**: a 16-bit set of the periodic tiers (bits 0 to 2) and the events
(event `e` at bit `3 + e`) that a frame carries.
-/

namespace Telemetry

/-- The bits of the events once they are shifted down, event zero at bit zero. -/
def eventMask : BitVec 16 := (1 <<< (maxEvent + 1)) - 1

theorem getLsbD_eventMask (i : Nat) : eventMask.getLsbD i = decide (i ≤ maxEvent) := by
  have hall : ∀ i < 16, eventMask.getLsbD i = decide (i ≤ maxEvent) := by decide
  rcases Nat.lt_or_ge i 16 with hlt | hge
  · exact hall i hlt
  · have hlate : ¬ i ≤ maxEvent := by
      unfold maxEvent
      omega
    rw [BitVec.getLsbD_of_ge _ _ hge, decide_eq_false hlate]

/-- Which tiers and events a frame carries. -/
structure MessageCode where
  bits : BitVec 16
  deriving DecidableEq

namespace MessageCode

theorem eq_of_getLsbD_eq {c d : MessageCode} (h : ∀ i, c.bits.getLsbD i = d.bits.getLsbD i) :
    c = d := by
  obtain ⟨c⟩ := c
  obtain ⟨d⟩ := d
  exact congrArg mk (BitVec.eq_of_getLsbD_eq fun i _ => h i)

/-- The code of nothing, which is never sent. -/
def empty : MessageCode := ⟨0⟩

def isEmpty (c : MessageCode) : Bool := c.bits == 0

def ofNat (n : Nat) : MessageCode := ⟨BitVec.ofNat 16 n⟩

def toNat (c : MessageCode) : Nat := c.bits.toNat

/-- The events of the code, event zero at bit zero. -/
def events (c : MessageCode) : BitVec 16 := (c.bits >>> eventShift) &&& eventMask

def hasEvent (c : MessageCode) (event : Nat) : Bool := c.bits.getLsbD (eventBit event)

/-- Every event of a code fits it. -/
theorem le_maxEvent_of_hasEvent {c : MessageCode} {event : Nat} (h : c.hasEvent event = true) :
    event ≤ maxEvent := by
  have hlt : eventBit event < 16 := BitVec.lt_of_getLsbD h
  simp only [eventBit, eventShift, maxEvent] at *
  omega

theorem getLsbD_events (c : MessageCode) (event : Nat) :
    c.events.getLsbD event = c.hasEvent event := by
  rw [events, BitVec.getLsbD_and, BitVec.getLsbD_ushiftRight, getLsbD_eventMask]
  show (c.hasEvent event && decide (event ≤ maxEvent)) = c.hasEvent event
  cases hevent : c.hasEvent event with
  | false => rfl
  | true => rw [decide_eq_true (le_maxEvent_of_hasEvent hevent), Bool.true_and]

/-- Whether the code carries anything of a tier; of the conditional tier, any event. -/
def hasTier (c : MessageCode) (t : Tier) : Bool :=
  match t.bit? with
  | some bit => c.bits.getLsbD bit
  | none => c.events != 0

/-- The code with a bit added. -/
def withBit (c : MessageCode) (bit : Nat) : MessageCode := ⟨c.bits ||| BitVec.twoPow 16 bit⟩

/-- Adding a bit sets that bit and leaves every other one. -/
theorem getLsbD_withBit (c : MessageCode) (bit i : Nat) :
    (c.withBit bit).bits.getLsbD i =
      (c.bits.getLsbD i || (decide (i < 16) && decide (bit = i))) := by
  rw [withBit, BitVec.getLsbD_or, BitVec.getLsbD_twoPow]
  by_cases h : bit = i
  · subst h
    simp
  · simp [h]

/-- The code with a periodic tier added; the conditional tier adds nothing. -/
def withTier (c : MessageCode) (t : Tier) : MessageCode :=
  match t.bit? with
  | some bit => c.withBit bit
  | none => c

/-- The code with an event added; an event past the last one adds nothing. -/
def withEvent (c : MessageCode) (event : Nat) : MessageCode :=
  if event ≤ maxEvent then c.withBit (eventBit event) else c

/-- The two bytes of the header, low byte first. -/
def toBytes (c : MessageCode) : List UInt8 :=
  [UInt8.ofNat c.toNat, UInt8.ofNat (c.toNat / 256)]

/-- The code of a header. -/
def ofBytes (low high : UInt8) : MessageCode := ofNat (low.toNat + 256 * high.toNat)

/-- The two bytes of a code spell it. -/
theorem ofBytes_toBytes (c : MessageCode) :
    ofBytes (UInt8.ofNat c.toNat) (UInt8.ofNat (c.toNat / 256)) = c := by
  obtain ⟨bits⟩ := c
  have hlt : bits.toNat < 65536 := bits.isLt
  simp only [ofBytes, ofNat, toNat, UInt8.toNat_ofNat', mk.injEq]
  apply BitVec.eq_of_toNat_eq
  rw [BitVec.toNat_ofNat]
  omega

/-- The bits in base two, at least five of them. -/
def text (c : MessageCode) : String :=
  let digits := Nat.toDigits 2 c.toNat
  String.ofList ('0' :: 'b' :: List.replicate (5 - digits.length) '0' ++ digits)

end MessageCode

end Telemetry
