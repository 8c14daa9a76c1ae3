import Telemetry.MessageCode
/-!
# Telemetry.DirtyFlags

**What has changed since the last frame**, as a transmitter keeps it: a flag for each periodic tier
and a mask of the raised events. `drain` folds the flags into the code of the frame that is due,
tier by tier and then all events at once, and clears what it takes.

What the flags stand for is that code, `pending`. Its bits are the flags themselves
(`getLsbD_pending`), so each operation on the flags is one on the code (`pending_mark`,
`pending_raise`, `drain_eq`), and whoever uses the flags need not look into them.
-/

namespace Telemetry

/-- A flag for each periodic tier, and the raised events, event zero at bit zero. -/
@[ext]
structure DirtyFlags where
  fast : Bool := false
  medium : Bool := false
  slow : Bool := false
  events : BitVec 16 := 0
  /-- No event past the last one is ever raised. -/
  events_masked : events &&& eventMask = events := by decide
  deriving DecidableEq

namespace DirtyFlags

/-- Flags of which none is set. -/
def clean : DirtyFlags := {}

/-- Whether a tier has changed; of the conditional tier, whether any event is raised. -/
def isDirty (f : DirtyFlags) : Tier → Bool
  | .fast => f.fast
  | .medium => f.medium
  | .slow => f.slow
  | .conditional => f.events != 0

def isClean (f : DirtyFlags) : Bool := !(f.fast || f.medium || f.slow || f.events != 0)

/-- The flags with that of a periodic tier set or cleared. The conditional tier has none. -/
def withFlag (f : DirtyFlags) (t : Tier) (dirty : Bool) : DirtyFlags :=
  match t with
  | .fast => { f with fast := dirty }
  | .medium => { f with medium := dirty }
  | .slow => { f with slow := dirty }
  | .conditional => f

/-- Marks a periodic tier. The conditional tier is refused, since its fields are
raised event by event. -/
def mark (f : DirtyFlags) (t : Tier) : Bool × DirtyFlags := (t.bit?.isSome, f.withFlag t true)

theorem getLsbD_events_of_lt (f : DirtyFlags) {event : Nat} (h : maxEvent < event) :
    f.events.getLsbD event = false := by
  rw [← f.events_masked, BitVec.getLsbD_and, getLsbD_eventMask, decide_eq_false (Nat.not_le.mpr h),
    Bool.and_false]

/-- The mask of one event lies inside the mask of all. -/
theorem twoPow_and_eventMask {event : Nat} (h : event ≤ maxEvent) :
    BitVec.twoPow 16 event &&& eventMask = BitVec.twoPow 16 event := by
  apply BitVec.eq_of_getLsbD_eq
  intro i _
  rw [BitVec.getLsbD_and, BitVec.getLsbD_twoPow, getLsbD_eventMask]
  by_cases hi : event = i
  · subst hi
    simp [h]
  · simp [hi]

/-- Raises an event. An event past the last one is refused. -/
def raise (f : DirtyFlags) (event : Nat) : Bool × DirtyFlags :=
  if h : event ≤ maxEvent then
    (true, { f with
      events := f.events ||| BitVec.twoPow 16 event
      events_masked := by
        rw [BitVec.and_or_distrib_right, f.events_masked, twoPow_and_eventMask h] })
  else (false, f)

/-! ### Draining -/

/-- Takes a tier over into a code, if its flag is set, and clears the flag. -/
def drainTier (taken : MessageCode × DirtyFlags) (t : Tier) : MessageCode × DirtyFlags :=
  if taken.2.isDirty t then (taken.1.withTier t, taken.2.withFlag t false) else taken

/-- Takes the raised events over into a code, above the bits of the tiers, and clears them. -/
def drainEvents (taken : MessageCode × DirtyFlags) : MessageCode × DirtyFlags :=
  if taken.2.events != 0 then
    (⟨taken.1.bits ||| ((taken.2.events &&& eventMask) <<< eventShift)⟩,
      { taken.2 with events := 0, events_masked := by decide })
  else taken

/-- Folds everything that has changed into a code and leaves the flags clean. -/
def drain (f : DirtyFlags) : MessageCode × DirtyFlags :=
  drainEvents (Tier.periodic.foldl drainTier (.empty, f))

/-- The code of the frame that is due. -/
def pending (f : DirtyFlags) : MessageCode := f.drain.1

/-- Clearing a flag that is not set changes nothing. -/
theorem drainTier_snd (taken : MessageCode × DirtyFlags) (t : Tier) :
    (drainTier taken t).2 = taken.2.withFlag t false := by
  unfold drainTier
  split
  · rfl
  · rename_i h
    cases t <;> simp_all [isDirty, withFlag, DirtyFlags.ext_iff]

/-- A tier takes its own bit of the code, if its flag is set. -/
theorem getLsbD_drainTier (taken : MessageCode × DirtyFlags) (t : Tier) (i : Nat) :
    (drainTier taken t).1.bits.getLsbD i =
      (taken.1.bits.getLsbD i || (taken.2.isDirty t && decide (t.bit? = some i))) := by
  unfold drainTier
  split
  · rename_i h
    rw [h, Bool.true_and]
    cases t with
    | conditional => simp [MessageCode.withTier, Tier.bit?]
    | fast | medium | slow =>
      rw [MessageCode.withTier, Tier.bit?, MessageCode.getLsbD_withBit]
      congr 1
      rw [← Bool.decide_and, decide_eq_decide, Option.some.injEq]
      omega
  · rename_i h
    rw [Bool.eq_false_iff.mpr h, Bool.false_and, Bool.or_false]

theorem drainEvents_snd (taken : MessageCode × DirtyFlags) :
    (drainEvents taken).2 = { taken.2 with events := 0, events_masked := by decide } := by
  unfold drainEvents
  split
  · rfl
  · rename_i h
    rw [bne_iff_ne, ne_eq, Classical.not_not] at h
    exact DirtyFlags.ext rfl rfl rfl h

/-- The events take the bits above those of the tiers. -/
theorem getLsbD_drainEvents (taken : MessageCode × DirtyFlags) (i : Nat) :
    (drainEvents taken).1.bits.getLsbD i = (taken.1.bits.getLsbD i ||
      (decide (eventShift ≤ i) && taken.2.events.getLsbD (i - eventShift))) := by
  unfold drainEvents
  split
  · have hshift : (!decide (i < eventShift)) = decide (eventShift ≤ i) := by
      rw [← decide_not, decide_eq_decide, Nat.not_lt]
    rw [taken.2.events_masked, BitVec.getLsbD_or, BitVec.getLsbD_shiftLeft, hshift]
    rcases Nat.lt_or_ge i 16 with hlt | hge
    · rw [decide_eq_true hlt, Bool.true_and]
    · -- the highest event has the highest bit of the code
      have hlate : maxEvent < i - eventShift := by
        unfold maxEvent eventShift
        omega
      simp [Nat.not_lt.mpr hge, taken.2.getLsbD_events_of_lt hlate]
  · rename_i h
    rw [bne_iff_ne, ne_eq, Classical.not_not] at h
    simp [h]

/-- **Draining leaves the flags clean.** -/
theorem drain_eq (f : DirtyFlags) : f.drain = (f.pending, clean) := by
  refine Prod.ext rfl ?_
  simp only [drain, Tier.periodic, List.foldl_cons, List.foldl_nil, drainEvents_snd, drainTier_snd]
  rfl

/-- **The bits of the code are the flags**: those of the tiers, and then the events. -/
theorem getLsbD_pending (f : DirtyFlags) (i : Nat) :
    f.pending.bits.getLsbD i = match i with
      | 0 => f.fast
      | 1 => f.medium
      | 2 => f.slow
      | event + 3 => f.events.getLsbD event := by
  have hempty : MessageCode.empty.bits.getLsbD i = false := BitVec.getLsbD_zero
  simp only [pending, drain, Tier.periodic, List.foldl_cons, List.foldl_nil, getLsbD_drainEvents,
    getLsbD_drainTier, drainTier_snd, hempty]
  split <;> simp [isDirty, withFlag, Tier.bit?, eventShift]

theorem pending_clean : clean.pending = .empty :=
  rfl

/-- Marking a tier adds it to the code. -/
theorem pending_mark (f : DirtyFlags) (t : Tier) :
    (f.mark t).2.pending = f.pending.withTier t := by
  cases t with
  | conditional => rfl
  | fast | medium | slow =>
    apply MessageCode.eq_of_getLsbD_eq
    intro i
    rw [MessageCode.withTier, Tier.bit?, MessageCode.getLsbD_withBit, getLsbD_pending,
      getLsbD_pending]
    split <;> simp [mark, withFlag]

/-- Raising an event adds it to the code. -/
theorem pending_raise (f : DirtyFlags) (event : Nat) :
    (f.raise event).2.pending = f.pending.withEvent event := by
  unfold raise MessageCode.withEvent
  split
  · rename_i h
    apply MessageCode.eq_of_getLsbD_eq
    intro i
    rw [MessageCode.getLsbD_withBit, getLsbD_pending, getLsbD_pending]
    unfold eventBit eventShift maxEvent at *
    split
    · simp
    · have hlate : 3 + event ≠ 1 := by omega
      simp [hlate]
    · have hlate : 3 + event ≠ 2 := by omega
      simp [hlate]
    · rename_i e
      rw [BitVec.getLsbD_or, BitVec.getLsbD_twoPow]
      congr 1
      rw [← Bool.decide_and, ← Bool.decide_and, decide_eq_decide]
      omega
  · rfl

theorem raise_fst (f : DirtyFlags) (event : Nat) :
    (f.raise event).1 = decide (event ≤ maxEvent) := by
  unfold raise
  split
  · rename_i h
    rw [decide_eq_true h]
  · rename_i h
    rw [decide_eq_false h]

theorem raise_of_le (f : DirtyFlags) {event : Nat} (h : event ≤ maxEvent) :
    f.raise event = (true, (f.raise event).2) :=
  Prod.ext (by rw [raise_fst, decide_eq_true h]) rfl

/-- An event that is refused leaves the flags as they are. -/
theorem raise_of_lt (f : DirtyFlags) {event : Nat} (h : maxEvent < event) :
    f.raise event = (false, f) :=
  dif_neg (Nat.not_le.mpr h)

theorem events_pending (f : DirtyFlags) : f.pending.events = f.events := by
  apply BitVec.eq_of_getLsbD_eq
  intro event _
  have hbit : eventBit event = event + 3 := Nat.add_comm 3 event
  rw [MessageCode.getLsbD_events, MessageCode.hasEvent, hbit, getLsbD_pending]

/-- A tier is dirty if the code has it. -/
theorem isDirty_eq (f : DirtyFlags) (t : Tier) : f.isDirty t = f.pending.hasTier t := by
  cases t with
  | fast => exact (f.getLsbD_pending 0).symm
  | medium => exact (f.getLsbD_pending 1).symm
  | slow => exact (f.getLsbD_pending 2).symm
  | conditional => rw [MessageCode.hasTier, Tier.bit?, events_pending, isDirty]

theorem isClean_iff (f : DirtyFlags) : f.isClean = true ↔ f = clean := by
  simp [isClean, clean, DirtyFlags.ext_iff, and_assoc]

/-- The flags are clean if there is nothing to send. -/
theorem isClean_eq (f : DirtyFlags) : f.isClean = f.pending.isEmpty := by
  rw [Bool.eq_iff_iff, isClean_iff, MessageCode.isEmpty, beq_iff_eq]
  constructor
  · rintro rfl
    rfl
  · intro h
    have hcode : f.pending = .empty := congrArg MessageCode.mk h
    have hlow := f.getLsbD_pending
    have hevents := f.events_pending
    rw [hcode] at hlow hevents
    exact DirtyFlags.ext (hlow 0).symm (hlow 1).symm (hlow 2).symm hevents.symm

end DirtyFlags

end Telemetry
