import Mathlib.Data.List.Chain
import Telemetry.Node.Schedule
/-!
# Telemetry.Proofs.Node.Ticking

**The handlers of the loop fire at their rates, and the loop sleeps neither too short nor too
long.** A schedule is asked what is due at one moment after the other. What becomes of a handler
then depends on its own period and deadline alone (`map_get_dues`), so one handler at a time is
followed here.

Two facts about one turn carry everything. A handler that fires gets a deadline at least one
period later (`add_le_reschedule`), so it cannot fire more often than its periods have passed. And
after a turn its deadline lies ahead, by at most one period (`Pending`). If turns are at most one
period apart, a handler that fires comes before the deadline after the next, so it keeps its phase
and misses nothing. The main statements are `firings_rate`, of any handler over any turns, and
`nextDeadline_wakes`, of the moment to sleep until.
-/

namespace Telemetry

/-! ### Handlers -/

/-- The handlers of the transmit loop. -/
inductive Handler
  | fast
  | medium
  | slow
  | send
  deriving DecidableEq

theorem Handler.forall_iff {p : Handler → Prop} :
    (∀ h, p h) ↔ p .fast ∧ p .medium ∧ p .slow ∧ p .send := by
  constructor
  · intro hall
    exact ⟨hall _, hall _, hall _, hall _⟩
  · rintro ⟨hfast, hmedium, hslow, hsend⟩ h
    cases h <;> assumption

namespace PerHandler

variable {α β γ : Type}

def get (p : PerHandler α) : Handler → α
  | .fast => p.fast
  | .medium => p.medium
  | .slow => p.slow
  | .send => p.send

@[simp]
theorem get_map (f : α → β) (p : PerHandler α) (h : Handler) : (p.map f).get h = f (p.get h) := by
  cases h <;> rfl

@[simp]
theorem get_zipWith (f : α → β → γ) (p : PerHandler α) (q : PerHandler β) (h : Handler) :
    (p.zipWith f q).get h = f (p.get h) (q.get h) := by
  cases h <;> rfl

theorem eq_of_get_eq {p q : PerHandler α} (heq : ∀ h, p.get h = q.get h) : p = q := by
  obtain ⟨hfast, hmedium, hslow, hsend⟩ := Handler.forall_iff.mp heq
  cases p
  cases q
  simp_all [get]

end PerHandler

theorem Due.any_eq_false_iff {d : Due} : d.any = false ↔ ∀ h, d.get h = false := by
  rw [Handler.forall_iff]
  simp [Due.any, PerHandler.get, and_assoc]

/-- The shortest of the four periods. -/
def TickIntervals.shortest (p : TickIntervals) : Nat :=
  min (min p.fast p.medium) (min p.slow p.send)

theorem TickIntervals.exists_get_eq_shortest (p : TickIntervals) : ∃ h, p.get h = p.shortest := by
  have hmin : ∀ m n : Nat, min m n = m ∨ min m n = n := fun m n => by omega
  unfold shortest
  rcases hmin (min p.fast p.medium) (min p.slow p.send) with h | h <;> rw [h]
  · rcases hmin p.fast p.medium with h | h <;> rw [h]
    · exact ⟨.fast, rfl⟩
    · exact ⟨.medium, rfl⟩
  · rcases hmin p.slow p.send with h | h <;> rw [h]
    · exact ⟨.slow, rfl⟩
    · exact ⟨.send, rfl⟩

namespace Schedule

/-! ### One handler -/

section

variable {now period deadline : Nat}

/-- A deadline that has come is moved on by a period at least. -/
theorem add_le_reschedule (h : deadline ≤ now) :
    deadline + period ≤ reschedule now period deadline := by
  rw [reschedule, if_neg (Nat.not_lt.mpr h)]
  split <;> omega

/-- A deadline that came less than a period ago is moved on by a period exactly. -/
theorem reschedule_of_le_of_lt (h : deadline ≤ now) (hlate : now < deadline + period) :
    reschedule now period deadline = deadline + period := by
  rw [reschedule, if_neg (Nat.not_lt.mpr h), if_neg (Nat.not_le.mpr hlate)]

/-- The deadline lies ahead, by at most one period. -/
structure Pending (now period deadline : Nat) : Prop where
  ahead : now < deadline
  soon : deadline ≤ now + period

theorem pending_start (start : Nat) (h : 0 < period) : Pending start period (start + period) :=
  ⟨Nat.lt_add_of_pos_right h, Nat.le_refl _⟩

/-- **A turn leaves every deadline ahead of it by at most one period**, however late it is. -/
theorem Pending.reschedule (h : Pending now period deadline) {turn : Nat} (hturn : now ≤ turn) :
    Pending turn period (reschedule turn period deadline) := by
  obtain ⟨hahead, hsoon⟩ := h
  refine ⟨lt_reschedule (by omega), ?_⟩
  unfold Schedule.reschedule
  split
  · omega
  · split <;> omega

/-- Whether a handler fires at each of some turns, with its deadline before the first one. -/
def fires (period deadline : Nat) : List Nat → List Bool
  | [] => []
  | now :: rest => decide (deadline ≤ now) :: fires period (reschedule now period deadline) rest

theorem count_fires_of_lt (h : now < deadline) (rest : List Nat) :
    (fires period deadline (now :: rest)).count true = (fires period deadline rest).count true := by
  rw [fires, reschedule_of_lt h, decide_eq_false (Nat.not_le.mpr h),
    List.count_cons_of_ne Bool.false_ne_true]

theorem count_fires_of_le (h : deadline ≤ now) (rest : List Nat) :
    (fires period deadline (now :: rest)).count true =
      (fires period (reschedule now period deadline) rest).count true + 1 := by
  rw [fires, decide_eq_true h, List.count_cons_self]

/-- Whatever the turns, the firings are at least a period apart from the first deadline on. -/
theorem count_fires_le {turns : List Nat} {bound : Nat} (hbound : ∀ turn ∈ turns, turn ≤ bound) :
    (fires period deadline turns).count true = 0 ∨
      deadline + (fires period deadline turns).count true * period ≤ bound + period := by
  induction turns generalizing deadline with
  | nil => exact Or.inl rfl
  | cons now rest ih =>
    obtain ⟨hnow, hrest⟩ := List.forall_mem_cons.mp hbound
    rcases Nat.lt_or_ge now deadline with hlt | hle
    · rw [count_fires_of_lt hlt]
      exact ih hrest
    · -- this firing uses up a period of the bound, the later ones start from the new deadline
      right
      have hmoved : deadline + period ≤ Schedule.reschedule now period deadline :=
        add_le_reschedule hle
      have hlater := @ih (Schedule.reschedule now period deadline) hrest
      rw [count_fires_of_le hle, Nat.succ_mul]
      rcases hlater with hnone | hsome
      · rw [hnone]
        omega
      · omega

/-- The times never decrease, and are at most a period apart. -/
def Steady (period : Nat) (times : List Nat) : Prop :=
  times.IsChain fun t t' => t ≤ t' ∧ t' ≤ t + period

/-- **Steady turns miss nothing**: the deadline after the last turn is as many periods after the
first deadline as there were firings. -/
theorem Pending.count_fires (h : Pending now period deadline) {turns : List Nat}
    (hsteady : Steady period (now :: turns)) :
    Pending (turns.getLastD now) period
      (deadline + (fires period deadline turns).count true * period) := by
  induction turns generalizing now deadline with
  | nil => simpa [fires] using h
  | cons turn rest ih =>
    obtain ⟨⟨hturn, hgap⟩, hrest⟩ := List.isChain_cons_cons.mp hsteady
    have hnext := h.reschedule hturn
    rw [List.getLastD_cons]
    rcases Nat.lt_or_ge turn deadline with hlt | hle
    · rw [reschedule_of_lt hlt] at hnext
      rw [count_fires_of_lt hlt]
      exact ih hnext hrest
    · -- the deadline was still ahead at the turn before, so this one is less than a period late
      have hahead := h.ahead
      have hphase : Schedule.reschedule turn period deadline = deadline + period :=
        reschedule_of_le_of_lt hle (by omega)
      rw [hphase] at hnext
      rw [count_fires_of_le hle, hphase, Nat.succ_mul, Nat.add_comm (_ * period),
        ← Nat.add_assoc]
      exact ih hnext hrest

/-- At most as many firings as whole periods have passed since the start. -/
theorem count_fires_start_le {start : Nat} (hperiod : 0 < period) {turns : List Nat} {bound : Nat}
    (hbound : ∀ turn ∈ turns, turn ≤ bound) :
    (fires period (start + period) turns).count true ≤ (bound - start) / period := by
  have hfires := @count_fires_le period (start + period) turns bound hbound
  rw [Nat.le_div_iff_mul_le hperiod]
  rcases hfires with hnone | hsome
  · rw [hnone, Nat.zero_mul]
    exact Nat.zero_le _
  · omega

/-- Over steady turns exactly as many. -/
theorem count_fires_start_eq {start : Nat} (hperiod : 0 < period) {turns : List Nat}
    (hsteady : Steady period (start :: turns)) :
    (fires period (start + period) turns).count true = (turns.getLastD start - start) / period := by
  obtain ⟨hahead, hsoon⟩ := (pending_start start hperiod).count_fires hsteady
  rw [eq_comm]
  apply Nat.div_eq_of_lt_le
  · omega
  · rw [Nat.succ_mul]
    omega

end

/-! ### Turns -/

/-- What is due at each of some turns, one after the other. -/
def dues (s : Schedule) : List Nat → List Due
  | [] => []
  | now :: rest => (s.due now).1 :: (s.due now).2.dues rest

/-- The schedule after some turns, the first one first. -/
def after (s : Schedule) (turns : List Nat) : Schedule :=
  turns.foldl (fun s now => (s.due now).2) s

/-- At how many of the turns a handler fires. -/
def firings (s : Schedule) (h : Handler) (turns : List Nat) : Nat :=
  (s.dues turns).countP fun d => d.get h

/-- The latest of some turns, or the start if none of them comes after it. -/
def latest (start : Nat) (turns : List Nat) : Nat := turns.foldl max start

theorem le_latest (start : Nat) (turns : List Nat) :
    start ≤ latest start turns ∧ ∀ turn ∈ turns, turn ≤ latest start turns := by
  induction turns generalizing start with
  | nil => exact ⟨Nat.le_refl _, nofun⟩
  | cons turn rest ih =>
    obtain ⟨hstart, hrest⟩ := ih (max start turn)
    have hmax : latest start (turn :: rest) = latest (max start turn) rest := rfl
    rw [hmax, List.forall_mem_cons]
    exact ⟨by omega, by omega, hrest⟩

/-- **A handler goes by its own period and deadline alone.** -/
theorem map_get_dues (s : Schedule) (h : Handler) (turns : List Nat) :
    ((s.dues turns).map fun d => d.get h) =
      fires (s.intervals.get h) (s.deadlines.get h) turns := by
  induction turns generalizing s with
  | nil => rfl
  | cons now rest ih => simp [dues, fires, ih, due]

theorem firings_eq_count (s : Schedule) (h : Handler) (turns : List Nat) :
    s.firings h turns = (fires (s.intervals.get h) (s.deadlines.get h) turns).count true := by
  rw [← map_get_dues, firings, List.count, List.countP_map]
  exact List.countP_congr fun d _ => by simp

theorem intervals_after (s : Schedule) (turns : List Nat) :
    (s.after turns).intervals = s.intervals := by
  induction turns generalizing s with
  | nil => rfl
  | cons now rest ih => exact ih (s.due now).2

/-! ### Rates -/

/-- **A handler fires once in each of its periods.** Whatever the turns of the loop, it fires at
most as often as its period fits between the start and the latest turn (not at all if no turn comes
after the start). If the turns never go back and are at most a period apart, it fires exactly that
often. When it fires does not depend on the periods of the others. -/
theorem firings_rate (intervals : TickIntervals) (h : Handler) (hperiod : 0 < intervals.get h)
    (start : Nat) (turns : List Nat) :
    let s := Schedule.start intervals start
    let period := intervals.get h
    s.firings h turns ≤ (latest start turns - start) / period ∧
      (Steady period (start :: turns) →
        s.firings h turns = (turns.getLastD start - start) / period) ∧
      ∀ others : TickIntervals, others.get h = period →
        ((Schedule.start others start).dues turns).map (fun d => d.get h) =
          (s.dues turns).map fun d => d.get h := by
  intro s period
  have hdeadline : s.deadlines.get h = start + period := by simp [s, Schedule.start, period]
  have hcount : s.firings h turns = (fires period (start + period) turns).count true := by
    rw [firings_eq_count, hdeadline]
    rfl
  refine ⟨?_, ?_, ?_⟩
  · rw [hcount]
    exact count_fires_start_le hperiod (le_latest start turns).2
  · intro hsteady
    rw [hcount]
    exact count_fires_start_eq hperiod hsteady
  · intro others hsame
    rw [map_get_dues, map_get_dues, hdeadline]
    simp [Schedule.start, hsame, s, period]

/-- Turns that are late for the fast handler, but not for the slow one. -/
theorem firings_rate_late :
    let intervals : TickIntervals := ⟨10, 100, 40, 10⟩
    let turns := [110, 125, 160, 160, 199, 220]
    let s := Schedule.start intervals 100
    s.firings .slow turns = 3 ∧ s.firings .fast turns ≤ 12 ∧ s.firings .fast turns = 5 := by
  intro intervals turns s
  obtain ⟨-, hslow, -⟩ := firings_rate intervals .slow (by decide) 100 turns
  obtain ⟨hfast, -, -⟩ := firings_rate intervals .fast (by decide) 100 turns
  have hsteady : Steady 40 (100 :: turns) := by
    simp [Steady, turns]
  exact ⟨(hslow hsteady).trans (by decide), hfast.trans (by decide), by decide⟩

/-! ### The next deadline -/

theorem lt_nextDeadline_iff {s : Schedule} {t : Nat} :
    t < s.nextDeadline ↔ ∀ h, t < s.deadlines.get h := by
  rw [Handler.forall_iff]
  simp only [nextDeadline, PerHandler.get]
  omega

theorem nextDeadline_le (s : Schedule) (h : Handler) : s.nextDeadline ≤ s.deadlines.get h := by
  have hleast := lt_nextDeadline_iff (s := s) (t := s.deadlines.get h)
  by_contra hgt
  exact Nat.lt_irrefl _ (hleast.mp (Nat.not_le.mp hgt) h)

/-- Nothing is due exactly as long as the next deadline has not come. -/
theorem any_due_eq_false_iff {s : Schedule} {t : Nat} :
    (s.due t).1.any = false ↔ t < s.nextDeadline := by
  rw [Due.any_eq_false_iff, lt_nextDeadline_iff]
  simp [due]

/-- A turn before the next deadline changes nothing. -/
theorem due_snd_of_lt {s : Schedule} {t : Nat} (h : t < s.nextDeadline) : (s.due t).2 = s := by
  have hkept : s.intervals.zipWith (reschedule t) s.deadlines = s.deadlines := by
    apply PerHandler.eq_of_get_eq
    intro handler
    rw [PerHandler.get_zipWith, reschedule_of_lt (lt_nextDeadline_iff.mp h handler)]
  simp [due, hkept]

/-- Every deadline lies ahead, by at most the period of its handler. -/
def Waits (s : Schedule) (now : Nat) : Prop :=
  ∀ h, Pending now (s.intervals.get h) (s.deadlines.get h)

theorem waits_start {intervals : TickIntervals} (hperiods : ∀ h, 0 < intervals.get h)
    (start : Nat) : (Schedule.start intervals start).Waits start := by
  intro h
  simpa [Schedule.start] using pending_start start (hperiods h)

theorem Waits.due {s : Schedule} {now turn : Nat} (h : s.Waits now) (hturn : now ≤ turn) :
    (s.due turn).2.Waits turn := by
  intro handler
  simpa [Schedule.due] using (h handler).reschedule hturn

/-- Turns that never go back leave every deadline ahead of the last one. -/
theorem Waits.after {s : Schedule} {now : Nat} (h : s.Waits now) {turns : List Nat}
    (hturns : (now :: turns).IsChain (· ≤ ·)) : (s.after turns).Waits (latest now turns) := by
  induction turns generalizing s now with
  | nil => exact h
  | cons turn rest ih =>
    obtain ⟨hturn, hrest⟩ := List.isChain_cons_cons.mp hturns
    have hmax : latest now (turn :: rest) = latest turn rest := by
      rw [latest, List.foldl_cons, Nat.max_eq_right hturn, latest]
    rw [hmax]
    exact ih (h.due hturn) hrest

/-- **Sleeping until the next deadline neither spins nor misses a tick.** After any turns that never
go back, the next deadline lies ahead, by at most the shortest period. Until then a turn fires
nothing and changes nothing, and then something fires. A second turn at the same moment never fires
anything. -/
theorem nextDeadline_wakes (intervals : TickIntervals) (hperiods : ∀ h, 0 < intervals.get h)
    (start : Nat) (turns : List Nat) (hturns : (start :: turns).IsChain (· ≤ ·)) :
    let s := (Schedule.start intervals start).after turns
    let now := latest start turns
    now < s.nextDeadline ∧ s.nextDeadline ≤ now + intervals.shortest ∧
      (∀ t, now ≤ t → t < s.nextDeadline → (s.due t).1.any = false ∧ (s.due t).2 = s) ∧
      (s.due s.nextDeadline).1.any = true ∧
      ∀ t, ((s.due t).2.due t).1.any = false := by
  intro s now
  have hwaits : s.Waits now := (waits_start hperiods start).after hturns
  have hintervals : s.intervals = intervals := intervals_after _ turns
  refine ⟨?_, ?_, ?_, ?_, ?_⟩
  · exact lt_nextDeadline_iff.mpr fun h => (hwaits h).ahead
  · obtain ⟨h, hshortest⟩ := intervals.exists_get_eq_shortest
    have hsoon := (hwaits h).soon
    rw [hintervals, hshortest] at hsoon
    exact Nat.le_trans (s.nextDeadline_le h) hsoon
  · intro t _ ht
    exact ⟨any_due_eq_false_iff.mpr ht, due_snd_of_lt ht⟩
  · rw [← Bool.not_eq_false, any_due_eq_false_iff]
    exact Nat.lt_irrefl _
  · intro t
    rw [any_due_eq_false_iff, lt_nextDeadline_iff]
    intro h
    simpa [due] using lt_reschedule (hintervals ▸ hperiods h)

/-- The standard periods, after a turn that is late and one on a deadline. -/
theorem nextDeadline_wakes_late :
    let s := (Schedule.start .standard 0).after [55000000, 55000000, 100000000]
    s.nextDeadline = 110000000 ∧ (s.due 109999999).2 = s ∧ (s.due 110000000).1.any = true := by
  intro s
  have hperiods : ∀ h, 0 < TickIntervals.standard.get h := by
    intro h
    cases h <;> decide
  obtain ⟨-, -, hasleep, hawake, -⟩ :=
    nextDeadline_wakes .standard hperiods 0 [55000000, 55000000, 100000000] (by simp)
  exact ⟨by decide, (hasleep 109999999 (by decide) (by decide)).2, hawake⟩

end Schedule

end Telemetry
