import Telemetry.Proofs.Node.Sending
/-!
# Telemetry.Proofs.Node.Poisoning

**A crash poisons the lock of the transmitter that read the source, for good.** A source is read
where a field is read by name, and where a frame is packed; `Transmitter.Crashes` says of each use
of a transmitter when this comes to a source that crashes. Everything else leaves sources alone,
the fast tick included, which counts only in a field that is not linked.

As long as the lock is not poisoned, `Transmitter.Ends` holds of each use: it does not find the
lock poisoned, it crashes exactly where it reads a crash, and just then the lock is poisoned
afterwards. On a poisoned lock nothing changes any more (`answer_of_poisoned`). So at any point of
a run the lock is poisoned exactly if something has crashed (`poisoned_afterAll_iff`). The main
statement is `crash_poisons`.
-/

namespace Telemetry

variable {schema : Schema}

namespace Transmitter

/-! ### Uses of a transmitter -/

/-- One use of a transmitter: an operation, or the question whether anything waits to be sent. -/
inductive Call
  | operation (op : Operation)
  | isDirty

/-- What a use answers when it does not fail. -/
inductive Answer
  | done
  | reading (r : Reading)
  | length (n : Nat)
  | dirty (waits : Bool)
  deriving DecidableEq

def answer (t : Transmitter schema) : Call → Except NodeError Answer
  | .operation (.set name r) => (t.set name r).1.map fun _ => .done
  | .operation (.update name r) => (t.update name r).1.map fun _ => .done
  | .operation (.link name source) => (t.link name source).1.map fun _ => .done
  | .operation (.get sources name) => (t.get sources name).1.map .reading
  | .operation (.tick tier) => (t.tick tier).1.map fun _ => .done
  | .operation (.raise event) => (t.raise event).1.map fun _ => .done
  | .operation (.runDue sources due writer link) => (t.runDue sources due writer link).1.map .length
  | .operation (.send sources writer link) => (t.send sources writer link).1.map .length
  | .isDirty => t.isDirty.map .dirty

def after (t : Transmitter schema) : Call → Transmitter schema
  | .operation op => t.step op
  | .isDirty => t

/-- The link that a use may send over. -/
def Call.link? : Call → Option Loopback
  | .operation (.runDue _ _ _ link) | .operation (.send _ _ link) => some link
  | _ => none

/-- The same link afterwards. -/
def linkAfter? (t : Transmitter schema) : Call → Option Loopback
  | .operation (.runDue sources due writer link) => some (t.runDue sources due writer link).2.2
  | .operation (.send sources writer link) => some (t.send sources writer link).2.2
  | _ => none

/-- The transmitter after some uses, the first one first. -/
def afterAll (t : Transmitter schema) (calls : List Call) : Transmitter schema :=
  calls.foldl after t

/-- What these uses answer. -/
def answers (t : Transmitter schema) : List Call → List (Except NodeError Answer)
  | [] => []
  | c :: rest => t.answer c :: (t.after c).answers rest

/-- What a use answers that comes to a source that crashes. -/
abbrev crash : Except NodeError Answer := .error (.frame .sourceCrashed)

/-- The use comes to a source that crashes: it reads a field that is linked to one, or it sends,
and packing the frame of what is marked then comes to one. -/
def Crashes (t : Transmitter schema) : Call → Prop
  | .operation (.get sources name) => t.store.Crashes sources name
  | .operation (.send sources _ _) => t.store.CrashesFirst sources t.flags.pending
  | .operation (.runDue sources due _ _) => due.send = true ∧
    ∃ t', t.runTicks (dueTiers due) = (.ok (), t') ∧ t'.store.CrashesFirst sources t'.flags.pending
  | _ => False

/-- The answer of a use that does not get to the lock: a name that the schema does not have, or no
handler that is due. -/
def Call.unlocked? (schema : Schema) : Call → Option (Except NodeError Answer)
  | .operation (.set name _) | .operation (.update name _) | .operation (.link name _)
  | .operation (.get _ name) =>
    match schema.indexOf? name with
    | some _ => none
    | none => some (.error (.unknownField name))
  | .operation (.runDue _ due _ _) => if due.any then none else some (.ok (.length 0))
  | _ => none

variable {t : Transmitter schema}

/-! ### On a lock that is not poisoned -/

section

variable {α β : Type} {p q : Prop}

/-- How a use of a lock that was not poisoned ends, where `p` says whether it reads a crash. -/
structure Ends (p : Prop) (answer : Except NodeError α) (after : Transmitter schema) : Prop where
  unlocked : answer ≠ .error .lockPoisoned
  crash_iff : answer = .error (.frame .sourceCrashed) ↔ p
  poisoned_iff : after.poisoned = true ↔ p

theorem Ends.congr {answer : Except NodeError α} (h : Ends p answer t) (hpq : p ↔ q) :
    Ends q answer t :=
  ⟨h.unlocked, h.crash_iff.trans hpq, h.poisoned_iff.trans hpq⟩

/-- Only failures matter. -/
theorem Ends.map {answer : Except NodeError α} (h : Ends p answer t) (g : α → β) :
    Ends p (answer.map g) t := by
  cases answer with
  | error e =>
    show Ends p (.error e : Except NodeError β) t
    exact ⟨by simpa using h.unlocked, by simpa using h.crash_iff, h.poisoned_iff⟩
  | ok a =>
    have hp : ¬ p := by simpa using h.crash_iff
    exact ⟨nofun, iff_of_false nofun hp, h.poisoned_iff⟩

/-- A use that reads no crash leaves the lock as it was. -/
theorem Ends.healthy {answer : Except NodeError α} (h : Ends False answer t) :
    t.poisoned = false := by
  simpa using h.poisoned_iff

theorem ends_of_ok (h : t.poisoned = false) (a : α) :
    Ends False (.ok a : Except NodeError α) t :=
  ⟨nofun, iff_of_false nofun id, by simp [h]⟩

theorem ends_locked (h : t.poisoned = false)
    {run : Transmitter schema → Except FrameError α × Transmitter schema}
    (hrun : (run t).2.poisoned = false) :
    Ends ((run t).1 = .error .sourceCrashed) (t.locked run).1 (t.locked run).2 := by
  unfold locked
  rw [if_neg (by simp [h])]
  generalize run t = ran at hrun ⊢
  obtain ⟨outcome, t'⟩ := ran
  cases outcome with
  | ok a => exact (ends_of_ok hrun a).congr (iff_of_false id nofun)
  | error e => exact ⟨nofun, by simp, by simp⟩

/-- Names are looked up before the lock is taken. -/
theorem ends_lockedAt (h : t.poisoned = false) (name : String)
    (run : Nat → Transmitter schema → Except FrameError α × Transmitter schema)
    (hrun : ∀ i, (run i t).2.poisoned = false) :
    Ends (∃ i, schema.indexOf? name = some i ∧ (run i t).1 = .error .sourceCrashed)
      (t.lockedAt name run).1 (t.lockedAt name run).2 := by
  cases hi : schema.indexOf? name with
  | none =>
    rw [lockedAt_of_unknown hi]
    exact ⟨nofun, iff_of_false nofun nofun, iff_of_false (by simp [h]) nofun⟩
  | some i =>
    rw [lockedAt_of_index hi]
    exact (ends_locked h (hrun i)).congr (by simp)

theorem ends_lockedAt_of_ne (h : t.poisoned = false) {name : String}
    {run : Nat → Transmitter schema → Except FrameError α × Transmitter schema}
    (hrun : ∀ i, (run i t).2.poisoned = false)
    (hne : ∀ i, (run i t).1 ≠ .error .sourceCrashed) :
    Ends False (t.lockedAt name run).1 (t.lockedAt name run).2 := by
  refine (ends_lockedAt h name run hrun).congr (iff_of_false ?_ id)
  rintro ⟨i, -, hcrash⟩
  exact hne i hcrash

end

theorem replaceStore_poisoned (t : Transmitter schema) (outcome : Except FrameError (Store schema)) :
    (t.replaceStore outcome).2.poisoned = t.poisoned := by
  cases outcome <;> rfl

theorem replaceStore_ne_crashed (t : Transmitter schema)
    {outcome : Except FrameError (Store schema)} (h : outcome ≠ .error .sourceCrashed) :
    (t.replaceStore outcome).1 ≠ .error .sourceCrashed := by
  cases outcome with
  | ok store => nofun
  | error e => simpa [replaceStore] using h

/-! ### Each use -/

theorem ends_set (h : t.poisoned = false) (name : String) (r : Reading) :
    Ends False (t.set name r).1 (t.set name r).2 := by
  apply ends_lockedAt_of_ne h
  · intro i
    exact (t.replaceStore_poisoned _).trans h
  · intro i
    exact t.replaceStore_ne_crashed (t.store.set_ne_crashed i r)

theorem ends_update (h : t.poisoned = false) (name : String) (r : Reading) :
    Ends False (t.update name r).1 (t.update name r).2 := by
  apply ends_lockedAt_of_ne h
  · intro i
    cases t.store.set i r <;> exact h
  · intro i
    have hset := t.store.set_ne_crashed i r
    cases hstore : t.store.set i r with
    | ok store => nofun
    | error e => simpa [hstore] using hset

theorem ends_link (h : t.poisoned = false) (name source : String) :
    Ends False (t.link name source).1 (t.link name source).2 := by
  apply ends_lockedAt_of_ne h
  · intro i
    exact (t.replaceStore_poisoned _).trans h
  · intro i
    exact t.replaceStore_ne_crashed (t.store.link_ne_crashed i source)

theorem ends_get (h : t.poisoned = false) (sources : Sources) (name : String) :
    Ends (t.store.Crashes sources name) (t.get sources name).1 (t.get sources name).2 := by
  rw [Store.crashes_iff]
  exact ends_lockedAt h name (fun i t => (t.store.get sources i, t)) fun _ => h

theorem ends_tick (h : t.poisoned = false) (tier : Tier) :
    Ends False (t.tick tier).1 (t.tick tier).2 := by
  unfold tick
  refine (ends_locked h ?_).congr (iff_of_false ?_ id)
  · dsimp only
    split
    · cases t.countTick <;> exact h
    · exact h
  · dsimp only
    have hcount := t.countTick_ne_crashed
    split
    · cases hstore : t.countTick with
      | ok store => nofun
      | error e => simpa [hstore] using hcount
    · nofun

theorem ends_raise (h : t.poisoned = false) (event : Nat) :
    Ends False (t.raise event).1 (t.raise event).2 := by
  unfold raise
  rw [if_neg (by simp [h])]
  split
  · refine ends_of_ok ?_ ()
    exact h
  · exact ⟨nofun, iff_of_false nofun id, by simp [h]⟩

theorem ends_send (hs : schema.Canonical) (h : t.poisoned = false) (sources : Sources)
    (w : FrameWriter) (link : Loopback) :
    Ends (t.store.CrashesFirst sources t.flags.pending) (t.send sources w link).1
      (t.send sources w link).2.1 := by
  rw [send_eq h, ← w.send_eq_crashed_iff hs link]
  generalize (w.send sources t.store t.flags.pending link).1 = outcome
  cases outcome with
  | ok n => exact ⟨nofun, iff_of_false nofun nofun, by simp⟩
  | error e => exact ⟨nofun, by simp [Except.mapError], by simp⟩

theorem ends_runTicks (h : t.poisoned = false) (tiers : List Tier) :
    Ends False (t.runTicks tiers).1 (t.runTicks tiers).2 := by
  induction tiers generalizing t with
  | nil => exact ends_of_ok h ()
  | cons tier rest ih =>
    have hticked := ends_tick h tier
    unfold runTicks
    generalize t.tick tier = ticked at hticked ⊢
    obtain ⟨outcome, t'⟩ := ticked
    cases outcome with
    | error e => exact hticked
    | ok u => exact ih hticked.healthy

theorem ends_runDue (hs : schema.Canonical) (h : t.poisoned = false) (sources : Sources)
    (due : Due) (w : FrameWriter) (link : Loopback) :
    Ends (t.Crashes (.operation (.runDue sources due w link))) (t.runDue sources due w link).1
      (t.runDue sources due w link).2.1 := by
  have hticked := ends_runTicks h (dueTiers due)
  unfold runDue
  simp only [Crashes]
  generalize t.runTicks (dueTiers due) = ticked at hticked ⊢
  obtain ⟨outcome, t'⟩ := ticked
  cases outcome with
  | error e =>
    -- a tick that fails comes before the send
    have hunlocked := hticked.unlocked
    have hcrash := hticked.crash_iff
    have hhealthy : t'.poisoned = false := hticked.healthy
    have hended : Ends False (.error e : Except NodeError Nat) t' :=
      ⟨by simpa using hunlocked, by simpa using hcrash, by simp [hhealthy]⟩
    exact hended.congr (by simp)
  | ok u =>
    cases hsend : due.send with
    | false => exact (ends_of_ok hticked.healthy 0).congr (by simp)
    | true => exact (ends_send hs hticked.healthy sources w link).congr (by simp)

/-- **A use of a lock that is not poisoned poisons it exactly if it comes to a crash.** -/
theorem ends_call (hs : schema.Canonical) (h : t.poisoned = false) (c : Call) :
    Ends (t.Crashes c) (t.answer c) (t.after c) := by
  cases c with
  | isDirty =>
    have hdirty : t.isDirty = .ok !t.flags.isClean := if_neg (by simp [h])
    show Ends False (t.isDirty.map Answer.dirty) t
    rw [hdirty]
    exact ends_of_ok h (Answer.dirty !t.flags.isClean)
  | operation op =>
    cases op with
    | set name r => exact (ends_set h name r).map _
    | update name r => exact (ends_update h name r).map _
    | link name source => exact (ends_link h name source).map _
    | get sources name => exact (ends_get h sources name).map _
    | tick tier => exact (ends_tick h tier).map _
    | raise event => exact (ends_raise h event).map _
    | runDue sources due w link => exact (ends_runDue hs h sources due w link).map _
    | send sources w link => exact (ends_send hs h sources w link).map _

/-! ### On a poisoned lock -/

section

variable {α : Type} (h : t.poisoned = true)
include h

theorem locked_of_poisoned
    (run : Transmitter schema → Except FrameError α × Transmitter schema) :
    t.locked run = (.error .lockPoisoned, t) :=
  if_pos h

theorem lockedAt_of_poisoned (name : String)
    (run : Nat → Transmitter schema → Except FrameError α × Transmitter schema) :
    t.lockedAt name run = match schema.indexOf? name with
      | some _ => (.error .lockPoisoned, t)
      | none => (.error (.unknownField name), t) := by
  cases hi : schema.indexOf? name with
  | none => exact lockedAt_of_unknown hi run
  | some i => rw [lockedAt_of_index hi, locked_of_poisoned h]

theorem runTicks_of_poisoned (tiers : List Tier) :
    t.runTicks tiers = if tiers.isEmpty then (.ok (), t) else (.error .lockPoisoned, t) := by
  cases tiers with
  | nil => rfl
  | cons tier rest => simp [runTicks, tick, locked_of_poisoned h]

theorem send_of_poisoned (sources : Sources) (w : FrameWriter) (link : Loopback) :
    t.send sources w link = (.error .lockPoisoned, t, link) :=
  if_pos h

theorem runDue_of_poisoned (sources : Sources) (due : Due) (w : FrameWriter) (link : Loopback) :
    t.runDue sources due w link =
      if due.any then (.error .lockPoisoned, t, link) else (.ok 0, t, link) := by
  unfold runDue
  rw [runTicks_of_poisoned h]
  obtain ⟨fast, medium, slow, send⟩ := due
  cases fast <;> cases medium <;> cases slow <;> cases send <;>
    simp [dueTiers, Due.any, send_of_poisoned h]

/-- **A poisoned lock stays as it is**, and answers nothing else any more. -/
theorem answer_of_poisoned (c : Call) :
    t.answer c = (c.unlocked? schema).getD (.error .lockPoisoned) ∧ t.after c = t ∧
      t.linkAfter? c = c.link? := by
  cases c with
  | isDirty => exact ⟨congrArg (Except.map Answer.dirty) (if_pos h), rfl, rfl⟩
  | operation op =>
    cases op with
    | set name r | update name r | link name source | get sources name =>
      cases hi : schema.indexOf? name <;>
        simp [answer, after, step, set, update, link, get, lockedAt_of_poisoned h, hi,
          Call.unlocked?, linkAfter?, Call.link?, Except.map]
    | tick tier =>
      have htick : t.tick tier = (.error .lockPoisoned, t) := locked_of_poisoned h _
      exact ⟨congrArg (fun p => p.1.map fun _ => Answer.done) htick, congrArg Prod.snd htick, rfl⟩
    | raise event =>
      have hraise : t.raise event = (.error .lockPoisoned, t) := if_pos h
      exact ⟨congrArg (fun p => p.1.map fun _ => Answer.done) hraise, congrArg Prod.snd hraise, rfl⟩
    | runDue sources due w link =>
      cases hany : due.any <;>
        simp [answer, after, step, runDue_of_poisoned h, hany, Call.unlocked?, linkAfter?,
          Call.link?, Except.map]
    | send sources w link =>
      simp [answer, after, step, send_of_poisoned h, Call.unlocked?, linkAfter?, Call.link?,
        Except.map]

end

/-! ### Runs -/

/-- One use poisons the lock if it crashes, and no use heals it. -/
theorem poisoned_after_iff (hs : schema.Canonical) (c : Call) :
    (t.after c).poisoned = true ↔ t.poisoned = true ∨ t.answer c = crash := by
  cases h : t.poisoned with
  | true =>
    obtain ⟨-, hafter, -⟩ := answer_of_poisoned h c
    simp [hafter, h]
  | false =>
    have hends := ends_call hs h c
    simp [hends.poisoned_iff, hends.crash_iff]

/-- **At any point of a run the lock is poisoned exactly if something has crashed.** -/
theorem poisoned_afterAll_iff (hs : schema.Canonical) (t : Transmitter schema)
    (calls : List Call) :
    (t.afterAll calls).poisoned = true ↔ t.poisoned = true ∨ crash ∈ t.answers calls := by
  induction calls generalizing t with
  | nil => simp [afterAll, answers]
  | cons c rest ih =>
    show ((t.after c).afterAll rest).poisoned = true ↔ _
    rw [ih, poisoned_after_iff hs, answers, List.mem_cons, or_assoc, eq_comm (b := crash)]

theorem map_eq_error {α β : Type} {x : Except NodeError α} {g : α → β} {e : NodeError}
    (h : x.map g = .error e) : x = .error e := by
  cases x with
  | ok a => cases h
  | error e' => exact congrArg Except.error (Except.error.inj h)

theorem send_link_of_error (hs : schema.Canonical) {sources : Sources} {w : FrameWriter}
    {link : Loopback} {e : NodeError} (h : (t.send sources w link).1 = .error e) :
    (t.send sources w link).2.2 = link := by
  cases hpoisoned : t.poisoned with
  | true => rw [send_of_poisoned hpoisoned]
  | false =>
    rw [send_eq hpoisoned] at h ⊢
    cases hsent : (w.send sources t.store t.flags.pending link).1 with
    | ok n => simp [hsent, Except.mapError] at h
    | error e' => exact FrameWriter.send_link_of_error hs hsent

/-- A use that fails leaves its link as it was. -/
theorem linkAfter?_of_error (hs : schema.Canonical) {c : Call} {e : NodeError}
    (h : t.answer c = .error e) : t.linkAfter? c = c.link? := by
  cases c with
  | isDirty => rfl
  | operation op =>
    cases op with
    | set | update | link | get | tick | raise => rfl
    | send sources w link => exact congrArg some (send_link_of_error hs (map_eq_error h))
    | runDue sources due w link =>
      have hdue : (t.runDue sources due w link).1 = .error e := map_eq_error h
      show some (t.runDue sources due w link).2.2 = some link
      unfold runDue at hdue ⊢
      generalize t.runTicks (dueTiers due) = ticked at hdue ⊢
      obtain ⟨outcome, t'⟩ := ticked
      cases outcome with
      | error e' => rfl
      | ok u =>
        cases hsend : due.send with
        | false => rfl
        | true =>
          simp only [hsend, if_true] at hdue ⊢
          exact congrArg some (send_link_of_error hs hdue)

/-! ### The fast tick -/

/-- The store after a fast tick that reads the count like any other value. -/
def countThrough (t : Transmitter schema) (sources : Sources) : Except FrameError (Store schema) :=
  match t.counter.filter fun i => !t.store.isLinked i with
  | none => .ok t.store
  | some i =>
    match t.store.get sources i with
    | .error e => .error e
    | .ok r => t.store.set i (nextCount schema i r)

/-- Whatever the sources do, the count is the same: no source is asked. -/
theorem countThrough_eq (t : Transmitter schema) (sources : Sources) :
    t.countThrough sources = t.countTick := by
  unfold countThrough countTick
  cases t.counter with
  | none => rfl
  | some i =>
    rw [Option.filter_some]
    cases hslot : t.store.slots[i]? with
    | none =>
      have hlinked : t.store.isLinked i = false := by simp [Store.isLinked, hslot]
      simp [hlinked, Store.get, hslot]
    | some slot =>
      cases slot with
      | owned r =>
        have hlinked : t.store.isLinked i = false := by simp [Store.isLinked, hslot]
        simp [hlinked, Store.get, Store.readSlot, hslot]
      | linked source =>
        have hlinked : t.store.isLinked i = true := by simp [Store.isLinked, hslot]
        simp [hlinked, hslot]

/-! ### Poisoning -/

/-- **A crash poisons the transmitter that read the source, for good, and nothing else does.** Take
any uses of a fresh transmitter, whose live sources may yield something else or crash each time,
and one more use. If nothing has crashed so far, it does not find the lock poisoned, and it crashes
exactly if it reads a field that is linked to a source that crashes, or sends, and the first field
of the frame without bytes is linked to one. If something has crashed, the lock is poisoned, and
the use answers so unless it does not get to the lock. A use that crashes, or comes after a crash,
leaves its link as it was. A fast tick counts as if there were no sources. -/
theorem crash_poisons {limits : SchemaLimits} {name : String} {declared : List Field}
    (hbuild : Schema.build limits name declared = .ok schema) (start : Transmitter schema)
    (hfresh : start.Fresh) (calls : List Call) (c : Call) :
    let t := start.afterAll calls
    (crash ∉ start.answers calls →
      t.answer c ≠ .error .lockPoisoned ∧ (t.answer c = crash ↔ t.Crashes c)) ∧
    (crash ∈ start.answers calls →
      t.answer c = (c.unlocked? schema).getD (.error .lockPoisoned)) ∧
    (crash ∈ start.answers calls ∨ t.answer c = crash → t.linkAfter? c = c.link?) ∧
    ∀ sources, t.countThrough sources = t.countTick := by
  intro t
  have hs := Schema.build_eq_ok hbuild
  have hpoisoned : t.poisoned = true ↔ crash ∈ start.answers calls := by
    simp [t, poisoned_afterAll_iff hs, (hfresh.sound hs).healthy]
  refine ⟨?_, ?_, ?_, t.countThrough_eq⟩
  · intro hnone
    have hhealthy : t.poisoned = false := by simpa [← hpoisoned] using hnone
    have hends := ends_call hs hhealthy c
    exact ⟨hends.unlocked, hends.crash_iff⟩
  · intro hcrashed
    exact (answer_of_poisoned (hpoisoned.mpr hcrashed) c).1
  · rintro (hcrashed | hcrash)
    · exact (answer_of_poisoned (hpoisoned.mpr hcrashed) c).2.2
    · exact linkAfter?_of_error hs hcrash

/-- In the scenario layout with its second field linked: a send of the fast tier comes to the crash
of its source and appends nothing to the link. Afterwards the lock is poisoned, also for a field
that is not linked, but names are still looked up, and a turn with nothing to do still succeeds. -/
theorem crash_poisons_scenario :
    let schema : Schema := ⟨"scenario", Schema.scenarioFields⟩
    let start : Transmitter schema := initial schema
    let crashing : Sources := fun _ => .crashes
    let link : Loopback := { toB := [[4, 0, 9, 0]] }
    let calls : List Call := [.operation (.link "b" "gauge"), .operation (.tick .fast)]
    let send : Call := .operation (.send crashing {} link)
    let later : List Call := calls ++ [send]
    (start.afterAll calls).Crashes send ∧
      (start.afterAll calls).linkAfter? send = some link ∧
      (start.afterAll later).answer (.operation (.set "a" (.unsigned 1))) = .error .lockPoisoned ∧
      (start.afterAll later).answer (.operation (.set "x" (.unsigned 1))) =
        .error (.unknownField "x") ∧
      (start.afterAll later).answer
        (.operation (.runDue crashing ⟨false, false, false, false⟩ {} link)) = .ok (.length 0) := by
  intro schema start crashing link calls send later
  have hbuild : Schema.build {} "scenario" Schema.scenarioFields = .ok schema :=
    Schema.build_scenario
  have hnone : crash ∉ start.answers calls := by decide +kernel
  have hcrash : (start.afterAll calls).answer send = crash := by decide +kernel
  have hcrashed : crash ∈ start.answers later := by decide +kernel
  obtain ⟨hbefore, -, hlink, -⟩ := crash_poisons hbuild start .initial calls send
  refine ⟨(hbefore hnone).2.mp hcrash, hlink (Or.inr hcrash), ?_, ?_, ?_⟩
  · exact (crash_poisons hbuild start .initial later _).2.1 hcrashed
  · exact (crash_poisons hbuild start .initial later _).2.1 hcrashed
  · exact (crash_poisons hbuild start .initial later _).2.1 hcrashed

end Transmitter

end Telemetry
