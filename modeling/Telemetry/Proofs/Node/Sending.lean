import Telemetry.Proofs.Link.FrameWriter
import Telemetry.Proofs.Node.Writing
import Telemetry.Schema.Variants
/-!
# Telemetry.Proofs.Node.Sending

**A transmitter can send whatever it owns.** Values are checked when they are stored and counts
stay in the width of their field, so after any operations every owned value can be encoded
(`Transmitter.Sound`). A frame of the schema is never longer than the schema says. That leaves
only the linked fields: sending fails exactly where the source of one yields what does not fit.

`Transmitter.run` goes through operations one after the other, accepted or refused. Live sources
may yield something else each time, but must not crash. The main statement is
`send_eq_ok_or_linked`.
-/

namespace Telemetry

variable {schema : Schema}

/-! ### Live sources -/

/-- Where a field of an encodable store fails to encode, it is linked, and its source yields what
does not fit. -/
theorem Store.Encodable.exists_yields {s : Store schema} (hencodable : s.Encodable)
    {sources : Sources} (h : sources.Reliable) {i : Nat} {f : Field} {e : FrameError}
    (hf : schema.fields[i]? = some f) (hfail : s.encodeField sources i = .error e) :
    ∃ source r, s.slots[i]? = some (.linked source) ∧ sources source = .yields r ∧
      r.encode f = .error e := by
  obtain ⟨source, hslot⟩ := hencodable.exists_linked hf hfail
  cases hread : sources source with
  | crashes => exact absurd hread (h source)
  | yields r =>
    simp only [encodeField, hf, get, hslot, readSlot, hread] at hfail
    exact ⟨source, r, hslot, hread, hfail⟩

namespace Transmitter

variable {t : Transmitter schema}

/-- Sending hands the frame of everything that is marked to the writer. A crash poisons the lock;
the flags are clean whatever becomes of the frame. -/
theorem send_eq (h : t.poisoned = false) (sources : Sources) (w : FrameWriter) (link : Loopback) :
    t.send sources w link =
      ((w.send sources t.store t.flags.pending link).1.mapError .frame,
        { t with
          flags := .clean
          poisoned :=
            decide ((w.send sources t.store t.flags.pending link).1 = .error .sourceCrashed) },
        (w.send sources t.store t.flags.pending link).2) := by
  obtain ⟨store, flags, counter, poisoned⟩ := t
  obtain rfl : poisoned = false := h
  unfold send
  rw [if_neg Bool.false_ne_true, FrameWriter.sendDirty_eq]
  generalize w.send sources store flags.pending link = sent
  obtain ⟨outcome, link'⟩ := sent
  cases outcome with
  | ok n => rfl
  | error e =>
    have hcrash : (e == .sourceCrashed) =
        decide ((Except.error e : Except FrameError Nat) = .error .sourceCrashed) := by
      rw [Bool.eq_iff_iff, beq_iff_eq, decide_eq_true_iff, Except.error.injEq]
    simp only [hcrash]
    rfl

/-! ### Operations -/

/-- One use of a transmitter, with the live sources as they are at that moment. -/
inductive Operation
  | set (name : String) (r : Reading)
  | update (name : String) (r : Reading)
  | link (name source : String)
  | get (sources : Sources) (name : String)
  | tick (tier : Tier)
  | raise (event : Nat)
  | runDue (sources : Sources) (due : Due) (writer : FrameWriter) (link : Loopback)
  | send (sources : Sources) (writer : FrameWriter) (link : Loopback)

/-- No source crashes during the operation. -/
def Operation.Reliable : Operation → Prop
  | .get sources _ | .runDue sources _ _ _ | .send sources _ _ => sources.Reliable
  | _ => True

/-- The transmitter after an operation, which may have been refused. -/
def step (t : Transmitter schema) : Operation → Transmitter schema
  | .set name r => (t.set name r).2
  | .update name r => (t.update name r).2
  | .link name source => (t.link name source).2
  | .get sources name => (t.get sources name).2
  | .tick tier => (t.tick tier).2
  | .raise event => (t.raise event).2
  | .runDue sources due writer link => (t.runDue sources due writer link).2.1
  | .send sources writer link => (t.send sources writer link).2.1

/-- The transmitter after some operations, the first one first. -/
def run (t : Transmitter schema) (ops : List Operation) : Transmitter schema := ops.foldl step t

/-- Choosing a counter changes nothing else. -/
theorem withCounter_eq_ok {t' : Transmitter schema} {name : String}
    (h : t.withCounter name = .ok t') :
    ∃ i, schema.indexOf? name = some i ∧ schema.isCounter i = true ∧
      t' = { t with counter := some i } := by
  unfold withCounter index at h
  cases hi : schema.indexOf? name with
  | none => simp [hi] at h
  | some i =>
    simp only [hi] at h
    split at h
    · rename_i hcounter
      exact ⟨i, rfl, hcounter, (Except.ok.inj h).symm⟩
    · cases h

/-- A transmitter that nothing was done to, with any field that can count as its counter. -/
inductive Fresh : Transmitter schema → Prop
  | initial : Fresh (initial schema)
  | withCounter {t t' : Transmitter schema} {name : String} (h : Fresh t)
      (hcounter : t.withCounter name = .ok t') : Fresh t'

/-! ### Each operation keeps the transmitter sound -/

/-- The lock is not poisoned, and every value that the store owns has an encoding. -/
structure Sound (t : Transmitter schema) : Prop where
  healthy : t.poisoned = false
  encodable : t.store.Encodable

theorem Advances.sound {t' : Transmitter schema} {write : Option (Nat × Origin)}
    (h : t.Advances t' write) (hsound : t.Sound) : t'.Sound :=
  ⟨h.healthy, h.encodable hsound.encodable⟩

theorem Sound.link (h : t.Sound) (name source : String) : (t.link name source).2.Sound := by
  unfold Transmitter.link
  cases hi : schema.indexOf? name with
  | none =>
    rw [lockedAt_of_unknown hi]
    exact h
  | some i =>
    rw [lockedAt_of_index hi]
    cases hlink : t.store.link i source with
    | error e =>
      have hcrash : e ≠ .sourceCrashed := fun he => t.store.link_ne_crashed i source (he ▸ hlink)
      rw [locked_of_error h.healthy (by rw [hlink]; rfl) hcrash]
      exact h
    | ok store =>
      rw [locked_of_ok h.healthy (by rw [hlink]; rfl)]
      exact ⟨h.healthy, h.encodable.link hlink⟩

/-- Reading changes nothing. -/
theorem get_snd (h : t.poisoned = false) {sources : Sources} (hsources : sources.Reliable)
    (name : String) : (t.get sources name).2 = t := by
  unfold get
  cases hi : schema.indexOf? name with
  | none => rw [lockedAt_of_unknown hi]
  | some i =>
    rw [lockedAt_of_index hi]
    cases hget : t.store.get sources i with
    | error e =>
      have hcrash : e ≠ .sourceCrashed :=
        fun he => t.store.get_ne_crashed hsources i (he ▸ hget)
      rw [locked_of_error h (by rw [hget]) hcrash]
    | ok r => rw [locked_of_ok h (by rw [hget])]

theorem Sound.send (hs : schema.Canonical) (h : t.Sound) {sources : Sources}
    (hsources : sources.Reliable) (w : FrameWriter) (link : Loopback) :
    (t.send sources w link).2.1.Sound := by
  rw [send_eq h.healthy]
  exact ⟨decide_eq_false (w.send_ne_crashed hs hsources _ _ _), h.encodable⟩

theorem Sound.runTicks (h : t.Sound) (tiers : List Tier) : (t.runTicks tiers).2.Sound := by
  induction tiers generalizing t with
  | nil => exact h
  | cons tier rest ih =>
    have htick : (t.tick tier).2.Sound := (advances_tick h.healthy tier).sound h
    unfold Transmitter.runTicks
    generalize t.tick tier = ticked at htick ⊢
    obtain ⟨outcome, t'⟩ := ticked
    cases outcome with
    | error e => exact htick
    | ok u => exact ih htick

theorem Sound.runDue (hs : schema.Canonical) (h : t.Sound) {sources : Sources}
    (hsources : sources.Reliable) (due : Due) (w : FrameWriter) (link : Loopback) :
    (t.runDue sources due w link).2.1.Sound := by
  have hticks := h.runTicks (dueTiers due)
  unfold Transmitter.runDue
  generalize t.runTicks (dueTiers due) = ticked at hticks ⊢
  obtain ⟨outcome, t'⟩ := ticked
  cases outcome with
  | error e => exact hticks
  | ok u =>
    cases hsend : due.send with
    | false => exact hticks
    | true => exact hticks.send hs hsources w link

/-- **Every operation keeps the transmitter sound**, refused or not. -/
theorem Sound.step (hs : schema.Canonical) (h : t.Sound) {op : Operation} (hop : op.Reliable) :
    (t.step op).Sound := by
  cases op with
  | set name r => exact (advances_set h.healthy name r).sound h
  | update name r => exact (advances_update hs h.healthy name r).sound h
  | link name source => exact h.link name source
  | get sources name =>
    show (t.get sources name).2.Sound
    rw [get_snd h.healthy hop]
    exact h
  | tick tier => exact (advances_tick h.healthy tier).sound h
  | raise event => exact (advances_raise h.healthy event).sound h
  | runDue sources due w link => exact h.runDue hs hop due w link
  | send sources w link => exact h.send hs hop w link

theorem Sound.run (hs : schema.Canonical) (h : t.Sound) {ops : List Operation}
    (hops : ∀ op ∈ ops, op.Reliable) : (t.run ops).Sound := by
  induction ops generalizing t with
  | nil => exact h
  | cons op rest ih =>
    have hstep := h.step hs (hops op List.mem_cons_self)
    exact ih hstep fun op' hop' => hops op' (List.mem_cons_of_mem op hop')

theorem Fresh.sound (hs : schema.Canonical) (h : t.Fresh) : t.Sound := by
  induction h with
  | initial => exact ⟨rfl, Store.encodable_initial hs⟩
  | withCounter _ hcounter ih =>
    obtain ⟨i, -, -, rfl⟩ := withCounter_eq_ok hcounter
    exact ⟨ih.healthy, ih.encodable⟩

/-! ### What can still fail -/

/-- The frame of everything that is marked has a linked field whose source yields what does not
fit it. -/
def Misfits (t : Transmitter schema) (sources : Sources) (cause : FrameError) : Prop :=
  ∃ (i : Nat) (f : Field) (source : String) (r : Reading), schema.fields[i]? = some f ∧
    t.flags.pending.selects f = true ∧ t.store.slots[i]? = some (.linked source) ∧
    sources source = .yields r ∧ r.encode f = .error cause

/-- No code asks for a frame past the limits, so what fails is a field, and it is not an owned
one. -/
theorem Sound.send_cases (hs : schema.Canonical) (h : t.Sound) {sources : Sources}
    (hsources : sources.Reliable) {w : FrameWriter} {link : Loopback}
    (hlimit : schema.maxFrameLen ≤ w.limit link) :
    (t.send sources w link).1 = .ok (schema.frameLen t.flags.pending) ∨
      ∃ cause, (t.send sources w link).1 = .error (.frame cause) ∧ t.Misfits sources cause := by
  have houtcome := w.outcome_send hs sources t.store t.flags.pending link
  rw [send_eq h.healthy]
  generalize w.send sources t.store t.flags.pending link = sent at houtcome ⊢
  cases houtcome with
  | nothing hcode =>
    left
    rw [Schema.frameLen, if_pos hcode]
    rfl
  | sent hcode hpacks =>
    left
    rw [← hpacks.length_eq_frameLen hs hcode]
    rfl
  | tooLong hcode hpacks hlong =>
    -- both limits have room for the longest frame of the schema
    have hlength := hpacks.length_eq_frameLen hs hcode
    have hmax := hs.frameLen_le_maxFrameLen t.flags.pending
    omega
  | unpacked hcode hpack =>
    right
    -- the field at fault does not own its value
    obtain ⟨i, hi, hfail⟩ := Store.pack_eq_error hpack
    obtain ⟨f, hf, hselects⟩ := hs.mem_carried.mp hi
    obtain ⟨source, r, hslot, hread, hencode⟩ := h.encodable.exists_yields hsources hf hfail
    exact ⟨_, rfl, i, f, source, r, hf, hselects, hslot, hread, hencode⟩

/-- **Only a linked field can keep a transmitter from sending.** After any operations on a fresh
transmitter, a send whose limits have room for the longest frame of the schema answers the length
of the frame of everything that was marked, unless this frame carries a linked field whose
source yields what does not fit. Then it fails with the error of such a field. -/
theorem send_eq_ok_or_linked {limits : SchemaLimits} {name : String} {declared : List Field}
    (hbuild : Schema.build limits name declared = .ok schema) (start : Transmitter schema)
    (hfresh : start.Fresh) (ops : List Operation) (hops : ∀ op ∈ ops, op.Reliable)
    (sources : Sources) (hsources : sources.Reliable) (writer : FrameWriter) (link : Loopback)
    (hwriter : schema.maxFrameLen ≤ writer.config.maxFrameSize)
    (hlink : schema.maxFrameLen ≤ link.maxFrameSize) :
    let t := start.run ops
    (t.send sources writer link).1 = .ok (schema.frameLen t.flags.pending) ∨
      ∃ cause, (t.send sources writer link).1 = .error (.frame cause) ∧
        t.Misfits sources cause := by
  intro t
  have hs := Schema.build_eq_ok hbuild
  have hsound : t.Sound := (hfresh.sound hs).run hs hops
  exact hsound.send_cases hs hsources (Nat.le_min.mpr ⟨hwriter, hlink⟩)

/-- In the scenario layout with `b` as its counter, a setting that is refused, a field that is
linked, a turn of the loop, and a mark on the linked field. It depends on what the source yields
then whether the frame goes out. -/
theorem send_eq_ok_or_linked_scenario :
    let schema : Schema := ⟨"scenario", Schema.scenarioFields⟩
    let yielding : UInt64 → Sources := fun n _ => .yields (.unsigned n)
    let start : Transmitter schema := { initial schema with counter := some 1 }
    let ops : List Operation := [.set "a" (.signed (-1)), .link "s" "gauge",
      .runDue (yielding 1) ⟨true, false, true, true⟩ {} {}, .tick .slow]
    let t := start.run ops
    (initial schema).withCounter "b" = .ok start ∧
      (t.send (yielding 65535) {} {}).1 = .ok 4 ∧
      ∃ cause, (t.send (yielding 65536) {} {}).1 = .error (.frame cause) ∧
        t.Misfits (yielding 65536) cause := by
  intro schema yielding start ops t
  have hbuild : Schema.build {} "scenario" Schema.scenarioFields = .ok schema :=
    Schema.build_scenario
  have hcounter : (initial schema).withCounter "b" = .ok start := by decide +kernel
  have hreliable : ∀ n, (yielding n).Reliable := fun n source hread => nomatch hread
  have hops : ∀ op ∈ ops, op.Reliable := by
    simp only [ops, List.forall_mem_cons]
    exact ⟨trivial, trivial, hreliable 1, trivial, nofun⟩
  refine ⟨hcounter, by decide +kernel, ?_⟩
  rcases send_eq_ok_or_linked hbuild start (.withCounter .initial hcounter) ops hops
    (yielding 65536) (hreliable 65536) {} {} (by decide) (by decide) with hok | hmisfit
  · exact absurd hok (by decide +kernel)
  · exact hmisfit

end Transmitter

end Telemetry
