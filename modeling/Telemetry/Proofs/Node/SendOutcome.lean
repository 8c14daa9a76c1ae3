import Telemetry.Proofs.Node.Sending
/-!
# Telemetry.Proofs.Node.SendOutcome

**A send has one of three outcomes.** With nothing marked, nothing is sent. Otherwise one frame
goes to the end of the queue, and its header names what was marked, or else the frame is dropped
and the link is as it was. `Transmitter.SendOutcome` has one constructor for each of these.

Whatever the outcome, only the flags of the transmitter change: they are clean. The main statement
is `send_outcome`, of any transmitter whose lock is not poisoned.
-/

namespace Telemetry

variable {schema : Schema}

namespace Transmitter

/-- What a send with some flags answers, and the link afterwards. -/
inductive SendOutcome (schema : Schema) (flags : DirtyFlags) (w : FrameWriter) (link : Loopback) :
    Except NodeError Nat → Loopback → Prop
  /-- Nothing was marked. -/
  | nothing (hclean : flags.isClean = true) : SendOutcome schema flags w link (.ok 0) link
  /-- One frame of what was marked waits at the other end, behind the frames before it. -/
  | sent {frame : Bytes} (hdirty : flags.isClean = false) (hpos : 0 < frame.length)
      (hlength : frame.length = schema.frameLen flags.pending)
      (htiers : ∀ t, (Schema.headerOf frame).hasTier t = flags.isDirty t)
      (hevents : (Schema.headerOf frame).events = flags.events)
      (hwriter : frame.length ≤ w.config.maxFrameSize) (hlink : frame.length ≤ link.maxFrameSize) :
      SendOutcome schema flags w link (.ok frame.length)
        (link.withWaiting w.linkEnd.other (link.waiting w.linkEnd.other ++ [frame]))
  /-- The frame was too long, or could not be packed. -/
  | dropped (hdirty : flags.isClean = false) (cause : FrameError) :
      SendOutcome schema flags w link (.error (.frame cause)) link

/-- Nothing is answered as sent exactly if nothing was marked. -/
theorem SendOutcome.eq_ok_zero_iff {flags : DirtyFlags} {w : FrameWriter} {link link' : Loopback}
    {answer : Except NodeError Nat} (h : SendOutcome schema flags w link answer link') :
    answer = .ok 0 ↔ flags.isClean = true := by
  cases h with
  | nothing hclean => exact iff_of_true rfl hclean
  | sent hdirty hpos =>
    refine iff_of_false ?_ (by simp [hdirty])
    intro hzero
    exact Nat.ne_of_gt hpos (Except.ok.inj hzero)
  | dropped hdirty cause => exact iff_of_false nofun (by simp [hdirty])

/-- The four ways in which writing ends are three to the one who sends. -/
theorem sendOutcome_of_outcome (hs : schema.Canonical) {flags : DirtyFlags} {w : FrameWriter}
    {sources : Sources} {s : Store schema} {link : Loopback}
    {sent : Except FrameError Nat × Loopback}
    (h : w.Outcome sources s flags.pending link sent) :
    SendOutcome schema flags w link (sent.1.mapError .frame) sent.2 := by
  have hclean := flags.isClean_eq
  cases h with
  | nothing hcode => exact .nothing (hclean.trans hcode)
  | tooLong hcode => exact .dropped (hclean.trans hcode) _
  | unpacked hcode => exact .dropped (hclean.trans hcode) _
  | sent hcode hpacks hlimit =>
    have hpos : 0 < schema.impliedLen flags.pending :=
      Nat.lt_of_lt_of_le (by decide) (Nat.le_max_right _ headerSize)
    exact .sent (hclean.trans hcode) (by rw [hpacks.length_eq hs]; exact hpos)
      (hpacks.length_eq_frameLen hs hcode)
      (fun t => by rw [hpacks.headerOf_eq, flags.isDirty_eq])
      (by rw [hpacks.headerOf_eq, flags.events_pending]) (Nat.le_trans hlimit (Nat.min_le_left _ _))
      (Nat.le_trans hlimit (Nat.min_le_right _ _))

/-- **A send has exactly one of three outcomes.** Whatever waits on the link and whatever the live
sources yield, a send answers zero and leaves the link alone, exactly if nothing was marked, or
puts one frame of what was marked behind the frames that wait, or drops it. In each case the
flags are clean afterwards and nothing else about the transmitter changes. What the writer still
has in its buffer from earlier frames makes no difference. -/
theorem send_outcome {limits : SchemaLimits} {name : String} {declared : List Field}
    (hbuild : Schema.build limits name declared = .ok schema) (t : Transmitter schema)
    (hhealthy : t.poisoned = false) (sources : Sources) (hsources : sources.Reliable)
    (writer : FrameWriter) (link : Loopback) :
    let sent := t.send sources writer link
    SendOutcome schema t.flags writer link sent.1 sent.2.2 ∧
      (sent.1 = .ok 0 ↔ t.flags.isClean = true) ∧ sent.2.1 = { t with flags := .clean } ∧
      ∀ buffer, ∃ written buffer',
        writer.sendThrough sources t.store t.flags.pending buffer link =
          (written, buffer', sent.2.2) ∧ sent.1 = written.mapError .frame := by
  intro sent
  have hs := Schema.build_eq_ok hbuild
  have houtcome := sendOutcome_of_outcome hs
    (writer.outcome_send hs sources t.store t.flags.pending link)
  have hcrash := writer.send_ne_crashed hs hsources t.store t.flags.pending link
  have hsent := send_eq hhealthy sources writer link
  rw [decide_eq_false hcrash] at hsent
  simp only [sent, hsent]
  refine ⟨houtcome, houtcome.eq_ok_zero_iff, by rw [hhealthy], fun buffer => ?_⟩
  exact ⟨_, _, writer.sendThrough_eq sources t.store t.flags.pending buffer link, rfl⟩

/-- In the scenario layout with its first field linked: the frame of the fast tier and event 1
goes behind one that waits, if the source yields what fits. -/
theorem send_outcome_scenario :
    let schema : Schema := ⟨"scenario", Schema.scenarioFields⟩
    let yielding : UInt64 → Sources := fun n _ => .yields (.unsigned n)
    let t : Transmitter schema :=
      ((initial schema).run [.link "a" "gauge", .tick .fast, .raise 1])
    let link : Loopback := { toB := [[4, 0, 9, 0]] }
    let fits := t.send (yielding 300) {} link
    let misfits := t.send (yielding 65536) {} link
    t.poisoned = false ∧ fits.1 = .ok 7 ∧
      fits.2.2.toB = [[4, 0, 9, 0], [17, 0, 44, 1, 0, 0, 0]] ∧
      misfits.1 ≠ .ok 0 ∧ SendOutcome schema t.flags {} link misfits.1 misfits.2.2 ∧
      fits.2.1 = misfits.2.1 := by
  intro schema yielding t link
  dsimp only
  have hbuild : Schema.build {} "scenario" Schema.scenarioFields = .ok schema :=
    Schema.build_scenario
  have hhealthy : t.poisoned = false := by decide +kernel
  have hreliable : ∀ n, (yielding n).Reliable := fun n source hread => nomatch hread
  obtain ⟨-, -, hafter, -⟩ :=
    send_outcome hbuild t hhealthy (yielding 300) (hreliable 300) {} link
  obtain ⟨houtcome, hzero, hafter', -⟩ :=
    send_outcome hbuild t hhealthy (yielding 65536) (hreliable 65536) {} link
  refine ⟨hhealthy, by decide +kernel, by decide +kernel, ?_, houtcome, hafter.trans hafter'.symm⟩
  exact fun hnothing => absurd (hzero.mp hnothing) (by decide +kernel)

end Transmitter

end Telemetry
