import Telemetry.CommandLine.Transmit
import Telemetry.Proofs.Frame.RoundTrip
import Telemetry.Proofs.Node.Sending
import Telemetry.Schema.Variants
/-!
# Telemetry.Proofs.CommandLine.Transmitting

**The totals of the `send` command are those of the frames that went out.** Linking the fields and
raising the events of a built schema never fails, so once the network is reached the command ends
with a summary, however its turns fall. Each frame that is counted is on the link, and a receiver
of the same schema accepts it (`SendLoop.Accounted`).

One turn puts a frame on the link and counts it, or does neither (`Transmitter.RunOutcome`). The
main statement is `exists_transmit`.
-/

namespace Telemetry

variable {schema : Schema}

/-! ### One turn of a transmitter -/

namespace Transmitter

/-- What the handlers of a turn answer, and the link afterwards. -/
inductive RunOutcome (schema : Schema) (w : FrameWriter) (link : Loopback) :
    Except NodeError Nat → Loopback → Prop
  | nothing : RunOutcome schema w link (.ok 0) link
  /-- One frame, which a receiver with the limit of the writer accepts. -/
  | sent {frame : Bytes} (hpos : 0 < frame.length)
      (haccepted : (schema.decodeFrame w.config frame).isOk = true) :
      RunOutcome schema w link (.ok frame.length) (w.sentOn link frame)
  | dropped (cause : NodeError) : RunOutcome schema w link (.error cause) link

theorem runOutcome_send (hs : schema.Canonical) {t : Transmitter schema}
    (h : t.poisoned = false) (sources : Sources) (w : FrameWriter) (link : Loopback) :
    RunOutcome schema w link (t.send sources w link).1 (t.send sources w link).2.2 := by
  have houtcome := w.outcome_send hs sources t.store t.flags.pending link
  rw [send_eq h]
  generalize w.send sources t.store t.flags.pending link = sent at houtcome ⊢
  cases houtcome with
  | nothing => exact .nothing
  | tooLong | unpacked => exact .dropped _
  | sent _ hpacks hlimit =>
    refine .sent ?_ ?_
    · rw [hpacks.length_eq hs, hs.impliedLen_eq, headerSize]
      omega
    · rw [hpacks.decodeFrame_eq hs (Nat.le_trans hlimit (Nat.min_le_left _ _))]
      rfl

theorem runOutcome_runDue (hs : schema.Canonical) {t : Transmitter schema} (h : t.Sound)
    (sources : Sources) (due : Due) (w : FrameWriter) (link : Loopback) :
    RunOutcome schema w link (t.runDue sources due w link).1
      (t.runDue sources due w link).2.2 := by
  have hticks := h.runTicks (dueTiers due)
  unfold runDue
  generalize t.runTicks (dueTiers due) = ticked at hticks ⊢
  obtain ⟨outcome, t'⟩ := ticked
  cases outcome with
  | error e => exact .dropped e
  | ok u =>
    cases hsend : due.send with
    | false => exact .nothing
    | true => exact runOutcome_send hs hticks.healthy sources w link

end Transmitter

namespace CommandLine

/-! ### Linking and raising -/

theorem exists_linkFields (hs : schema.Canonical) {t : Transmitter schema} (h : t.Sound)
    {fields : List Field} (hfields : ∀ f ∈ fields, f ∈ schema.fields) :
    ∃ t', linkFields t fields = .ok t' ∧ t'.Sound := by
  induction fields generalizing t with
  | nil => exact ⟨t, rfl, h⟩
  | cons f rest ih =>
    have hrest : ∀ g ∈ rest, g ∈ schema.fields := fun g hg => hfields g (List.mem_cons_of_mem f hg)
    unfold linkFields
    split
    · exact ih h hrest
    · obtain ⟨i, hi⟩ := List.mem_iff_getElem?.mp (hfields f List.mem_cons_self)
      have hlt := (List.getElem?_eq_some_iff.mp hi).1
      have hok : (t.link f.name f.name).1 = .ok () := by
        rw [Transmitter.link, Transmitter.lockedAt_of_index (hs.indexOf?_name hi),
          Transmitter.locked_of_ok h.healthy (by rw [Store.link, if_pos hlt]; rfl)]
      have hsound := h.link f.name f.name
      generalize t.link f.name f.name = linked at hok hsound ⊢
      obtain ⟨outcome, t'⟩ := linked
      obtain rfl : outcome = .ok () := hok
      exact ih hsound hrest

theorem exists_raiseAll {t : Transmitter schema} (h : t.Sound) {events : List Nat}
    (hevents : ∀ event ∈ events, event ≤ maxEvent) :
    ∃ t', raiseAll t events = .ok t' ∧ t'.Sound := by
  induction events generalizing t with
  | nil => exact ⟨t, rfl, h⟩
  | cons event rest ih =>
    have hle := hevents event List.mem_cons_self
    have hraise : t.raise event = (.ok (), { t with flags := (t.flags.raise event).2 }) := by
      rw [Transmitter.raise, h.healthy, t.flags.raise_of_le hle]
      rfl
    unfold raiseAll
    rw [hraise]
    exact ih ⟨h.healthy, h.encodable⟩ fun e he => hevents e (List.mem_cons_of_mem event he)

theorem exists_raiseDue (hs : schema.Canonical) {t : Transmitter schema} (h : t.Sound)
    (due : Due) : ∃ t', raiseDue t due = .ok t' ∧ t'.Sound := by
  unfold raiseDue
  split
  · refine exists_raiseAll h fun event hmem => ?_
    obtain ⟨f, hf, he⟩ := List.mem_filterMap.mp hmem
    exact (hs.valid f (List.mem_of_mem_filter hf)).event_le he
  · exact ⟨t, rfl, h⟩

/-! ### Turns of the loop -/

namespace SendLoop

/-- The totals are those of the frames on the link, and a receiver of the schema accepts each of
these. -/
structure Accounted (s : SendLoop schema) : Prop where
  sound : s.node.Sound
  frames : s.frames = .ofNat (s.link.waiting .b).length
  bytes : s.bytes = .ofNat ((s.link.waiting .b).map List.length).sum
  accepted : ∀ frame ∈ s.link.waiting .b, (schema.decodeFrame {} frame).isOk = true

/-- Counting the outcome of a turn keeps the account. -/
theorem Accounted.count {s : SendLoop schema} (h : s.Accounted) {node : Transmitter schema}
    (hnode : node.Sound) (schedule : Schedule) (ticks : UInt64) {sent : Except NodeError Nat}
    {link : Loopback} (houtcome : Transmitter.RunOutcome schema {} s.link sent link) :
    ({ s with node, schedule, link, ticks }.count sent).Accounted := by
  cases houtcome with
  | nothing => exact ⟨hnode, h.frames, h.bytes, h.accepted⟩
  | dropped cause => exact ⟨hnode, h.frames, h.bytes, h.accepted⟩
  | @sent frame hpos haccepted =>
    rw [count_of_pos _ hpos]
    exact {
      sound := hnode
      frames := by
        show s.frames + 1 = .ofNat (s.link.waiting .b ++ [frame]).length
        rw [List.length_append, h.frames, UInt64.ofNat_add]
        rfl
      bytes := by
        show s.bytes + .ofNat frame.length =
          .ofNat ((s.link.waiting .b ++ [frame]).map List.length).sum
        rw [List.map_append, List.sum_append, h.bytes, UInt64.ofNat_add]
        rfl
      accepted := by
        intro waiting hmem
        rcases List.mem_append.mp hmem with hold | hnew
        · exact h.accepted waiting hold
        · obtain rfl := List.mem_singleton.mp hnew
          exact haccepted }

theorem Accounted.turn (hs : schema.Canonical) (sine : Binary64 → Binary64) {s : SendLoop schema}
    (h : s.Accounted) (now : Nat) : ∃ s', s.turn sine now = .ok s' ∧ s'.Accounted := by
  obtain ⟨node, hnode, hsound⟩ := exists_raiseDue hs h.sound (s.schedule.due now).1
  have hreliable : ∀ ticks, (syntheticSources sine schema ticks).Reliable :=
    fun ticks source hcrash => nomatch hcrash
  unfold SendLoop.turn
  simp only [hnode]
  exact ⟨_, rfl, h.count (hsound.runDue hs (hreliable _) _ _ _) _ _
    (Transmitter.runOutcome_runDue hs hsound ..)⟩

/-- However late the turns are, the loop comes to its end. -/
theorem Accounted.run (hs : schema.Canonical) (sine : Binary64 → Binary64) (limit : Option Nat)
    {s : SendLoop schema} (h : s.Accounted) (now : Nat) (lateness : List Nat) :
    ∃ s', s.run sine limit now lateness = .ok s' ∧ s'.Accounted := by
  induction lateness generalizing s now with
  | nil => exact ⟨s, rfl, h⟩
  | cons late rest ih =>
    obtain ⟨s', hturn, hs'⟩ := h.turn hs sine (now + late)
    unfold SendLoop.run
    rw [hturn]
    dsimp only
    split
    · exact ⟨s', rfl, hs'⟩
    · exact ih hs' _

end SendLoop

/-- **Sending ends with an honest account.** Over a schema that was built, the loop of the command
never fails: at its last turn the totals are the number of the frames on the link and of their
bytes, and a receiver of the schema accepts every one of them. -/
theorem exists_transmit {limits : SchemaLimits} {name : String} {declared : List Field}
    (hbuild : Schema.build limits name declared = .ok schema) (host : Host)
    (intervals : TickIntervals) (limit : Option Nat) :
    ∃ s, transmit host schema intervals limit = .ok s ∧ s.Accounted := by
  have hs := Schema.build_eq_ok hbuild
  obtain ⟨node, hlink, hnode⟩ :=
    exists_linkFields hs (Transmitter.Fresh.initial.sound hs) fun f hf => hf
  have hstart : (SendLoop.start node intervals).Accounted :=
    ⟨hnode, rfl, rfl, fun frame hmem => nomatch hmem⟩
  obtain ⟨s, hrun, haccounted⟩ := hstart.run hs host.sine limit 0 host.lateness
  refine ⟨s, ?_, haccounted⟩
  rw [transmit, hlink]
  show (SendLoop.run _ _ _ _ _).mapError _ = _
  rw [hrun]
  rfl

/-- Two turns, one at the start and one when the fast and the send handlers are first due. -/
example :
    let schema : Schema := ⟨"scenario", Schema.scenarioFields⟩
    let host := { Host.ofFiles "" [] with lateness := [0, 0, 0] }
    (transmit host schema .standard (some 1)).toOption.map
      (fun s => (s.link.waiting .b, s.frames, s.bytes, s.dropped)) =
        some ([[1, 0, 1, 0, 1, 0]], 1, 6, 0) := by
  decide +kernel

end CommandLine

end Telemetry
