import Telemetry.Proofs.Node.Receiving
import Telemetry.Proofs.Node.Sending
/-!
# Telemetry.Proofs.Node.Delivery

**No update is lost** between a transmitter and a receiver over one link.

A `Session` is the two nodes and the link, with a note of where the value of each field came
from last. Its invariant is about the store that the receiver will have once it has taken in
every waiting frame (`Session.settled`): an updated field that is not marked has its wire
image there. Sending moves what is marked into the link, receiving moves the link into the
store, and neither changes what is settled otherwise.
-/

namespace Telemetry

variable {schema : Schema}

/-! ### Sending -/

/-- Sending leaves the flags clean, and the frame of what was marked in the link. -/
theorem Transmitter.send_of_packs (hs : schema.Canonical) {t : Transmitter schema}
    {sources : Sources} {frame : Bytes} {link : Loopback} (w : FrameWriter)
    (hhealthy : t.poisoned = false) (hdirty : t.flags.isClean = false)
    (h : t.store.Packs sources t.flags.pending frame)
    (hwriter : frame.length ≤ w.config.maxFrameSize) (hlink : frame.length ≤ link.maxFrameSize) :
    (t.send sources w link).2 = ({ t with flags := .clean }, w.sentOn link frame) := by
  have hlimit : ¬ w.limit link < frame.length := Nat.not_lt.mpr (Nat.le_min.mpr ⟨hwriter, hlink⟩)
  have hcode : t.flags.pending.isEmpty = false := by rw [← DirtyFlags.isClean_eq, hdirty]
  have hsend : w.send sources t.store t.flags.pending link =
      (.ok frame.length, w.sentOn link frame) := by
    rw [w.send_of_packs hs hcode h, if_neg hlimit]
  rw [send_eq hhealthy, hsend, hhealthy]
  rfl

/-- With nothing marked, sending does nothing. -/
theorem Transmitter.send_of_clean {t : Transmitter schema} {sources : Sources} {link : Loopback}
    (w : FrameWriter) (hhealthy : t.poisoned = false) (hclean : t.flags.isClean = true) :
    (t.send sources w link).2 = (t, link) := by
  have hcode : t.flags.pending.isEmpty = true := by rw [← DirtyFlags.isClean_eq, hclean]
  obtain ⟨store, flags, counter, poisoned⟩ := t
  obtain rfl : poisoned = false := hhealthy
  obtain rfl : flags = .clean := flags.isClean_iff.mp hclean
  rw [send_eq rfl, w.send_of_isEmpty hcode]
  rfl

/-! ### Receiving -/

/-- Without a waiting frame nothing is received. -/
theorem Receiver.receive_of_nil {n : Receiver schema} {reader : FrameReader} {link : Loopback}
    (h : link.waiting reader.linkEnd = []) :
    (n.receive reader link).2 = (n, link) := by
  rw [receive, FrameReader.receive_of_nil schema h]

/-- The oldest waiting frame, if the reader sees it whole, is read into the store. -/
theorem Receiver.receive_of_cons {n : Receiver schema} (hlock : n.poisoned = false)
    {reader : FrameReader} {link : Loopback} {frame : Bytes} {rest : List Bytes}
    (h : link.waiting reader.linkEnd = frame :: rest) (hfits : frame.length ≤ link.maxFrameSize) :
    (n.receive reader link).2.1.store = (n.store.deserialize reader.config frame).2 ∧
      (n.receive reader link).2.1.poisoned = false ∧
      (n.receive reader link).2.2 = link.withWaiting reader.linkEnd rest := by
  have hread := FrameReader.receive_of_cons schema h
  rw [FrameReader.take_capacity (FrameReader.length_le_capacity hfits)] at hread
  unfold receive Store.deserialize
  rw [hread]
  cases schema.decodeFrame reader.config frame with
  | ok decoded =>
    show (n.accept (.ok decoded)).2.store = _ ∧ (n.accept (.ok decoded)).2.poisoned = _ ∧ _
    rw [accept_ok hlock]
    exact ⟨rfl, hlock, rfl⟩
  | error e => exact ⟨rfl, hlock, rfl⟩

/-! ### Sessions -/

/-- What is done to the two nodes. -/
inductive Operation
  | set (name : String) (r : Reading)
  | update (name : String) (r : Reading)
  | tick (tier : Tier)
  | raise (event : Nat)
  | runDue (due : Due)
  | send
  | receive

/-- A transmitter and a receiver over one link. -/
structure Session (schema : Schema) where
  sender : Transmitter schema
  receiver : Receiver schema
  link : Loopback
  /-- The last successful write of each field. -/
  origin : Nat → Option Transmitter.Origin

namespace Session

open Transmitter (Origin written)

variable (writer : FrameWriter) (reader : FrameReader) (sources : Sources)

/-- The session after the sender went on, with or without a write. -/
def advance (s : Session schema) (sender : Transmitter schema) (write : Option (Nat × Origin)) :
    Session schema :=
  { s with
    sender
    origin := fun i =>
      match write with
      | some (j, origin) => if j = i then some origin else s.origin i
      | none => s.origin i }

/-- One tick. A fast one that is not refused writes the counter. -/
def tick (s : Session schema) (tier : Tier) : Session schema :=
  s.advance (s.sender.tick tier).2
    (written .count (if tier = .fast then s.sender.counter else none) (s.sender.tick tier).1)

/-- The session after an operation, which may have been refused. -/
def step (s : Session schema) : Operation → Session schema
  | .set name r =>
    s.advance (s.sender.set name r).2
      (written .set (schema.indexOf? name) (s.sender.set name r).1)
  | .update name r =>
    s.advance (s.sender.update name r).2
      (written .update (schema.indexOf? name) (s.sender.update name r).1)
  | .tick tier => s.tick tier
  | .raise event => s.advance (s.sender.raise event).2 none
  | .runDue due =>
    let (_, sender, link) := s.sender.runDue sources due writer s.link
    -- the fast tick is the first of the turn, and the only one that writes
    { s with sender, link, origin := if due.fast then (s.tick .fast).origin else s.origin }
  | .send =>
    let (_, sender, link) := s.sender.send sources writer s.link
    { s with sender, link }
  | .receive =>
    let (_, receiver, link) := s.receiver.receive reader s.link
    { s with receiver, link }

/-- The session after some operations, the first one first. -/
def run (s : Session schema) (ops : List Operation) : Session schema :=
  ops.foldl (step writer reader sources) s

/-- What the receiver will hold once it has taken in every waiting frame. -/
def settled (s : Session schema) : Store schema :=
  (s.link.waiting reader.linkEnd).foldl
    (fun store frame => (store.deserialize reader.config frame).2) s.receiver.store

/-- The field has reached the receiver, or is on its way. -/
def Delivered (s : Session schema) (i : Nat) : Prop :=
  ∃ image, s.sender.store.Sends sources i image ∧
    (s.settled reader).slots[i]? = some (.owned image)

/-- What holds after every operation. -/
structure Inv (s : Session schema) : Prop where
  healthy : s.sender.poisoned = false
  receiving : s.receiver.poisoned = false
  unlinked : s.sender.store.Unlinked
  encodable : s.sender.store.Encodable
  roomy : schema.maxFrameLen ≤ s.link.maxFrameSize
  short : ∀ frame ∈ s.link.waiting reader.linkEnd, frame.length ≤ schema.maxFrameLen
  delivered : ∀ (i : Nat) (f : Field), schema.fields[i]? = some f →
    s.origin i = some .update → s.sender.flags.pending.selects f = false →
    s.Delivered reader sources i

/-! ### Each operation keeps the invariant -/

variable {writer reader sources} {s : Session schema}

theorem origin_advance_of_ne {sender : Transmitter schema} {write : Option (Nat × Origin)}
    {i : Nat} (hi : ∀ origin, write ≠ some (i, origin)) :
    (s.advance sender write).origin i = s.origin i := by
  cases hwrite : write with
  | none => rfl
  | some w =>
    have hne : w.1 ≠ i := by
      rintro rfl
      exact hi w.2 hwrite
    exact if_neg hne

theorem origin_advance_self (sender : Transmitter schema) (i : Nat) (origin : Origin) :
    (s.advance sender (some (i, origin))).origin i = some origin :=
  if_pos rfl

/-- What the sender does on its own leaves the link alone, and marks what it updates. -/
theorem Inv.advance (h : s.Inv reader sources) {sender : Transmitter schema}
    {write : Option (Nat × Origin)} (hsender : s.sender.Advances sender write) :
    (s.advance sender write).Inv reader sources where
  healthy := hsender.healthy
  receiving := h.receiving
  unlinked := hsender.unlinked h.unlinked
  encodable := hsender.encodable h.encodable
  roomy := h.roomy
  short := h.short
  delivered := by
    intro i f hf horigin hclean
    by_cases hwrite : ∃ origin, write = some (i, origin)
    · -- an update of this field would have marked it
      obtain ⟨origin, rfl⟩ := hwrite
      rw [origin_advance_self] at horigin
      obtain rfl := Option.some.inj horigin
      have hmarked := hsender.selects_of_update rfl hf
      rw [show sender.flags.pending.selects f = false from hclean] at hmarked
      cases hmarked
    · have hi : ∀ origin, write ≠ some (i, origin) := not_exists.mp hwrite
      rw [origin_advance_of_ne hi] at horigin
      obtain ⟨image, hsends, hslot⟩ :=
        h.delivered i f hf horigin (hsender.selects_of_selects_false hclean)
      exact ⟨image, hsender.sends hi hsends, hslot⟩

theorem Inv.tick (h : s.Inv reader sources) (tier : Tier) : (s.tick tier).Inv reader sources :=
  h.advance (by
    rw [← Transmitter.counted_of_unlinked h.unlinked]
    exact Transmitter.advances_tick h.healthy tier)

/-- What is marked goes into the link, behind what waits there. -/
theorem Inv.send (hs : schema.Canonical) (hends : reader.linkEnd = writer.linkEnd.other)
    (hwriter : schema.maxFrameLen ≤ writer.config.maxFrameSize)
    (hreader : schema.maxFrameLen ≤ reader.config.maxFrameSize) (h : s.Inv reader sources) :
    (s.step writer reader sources .send).Inv reader sources := by
  unfold step
  cases hdirty : s.sender.flags.isClean with
  | true =>
    simp only [Transmitter.send_of_clean writer h.healthy hdirty]
    exact h
  | false =>
    obtain ⟨frame, hpacks⟩ :=
      h.encodable.exists_packs h.unlinked hs sources s.sender.flags.pending
    -- no limit on the way refuses the frame
    have hmax : frame.length ≤ schema.maxFrameLen := by
      rw [hpacks.length_eq hs]
      exact hs.impliedLen_le_maxFrameLen _
    have hsend := Transmitter.send_of_packs hs writer h.healthy hdirty hpacks
      (Nat.le_trans hmax hwriter) (Nat.le_trans hmax h.roomy)
    simp only [hsend, FrameWriter.sentOn]
    rw [← hends]
    have hsettled : ∀ sender origin, Session.settled reader (⟨sender, s.receiver,
        s.link.withWaiting reader.linkEnd (s.link.waiting reader.linkEnd ++ [frame]),
        origin⟩ : Session schema) = (schema.frameOf frame).apply (s.settled reader) := by
      intro sender origin
      unfold settled
      rw [Loopback.waiting_withWaiting, List.foldl_append, List.foldl_cons, List.foldl_nil,
        Store.deserialize, hpacks.decodeFrame_eq hs (Nat.le_trans hmax hreader)]
    exact {
      healthy := h.healthy
      receiving := h.receiving
      unlinked := h.unlinked
      encodable := h.encodable
      roomy := by
        rw [Loopback.maxFrameSize_withWaiting]
        exact h.roomy
      short := by
        intro waiting hmem
        rw [Loopback.waiting_withWaiting] at hmem
        rcases List.mem_append.mp hmem with hold | hnew
        · exact h.short waiting hold
        · obtain rfl := List.mem_singleton.mp hnew
          exact hmax
      delivered := by
        intro i f hf horigin hclean
        obtain ⟨hcarried, hkept⟩ := hpacks.getElem?_slots_apply hs (s.settled reader) hf
        unfold Delivered
        rw [hsettled]
        -- a marked field is in the new frame, any other was delivered before
        cases hmarked : s.sender.flags.pending.selects f with
        | true => exact hcarried hmarked
        | false =>
          rw [hkept hmarked]
          exact h.delivered i f hf horigin hmarked }

/-- The oldest waiting frame is settled already. -/
theorem Inv.receive (h : s.Inv reader sources) :
    (s.step writer reader sources .receive).Inv reader sources := by
  unfold step
  cases hwaiting : s.link.waiting reader.linkEnd with
  | nil =>
    simp only [Receiver.receive_of_nil hwaiting]
    exact h
  | cons frame rest =>
    have hfits : frame.length ≤ s.link.maxFrameSize :=
      Nat.le_trans (h.short frame (by rw [hwaiting]; exact List.mem_cons_self)) h.roomy
    obtain ⟨hstore, hhealthy, hlink⟩ := Receiver.receive_of_cons h.receiving hwaiting hfits
    generalize s.receiver.receive reader s.link = received at hstore hhealthy hlink ⊢
    obtain ⟨outcome, receiver, link⟩ := received
    obtain rfl : link = s.link.withWaiting reader.linkEnd rest := hlink
    have hsettled : Session.settled reader (⟨s.sender, receiver,
        s.link.withWaiting reader.linkEnd rest, s.origin⟩ : Session schema) =
        s.settled reader := by
      unfold settled
      rw [Loopback.waiting_withWaiting, hwaiting, List.foldl_cons]
      exact congrArg (fun store => rest.foldl _ store) hstore
    exact {
      healthy := h.healthy
      receiving := hhealthy
      unlinked := h.unlinked
      encodable := h.encodable
      roomy := by
        rw [Loopback.maxFrameSize_withWaiting]
        exact h.roomy
      short := by
        intro waiting hmem
        rw [Loopback.waiting_withWaiting] at hmem
        exact h.short waiting (by rw [hwaiting]; exact List.mem_cons_of_mem frame hmem)
      delivered := by
        intro i f hf horigin hclean
        unfold Delivered
        rw [hsettled]
        exact h.delivered i f hf horigin hclean }

/-- A tick that is not fast writes nothing. -/
theorem tick_of_ne_fast (s : Session schema) {tier : Tier} (htier : tier ≠ .fast) :
    s.tick tier = { s with sender := (s.sender.tick tier).2 } := by
  unfold tick advance
  rw [if_neg htier]
  cases (s.sender.tick tier).1 with
  | ok u => rfl
  | error e => rfl

theorem Inv.runTicks {tiers : List Tier} (htiers : .fast ∉ tiers) (h : s.Inv reader sources) :
    Session.Inv reader sources { s with sender := (s.sender.runTicks tiers).2 } := by
  induction tiers generalizing s with
  | nil => exact h
  | cons tier rest ih =>
    rw [List.mem_cons, not_or] at htiers
    have htick := h.tick tier
    rw [s.tick_of_ne_fast (Ne.symm htiers.1)] at htick
    rw [Transmitter.runTicks]
    generalize s.sender.tick tier = ticked at htick ⊢
    obtain ⟨outcome, sender⟩ := ticked
    cases outcome with
    | error e => exact htick
    | ok u => exact ih htiers.2 htick

/-- The ticks of a turn, of which only the fast one writes. -/
theorem Inv.runDueTicks (h : s.Inv reader sources) (due : Due) :
    Session.Inv reader sources
      { s with
        sender := (s.sender.runTicks (Transmitter.dueTiers due)).2
        origin := if due.fast then (s.tick .fast).origin else s.origin } := by
  obtain ⟨rest, hrest, hdue⟩ : ∃ rest : List Tier, .fast ∉ rest ∧
      Transmitter.dueTiers due = (if due.fast then [.fast] else []) ++ rest := by
    refine ⟨_, ?_, List.append_assoc _ _ _⟩
    cases due.medium <;> cases due.slow <;> decide
  rw [hdue]
  cases due.fast with
  | false => exact h.runTicks hrest
  | true =>
    have htick : Session.Inv reader sources
        { s with sender := (s.sender.tick .fast).2, origin := (s.tick .fast).origin } :=
      h.tick .fast
    rw [if_pos rfl, if_pos rfl, List.cons_append, List.nil_append, Transmitter.runTicks]
    generalize (s.tick .fast).origin = origin at htick ⊢
    generalize s.sender.tick .fast = ticked at htick ⊢
    obtain ⟨outcome, sender⟩ := ticked
    cases outcome with
    | error e => exact htick
    | ok u => exact htick.runTicks hrest

theorem Inv.runDue (hs : schema.Canonical) (hends : reader.linkEnd = writer.linkEnd.other)
    (hwriter : schema.maxFrameLen ≤ writer.config.maxFrameSize)
    (hreader : schema.maxFrameLen ≤ reader.config.maxFrameSize) (h : s.Inv reader sources)
    (due : Due) : (s.step writer reader sources (.runDue due)).Inv reader sources := by
  have hticks := h.runDueTicks due
  dsimp only [step, Transmitter.runDue]
  generalize s.sender.runTicks (Transmitter.dueTiers due) = ticked at hticks ⊢
  obtain ⟨outcome, sender⟩ := ticked
  cases outcome with
  | error e => exact hticks
  | ok u =>
    cases hsend : due.send with
    | false => exact hticks
    | true => exact hticks.send hs hends hwriter hreader

/-- **Every operation keeps the invariant**, refused or not. -/
theorem Inv.step (hs : schema.Canonical) (hends : reader.linkEnd = writer.linkEnd.other)
    (hwriter : schema.maxFrameLen ≤ writer.config.maxFrameSize)
    (hreader : schema.maxFrameLen ≤ reader.config.maxFrameSize) (h : s.Inv reader sources)
    (op : Operation) : (s.step writer reader sources op).Inv reader sources := by
  cases op with
  | set name r => exact h.advance (Transmitter.advances_set h.healthy name r)
  | update name r => exact h.advance (Transmitter.advances_update hs h.healthy name r)
  | tick tier => exact h.tick tier
  | raise event => exact h.advance (Transmitter.advances_raise h.healthy event)
  | runDue due => exact h.runDue hs hends hwriter hreader due
  | send => exact h.send hs hends hwriter hreader
  | receive => exact h.receive

theorem Inv.run (hs : schema.Canonical) (hends : reader.linkEnd = writer.linkEnd.other)
    (hwriter : schema.maxFrameLen ≤ writer.config.maxFrameSize)
    (hreader : schema.maxFrameLen ≤ reader.config.maxFrameSize) (h : s.Inv reader sources)
    (ops : List Operation) : (s.run writer reader sources ops).Inv reader sources := by
  induction ops generalizing s with
  | nil => exact h
  | cons op rest ih => exact ih (h.step hs hends hwriter hreader op)

/-! ### The start of a session -/

/-- Two fresh nodes, with any field that can count as the packet counter, over a link on
which nothing waits for the receiver. -/
structure Fresh (reader : FrameReader) (s : Session schema) : Prop where
  sender : s.sender = .initial schema ∨
    ∃ name, (Transmitter.initial schema).withCounter name = .ok s.sender
  receiver : ∃ config, s.receiver = .initial schema config
  link : s.link.waiting reader.linkEnd = []
  origin : ∀ i, s.origin i = none

theorem Fresh.inv (hs : schema.Canonical) (hroomy : schema.maxFrameLen ≤ s.link.maxFrameSize)
    (h : s.Fresh reader) : s.Inv reader sources := by
  have hsender : s.sender.poisoned = false ∧ s.sender.store = Store.initial schema := by
    rcases h.sender with heq | ⟨name, hcounter⟩
    · rw [heq]
      exact ⟨rfl, rfl⟩
    · obtain ⟨i, -, -, hsender⟩ := Transmitter.withCounter_eq_ok hcounter
      rw [hsender]
      exact ⟨rfl, rfl⟩
  exact {
    healthy := hsender.1
    receiving := by
      obtain ⟨config, hreceiver⟩ := h.receiver
      rw [hreceiver]
      rfl
    unlinked := by
      rw [hsender.2]
      exact Store.unlinked_initial schema
    encodable := by
      rw [hsender.2]
      exact Store.encodable_initial hs
    roomy := hroomy
    short := by
      intro frame hmem
      rw [h.link] at hmem
      cases hmem
    delivered := by
      intro i f hf horigin hclean
      rw [h.origin i] at horigin
      cases horigin }

/-- **No update is lost.** After any operations on a fresh pair of nodes, each field whose
last write was an update and that is not marked has reached the receiver, once no frame
waits: the receiver holds what the sender's value becomes on the wire. -/
theorem get_of_update {limits : SchemaLimits} {name : String} {declared : List Field}
    (hbuild : Schema.build limits name declared = .ok schema) (writer : FrameWriter)
    (reader : FrameReader) (sources : Sources) (hends : reader.linkEnd = writer.linkEnd.other)
    (start : Session schema) (hfresh : start.Fresh reader)
    (hwriter : schema.maxFrameLen ≤ writer.config.maxFrameSize)
    (hlink : schema.maxFrameLen ≤ start.link.maxFrameSize)
    (hreader : schema.maxFrameLen ≤ reader.config.maxFrameSize) (ops : List Operation)
    (i : Nat) (f : Field) (hf : schema.fields[i]? = some f) :
    let s := start.run writer reader sources ops
    s.origin i = some .update → s.sender.flags.pending.selects f = false →
      s.link.waiting reader.linkEnd = [] →
      ∃ r bytes, (s.sender.get sources f.name).1 = .ok r ∧ r.encode f = .ok bytes ∧
        s.receiver.get f.name = (.ok (Reading.decode f.kind bytes), s.receiver) := by
  intro s horigin hclean hwaiting
  have hs := Schema.build_eq_ok hbuild
  have hinv : s.Inv reader sources :=
    (hfresh.inv hs hlink).run hs hends hwriter hreader ops
  have hname := hs.indexOf?_name hf
  obtain ⟨image, ⟨g, r, bytes, hg, hget, hencode, rfl⟩, hslot⟩ :=
    hinv.delivered i f hf horigin hclean
  obtain rfl : f = g := Option.some.inj (hf.symm.trans hg)
  refine ⟨r, bytes, ?_, hencode, ?_⟩
  · rw [Transmitter.get, Transmitter.lockedAt_of_index hname,
      Transmitter.locked_of_ok hinv.healthy (by rw [hget])]
  · rw [settled, hwaiting, List.foldl_nil] at hslot
    exact Receiver.get_of_owned hs hinv.receiving hf hslot

/-- In the scenario layout an update and a setting that is refused, a turn of the loop that
ticks and sends, an update of another tier, and one receive. -/
theorem get_of_update_scenario :
    let schema : Schema := ⟨"scenario", Schema.scenarioFields⟩
    let start : Session schema :=
      ⟨.initial schema, .initial schema {}, {}, fun _ => none⟩
    let s := start.run {} {} Receiver.noSources
      [.update "a" (.signed 300), .set "a" (.signed (-1)), .runDue ⟨true, false, false, true⟩,
        .update "s" (.unsigned 5), .receive]
    s.origin 0 = some .update ∧ s.link.waiting .b = [] ∧
      ∃ r bytes, (s.sender.get Receiver.noSources "a").1 = .ok r ∧
        r.encode (Schema.periodicField .fast "a" (.unsigned .w16)) = .ok bytes ∧
        s.receiver.get "a" = (.ok (Reading.decode (.unsigned .w16) bytes), s.receiver) := by
  intro schema start
  dsimp only
  have hbuild : Schema.build {} "scenario" Schema.scenarioFields = .ok schema :=
    Schema.build_scenario
  have hfresh : start.Fresh ({} : FrameReader) :=
    ⟨Or.inl rfl, ⟨{}, rfl⟩, rfl, fun _ => rfl⟩
  refine ⟨by decide +kernel, by decide +kernel, ?_⟩
  refine get_of_update hbuild {} {} Receiver.noSources rfl start hfresh (by decide) (by decide)
    (by decide) _ 0 (Schema.periodicField .fast "a" (.unsigned .w16)) rfl ?_ ?_ ?_
  · decide +kernel
  · decide +kernel
  · decide +kernel

end Session

end Telemetry
