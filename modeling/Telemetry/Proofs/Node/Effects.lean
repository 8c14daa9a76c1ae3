import Telemetry.Proofs.Frame.Draining
import Telemetry.Proofs.Node.Counting
/-!
# Telemetry.Proofs.Node.Effects

**An operation changes its target and nothing else.** Of a transmitter whose lock is not poisoned,
an operation that sends nothing either is refused and leaves everything as it was, or replaces one
slot, sets one flag, or both (`Transmitter.Changes`). `Transmitter.Effect` says which: it has one
constructor for each way in which an operation can end, with the condition under which it does.

The fast tick is the only one whose target is not named by its caller; that it never fails rests on
the packet counter being a field that can count. The main statement is `operation_effect`.
-/

namespace Telemetry

variable {schema : Schema}

/-! ### Flags -/

namespace DirtyFlags

/-- The flags after the flag of one mark has been set, or none; the others are as before. -/
structure Gains (flags flags' : DirtyFlags) (mark : Option Mark) : Prop where
  tiers : ∀ t, t ≠ .conditional →
    (flags'.isDirty t = true ↔ flags.isDirty t = true ∨ mark = some (.tier t))
  events : ∀ e, e ≤ maxEvent →
    (flags'.events.getLsbD e = true ↔ flags.events.getLsbD e = true ∨ mark = some (.event e))

theorem gains_none (flags : DirtyFlags) : flags.Gains flags none :=
  ⟨fun _ _ => by simp, fun _ _ => by simp⟩

theorem isDirty_eq_getLsbD (flags : DirtyFlags) {t : Tier} {bit : Nat} (h : t.bit? = some bit) :
    flags.isDirty t = flags.pending.bits.getLsbD bit := by
  rw [isDirty_eq, MessageCode.hasTier, h]

theorem getLsbD_events (flags : DirtyFlags) (e : Nat) :
    flags.events.getLsbD e = flags.pending.bits.getLsbD (eventBit e) := by
  rw [← events_pending]
  exact flags.pending.getLsbD_events e

/-- A mark sets its own bit. -/
theorem getLsbD_take (flags : DirtyFlags) (m : Mark) (bit : Nat) :
    (flags.take m).2.pending.bits.getLsbD bit = true ↔
      flags.pending.bits.getLsbD bit = true ∨ m.bit? = some bit := by
  have hset : ∀ own, own < 16 → ((flags.pending.withBit own).bits.getLsbD bit = true ↔
      flags.pending.bits.getLsbD bit = true ∨ own = bit) := by
    intro own hown
    rw [MessageCode.getLsbD_withBit, Bool.or_eq_true, Bool.and_eq_true, decide_eq_true_eq,
      decide_eq_true_eq]
    apply or_congr_right
    constructor
    · exact And.right
    · rintro rfl
      exact ⟨hown, rfl⟩
  cases hm : m.bit? with
  | none =>
    cases m with
    | tier t =>
      have ht : t.bit? = none := hm
      simp [take, pending_mark, MessageCode.withTier, ht]
    | event e =>
      have he : ¬ e ≤ maxEvent := by simpa [Mark.bit?] using hm
      simp [take, pending_raise, MessageCode.withEvent, he]
  | some own =>
    have hown := hset own (Mark.lt_of_bit? hm)
    rw [Option.some.injEq]
    cases m with
    | tier t =>
      have ht : t.bit? = some own := hm
      simpa [take, pending_mark, MessageCode.withTier, ht] using hown
    | event e =>
      obtain ⟨he, rfl⟩ := Mark.bit?_event.mp hm
      simpa [take, pending_raise, MessageCode.withEvent, he] using hown

/-- **Marking sets one flag**, and no flag has two marks. -/
theorem gains_take (flags : DirtyFlags) (m : Mark) : flags.Gains (flags.take m).2 (some m) := by
  have hown : ∀ {m' : Mark} {bit : Nat}, m'.bit? = some bit → (m.bit? = some bit ↔ m = m') :=
    fun hm' => ⟨fun hm => Mark.bit?_inj hm hm', fun hm => hm ▸ hm'⟩
  constructor
  · intro t ht
    obtain ⟨bit, hbit⟩ := Mark.isTaken_iff.mp (show (Mark.tier t).IsTaken from ht)
    rw [isDirty_eq_getLsbD _ hbit, isDirty_eq_getLsbD _ hbit, getLsbD_take, hown hbit,
      Option.some.injEq]
  · intro e he
    have hbit : (Mark.event e).bit? = some (eventBit e) := if_pos he
    rw [getLsbD_events, getLsbD_events, getLsbD_take, hown hbit, Option.some.injEq]

end DirtyFlags

/-- What is marked for a field to be sent: its event if it is conditional, or else its tier. -/
def Field.carrier (f : Field) : Option Mark :=
  if f.tier = .conditional then f.event.map .event else some (.tier f.tier)

namespace Transmitter

variable {t : Transmitter schema}

theorem gains_markField {i : Nat} {f : Field} (hf : schema.fields[i]? = some f) (hvalid : f.Valid)
    (flags : DirtyFlags) : flags.Gains (markField schema i flags) f.carrier := by
  by_cases ht : f.tier = .conditional
  · obtain ⟨e, he⟩ := hvalid.exists_event ht
    have hmark : markField schema i flags = (flags.take (.event e)).2 := by
      simp [markField, hf, he, DirtyFlags.take]
    rw [hmark, Field.carrier, if_pos ht, he]
    exact flags.gains_take (.event e)
  · have hmark : markField schema i flags = (flags.take (.tier f.tier)).2 := by
      simp [markField, hf, hvalid.event_eq_none ht, DirtyFlags.take]
    rw [hmark, Field.carrier, if_neg ht]
    exact flags.gains_take (.tier f.tier)

/-! ### What changes -/

/-- The second transmitter is the first one after a write to one slot and one mark, as far as there
are any. Every other slot and flag is as before, and so is the rest. -/
structure Changes (t t' : Transmitter schema) (write : Option (Nat × Slot)) (mark : Option Mark) :
    Prop where
  written : ∀ i slot, write = some (i, slot) → t'.store.slots[i]? = some slot
  unwritten : ∀ i : Nat, (∀ slot, write ≠ some (i, slot)) →
    t'.store.slots[i]? = t.store.slots[i]?
  flags : t.flags.Gains t'.flags mark
  counter : t'.counter = t.counter
  poisoned : t'.poisoned = t.poisoned

theorem changes_flags {flags : DirtyFlags} {mark : Option Mark} (h : t.flags.Gains flags mark) :
    t.Changes { t with flags } none mark where
  written i slot hwrite := by cases hwrite
  unwritten i _ := rfl
  flags := h
  counter := rfl
  poisoned := rfl

theorem changes_slot {i : Nat} (hi : i < schema.fields.length) (slot : Slot) {flags : DirtyFlags}
    {mark : Option Mark} (h : t.flags.Gains flags mark) :
    t.Changes { t with store := ⟨t.store.slots.setIfInBounds i slot⟩, flags } (some (i, slot))
      mark where
  written j slot' hwrite := by
    cases hwrite
    exact Vector.getElem?_setIfInBounds_self_of_lt hi
  unwritten j hj := by
    have hne : i ≠ j := by
      rintro rfl
      exact hj slot rfl
    exact Vector.getElem?_setIfInBounds_ne hne
  flags := h
  counter := rfl
  poisoned := rfl

/-! ### How an operation ends -/

/-- The field that an operation names. -/
def Operation.field? : Operation → Option String
  | .set name _ | .update name _ | .link name _ | .get _ name => some name
  | _ => none

/-- How an operation that sends nothing ends: what it answers, and the transmitter afterwards. -/
inductive Effect (t : Transmitter schema) :
    Operation → Except NodeError Answer → Transmitter schema → Prop
  /-- The named field owns the value, which it can encode. -/
  | set {name : String} {r : Reading} {i : Nat} {f : Field} {t' : Transmitter schema}
      (hi : schema.indexOf? name = some i) (hf : schema.fields[i]? = some f) (hr : r.Encodes f)
      (h : t.Changes t' (some (i, .owned r)) none) : Effect t (.set name r) (.ok .done) t'
  /-- The same, and what carries the field is marked. -/
  | update {name : String} {r : Reading} {i : Nat} {f : Field} {t' : Transmitter schema}
      (hi : schema.indexOf? name = some i) (hf : schema.fields[i]? = some f) (hr : r.Encodes f)
      (h : t.Changes t' (some (i, .owned r)) f.carrier) : Effect t (.update name r) (.ok .done) t'
  | link {name source : String} {i : Nat} {t' : Transmitter schema}
      (hi : schema.indexOf? name = some i) (h : t.Changes t' (some (i, .linked source)) none) :
      Effect t (.link name source) (.ok .done) t'
  | get {sources : Sources} {name : String} {i : Nat} {slot : Slot} {r : Reading}
      (hi : schema.indexOf? name = some i) (hslot : t.store.slots[i]? = some slot)
      (hr : Store.readSlot sources slot = .ok r) : Effect t (.get sources name) (.ok (.reading r)) t
  | raise {event : Nat} {t' : Transmitter schema} (hevent : event ≤ maxEvent)
      (h : t.Changes t' none (some (.event event))) : Effect t (.raise event) (.ok .done) t'
  /-- A tick that has no field to count in. -/
  | tick {tier : Tier} {t' : Transmitter schema} (hcounted : t.counted tier = none)
      (h : t.Changes t' none (some (.tier tier))) : Effect t (.tick tier) (.ok .done) t'
  /-- A tick that counts in a field with a value of its own. -/
  | count {tier : Tier} {i : Nat} {r : Reading} {t' : Transmitter schema}
      (hcounted : t.counted tier = some i) (hslot : t.store.slots[i]? = some (.owned r))
      (h : t.Changes t' (some (i, .owned (nextCount schema i r))) (some (.tier tier))) :
      Effect t (.tick tier) (.ok .done) t'
  | unknownField {op : Operation} {name : String} (hop : op.field? = some name)
      (hi : schema.indexOf? name = none) : Effect t op (.error (.unknownField name)) t
  /-- A value that the named field cannot encode. -/
  | misfit {op : Operation} {name : String} {r : Reading} {i : Nat} {f : Field} {e : FrameError}
      (hop : op = .set name r ∨ op = .update name r) (hi : schema.indexOf? name = some i)
      (hf : schema.fields[i]? = some f) (hr : r.encode f = .error e) :
      Effect t op (.error (.frame e)) t
  | invalidEvent {event : Nat} (hevent : maxEvent < event) :
      Effect t (.raise event) (.error (.invalidEvent event)) t

/-- Whatever is refused leaves the transmitter as it was. -/
theorem Effect.eq_of_error {op : Operation} {e : NodeError} {t' : Transmitter schema}
    (h : t.Effect op (.error e) t') : t' = t := by
  cases h <;> rfl

/-- A tick is never refused. -/
theorem Effect.tick_eq_done {tier : Tier} {answer : Except NodeError Answer}
    {t' : Transmitter schema} (h : t.Effect (.tick tier) answer t') : answer = .ok .done := by
  cases h with
  | tick | count => rfl
  | unknownField hop => cases hop
  | misfit hop => rcases hop with hop | hop <;> cases hop

section

variable (h : t.poisoned = false)
include h

/-- Setting and updating a field go alike, and differ in what is marked once the value is stored. -/
theorem effect_write {op : Operation} {name : String} {r : Reading}
    (hop : op = .set name r ∨ op = .update name r)
    {run : Nat → Transmitter schema → Except FrameError Unit × Transmitter schema}
    (hrefused : ∀ i e, t.store.set i r = .error e → run i t = (.error e, t))
    (hstored : ∀ i f, schema.indexOf? name = some i → schema.fields[i]? = some f → r.Encodes f →
      ∃ t', run i t = (.ok (), t') ∧ t.Effect op (.ok .done) t') :
    t.Effect op ((t.lockedAt name run).1.map fun _ => .done) (t.lockedAt name run).2 := by
  cases hi : schema.indexOf? name with
  | none =>
    rw [lockedAt_of_unknown hi]
    refine .unknownField ?_ hi
    rcases hop with rfl | rfl <;> rfl
  | some i =>
    obtain ⟨f, hf⟩ := Store.exists_field_of_indexOf? hi
    rw [lockedAt_of_index hi]
    cases hr : r.encode f with
    | error e =>
      have hcrash : e ≠ .sourceCrashed := fun he => r.encode_ne_crashed f (he ▸ hr)
      rw [locked_of_error h (hrefused i e (Store.set_of_encode_error hf hr)) hcrash]
      exact .misfit hop hi hf hr
    | ok bytes =>
      obtain ⟨t', hrun, heffect⟩ := hstored i f hi hf ⟨bytes, hr⟩
      rw [locked_of_ok h hrun]
      exact heffect

theorem effect_set (name : String) (r : Reading) :
    t.Effect (.set name r) (t.answer (.operation (.set name r))) (t.step (.set name r)) := by
  show t.Effect _ ((t.set name r).1.map fun _ => .done) (t.set name r).2
  refine effect_write h (Or.inl rfl) ?_ ?_
  · intro i e he
    rw [he, replaceStore]
  · intro i f hi hf hr
    have hlt := (List.getElem?_eq_some_iff.mp hf).1
    rw [Store.set_of_encodes hf hr]
    exact ⟨_, rfl, .set hi hf hr (changes_slot hlt _ t.flags.gains_none)⟩

theorem effect_update (hs : schema.Canonical) (name : String) (r : Reading) :
    t.Effect (.update name r) (t.answer (.operation (.update name r)))
      (t.step (.update name r)) := by
  show t.Effect _ ((t.update name r).1.map fun _ => .done) (t.update name r).2
  refine effect_write h (Or.inr rfl) ?_ ?_
  · intro i e he
    rw [he]
  · intro i f hi hf hr
    have hlt := (List.getElem?_eq_some_iff.mp hf).1
    have hgains := gains_markField hf (hs.valid f (List.mem_of_getElem? hf)) t.flags
    rw [Store.set_of_encodes hf hr]
    exact ⟨_, rfl, .update hi hf hr (changes_slot hlt _ hgains)⟩

theorem effect_link (name source : String) :
    t.Effect (.link name source) (t.answer (.operation (.link name source)))
      (t.step (.link name source)) := by
  show t.Effect _ ((t.link name source).1.map fun _ => .done) (t.link name source).2
  unfold link
  cases hi : schema.indexOf? name with
  | none =>
    rw [lockedAt_of_unknown hi]
    exact .unknownField rfl hi
  | some i =>
    obtain ⟨f, hf⟩ := Store.exists_field_of_indexOf? hi
    have hlt := (List.getElem?_eq_some_iff.mp hf).1
    have hlink : t.store.link i source = .ok ⟨t.store.slots.setIfInBounds i (.linked source)⟩ :=
      if_pos hlt
    rw [lockedAt_of_index hi, locked_of_ok h (by rw [hlink]; rfl)]
    exact .link hi (changes_slot hlt _ t.flags.gains_none)

theorem effect_get {sources : Sources} (hsources : sources.Reliable) (name : String) :
    t.Effect (.get sources name) (t.answer (.operation (.get sources name)))
      (t.step (.get sources name)) := by
  show t.Effect _ ((t.get sources name).1.map .reading) (t.get sources name).2
  rw [get_snd h hsources]
  unfold get
  cases hi : schema.indexOf? name with
  | none =>
    rw [lockedAt_of_unknown hi]
    exact .unknownField rfl hi
  | some i =>
    obtain ⟨f, hf⟩ := Store.exists_field_of_indexOf? hi
    obtain ⟨slot, hslot⟩ := t.store.exists_slot hf
    obtain ⟨r, hr⟩ := Store.exists_readSlot hsources slot
    have hget : t.store.get sources i = .ok r := by simp [Store.get, hslot, hr]
    rw [lockedAt_of_index hi, locked_of_ok h (by rw [hget])]
    exact .get hi hslot hr

theorem effect_raise (event : Nat) :
    t.Effect (.raise event) (t.answer (.operation (.raise event))) (t.step (.raise event)) := by
  show t.Effect _ ((t.raise event).1.map fun _ => .done) (t.raise event).2
  unfold raise
  rw [if_neg (by simp [h])]
  rcases Nat.lt_or_ge maxEvent event with hlate | hle
  · rw [t.flags.raise_of_lt hlate]
    exact .invalidEvent hlate
  · rw [t.flags.raise_of_le hle]
    exact .raise hle (changes_flags (t.flags.gains_take (.event event)))

theorem effect_tick (hcount : t.CanCount) (tier : Tier) :
    t.Effect (.tick tier) (t.answer (.operation (.tick tier))) (t.step (.tick tier)) := by
  show t.Effect _ ((t.tick tier).1.map fun _ => .done) (t.tick tier).2
  have hgains := t.flags.gains_take (.tier tier)
  unfold tick
  by_cases hfast : tier = .fast
  · subst hfast
    rcases countTick_eq hcount with ⟨hcounted, htick⟩ | ⟨i, r, hcounted, hi, hslot, htick⟩
    · rw [locked_of_ok h (by rw [if_pos rfl, htick])]
      exact .tick hcounted (changes_flags hgains)
    · rw [locked_of_ok h (by rw [if_pos rfl, htick])]
      exact .count hcounted hslot (changes_slot hi _ hgains)
  · rw [locked_of_ok h (by rw [if_neg hfast])]
    exact .tick (if_neg hfast) (changes_flags hgains)

end

/-- **What is refused changes nothing, and what is accepted changes its target alone.** After any
uses of a fresh transmitter that have not poisoned its lock, every operation that sends nothing
ends in one of the ways of `Effect`. So if it is refused, the transmitter is as it was, every slot
and flag included; and ticks are never refused. -/
theorem operation_effect {limits : SchemaLimits} {name : String} {declared : List Field}
    (hbuild : Schema.build limits name declared = .ok schema) (start : Transmitter schema)
    (hfresh : start.Fresh) (calls : List Call)
    (hhealthy : (start.afterAll calls).poisoned = false) (op : Operation) (hop : op.Reliable)
    (hlocal : (Call.operation op).link? = none) :
    let t := start.afterAll calls
    t.Effect op (t.answer (.operation op)) (t.step op) ∧
      (∀ e, t.answer (.operation op) = .error e → t.step op = t) ∧
      ∀ tier, op = .tick tier → t.answer (.operation op) = .ok .done := by
  intro t
  have hs := Schema.build_eq_ok hbuild
  have hcount : t.CanCount := hfresh.canCount.afterAll calls
  have heffect : t.Effect op (t.answer (.operation op)) (t.step op) := by
    cases op with
    | set name r => exact effect_set hhealthy name r
    | update name r => exact effect_update hhealthy hs name r
    | link name source => exact effect_link hhealthy name source
    | get sources name => exact effect_get hhealthy hop name
    | tick tier => exact effect_tick hhealthy hcount tier
    | raise event => exact effect_raise hhealthy event
    | runDue | send => cases hlocal
  refine ⟨heffect, ?_, ?_⟩
  · intro e he
    rw [he] at heffect
    exact heffect.eq_of_error
  · rintro tier rfl
    exact heffect.tick_eq_done

/-- In the scenario layout with `b` as its counter and `s` linked: an update that does not fit, an
update of the conditional field, and a fast tick at the end of the range of the counter. -/
theorem operation_effect_scenario :
    let schema : Schema := ⟨"scenario", Schema.scenarioFields⟩
    let start : Transmitter schema := { initial schema with counter := some 1 }
    let calls : List Call := [.operation (.link "s" "gauge"),
      .operation (.set "b" (.unsigned 65535)), .operation (.tick .slow)]
    let t := start.afterAll calls
    t.poisoned = false ∧ t.step (.update "c" (.unsigned 256)) = t ∧
      t.Effect (.update "c" (.unsigned 7)) (.ok .done) (t.step (.update "c" (.unsigned 7))) ∧
      (t.step (.update "c" (.unsigned 7))).flags.pending = .ofNat 0x14 ∧
      t.answer (.operation (.tick .fast)) = .ok .done ∧
      (t.step (.tick .fast)).store.slots.toList = [.owned (.unsigned 0), .owned (.unsigned 0),
        .linked "gauge", .owned (.unsigned 0)] := by
  intro schema start calls t
  have hbuild : Schema.build {} "scenario" Schema.scenarioFields = .ok schema :=
    Schema.build_scenario
  have hcounter : (initial schema).withCounter "b" = .ok start := by decide +kernel
  have hfresh : start.Fresh := .withCounter .initial hcounter
  have hhealthy : t.poisoned = false := by decide +kernel
  obtain ⟨-, hrefused, -⟩ := operation_effect hbuild start hfresh calls hhealthy
    (.update "c" (.unsigned 256)) trivial rfl
  obtain ⟨hupdate, -, -⟩ := operation_effect hbuild start hfresh calls hhealthy
    (.update "c" (.unsigned 7)) trivial rfl
  obtain ⟨-, -, htick⟩ := operation_effect hbuild start hfresh calls hhealthy
    (.tick .fast) trivial rfl
  refine ⟨hhealthy, hrefused (.frame (.valueOutOfRange "c" "256" "u8")) (by decide +kernel), ?_,
    by decide +kernel, htick .fast rfl, by decide +kernel⟩
  have hdone : t.answer (.operation (.update "c" (.unsigned 7))) = .ok .done := by decide +kernel
  rwa [hdone] at hupdate

end Transmitter

end Telemetry
