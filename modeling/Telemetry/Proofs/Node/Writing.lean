import Telemetry.Node.Transmitter
import Telemetry.Proofs.Store.Encodable
import Telemetry.Proofs.Store.Refusals
/-!
# Telemetry.Proofs.Node.Writing

**What an operation does to a transmitter.** However it ends, setting, updating, ticking and
raising write at most one field, with a value that the field can encode, and never take a
mark away. An update also marks what carries its field. `Transmitter.Advances` states all
of this at once; there is one lemma about it for each operation.
-/

namespace Telemetry

/-! ### Marks -/

namespace MessageCode

theorem selects_withBit {code : MessageCode} {f : Field} (bit : Nat)
    (h : code.selects f = true) : (code.withBit bit).selects f = true := by
  apply selects_mono _ h
  intro i hi
  rw [getLsbD_withBit, hi, Bool.true_or]

theorem selects_withTier {code : MessageCode} {f : Field} (t : Tier)
    (h : code.selects f = true) : (code.withTier t).selects f = true := by
  unfold withTier
  cases t.bit? with
  | some bit => exact selects_withBit bit h
  | none => exact h

theorem selects_withEvent {code : MessageCode} {f : Field} (event : Nat)
    (h : code.selects f = true) : (code.withEvent event).selects f = true := by
  unfold withEvent
  split
  · exact selects_withBit _ h
  · exact h

/-- A code with the tier of a periodic field carries it. -/
theorem selects_withTier_self (code : MessageCode) {f : Field} (ht : f.tier ≠ .conditional) :
    (code.withTier f.tier).selects f = true := by
  cases htier : f.tier with
  | conditional => exact absurd htier ht
  | fast | medium | slow =>
    simp [selects, htier, withTier, Tier.bit?, getLsbD_withBit]

/-- A code with the event of a conditional field carries it. -/
theorem selects_withEvent_self (code : MessageCode) {f : Field} {event : Nat}
    (ht : f.tier = .conditional) (he : f.event = some event) (hmax : event ≤ maxEvent) :
    (code.withEvent event).selects f = true := by
  have hbit : eventBit event < 16 := by
    simp only [eventBit, eventShift, maxEvent] at *
    omega
  rw [selects_conditional ht]
  refine ⟨event, he, ?_⟩
  rw [withEvent, if_pos hmax, hasEvent, getLsbD_withBit]
  simp [hbit]

end MessageCode

namespace Transmitter

variable {schema : Schema}

/-- Marking a tier keeps what is marked already. -/
theorem selects_mark {flags : DirtyFlags} {f : Field} (tier : Tier)
    (h : flags.pending.selects f = true) : (flags.mark tier).2.pending.selects f = true := by
  rw [DirtyFlags.pending_mark]
  exact MessageCode.selects_withTier tier h

theorem selects_raise {flags : DirtyFlags} {f : Field} (event : Nat)
    (h : flags.pending.selects f = true) : (flags.raise event).2.pending.selects f = true := by
  rw [DirtyFlags.pending_raise]
  exact MessageCode.selects_withEvent event h

theorem selects_markField {flags : DirtyFlags} {f : Field} (i : Nat)
    (h : flags.pending.selects f = true) :
    (markField schema i flags).pending.selects f = true := by
  unfold markField
  cases schema.fields[i]? with
  | none => exact h
  | some g =>
    cases hg : g.event with
    | some event =>
      simp only [hg]
      exact selects_raise event h
    | none =>
      simp only [hg]
      exact selects_mark g.tier h

/-- Marking a field marks what carries it. -/
theorem selects_markField_self (hs : schema.Canonical) (flags : DirtyFlags) {i : Nat} {f : Field}
    (hf : schema.fields[i]? = some f) : (markField schema i flags).pending.selects f = true := by
  have hvalid := hs.valid f (List.mem_of_getElem? hf)
  unfold markField
  cases he : f.event with
  | some event =>
    simp only [hf, he]
    rw [DirtyFlags.pending_raise]
    exact MessageCode.selects_withEvent_self _ (hvalid.tier_of_event he) he (hvalid.event_le he)
  | none =>
    have ht : f.tier ≠ .conditional := by
      intro ht
      obtain ⟨event, hevent⟩ := hvalid.exists_event ht
      rw [he] at hevent
      cases hevent
    simp only [hf, he]
    rw [DirtyFlags.pending_mark]
    exact MessageCode.selects_withTier_self _ ht

/-! ### Writes -/

/-- Where the value of a field comes from. -/
inductive Origin
  | set
  | update
  | count
  deriving DecidableEq

/-- The write of an operation that says so: none if it was refused or has no field. -/
def written (origin : Origin) (field : Option Nat) :
    Except NodeError Unit → Option (Nat × Origin)
  | .ok () => field.map fun i => (i, origin)
  | .error _ => none

/-- A transmitter that is not poisoned went on to one that is not poisoned either, keeping
all marks. Its store took the write, if there is one; a field that was updated is marked. -/
structure Advances (t t' : Transmitter schema) (write : Option (Nat × Origin)) : Prop where
  healthy : t'.poisoned = false
  marks : ∀ f, t.flags.pending.selects f = true → t'.flags.pending.selects f = true
  unwritten : write = none → t'.store = t.store
  stored : ∀ i origin, write = some (i, origin) → ∃ f r, schema.fields[i]? = some f ∧
    r.Encodes f ∧ t'.store = t.store.put i r ∧
      (origin = .update → t'.flags.pending.selects f = true)

variable {t : Transmitter schema}

theorem Advances.refl (h : t.poisoned = false) : t.Advances t none where
  healthy := h
  marks _ hf := hf
  unwritten _ := rfl
  stored i origin hwrite := by cases hwrite

/-- Marks alone write nothing. -/
theorem Advances.of_marks (h : t.poisoned = false) {flags : DirtyFlags}
    (hmarks : ∀ f, t.flags.pending.selects f = true → flags.pending.selects f = true) :
    t.Advances { t with flags } none where
  healthy := h
  marks := hmarks
  unwritten _ := rfl
  stored i origin hwrite := by cases hwrite

/-- A field that the store took a value for, with whatever marks there were and more. -/
theorem Advances.of_set (h : t.poisoned = false) {flags : DirtyFlags}
    (hmarks : ∀ f, t.flags.pending.selects f = true → flags.pending.selects f = true)
    {i : Nat} {r : Reading} {store : Store schema} (hset : t.store.set i r = .ok store)
    {origin : Origin} (hself : origin = .update →
      ∀ f, schema.fields[i]? = some f → flags.pending.selects f = true) :
    t.Advances { t with store, flags } (some (i, origin)) where
  healthy := h
  marks := hmarks
  unwritten hwrite := by cases hwrite
  stored j origin' hwrite := by
    cases hwrite
    obtain ⟨f, hf, hr, rfl⟩ := Store.set_eq_ok hset
    exact ⟨f, r, hf, hr, rfl, fun horigin => hself horigin f hf⟩

section

variable {t' : Transmitter schema} {write : Option (Nat × Origin)}

theorem Advances.selects_of_selects_false (h : t.Advances t' write) {f : Field}
    (hclean : t'.flags.pending.selects f = false) : t.flags.pending.selects f = false := by
  cases hmarked : t.flags.pending.selects f with
  | false => rfl
  | true =>
    rw [h.marks f hmarked] at hclean
    cases hclean

theorem Advances.unlinked (h : t.Advances t' write) (hlinked : t.store.Unlinked) :
    t'.store.Unlinked := by
  cases hwrite : write with
  | none =>
    rw [h.unwritten hwrite]
    exact hlinked
  | some w =>
    obtain ⟨f, r, -, -, hstore, -⟩ := h.stored w.1 w.2 hwrite
    rw [hstore]
    exact hlinked.put w.1 r

theorem Advances.encodable (h : t.Advances t' write) (hencodable : t.store.Encodable) :
    t'.store.Encodable := by
  cases hwrite : write with
  | none =>
    rw [h.unwritten hwrite]
    exact hencodable
  | some w =>
    obtain ⟨g, r, hg, hr, hstore, -⟩ := h.stored w.1 w.2 hwrite
    rw [hstore]
    apply hencodable.put
    intro f hf
    obtain rfl : g = f := Option.some.inj (hg.symm.trans hf)
    exact hr

/-- A field that is not written is sent as before. -/
theorem Advances.sends (h : t.Advances t' write) {sources : Sources} {i : Nat} {image : Reading}
    (hi : ∀ origin, write ≠ some (i, origin)) (hsends : t.store.Sends sources i image) :
    t'.store.Sends sources i image := by
  cases hwrite : write with
  | none =>
    rw [h.unwritten hwrite]
    exact hsends
  | some w =>
    obtain ⟨g, r, -, -, hstore, -⟩ := h.stored w.1 w.2 hwrite
    have hne : w.1 ≠ i := by
      rintro rfl
      exact hi w.2 hwrite
    rw [hstore]
    exact hsends.put_of_ne hne

/-- An updated field is marked. -/
theorem Advances.selects_of_update (h : t.Advances t' write) {i : Nat} {f : Field}
    (hwrite : write = some (i, .update)) (hf : schema.fields[i]? = some f) :
    t'.flags.pending.selects f = true := by
  obtain ⟨g, r, hg, -, -, hself⟩ := h.stored i .update hwrite
  obtain rfl : g = f := Option.some.inj (hg.symm.trans hf)
  exact hself rfl

end

/-- A refusal under the lock that is not a crash leaves everything as it was. -/
theorem locked_of_error {α : Type} {e : FrameError} (h : t.poisoned = false)
    {run : Transmitter schema → Except FrameError α × Transmitter schema}
    (hrun : run t = (.error e, t)) (hcrash : e ≠ .sourceCrashed) :
    t.locked run = (.error (.frame e), t) := by
  obtain ⟨store, flags, counter, poisoned⟩ := t
  obtain rfl : poisoned = false := h
  simp [locked, hrun, hcrash]

theorem locked_of_ok {α : Type} {a : α} {t' : Transmitter schema} (h : t.poisoned = false)
    {run : Transmitter schema → Except FrameError α × Transmitter schema}
    (hrun : run t = (.ok a, t')) : t.locked run = (.ok a, t') := by
  simp [locked, h, hrun]

theorem lockedAt_of_index {α : Type} {name : String} {i : Nat}
    (hi : schema.indexOf? name = some i)
    (run : Nat → Transmitter schema → Except FrameError α × Transmitter schema) :
    t.lockedAt name run = t.locked (run i) := by
  simp [lockedAt, index, hi]

theorem lockedAt_of_unknown {α : Type} {name : String} (hi : schema.indexOf? name = none)
    (run : Nat → Transmitter schema → Except FrameError α × Transmitter schema) :
    t.lockedAt name run = (.error (.unknownField name), t) := by
  simp [lockedAt, index, hi]

/-- Setting and updating write the named field. -/
theorem advances_set (h : t.poisoned = false) (name : String) (r : Reading) :
    t.Advances (t.set name r).2 (written .set (schema.indexOf? name) (t.set name r).1) := by
  unfold set
  cases hi : schema.indexOf? name with
  | none =>
    rw [lockedAt_of_unknown hi]
    exact .refl h
  | some i =>
    rw [lockedAt_of_index hi]
    cases hset : t.store.set i r with
    | error e =>
      have hcrash : e ≠ .sourceCrashed := fun he => t.store.set_ne_crashed i r (he ▸ hset)
      rw [locked_of_error h (by rw [hset]; rfl) hcrash]
      exact .refl h
    | ok store =>
      rw [locked_of_ok h (by rw [hset]; rfl)]
      exact .of_set h (fun _ hf => hf) hset fun horigin => nomatch horigin

theorem advances_update (hs : schema.Canonical) (h : t.poisoned = false) (name : String)
    (r : Reading) :
    t.Advances (t.update name r).2
      (written .update (schema.indexOf? name) (t.update name r).1) := by
  unfold update
  cases hi : schema.indexOf? name with
  | none =>
    rw [lockedAt_of_unknown hi]
    exact .refl h
  | some i =>
    rw [lockedAt_of_index hi]
    cases hset : t.store.set i r with
    | error e =>
      have hcrash : e ≠ .sourceCrashed := fun he => t.store.set_ne_crashed i r (he ▸ hset)
      rw [locked_of_error h (by rw [hset]) hcrash]
      exact .refl h
    | ok store =>
      rw [locked_of_ok h (by rw [hset])]
      exact .of_set h (fun _ => selects_markField i) hset
        (fun _ f hf => selects_markField_self hs t.flags hf)

theorem advances_raise (h : t.poisoned = false) (event : Nat) :
    t.Advances (t.raise event).2 none := by
  unfold raise
  rw [if_neg (by rw [h]; exact Bool.false_ne_true)]
  rcases Nat.lt_or_ge maxEvent event with hlate | hle
  · rw [t.flags.raise_of_lt hlate]
    exact .refl h
  · rw [t.flags.raise_of_le hle]
    exact .of_marks h fun _ => selects_raise event

/-- The field that a tick counts in. A counter that is linked is left to its source. -/
def counted (t : Transmitter schema) (tier : Tier) : Option Nat :=
  if tier = .fast then t.counter.filter fun i => !t.store.isLinked i else none

theorem counted_of_unlinked (hlinked : t.store.Unlinked) (tier : Tier) :
    t.counted tier = if tier = .fast then t.counter else none := by
  have hfalse : ∀ i, t.store.isLinked i = false := by
    intro i
    unfold Store.isLinked
    split
    · rename_i source hslot
      exact absurd hslot (hlinked i source)
    · rfl
  unfold counted
  cases t.counter with
  | none => rfl
  | some i => rw [Option.filter_some, hfalse i, Bool.not_false, if_pos rfl]

/-- A fast tick stores the count, if there is a field that it counts in. -/
theorem countTick_eq_ok {store : Store schema} (h : t.countTick = .ok store) :
    t.counted .fast = none ∧ store = t.store ∨
      ∃ i r, t.counted .fast = some i ∧ t.store.set i r = .ok store := by
  unfold countTick at h
  unfold counted
  rw [if_pos rfl]
  cases hcounter : t.counter with
  | none =>
    simp only [hcounter, Except.ok.injEq] at h
    exact Or.inl ⟨rfl, h.symm⟩
  | some i =>
    cases hslot : t.store.slots[i]? with
    | none => simp [hcounter, hslot] at h
    | some slot =>
      cases slot with
      | owned r =>
        simp only [hcounter, hslot] at h
        exact Or.inr ⟨i, _, by simp [Store.isLinked, hslot], h⟩
      | linked source =>
        simp only [hcounter, hslot, Except.ok.injEq] at h
        exact Or.inl ⟨by simp [Store.isLinked, hslot], h.symm⟩

theorem countTick_ne_crashed (t : Transmitter schema) : t.countTick ≠ .error .sourceCrashed := by
  intro h
  unfold countTick at h
  split at h
  · cases h
  · split at h
    · exact t.store.set_ne_crashed _ _ h
    · cases h
    · cases h

/-- The fast tick writes the field that it counts in, the others nothing. -/
theorem advances_tick (h : t.poisoned = false) (tier : Tier) :
    t.Advances (t.tick tier).2 (written .count (t.counted tier) (t.tick tier).1) := by
  have hmarks : ∀ f, t.flags.pending.selects f = true →
      ((t.flags.mark tier).2 : DirtyFlags).pending.selects f = true :=
    fun _ => selects_mark tier
  unfold tick
  by_cases hfast : tier = .fast
  · subst hfast
    simp only [if_true]
    cases hcount : t.countTick with
    | error e =>
      have hcrash : e ≠ .sourceCrashed := fun he => t.countTick_ne_crashed (he ▸ hcount)
      rw [locked_of_error h (by rw [hcount]) hcrash]
      exact .refl h
    | ok store =>
      rw [locked_of_ok h (by rw [hcount])]
      rcases countTick_eq_ok hcount with ⟨hcounted, rfl⟩ | ⟨i, r, hcounted, hset⟩
      · rw [hcounted]
        exact .of_marks h hmarks
      · rw [hcounted]
        exact .of_set h hmarks hset fun horigin => nomatch horigin
  · have hnone : t.counted tier = none := if_neg hfast
    rw [hnone, locked_of_ok h (by rw [if_neg hfast])]
    exact .of_marks h hmarks

end Transmitter

end Telemetry
