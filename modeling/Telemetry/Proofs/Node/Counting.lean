import Telemetry.Proofs.Node.Poisoning
/-!
# Telemetry.Proofs.Node.Counting

**A fast tick always counts.** Only a field of whole numbers without a sign is chosen as packet
counter, and no use of a transmitter chooses another one (`counter_afterAll`). The count wraps
where its field ends (`encodes_nextCount`), so the store takes it whatever the field held before.
A fast tick of a transmitter that can count therefore leaves a counter that is linked as it is, and
stores the next count otherwise; there is no third case (`countTick_eq`).
-/

namespace Telemetry

variable {schema : Schema}

theorem Schema.exists_unsigned_of_isCounter {i : Nat} (h : schema.isCounter i = true) :
    ∃ f w, schema.fields[i]? = some f ∧ f.kind = .unsigned w := by
  unfold isCounter at h
  cases hf : schema.fields[i]? with
  | none => simp [hf] at h
  | some f =>
    cases hk : f.kind with
    | unsigned w => exact ⟨f, w, rfl, hk⟩
    | signed w | single | double | quantized raw scale bias => simp [hf, hk] at h

namespace Transmitter

variable {t : Transmitter schema}

/-! ### No use chooses another counter -/

theorem locked_counter {α : Type}
    {run : Transmitter schema → Except FrameError α × Transmitter schema}
    (hrun : (run t).2.counter = t.counter) : (t.locked run).2.counter = t.counter := by
  unfold locked
  split
  · rfl
  · generalize run t = ran at hrun ⊢
    obtain ⟨outcome, t'⟩ := ran
    cases outcome <;> exact hrun

theorem lockedAt_counter {α : Type} {name : String}
    {run : Nat → Transmitter schema → Except FrameError α × Transmitter schema}
    (hrun : ∀ i, (run i t).2.counter = t.counter) :
    (t.lockedAt name run).2.counter = t.counter := by
  cases hi : schema.indexOf? name with
  | none => rw [lockedAt_of_unknown hi]
  | some i =>
    rw [lockedAt_of_index hi]
    exact locked_counter (hrun i)

theorem replaceStore_counter (t : Transmitter schema) (outcome : Except FrameError (Store schema)) :
    (t.replaceStore outcome).2.counter = t.counter := by
  cases outcome <;> rfl

theorem tick_counter (t : Transmitter schema) (tier : Tier) :
    (t.tick tier).2.counter = t.counter := by
  apply locked_counter
  dsimp only
  split
  · cases t.countTick <;> rfl
  · rfl

theorem runTicks_counter (t : Transmitter schema) (tiers : List Tier) :
    (t.runTicks tiers).2.counter = t.counter := by
  induction tiers generalizing t with
  | nil => rfl
  | cons tier rest ih =>
    have hticked := t.tick_counter tier
    unfold runTicks
    generalize t.tick tier = ticked at hticked ⊢
    obtain ⟨outcome, t'⟩ := ticked
    cases outcome with
    | error e => exact hticked
    | ok u => exact (ih t').trans hticked

theorem send_counter (t : Transmitter schema) (sources : Sources) (w : FrameWriter)
    (link : Loopback) : (t.send sources w link).2.1.counter = t.counter := by
  cases hpoisoned : t.poisoned with
  | true => rw [send_of_poisoned hpoisoned]
  | false => rw [send_eq hpoisoned]

theorem runDue_counter (t : Transmitter schema) (sources : Sources) (due : Due) (w : FrameWriter)
    (link : Loopback) : (t.runDue sources due w link).2.1.counter = t.counter := by
  have hticked := t.runTicks_counter (dueTiers due)
  unfold runDue
  generalize t.runTicks (dueTiers due) = ticked at hticked ⊢
  obtain ⟨outcome, t'⟩ := ticked
  cases outcome with
  | error e => exact hticked
  | ok u =>
    cases due.send with
    | false => exact hticked
    | true => exact (t'.send_counter sources w link).trans hticked

theorem counter_after (t : Transmitter schema) (c : Call) : (t.after c).counter = t.counter := by
  cases c with
  | isDirty => rfl
  | operation op =>
    cases op with
    | set name r => exact lockedAt_counter fun i => t.replaceStore_counter _
    | update name r =>
      apply lockedAt_counter
      intro i
      cases t.store.set i r <;> rfl
    | link name source => exact lockedAt_counter fun i => t.replaceStore_counter _
    | get sources name => exact lockedAt_counter fun i => rfl
    | tick tier => exact t.tick_counter tier
    | raise event =>
      show (t.raise event).2.counter = t.counter
      unfold raise
      split
      · rfl
      · split <;> rfl
    | runDue sources due w link => exact t.runDue_counter sources due w link
    | send sources w link => exact t.send_counter sources w link

theorem counter_afterAll (t : Transmitter schema) (calls : List Call) :
    (t.afterAll calls).counter = t.counter := by
  induction calls generalizing t with
  | nil => rfl
  | cons c rest ih => exact (ih (t.after c)).trans (t.counter_after c)

/-! ### The count -/

/-- The packet counter, if there is one, is a field that can count. -/
def CanCount (t : Transmitter schema) : Prop := ∀ i, t.counter = some i → schema.isCounter i = true

theorem Fresh.canCount (h : t.Fresh) : t.CanCount := by
  intro i hi
  cases h with
  | initial => exact (Option.filter_eq_some_iff.mp hi).2
  | withCounter _ hcounter =>
    obtain ⟨j, -, hj, rfl⟩ := withCounter_eq_ok hcounter
    obtain rfl : j = i := Option.some.inj hi
    exact hj

theorem CanCount.afterAll (h : t.CanCount) (calls : List Call) : (t.afterAll calls).CanCount := by
  intro i hi
  rw [counter_afterAll] at hi
  exact h i hi

/-- The largest count is the last number of the counter's width. -/
theorem counterMax_add_one {i : Nat} {f : Field} {w : IntWidth}
    (hf : schema.fields[i]? = some f) (hk : f.kind = .unsigned w) :
    counterMax schema i + 1 = w.count := by
  have hpos : 0 < Nat.pow 256 w.bytes := Nat.pow_pos (by decide)
  rw [counterMax, Schema.fieldSize_eq hf, Field.size, hk, w.count_eq]
  exact Nat.sub_add_cancel hpos

/-- The next count fits its field, whatever the field holds. -/
theorem encodes_nextCount {i : Nat} {f : Field} {w : IntWidth} (hf : schema.fields[i]? = some f)
    (hk : f.kind = .unsigned w) (r : Reading) : (nextCount schema i r).Encodes f := by
  have hmax := counterMax_add_one hf hk
  have hfits : ∀ n : UInt64, n.toNat < w.count → (Reading.unsigned n).Encodes f := by
    intro n hn
    have hhigh : (n.toNat : Int) ≤ Reading.highest false w := by
      rw [Reading.highest, if_neg Bool.false_ne_true]
      omega
    have hwhole : (Reading.unsigned n).encode f = (Reading.unsigned n).encodeWhole f false w := by
      rw [Reading.encode, hk]
    exact ⟨_, hwhole.trans (Reading.encodeWhole_of_toInt? rfl (Int.natCast_nonneg _) hhigh)⟩
  unfold nextCount
  cases r.toUInt64? with
  | none => exact hfits 0 (by simp [← hmax])
  | some n =>
    dsimp only
    split
    · rename_i hn
      -- the sum is too small to wrap at the width of the machine
      have hcount : w.count ≤ 18446744073709551616 := w.count_le
      have hone : (1 : UInt64).toNat = 1 := rfl
      apply hfits
      rw [UInt64.toNat_add, hone]
      omega
    · exact hfits 0 (by simp [← hmax])

/-- **A fast tick counts in the field that it counts in, if there is one**, and never fails. -/
theorem countTick_eq (h : t.CanCount) :
    t.counted .fast = none ∧ t.countTick = .ok t.store ∨
      ∃ i r, t.counted .fast = some i ∧ i < schema.fields.length ∧
        t.store.slots[i]? = some (.owned r) ∧
        t.countTick = .ok (t.store.put i (nextCount schema i r)) := by
  unfold counted countTick
  rw [if_pos rfl]
  cases hcounter : t.counter with
  | none => exact Or.inl ⟨rfl, rfl⟩
  | some i =>
    obtain ⟨f, w, hf, hk⟩ := Schema.exists_unsigned_of_isCounter (h i hcounter)
    obtain ⟨slot, hslot⟩ := t.store.exists_slot hf
    cases slot with
    | linked source =>
      left
      simp [Store.isLinked, hslot]
    | owned r =>
      right
      have hset := Store.set_of_encodes (s := t.store) hf (encodes_nextCount hf hk r)
      refine ⟨i, r, by simp [Store.isLinked, hslot], (List.getElem?_eq_some_iff.mp hf).1, hslot, ?_⟩
      simp [hslot, hset]

end Transmitter

end Telemetry
