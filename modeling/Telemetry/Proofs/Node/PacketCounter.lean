import Mathlib.Logic.Function.Iterate
import Telemetry.Proofs.Node.Effects
/-!
# Telemetry.Proofs.Node.PacketCounter

**The packet counter counts fast ticks modulo its width.** A counter that owns its value goes from
one count to the next with each fast tick, whether that is run alone or in a turn of the loop, and
is left alone by everything that does not store into it or link it (`Counts.after`). So after some
uses it holds the count after as many ticks as there were (`Counts.afterAll`), which
`iterate_nextCount` gives in closed form.

A frame shows the count of the moment at which it is packed. In a turn of the loop that is after
the ticks of the turn (`Counts.packs_of_puts`). The main statement is `counter_afterAll_eq`.
-/

namespace Telemetry

variable {schema : Schema}

/-- A reading of a whole number that is not negative is a count, in whichever form it came. -/
theorem Reading.exists_toUInt64?_eq {r : Reading} {v : Nat} (hv : r.toInt? = some (v : Int)) :
    ∃ n, r.toUInt64? = some n ∧ n.toNat = v := by
  cases r with
  | unsigned n =>
    simp only [toInt?, Option.some.injEq, Int.natCast_inj] at hv
    exact ⟨n, rfl, hv⟩
  | signed n =>
    simp only [toInt?, Option.some.injEq] at hv
    have hnonneg : 0 ≤ n := by
      rw [Int64.le_iff_toInt_le, hv]
      exact Int.natCast_nonneg v
    refine ⟨n.toUInt64, if_pos hnonneg, ?_⟩
    rw [Int64.toNat_toUInt64_of_le hnonneg, ← Int64.toNat_toInt, hv, Int.toNat_natCast]
  | float x => simp [toInt?] at hv

/-- Whoever takes the frame reads this number from the field at an index. -/
def Schema.Brings (s : Schema) (i : Nat) (frame : Bytes) (n : Int) : Prop :=
  ∀ config : FrameConfig, frame.length ≤ config.maxFrameSize →
    ∃ (decoded : DecodedFrame) (m : UInt64), s.decodeFrame config frame = .ok decoded ∧
      (i, Reading.unsigned m) ∈ decoded.updates ∧ (m.toNat : Int) = n

namespace Transmitter

variable {t : Transmitter schema}

/-! ### Uses of a transmitter -/

/-- No source crashes during the use. -/
def Call.Reliable : Call → Prop
  | .operation op => op.Reliable
  | .isDirty => True

/-- The ticks of a use, in the order in which they are run. -/
def Call.ticks : Call → List Tier
  | .operation (.tick tier) => [tier]
  | .operation (.runDue _ due _ _) => dueTiers due
  | _ => []

/-- How many fast ticks there are in some uses. -/
def fastTicks (calls : List Call) : Nat := (calls.flatMap Call.ticks).count .fast

theorem fastTicks_cons (c : Call) (rest : List Call) :
    fastTicks (c :: rest) = c.ticks.count .fast + fastTicks rest := by
  simp [fastTicks, List.count_append]

theorem fastTicks_append (calls more : List Call) :
    fastTicks (calls ++ more) = fastTicks calls + fastTicks more := by
  simp [fastTicks, List.count_append]

/-- The field that a use stores into or links, unless it is refused. -/
def Call.target? : Call → Option String
  | .operation (.set name _) | .operation (.update name _) | .operation (.link name _) => some name
  | _ => none

/-- Whatever is to be stored into the field of this name along the way, or linked to it, is
refused. -/
def Spares (t : Transmitter schema) (name : String) : List Call → Prop
  | [] => True
  | c :: rest =>
    (c.target? = some name → ∃ e, t.answer c = .error e) ∧ (t.after c).Spares name rest

theorem Spares.append {name : String} {calls more : List Call} (h : t.Spares name (calls ++ more)) :
    t.Spares name calls ∧ (t.afterAll calls).Spares name more := by
  induction calls generalizing t with
  | nil => exact ⟨trivial, h⟩
  | cons c rest ih => exact ⟨⟨h.1, (ih h.2).1⟩, (ih h.2).2⟩

/-! ### States that a run reaches -/

/-- Reading a field by its name changes no slot, also if the source crashes. -/
theorem store_get (t : Transmitter schema) (sources : Sources) (name : String) :
    (t.get sources name).2.store = t.store := by
  unfold get lockedAt locked
  cases index schema name with
  | error e => rfl
  | ok i =>
    dsimp only
    split
    · rfl
    · cases t.store.get sources i <;> rfl

theorem store_send (t : Transmitter schema) (sources : Sources) (w : FrameWriter)
    (link : Loopback) : (t.send sources w link).2.1.store = t.store := by
  cases h : t.poisoned with
  | true => rw [send_of_poisoned h]
  | false => rw [send_eq h]

/-- A turn of the loop changes what its ticks change. -/
theorem store_runDue (t : Transmitter schema) (sources : Sources) (due : Due) (w : FrameWriter)
    (link : Loopback) :
    (t.runDue sources due w link).2.1.store = (t.runTicks (dueTiers due)).2.store := by
  unfold runDue
  generalize t.runTicks (dueTiers due) = ticked
  obtain ⟨outcome, t'⟩ := ticked
  cases outcome with
  | error e => rfl
  | ok u =>
    cases due.send with
    | false => rfl
    | true => exact t'.store_send sources w link

/-- A use that does not poison the lock keeps the transmitter sound, whatever its sources do. -/
theorem Sound.after (hs : schema.Canonical) (h : t.Sound) {c : Call}
    (hhealthy : (t.after c).poisoned = false) : (t.after c).Sound := by
  refine ⟨hhealthy, ?_⟩
  cases c with
  | isDirty => exact h.encodable
  | operation op =>
    cases op with
    | get sources name =>
      show (t.get sources name).2.store.Encodable
      rw [t.store_get]
      exact h.encodable
    | send sources w link =>
      show (t.send sources w link).2.1.store.Encodable
      rw [t.store_send]
      exact h.encodable
    | runDue sources due w link =>
      show (t.runDue sources due w link).2.1.store.Encodable
      rw [t.store_runDue]
      exact (h.runTicks (dueTiers due)).encodable
    | set name r => exact ((advances_set h.healthy name r).sound h).encodable
    | update name r => exact ((advances_update hs h.healthy name r).sound h).encodable
    | link name source => exact (h.link name source).encodable
    | tick tier => exact ((advances_tick h.healthy tier).sound h).encodable
    | raise event => exact ((advances_raise h.healthy event).sound h).encodable

/-- So do any uses after which the lock is not poisoned. -/
theorem Sound.afterAll (hs : schema.Canonical) (h : t.Sound) {calls : List Call}
    (hhealthy : (t.afterAll calls).poisoned = false) : (t.afterAll calls).Sound := by
  induction calls generalizing t with
  | nil => exact h
  | cons c rest ih =>
    have hfirst : (t.after c).poisoned = false := by
      -- no use heals a lock that is poisoned
      have hiff := poisoned_afterAll_iff hs (t.after c) rest
      by_contra hpoisoned
      have hlast : ((t.after c).afterAll rest).poisoned = true :=
        hiff.mpr (Or.inl (Bool.eq_true_of_not_eq_false hpoisoned))
      exact absurd (hhealthy.symm.trans hlast) Bool.false_ne_true
    exact ih (h.after hs hfirst) hhealthy

/-! ### The next count -/

section

variable {i : Nat} {f : Field} {w : IntWidth} (hf : schema.fields[i]? = some f)
  (hk : f.kind = .unsigned w)
include hf hk

/-- One more than the count, back to zero at the end of the field. -/
theorem nextCount_of_toInt? {r : Reading} {v : Nat} (hv : r.toInt? = some (v : Int))
    (hlt : v < w.count) :
    nextCount schema i r = .unsigned (UInt64.ofNat ((v + 1) % w.count)) := by
  obtain ⟨n, hn, rfl⟩ := Reading.exists_toUInt64?_eq hv
  have hmax := counterMax_add_one hf hk
  have hcount : w.count ≤ 18446744073709551616 := w.count_le
  unfold nextCount
  rw [hn]
  dsimp only
  split
  · rename_i hless
    -- the sum is too small to wrap at the width of the machine
    have hone : n + 1 = UInt64.ofNat (n.toNat + 1) := by
      simp [UInt64.ofNat_add]
    rw [Nat.mod_eq_of_lt (by omega), hone]
  · have hlast : n.toNat + 1 = w.count := by omega
    rw [hlast, Nat.mod_self]
    rfl

/-- **After some ticks a counter holds the sum modulo its width**, as an unsigned number. -/
theorem iterate_nextCount {r : Reading} {v : Nat} (hv : r.toInt? = some (v : Int))
    (hlt : v < w.count) (n : Nat) :
    (nextCount schema i)^[n + 1] r = .unsigned (UInt64.ofNat ((v + (n + 1)) % w.count)) := by
  induction n with
  | zero => exact nextCount_of_toInt? hf hk hv hlt
  | succ n ih =>
    have hpos : 0 < w.count := Nat.lt_of_le_of_lt (Nat.zero_le v) hlt
    have hmod : (v + (n + 1)) % w.count < w.count := Nat.mod_lt _ hpos
    have hsize : (v + (n + 1)) % w.count < UInt64.size := Nat.lt_of_lt_of_le hmod w.count_le
    have hint : (Reading.unsigned (UInt64.ofNat ((v + (n + 1)) % w.count))).toInt? =
        some (((v + (n + 1)) % w.count : Nat) : Int) := by
      rw [Reading.toInt?, UInt64.toNat_ofNat_of_lt' hsize]
    rw [Function.iterate_succ_apply', ih, nextCount_of_toInt? hf hk hint hmod, Nat.mod_add_mod,
      Nat.add_assoc]

theorem toInt?_iterate_nextCount {r : Reading} {v : Nat} (hv : r.toInt? = some (v : Int))
    (hlt : v < w.count) (n : Nat) :
    ((nextCount schema i)^[n] r).toInt? = some (((v + n) % w.count : Nat) : Int) := by
  cases n with
  | zero => rw [Function.iterate_zero_apply, hv, Nat.add_zero, Nat.mod_eq_of_lt hlt]
  | succ n =>
    have hpos : 0 < w.count := Nat.lt_of_le_of_lt (Nat.zero_le v) hlt
    have hsize : (v + (n + 1)) % w.count < UInt64.size :=
      Nat.lt_of_lt_of_le (Nat.mod_lt _ hpos) w.count_le
    rw [iterate_nextCount hf hk hv hlt, Reading.toInt?, UInt64.toNat_ofNat_of_lt' hsize]

end

/-! ### What a use does to the counter -/

/-- The packet counter is the field at an index, which owns its value. -/
structure Counts (t : Transmitter schema) (i : Nat) (r : Reading) : Prop where
  counter : t.counter = some i
  canCount : t.CanCount
  holds : t.store.slots[i]? = some (.owned r)
  sound : t.Sound

section

variable {i : Nat} {r : Reading}

theorem Counts.counted_fast (h : t.Counts i r) : t.counted .fast = some i := by
  have hlinked : t.store.isLinked i = false := by simp [Store.isLinked, h.holds]
  simp [counted, h.counter, hlinked]

theorem Counts.of_slot {t' : Transmitter schema} {r' : Reading} (h : t.Counts i r)
    (hsound : t'.Sound) (hcounter : t'.counter = t.counter)
    (hslot : t'.store.slots[i]? = some (.owned r')) : t'.Counts i r' where
  counter := hcounter.trans h.counter
  canCount j hj := h.canCount j (hcounter.symm.trans hj)
  holds := hslot
  sound := hsound

/-- What an operation that sends nothing does to the counter: it counts the ticks of the operation,
unless the operation stores into it or links it. -/
theorem Counts.of_effect (hs : schema.Canonical) {f : Field} (hf : schema.fields[i]? = some f)
    (h : t.Counts i r) {op : Operation} {outcome : Except NodeError Answer}
    {t' : Transmitter schema} (heffect : t.Effect op outcome t') (hsound : t'.Sound)
    (hspared : (Call.operation op).target? = some f.name → ∃ e, outcome = .error e) :
    t'.Counts i ((nextCount schema i)^[(Call.operation op).ticks.count .fast] r) := by
  -- the slots that a write does not name are as before
  have hkeep : ∀ {write mark}, t.Changes t' write mark → (∀ slot, write ≠ some (i, slot)) →
      t'.Counts i r := fun hchanges hother =>
    h.of_slot hsound hchanges.counter ((hchanges.unwritten i hother).trans h.holds)
  have hother : ∀ {name : String} {j : Nat} {slot : Slot}, schema.indexOf? name = some j →
      name ≠ f.name → ∀ slot', some (j, slot) ≠ some (i, slot') := by
    intro name j slot hj hname slot' heq
    obtain ⟨g, hg, hgname⟩ := hs.indexOf?_eq_some_iff.mp hj
    obtain ⟨rfl, -⟩ := Prod.mk.inj (Option.some.inj heq)
    obtain rfl : f = g := Option.some.inj (hf.symm.trans hg)
    exact hname hgname.symm
  cases heffect with
  | set hi _ _ hchanges | update hi _ _ hchanges | link hi hchanges =>
    refine hkeep hchanges (hother hi ?_)
    intro hname
    obtain ⟨e, he⟩ := hspared (congrArg some hname)
    cases he
  | get | invalidEvent => exact h
  | raise _ hchanges => exact hkeep hchanges nofun
  | @tick tier _ hcounted hchanges =>
    have hslow : tier ≠ .fast := by
      intro hfast
      rw [hfast, h.counted_fast] at hcounted
      cases hcounted
    have hnone : [tier].count .fast = 0 := by simp [hslow]
    show t'.Counts i ((nextCount schema i)^[[tier].count .fast] r)
    rw [hnone]
    exact hkeep hchanges nofun
  | @count tier j r' _ hcounted hslot hchanges =>
    have hfast : tier = .fast := by
      by_contra hslow
      simp [counted, hslow] at hcounted
    subst hfast
    obtain rfl : i = j := Option.some.inj (h.counted_fast.symm.trans hcounted)
    obtain rfl : r = r' := by simpa [h.holds] using hslot
    exact h.of_slot hsound hchanges.counter (hchanges.written i _ rfl)
  | unknownField hop =>
    cases op with
    | set | update | link | get => exact h
    | tick | raise | runDue | send => cases hop
  | misfit hop =>
    rcases hop with rfl | rfl <;> exact h

/-- **A tick does not fail**, and a fast one counts. -/
theorem Counts.tick (hs : schema.Canonical) {f : Field} (hf : schema.fields[i]? = some f)
    (h : t.Counts i r) (tier : Tier) :
    (t.tick tier).1 = .ok () ∧
      (t.tick tier).2.Counts i ((nextCount schema i)^[[tier].count .fast] r) := by
  have hsound : (t.tick tier).2.Sound := (advances_tick h.sound.healthy tier).sound h.sound
  have heffect := effect_tick h.sound.healthy h.canCount tier
  refine ⟨?_, h.of_effect hs hf heffect hsound nofun⟩
  have hdone := heffect.tick_eq_done
  cases houtcome : (t.tick tier).1 with
  | ok u => rfl
  | error e => simp [answer, houtcome, Except.map] at hdone

theorem Counts.runTicks (hs : schema.Canonical) {f : Field} (hf : schema.fields[i]? = some f)
    (h : t.Counts i r) (tiers : List Tier) :
    (t.runTicks tiers).1 = .ok () ∧
      (t.runTicks tiers).2.Counts i ((nextCount schema i)^[tiers.count .fast] r) := by
  induction tiers generalizing t r with
  | nil => exact ⟨rfl, h⟩
  | cons tier rest ih =>
    obtain ⟨hdone, hcounts⟩ := h.tick hs hf tier
    have hticked : t.tick tier = (.ok (), (t.tick tier).2) := Prod.ext hdone rfl
    have hsum : (tier :: rest).count .fast = rest.count .fast + [tier].count .fast := by
      rw [← List.singleton_append, List.count_append, Nat.add_comm]
    rw [Transmitter.runTicks, hticked, hsum, Function.iterate_add_apply]
    exact ih hcounts

/-- **A use counts its fast ticks**, and changes the counter in no other way unless it stores into
it or links it. -/
theorem Counts.after (hs : schema.Canonical) {f : Field} (hf : schema.fields[i]? = some f)
    (h : t.Counts i r) {c : Call} (hc : c.Reliable)
    (hspared : c.target? = some f.name → ∃ e, t.answer c = .error e) :
    (t.after c).Counts i ((nextCount schema i)^[c.ticks.count .fast] r) := by
  cases c with
  | isDirty => exact h
  | operation op =>
    have hhealthy := h.sound.healthy
    have hsound : (t.step op).Sound := h.sound.step hs hc
    cases op with
    | set name r' => exact h.of_effect hs hf (effect_set hhealthy name r') hsound hspared
    | update name r' => exact h.of_effect hs hf (effect_update hhealthy hs name r') hsound hspared
    | link name source => exact h.of_effect hs hf (effect_link hhealthy name source) hsound hspared
    | get sources name => exact h.of_effect hs hf (effect_get hhealthy hc name) hsound hspared
    | tick tier => exact h.of_effect hs hf (effect_tick hhealthy h.canCount tier) hsound hspared
    | raise event => exact h.of_effect hs hf (effect_raise hhealthy event) hsound hspared
    | send sources w link =>
      refine h.of_slot hsound (t.send_counter sources w link) ?_
      show (t.send sources w link).2.1.store.slots[i]? = _
      rw [t.store_send]
      exact h.holds
    | runDue sources due w link =>
      refine h.of_slot hsound (t.runDue_counter sources due w link) ?_
      show (t.runDue sources due w link).2.1.store.slots[i]? = _
      rw [t.store_runDue]
      exact (h.runTicks hs hf (dueTiers due)).2.holds

theorem Counts.afterAll (hs : schema.Canonical) {f : Field} (hf : schema.fields[i]? = some f)
    (h : t.Counts i r) {calls : List Call} (hcalls : ∀ c ∈ calls, c.Reliable)
    (hspares : t.Spares f.name calls) :
    (t.afterAll calls).Counts i ((nextCount schema i)^[fastTicks calls] r) := by
  induction calls generalizing t r with
  | nil => exact h
  | cons c rest ih =>
    obtain ⟨hspared, hrest⟩ := hspares
    obtain ⟨hc, hcalls⟩ := List.forall_mem_cons.mp hcalls
    rw [fastTicks_cons, Nat.add_comm, Function.iterate_add_apply]
    exact ih (h.after hs hf hc hspared) hcalls hrest

end

/-! ### What a counter field can hold -/

/-- An unsigned field of a sound transmitter holds a number of its width. -/
theorem Counts.toInt?_lt {i : Nat} {r : Reading} (h : t.Counts i r) {f : Field}
    (hf : schema.fields[i]? = some f) :
    ∃ w, f.kind = .unsigned w ∧ ∃ v : Nat, r.toInt? = some (v : Int) ∧ v < w.count := by
  obtain ⟨g, w, hg, hk⟩ := Schema.exists_unsigned_of_isCounter (h.canCount i h.counter)
  obtain rfl : f = g := Option.some.inj (hf.symm.trans hg)
  obtain ⟨bytes, hbytes⟩ := h.sound.encodable i f r hf h.holds
  simp only [Reading.encode, hk] at hbytes
  obtain ⟨n, hn, hlow, hhigh, -⟩ := Reading.encodeWhole_eq_ok hbytes
  simp only [Reading.lowest, Reading.highest, if_neg Bool.false_ne_true] at hlow hhigh
  obtain ⟨v, rfl⟩ := Int.eq_ofNat_of_zero_le hlow
  exact ⟨w, hk, v, hn, by omega⟩

/-- After some ticks it holds the sum modulo the width of its field. -/
theorem Counts.toInt?_iterate {i : Nat} {r : Reading} (h : t.Counts i r) {f : Field}
    (hf : schema.fields[i]? = some f) {v : Int} (hv : r.toInt? = some v) (n : Nat) :
    ((nextCount schema i)^[n] r).toInt? = some ((v + n) % 2 ^ (8 * f.size)) := by
  obtain ⟨w, hk, v', hv', hlt⟩ := h.toInt?_lt hf
  obtain rfl : v = v' := Option.some.inj (hv.symm.trans hv')
  have hwidth : w.count = 2 ^ (8 * f.size) := by
    rw [w.count_eq_two_pow, Nat.pow_eq, Field.size, hk, FieldKind.size]
  rw [toInt?_iterate_nextCount hf hk hv hlt, hwidth]
  push_cast
  rfl

/-! ### What a frame shows -/

/-- The use puts the frame behind those that wait at one end of its link. -/
def Puts (t : Transmitter schema) (c : Call) (frame : Bytes) : Prop :=
  ∃ (e : LinkEnd) (link link' : Loopback), c.link? = some link ∧ t.linkAfter? c = some link' ∧
    link'.waiting e = link.waiting e ++ [frame]

theorem not_waiting_append {link : Loopback} {e : LinkEnd} {frame : Bytes} :
    link.waiting e ≠ link.waiting e ++ [frame] := by simp

/-- What a send puts on the link is packed from its store. -/
theorem packs_of_waiting (hs : schema.Canonical) (h : t.poisoned = false) {sources : Sources}
    {w : FrameWriter} {link : Loopback} {e : LinkEnd} {frame : Bytes}
    (hput : (t.send sources w link).2.2.waiting e = link.waiting e ++ [frame]) :
    t.store.Packs sources t.flags.pending frame := by
  have houtcome := w.outcome_send hs sources t.store t.flags.pending link
  rw [send_eq h] at hput
  generalize w.send sources t.store t.flags.pending link = sent at houtcome hput
  cases houtcome with
  | nothing | tooLong | unpacked => exact absurd hput not_waiting_append
  | @sent frame' _ hpacks _ =>
    by_cases he : w.linkEnd.other = e
    · subst he
      simp only [FrameWriter.sentOn, Loopback.waiting_withWaiting, List.append_cancel_left_eq,
        List.cons.injEq, and_true] at hput
      rw [← hput]
      exact hpacks
    · simp only [FrameWriter.sentOn, Loopback.waiting_withWaiting_of_ne he] at hput
      exact absurd hput not_waiting_append

/-- A frame is packed after the ticks of the use that puts it on the link. -/
theorem Counts.packs_of_puts (hs : schema.Canonical) {i : Nat} {f : Field} {r : Reading}
    (hf : schema.fields[i]? = some f) (h : t.Counts i r) {c : Call} {frame : Bytes}
    (hputs : t.Puts c frame) :
    ∃ (t' : Transmitter schema) (sources : Sources) (code : MessageCode),
      t'.Counts i ((nextCount schema i)^[c.ticks.count .fast] r) ∧
        t'.store.Packs sources code frame := by
  obtain ⟨e, link, link', hlink, hlink', hwaiting⟩ := hputs
  cases c with
  | isDirty => cases hlink
  | operation op =>
    cases op with
    | set | update | link | get | tick | raise => cases hlink
    | send sources w own =>
      cases hlink
      cases hlink'
      exact ⟨t, sources, _, h, packs_of_waiting hs h.sound.healthy hwaiting⟩
    | runDue sources due w own =>
      cases hlink
      cases hlink'
      obtain ⟨hdone, hcounts⟩ := h.runTicks hs hf (dueTiers due)
      have hticked : t.runTicks (dueTiers due) = (.ok (), (t.runTicks (dueTiers due)).2) :=
        Prod.ext hdone rfl
      rw [runDue, hticked] at hwaiting
      cases hsend : due.send with
      | false =>
        rw [hsend] at hwaiting
        exact absurd hwaiting not_waiting_append
      | true =>
        rw [hsend] at hwaiting
        exact ⟨_, sources, _, hcounts, packs_of_waiting hs hcounts.sound.healthy hwaiting⟩

/-- A frame that carries the counter brings its count. -/
theorem Counts.brings (hs : schema.Canonical) {i : Nat} {f : Field} {r : Reading}
    (hf : schema.fields[i]? = some f) (h : t.Counts i r) {sources : Sources} {code : MessageCode}
    {frame : Bytes} (hpacks : t.store.Packs sources code frame)
    (hselects : (Schema.headerOf frame).selects f = true) {n : Int} (hn : r.toInt? = some n) :
    schema.Brings i frame n := by
  intro config hmax
  obtain ⟨w, hk, -⟩ := h.toInt?_lt hf
  have hmem := hs.mem_updates_frameOf hf hselects
  obtain ⟨g, r', bytes, hg, hget, hencode, himage⟩ := hpacks.sends_of_mem hs hmem
  obtain rfl : f = g := Option.some.inj (hf.symm.trans hg)
  obtain rfl : r = r' := by simpa [Store.get, h.holds, Store.readSlot] using hget
  obtain ⟨-, hwire⟩ := Reading.decode_encode hencode
  have himage : schema.valueIn frame i f = Reading.decode f.kind bytes := himage
  rw [← himage, hk] at hwire
  generalize schema.valueIn frame i f = image at hwire hmem
  cases hwire with
  | @unsigned _ _ m hm =>
    refine ⟨schema.frameOf frame, m, hpacks.decodeFrame_eq hs hmax, hmem, ?_⟩
    exact Option.some.inj (hm.symm.trans hn)

/-- So does a frame that is put on a link along the way, with the count of its moment. -/
theorem Counts.brings_of_puts (hs : schema.Canonical) {i : Nat} {f : Field} {r : Reading}
    (hf : schema.fields[i]? = some f) (h : t.Counts i r) {v : Int} (hv : r.toInt? = some v)
    {earlier : List Call} (hearlier : (t.afterAll earlier).Counts i
      ((nextCount schema i)^[fastTicks earlier] r))
    {c : Call} {frame : Bytes} (hputs : (t.afterAll earlier).Puts c frame)
    (hselects : (Schema.headerOf frame).selects f = true) :
    schema.Brings i frame ((v + fastTicks (earlier ++ [c])) % 2 ^ (8 * f.size)) := by
  obtain ⟨t', sources, code, ht', hpacks⟩ := hearlier.packs_of_puts hs hf hputs
  have hsum : fastTicks (earlier ++ [c]) = c.ticks.count .fast + fastTicks earlier := by
    rw [fastTicks_append, fastTicks_cons, Nat.add_comm]
    rfl
  rw [← Function.iterate_add_apply, ← hsum] at ht'
  exact ht'.brings hs hf hpacks hselects (h.toInt?_iterate hf hv _)

/-! ### Counting -/

/-- **The packet counter counts fast ticks modulo its width.** Take a transmitter that is reached by
any uses of a fresh one and whose lock is not poisoned, and let its counter own a number `v`, in
either form. After further uses, during which no source crashes and nothing is stored into the
counter or linked to it, it holds `v` and the number of fast ticks among them, modulo the width of
its field; without a fast tick it holds what it held. None of the ticks failed. A frame that was
put on a link along the way and carries the counter brings the count of its moment, so frames with
one fast tick between them bring consecutive counts. -/
theorem counter_afterAll_eq {limits : SchemaLimits} {name : String} {declared : List Field}
    (hbuild : Schema.build limits name declared = .ok schema) (start : Transmitter schema)
    (hfresh : start.Fresh) (before : List Call)
    (hhealthy : (start.afterAll before).poisoned = false) {i : Nat} {f : Field}
    (hcounter : start.counter = some i) (hf : schema.fields[i]? = some f) {r : Reading} {v : Int}
    (hslot : (start.afterAll before).store.slots[i]? = some (.owned r)) (hv : r.toInt? = some v)
    (calls : List Call) (hcalls : ∀ c ∈ calls, c.Reliable)
    (hspares : (start.afterAll before).Spares f.name calls) :
    let t := start.afterAll before
    let count : Nat → Int := fun n => (v + n) % 2 ^ (8 * f.size)
    (∃ r', (t.afterAll calls).store.slots[i]? = some (.owned r') ∧
      r'.toInt? = some (count (fastTicks calls)) ∧ (fastTicks calls = 0 → r' = r)) ∧
    (∀ earlier c later, calls = earlier ++ c :: later →
      ((t.afterAll earlier).runTicks c.ticks).1 = .ok () ∧
        ∀ tier, c = .operation (.tick tier) → (t.afterAll earlier).answer c = .ok .done) ∧
    (∀ earlier c later frame, calls = earlier ++ c :: later → (t.afterAll earlier).Puts c frame →
      (Schema.headerOf frame).selects f = true →
      schema.Brings i frame (count (fastTicks (earlier ++ [c])))) ∧
    ∀ earlier c middle c' later frame frame', calls = earlier ++ c :: (middle ++ c' :: later) →
      (t.afterAll earlier).Puts c frame → (Schema.headerOf frame).selects f = true →
      (t.afterAll (earlier ++ c :: middle)).Puts c' frame' →
      (Schema.headerOf frame').selects f = true → fastTicks (middle ++ [c']) = 1 →
      ∃ n, schema.Brings i frame n ∧ schema.Brings i frame' ((n + 1) % 2 ^ (8 * f.size)) := by
  intro t count
  have hs := Schema.build_eq_ok hbuild
  have hcounts : t.Counts i r := {
    counter := (start.counter_afterAll before).trans hcounter
    canCount := hfresh.canCount.afterAll before
    holds := hslot
    sound := (hfresh.sound hs).afterAll hs hhealthy }
  -- every point of the run is reached by uses that spare the counter as well
  have hpoint : ∀ earlier more, calls = earlier ++ more →
      (t.afterAll earlier).Counts i ((nextCount schema i)^[fastTicks earlier] r) := by
    intro earlier more hsplit
    rw [hsplit] at hcalls hspares
    exact hcounts.afterAll hs hf (fun c hc => hcalls c (List.mem_append_left more hc))
      hspares.append.1
  have hbrings : ∀ earlier c later frame, calls = earlier ++ c :: later →
      (t.afterAll earlier).Puts c frame → (Schema.headerOf frame).selects f = true →
      schema.Brings i frame (count (fastTicks (earlier ++ [c]))) := by
    intro earlier c later frame hsplit hputs hselects
    exact hcounts.brings_of_puts hs hf hv (hpoint _ _ hsplit) hputs hselects
  refine ⟨?_, ?_, hbrings, ?_⟩
  · have hlast := hpoint calls [] (List.append_nil calls).symm
    refine ⟨_, hlast.holds, hcounts.toInt?_iterate hf hv _, ?_⟩
    intro hzero
    rw [hzero, Function.iterate_zero_apply]
  · intro earlier c later hsplit
    have hearlier := hpoint _ _ hsplit
    refine ⟨(hearlier.runTicks hs hf c.ticks).1, ?_⟩
    intro tier hc
    subst hc
    exact (effect_tick hearlier.sound.healthy hearlier.canCount tier).tick_eq_done
  · intro earlier c middle c' later frame frame' hsplit hputs hselects hputs' hselects' hone
    refine ⟨_, hbrings _ _ _ _ hsplit hputs hselects, ?_⟩
    have hsplit' : calls = (earlier ++ c :: middle) ++ c' :: later := by simp [hsplit]
    have hsum : fastTicks (earlier ++ c :: middle ++ [c']) = fastTicks (earlier ++ [c]) + 1 := by
      rw [← hone, ← fastTicks_append]
      simp
    have hnext : count (fastTicks (earlier ++ [c]) + 1) =
        (count (fastTicks (earlier ++ [c])) + 1) % 2 ^ (8 * f.size) := by
      simp only [count, Int.emod_add_emod, Int.natCast_add, Int.natCast_one, Int.add_assoc]
    rw [← hnext, ← hsum]
    exact hbrings _ _ _ _ hsplit' hputs' hselects'

/-- In the scenario layout with `b` as its counter, which starts at its largest number as a signed
one: a turn of the loop, a use that is refused, an update of another field, and another turn. The
count goes back to zero and on to one, and so it says in the two frames. -/
theorem counter_afterAll_eq_scenario :
    let schema : Schema := ⟨"scenario", Schema.scenarioFields⟩
    let start : Transmitter schema := { initial schema with counter := some 1 }
    let sources : Sources := fun _ => .yields (.float .zero)
    let turn : Call := .operation (.runDue sources ⟨true, false, false, true⟩ {} {})
    let before : List Call := [.operation (.set "b" (.signed 65535))]
    let refused : Call := .operation (.set "b" (.signed (-1)))
    let other : Call := .operation (.update "a" (.unsigned 300))
    let calls : List Call := [turn, refused, other, turn]
    let t := start.afterAll before
    t.poisoned = false ∧ t.store.slots[1]? = some (.owned (.signed 65535)) ∧
      (∀ c ∈ calls, c.Reliable) ∧ t.Spares "b" calls ∧
      (∃ r, (t.afterAll calls).store.slots[1]? = some (.owned r) ∧ r.toInt? = some 1) ∧
      t.Puts turn [1, 0, 0, 0, 0, 0] ∧
      (t.afterAll [turn, refused, other]).Puts turn [1, 0, 44, 1, 1, 0] ∧
      ∃ n, schema.Brings 1 [1, 0, 0, 0, 0, 0] n ∧
        schema.Brings 1 [1, 0, 44, 1, 1, 0] ((n + 1) % 2 ^ 16) := by
  intro schema start sources turn before refused other calls t
  have hbuild : Schema.build {} "scenario" Schema.scenarioFields = .ok schema :=
    Schema.build_scenario
  have hcounter : (initial schema).withCounter "b" = .ok start := by decide +kernel
  have hhealthy : t.poisoned = false := by decide +kernel
  have hslot : t.store.slots[1]? = some (.owned (.signed 65535)) := by decide +kernel
  have hsources : sources.Reliable := fun source hread => nomatch hread
  have hcalls : ∀ c ∈ calls, c.Reliable := by
    simp only [calls, List.forall_mem_cons]
    exact ⟨hsources, trivial, trivial, hsources, nofun⟩
  have hrefused : (t.after turn).answer refused =
      .error (.frame (.valueOutOfRange "b" "-1" "u16")) := by decide +kernel
  have hspares : t.Spares "b" calls :=
    ⟨nofun, fun _ => ⟨_, hrefused⟩, fun hname => absurd hname (by decide), nofun, trivial⟩
  have hticks : fastTicks calls = 2 := by decide
  have hputs : t.Puts turn [1, 0, 0, 0, 0, 0] :=
    ⟨.b, {}, { toB := [[1, 0, 0, 0, 0, 0]] }, rfl, by decide +kernel, rfl⟩
  have hputs' : (t.afterAll [turn, refused, other]).Puts turn [1, 0, 44, 1, 1, 0] :=
    ⟨.b, {}, { toB := [[1, 0, 44, 1, 1, 0]] }, rfl, by decide +kernel, rfl⟩
  obtain ⟨⟨r, hr, hvalue, -⟩, -, -, hconsecutive⟩ := counter_afterAll_eq hbuild start
    (.withCounter .initial hcounter) before hhealthy (i := 1) rfl rfl hslot rfl calls hcalls hspares
  rw [hticks] at hvalue
  refine ⟨hhealthy, hslot, hcalls, hspares, ⟨r, hr, hvalue⟩, hputs, hputs', ?_⟩
  exact hconsecutive [] turn [refused, other] turn [] _ _ rfl hputs (by decide) hputs' (by decide)
    (by decide)

end Transmitter

end Telemetry
