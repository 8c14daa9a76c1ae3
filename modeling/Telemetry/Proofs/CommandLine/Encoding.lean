import Telemetry.CommandLine.Run
import Telemetry.Proofs.Frame.Draining
import Telemetry.Proofs.Json.Parsed
import Telemetry.Proofs.Link.FrameWriter
import Telemetry.Proofs.Store.Encodable
/-!
# Telemetry.Proofs.CommandLine.Encoding

**What a frame is built of.** Values are stored one after the other, then tiers are marked and
events raised, and the code of all marks decides what goes into the frame (`exists_of_encodeFrame`).

Whether a value is taken depends on its field alone (`Takes`), and what a field holds in the end on
the value of its name alone (`getElem?_slots_storeValues`). So values may be given in any order.
-/

namespace Telemetry.CommandLine

open Json (KeysDiffer)

variable {schema : Schema}

/-! ### Values -/

/-- The field of this name takes the value as this reading. -/
def Takes (schema : Schema) (m : String × Json) (i : Nat) (r : Reading) : Prop :=
  Reading.ofJson? m.2 = some r ∧
    ∃ f, schema.fields[i]? = some f ∧ f.name = m.1 ∧ r.Encodes f

section Values

variable {store after : Store schema} {values : List (String × Json)}

theorem storeValues_cons_eq_ok_iff (hs : schema.Canonical) {m : String × Json}
    {rest : List (String × Json)} : storeValues store (m :: rest) = .ok after ↔
      ∃ i r, Takes schema m i r ∧ storeValues (store.put i r) rest = .ok after := by
  obtain ⟨name, value⟩ := m
  rw [storeValues]
  constructor
  · intro h
    cases hr : Reading.ofJson? value with
    | none => simp [hr] at h
    | some r =>
      cases hset : store.setByName name r with
      | error e => simp [hr, hset] at h
      | ok next =>
        simp only [hr, hset] at h
        obtain ⟨i, f, hf, hname, hencodes, rfl⟩ := (Store.setByName_eq_ok_iff hs).mp hset
        exact ⟨i, r, ⟨hr, f, hf, hname, hencodes⟩, h⟩
  · rintro ⟨i, r, ⟨hr, f, hf, hname, hencodes⟩, h⟩
    have hset : store.setByName name r = .ok (store.put i r) :=
      (Store.setByName_eq_ok_iff hs).mpr ⟨i, f, hf, hname, hencodes, rfl⟩
    have hr : Reading.ofJson? value = some r := hr
    simp only [hr, hset]
    exact h

/-- What storing one value keeps, storing all of them keeps. -/
theorem storeValues_inv (hs : schema.Canonical) {P : Store schema → Prop}
    (hput : ∀ store i r f, P store → schema.fields[i]? = some f → r.Encodes f → P (store.put i r))
    (hstore : P store) (h : storeValues store values = .ok after) : P after := by
  induction values generalizing store with
  | nil =>
    obtain rfl := Except.ok.inj h
    exact hstore
  | cons m rest ih =>
    obtain ⟨i, r, ⟨-, f, hf, -, hencodes⟩, hrest⟩ := (storeValues_cons_eq_ok_iff hs).mp h
    exact ih (hput store i r f hstore hf hencodes) hrest

theorem takes_of_storeValues (hs : schema.Canonical) (h : storeValues store values = .ok after) :
    ∀ m ∈ values, ∃ i r, Takes schema m i r := by
  induction values generalizing store with
  | nil => exact fun m hm => absurd hm List.not_mem_nil
  | cons m rest ih =>
    obtain ⟨i, r, htakes, hrest⟩ := (storeValues_cons_eq_ok_iff hs).mp h
    exact List.forall_mem_cons.mpr ⟨⟨i, r, htakes⟩, ih hrest⟩

theorem exists_storeValues (hs : schema.Canonical) (store : Store schema)
    (h : ∀ m ∈ values, ∃ i r, Takes schema m i r) :
    ∃ after, storeValues store values = .ok after := by
  induction values generalizing store with
  | nil => exact ⟨store, rfl⟩
  | cons m rest ih =>
    obtain ⟨⟨i, r, htakes⟩, hrest⟩ := List.forall_mem_cons.mp h
    obtain ⟨after, hafter⟩ := ih (store.put i r) hrest
    exact ⟨after, (storeValues_cons_eq_ok_iff hs).mpr ⟨i, r, htakes, hafter⟩⟩

/-- A field holds the value that is given under its name, or else what it held before. -/
theorem getElem?_slots_storeValues (hs : schema.Canonical) (hkeys : KeysDiffer values)
    (h : storeValues store values = .ok after) {i : Nat} {f : Field}
    (hf : schema.fields[i]? = some f) : after.slots[i]? =
      match values.lookup f.name with
      | some value => (Reading.ofJson? value).map Slot.owned
      | none => store.slots[i]? := by
  induction values generalizing store with
  | nil =>
    obtain rfl := Except.ok.inj h
    rfl
  | cons m rest ih =>
    obtain ⟨hnew, hrest⟩ := List.nodup_cons.mp hkeys
    obtain ⟨j, r, ⟨hr, g, hg, hname, -⟩, hstored⟩ := (storeValues_cons_eq_ok_iff hs).mp h
    rw [ih hrest hstored]
    obtain ⟨name, value⟩ := m
    obtain rfl : g.name = name := hname
    rw [List.lookup_cons]
    by_cases hsame : f.name = g.name
    · -- the other names differ, so this value is not replaced
      have hij : j = i := by
        have hi := hs.indexOf?_name hf
        rw [hsame, hs.indexOf?_name hg] at hi
        exact Option.some.inj hi
      have hnone : rest.lookup f.name = none := Json.lookup_eq_none_iff_not_mem.mpr (hsame ▸ hnew)
      have hlt : i < schema.fields.length := (List.getElem?_eq_some_iff.mp hf).1
      have hr : Reading.ofJson? value = some r := hr
      subst hij
      rw [hnone, hsame, beq_self_eq_true]
      dsimp only
      rw [Store.getElem?_slots_put, if_pos rfl, if_pos hlt, hr]
      rfl
    · have hij : j ≠ i := by
        rintro rfl
        obtain rfl : f = g := Option.some.inj (hf.symm.trans hg)
        exact hsame rfl
      rw [beq_false_of_ne hsame, Store.getElem?_slots_put, if_neg hij]

/-- Values may be stored in any order. -/
theorem storeValues_of_perm (hs : schema.Canonical) (hkeys : KeysDiffer values)
    {other : List (String × Json)} (hperm : other.Perm values)
    (h : storeValues store values = .ok after) : storeValues store other = .ok after := by
  have htakes : ∀ m ∈ other, ∃ i r, Takes schema m i r := fun m hm =>
    takes_of_storeValues hs h m (hperm.mem_iff.mp hm)
  obtain ⟨after', h'⟩ := exists_storeValues hs store htakes
  rw [h']
  congr 1
  obtain ⟨slots⟩ := after
  obtain ⟨slots'⟩ := after'
  congr 1
  apply Vector.ext
  intro i hi
  have hf : schema.fields[i]? = some schema.fields[i] := List.getElem?_eq_getElem hi
  have hslot := getElem?_slots_storeValues hs hkeys h hf
  have hslot' := getElem?_slots_storeValues hs (hkeys.of_perm hperm) h' hf
  rw [Json.lookup_eq_of_perm hkeys hperm, ← hslot] at hslot'
  simpa [Vector.getElem?_eq_getElem hi] using hslot'

end Values

/-! ### Tiers and events -/

section Marks

open MessageCode (Spells Gathers)

variable {flags after : DirtyFlags} {marks : List Mark}

theorem mem_periodic_of_readTier {name : String} {t : Tier} (h : readTier name = .ok t) :
    t ∈ Tier.periodic := by
  unfold readTier at h
  dsimp only at h
  split at h
  · rename_i u hu
    obtain rfl := Except.ok.inj h
    exact List.mem_of_find?_eq_some hu
  · cases h

theorem spells_markTiers {names : List String} (hflags : flags.pending.Spells marks)
    (h : markTiers flags names = .ok after) :
    ∃ tiers, List.Forall₂ (fun name t => readTier name = .ok t) names tiers ∧
      after.pending.Spells ((tiers.map Mark.tier).reverse ++ marks) := by
  induction names generalizing flags marks with
  | nil =>
    obtain rfl := Except.ok.inj h
    exact ⟨[], .nil, hflags⟩
  | cons name rest ih =>
    unfold markTiers at h
    cases ht : readTier name with
    | error e => simp [ht] at h
    | ok t =>
      simp only [ht] at h
      obtain ⟨tiers, hnamed, hspells⟩ := ih (DirtyFlags.spells_take hflags (.tier t)) h
      refine ⟨t :: tiers, .cons ht hnamed, ?_⟩
      rwa [List.map_cons, List.reverse_cons, List.append_assoc]

theorem spells_raiseEvents {events : List Nat} (hflags : flags.pending.Spells marks)
    (h : raiseEvents flags events = .ok after) :
    (∀ event ∈ events, event ≤ maxEvent) ∧
      after.pending.Spells ((events.map Mark.event).reverse ++ marks) := by
  induction events generalizing flags marks with
  | nil =>
    obtain rfl := Except.ok.inj h
    exact ⟨fun _ he => absurd he List.not_mem_nil, hflags⟩
  | cons event rest ih =>
    unfold raiseEvents at h
    rcases Nat.lt_or_ge maxEvent event with hlate | hle
    · rw [flags.raise_of_lt hlate] at h
      cases h
    · rw [flags.raise_of_le hle] at h
      obtain ⟨hrest, hspells⟩ := ih (DirtyFlags.spells_take hflags (.event event)) h
      refine ⟨List.forall_mem_cons.mpr ⟨hle, hrest⟩, ?_⟩
      rwa [List.map_cons, List.reverse_cons, List.append_assoc]

/-- The order and the number of the marks do not matter. -/
theorem spells_congr {code : MessageCode} {marks' : List Mark} (h : code.Spells marks)
    (hsame : ∀ m, m ∈ marks ↔ m ∈ marks') : code.Spells marks' := by
  intro bit
  rw [h bit]
  exact exists_congr fun m => and_congr_left fun _ => hsame m

/-- The code of some named tiers and some events. -/
def Chosen (tiers : List String) (events : List Nat) (code : MessageCode) : Prop :=
  ∃ named, List.Forall₂ (fun name t => readTier name = .ok t) tiers named ∧
    Gathers (named.map Mark.tier ++ events.map Mark.event) code

theorem chosen_of_marks {tiers : List String} {events : List Nat} {marked raised : DirtyFlags}
    (hmarked : markTiers .clean tiers = .ok marked)
    (hraised : raiseEvents marked events = .ok raised) : Chosen tiers events raised.pending := by
  obtain ⟨named, hnamed, hspells⟩ := spells_markTiers DirtyFlags.spells_clean hmarked
  obtain ⟨-, hspells⟩ := spells_raiseEvents hspells hraised
  refine ⟨named, hnamed, (spells_congr hspells fun m => ?_).gathers⟩
  simp [or_comm]

/-- At least one tier or event makes a frame. -/
theorem isEmpty_of_marks {tiers : List String} {events : List Nat} {marked raised : DirtyFlags}
    (hmarked : markTiers .clean tiers = .ok marked)
    (hraised : raiseEvents marked events = .ok raised) (hsome : tiers ≠ [] ∨ events ≠ []) :
    raised.pending.isEmpty = false := by
  obtain ⟨named, hnamed, hgathers⟩ := chosen_of_marks hmarked hraised
  obtain ⟨_, -, hspells⟩ := spells_markTiers DirtyFlags.spells_clean hmarked
  obtain ⟨hle, -⟩ := spells_raiseEvents hspells hraised
  rw [Bool.eq_false_iff]
  intro hempty
  have hnone := hgathers.eq_empty_iff.mp (congrArg MessageCode.mk (eq_of_beq hempty))
  rcases hsome with htiers | hevents
  · cases hnamed with
    | nil => exact htiers rfl
    | @cons name t rest named ht _ =>
      have hperiodic : ∀ u ∈ Tier.periodic, u ≠ .conditional := by decide
      exact hnone (.tier t) (by simp) (hperiodic t (mem_periodic_of_readTier ht))
  · obtain ⟨event, rest, rfl⟩ := List.exists_cons_of_ne_nil hevents
    exact hnone (.event event) (by simp) (hle event List.mem_cons_self)

end Marks

/-! ### Frames -/

section Frames

variable {values : List (String × Json)} {tiers : List String} {events : List Nat}
  {code : MessageCode} {frame : Bytes}

theorem encodeFrame_eq_ok (h : encodeFrame schema values tiers events = .ok (code, frame)) :
    ∃ store marked raised, storeValues (Store.initial schema) values = .ok store ∧
      markTiers .clean tiers = .ok marked ∧ raiseEvents marked events = .ok raised ∧
      code = raised.pending ∧ (store.serializeInto (fun _ => .crashes) code []).2 = frame := by
  unfold encodeFrame at h
  cases hstore : storeValues (Store.initial schema) values with
  | error e => simp [hstore, bind, Except.bind] at h
  | ok store =>
    cases hmarked : markTiers .clean tiers with
    | error e => simp [hstore, hmarked, bind, Except.bind] at h
    | ok marked =>
      cases hraised : raiseEvents marked events with
      | error e => simp [hstore, hmarked, hraised, bind, Except.bind] at h
      | ok raised =>
        simp only [hstore, hmarked, hraised, bind, Except.bind, DirtyFlags.drain_eq] at h
        refine ⟨store, marked, raised, rfl, rfl, hraised, ?_⟩
        generalize hpacked : store.serializeInto (fun _ => .crashes) raised.pending [] = packed at h
        obtain ⟨outcome, written⟩ := packed
        cases outcome with
        | error e => simp at h
        | ok n =>
          obtain ⟨rfl, rfl⟩ := Prod.mk.inj (Except.ok.inj h)
          exact ⟨rfl, by rw [hpacked]⟩

/-- **A frame that was built** packs the values that were stored, under the code of the tiers and
events that were chosen. -/
theorem exists_of_encodeFrame (hs : schema.Canonical) (hsome : tiers ≠ [] ∨ events ≠ [])
    (h : encodeFrame schema values tiers events = .ok (code, frame)) :
    ∃ store, storeValues (Store.initial schema) values = .ok store ∧ Chosen tiers events code ∧
      code.isEmpty = false ∧ store.Packs (fun _ => .crashes) code frame := by
  obtain ⟨store, marked, raised, hstore, hmarked, hraised, rfl, hframe⟩ := encodeFrame_eq_ok h
  have hcode := isEmpty_of_marks hmarked hraised hsome
  have hencodable : store.Encodable := by
    refine storeValues_inv hs (fun _ _ _ f hstore hf hr => hstore.put fun g hg => ?_)
      (Store.encodable_initial hs) hstore
    obtain rfl : f = g := Option.some.inj (hf.symm.trans hg)
    exact hr
  have hunlinked : store.Unlinked :=
    storeValues_inv hs (fun _ i r _ hstore _ _ => hstore.put i r) (Store.unlinked_initial schema)
      hstore
  obtain ⟨packed, hpacks⟩ :=
    hencodable.exists_packs hunlinked hs (fun _ => .crashes) raised.pending
  have hsame : packed = frame := by
    rw [← hframe, Store.serializeInto_of_packs hs hcode hpacks]
  exact ⟨store, hstore, chosen_of_marks hmarked hraised, hcode, hsame ▸ hpacks⟩

/-- The order of the values does not matter. -/
theorem encodeFrame_of_perm (hs : schema.Canonical) (hkeys : KeysDiffer values)
    {other : List (String × Json)} (hperm : other.Perm values)
    (h : encodeFrame schema values tiers events = .ok (code, frame)) :
    encodeFrame schema other tiers events = .ok (code, frame) := by
  obtain ⟨store, -, -, hstore, -⟩ := encodeFrame_eq_ok h
  have hsame : storeValues (Store.initial schema) other =
      storeValues (Store.initial schema) values := by
    rw [hstore, storeValues_of_perm hs hkeys hperm hstore]
  unfold encodeFrame at h ⊢
  rw [hsame]
  exact h

end Frames

end Telemetry.CommandLine
