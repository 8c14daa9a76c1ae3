import Telemetry.Proofs.Frame.RoundTrip
import Telemetry.Proofs.Node.Receiving
import Telemetry.Schema.Variants
/-!
# Telemetry.Proofs.Node.LastWriter

**A receiver holds the last word on every field.** Whatever byte strings a receiver is given, a
field has the value of the last accepted frame that carried it, or its initial one. A refused
frame is counted and has no other effect.

`Receiver.run` gives a receiver some frames one after the other. Its store is a fold over them
(`run_eq`), and one frame either sets the slot of a field or leaves it alone
(`getElem?_slots_deserialize_of_carries`, `getElem?_slots_deserialize_of_not_carries`). The
main statement is `run_summary`.
-/

namespace Telemetry

variable {schema : Schema}

/-! ### One frame -/

/-- The frame is accepted and its header selects the field. -/
def Schema.Carries (s : Schema) (config : FrameConfig) (frame : Bytes) (f : Field) : Prop :=
  (s.decodeFrame config frame).isOk = true ∧ (headerOf frame).selects f = true

instance (s : Schema) (config : FrameConfig) (frame : Bytes) (f : Field) :
    Decidable (s.Carries config frame f) :=
  inferInstanceAs (Decidable (_ ∧ _))

namespace Store

variable {config : FrameConfig} {frame : Bytes} {i : Nat} {f : Field}

theorem deserialize_of_error {e : FrameError} (h : schema.decodeFrame config frame = .error e)
    (s : Store schema) : (s.deserialize config frame).2 = s := by
  rw [deserialize, h]

/-- A frame that carries a field gives it a value of its own. -/
theorem getElem?_slots_deserialize_of_carries (hs : schema.Canonical)
    (hf : schema.fields[i]? = some f) (h : schema.Carries config frame f) (s : Store schema) :
    (s.deserialize config frame).2.slots[i]? = some (.owned (schema.valueIn frame i f)) := by
  obtain ⟨haccepted, hselects⟩ := h
  cases hdecode : schema.decodeFrame config frame with
  | error e =>
    rw [hdecode] at haccepted
    cases haccepted
  | ok decoded =>
    have hreads := hs.reads_of_decodeFrame hdecode
    obtain rfl := Schema.eq_frameOf_of_decodeFrame hdecode
    have hlt := (List.getElem?_eq_some_iff.mp hf).1
    rw [deserialize, hdecode]
    exact DecodedFrame.getElem?_slots_apply_of_mem _ _ hreads.nodup hlt
      (hs.mem_updates_frameOf hf hselects)

/-- Any other frame leaves the field alone. -/
theorem getElem?_slots_deserialize_of_not_carries (hs : schema.Canonical)
    (hf : schema.fields[i]? = some f) (h : ¬ schema.Carries config frame f) (s : Store schema) :
    (s.deserialize config frame).2.slots[i]? = s.slots[i]? := by
  cases hdecode : schema.decodeFrame config frame with
  | error e => rw [deserialize_of_error hdecode]
  | ok decoded =>
    have hreads := hs.reads_of_decodeFrame hdecode
    obtain rfl := Schema.eq_frameOf_of_decodeFrame hdecode
    rw [deserialize, hdecode]
    apply DecodedFrame.getElem?_slots_apply_of_not_mem
    rw [hreads.selected]
    rintro ⟨g, hg, hselects⟩
    obtain rfl : f = g := Option.some.inj (hf.symm.trans hg)
    exact h ⟨by rw [hdecode]; rfl, hselects⟩

/-! ### Frames one after the other -/

/-- The store after some frames, the first one first. A refused one leaves it as it was. -/
def deserializeAll (s : Store schema) (config : FrameConfig) (frames : List Bytes) :
    Store schema :=
  frames.foldl (fun s frame => (s.deserialize config frame).2) s

theorem deserializeAll_append (s : Store schema) (config : FrameConfig)
    (before after : List Bytes) : s.deserializeAll config (before ++ after) =
      (s.deserializeAll config before).deserializeAll config after :=
  List.foldl_append

/-- A field that no frame carries is left alone. -/
theorem getElem?_slots_deserializeAll (hs : schema.Canonical) (hf : schema.fields[i]? = some f)
    {frames : List Bytes} (h : ∀ frame ∈ frames, ¬ schema.Carries config frame f)
    (s : Store schema) : (s.deserializeAll config frames).slots[i]? = s.slots[i]? := by
  induction frames generalizing s with
  | nil => rfl
  | cons frame rest ih =>
    have hrest := ih (fun later hlater => h later (List.mem_cons_of_mem _ hlater))
      (s.deserialize config frame).2
    rw [← getElem?_slots_deserialize_of_not_carries hs hf (h frame List.mem_cons_self) s]
    exact hrest

end Store

/-- Some frames, and what is left of them when any number of the refused ones are taken out. -/
inductive Schema.Thins (s : Schema) (config : FrameConfig) : List Bytes → List Bytes → Prop
  | nil : Thins s config [] []
  | keep (frame : Bytes) {frames kept : List Bytes} (h : Thins s config frames kept) :
      Thins s config (frame :: frames) (frame :: kept)
  | drop {frame : Bytes} {e : FrameError} (hrefused : s.decodeFrame config frame = .error e)
      {frames kept : List Bytes} (h : Thins s config frames kept) :
      Thins s config (frame :: frames) kept

/-- Refused frames make no difference to the store. -/
theorem Store.deserializeAll_of_thins {config : FrameConfig} {frames kept : List Bytes}
    (h : schema.Thins config frames kept) (s : Store schema) :
    s.deserializeAll config kept = s.deserializeAll config frames := by
  induction h generalizing s with
  | nil => rfl
  | keep frame _ ih => exact ih _
  | drop hrefused _ ih =>
    rw [ih, deserializeAll, deserializeAll, List.foldl_cons, deserialize_of_error hrefused]

namespace Receiver

/-- The answers to some frames that are given one after the other, and the receiver after the
last one. -/
def run (n : Receiver schema) :
    List Bytes → List (Except NodeError MessageCode) × Receiver schema
  | [] => ([], n)
  | frame :: rest =>
    let (answer, n) := n.apply frame
    let (answers, n) := n.run rest
    (answer :: answers, n)

/-- The answer to a frame, which hangs on the frame alone. -/
def answer (schema : Schema) (config : FrameConfig) (frame : Bytes) :
    Except NodeError MessageCode :=
  ((schema.decodeFrame config frame).map DecodedFrame.code).mapError .frame

/-- What one frame does: it is answered for what it is, read into the store, and counted. -/
theorem apply_eq {n : Receiver schema} (hlock : n.poisoned = false) (frame : Bytes) :
    n.apply frame = (answer schema n.config frame,
      { n with
        store := (n.store.deserialize n.config frame).2
        received := n.received + if (answer schema n.config frame).isOk then 1 else 0
        dropped := n.dropped + if (answer schema n.config frame).isOk then 0 else 1 }) := by
  unfold apply answer Store.deserialize
  cases schema.decodeFrame n.config frame with
  | ok decoded =>
    rw [accept_ok hlock]
    simp [Except.map, Except.mapError, Except.isOk, Except.toBool]
  | error e =>
    simp [accept, Except.map, Except.mapError, Except.isOk, Except.toBool]

theorem run_cons (n : Receiver schema) (frame : Bytes) (rest : List Bytes) :
    n.run (frame :: rest) =
      ((n.apply frame).1 :: ((n.apply frame).2.run rest).1, ((n.apply frame).2.run rest).2) :=
  rfl

/-- **A run of a receiver, all at once**: its answers, its store and its two counts. -/
theorem run_eq {n : Receiver schema} (hlock : n.poisoned = false) (frames : List Bytes) :
    n.run frames = (frames.map (answer schema n.config),
      { n with
        store := n.store.deserializeAll n.config frames
        received := n.received +
          .ofNat ((frames.map (answer schema n.config)).countP Except.isOk)
        dropped := n.dropped +
          .ofNat ((frames.map (answer schema n.config)).countP fun a => !a.isOk) }) := by
  induction frames generalizing n with
  | nil => simp [run, Store.deserializeAll]
  | cons frame rest ih =>
    rw [run_cons, apply_eq hlock, ih]
    · simp only [List.map_cons, List.countP_cons]
      cases (answer schema n.config frame).isOk
      · simp [Store.deserializeAll, UInt64.ofNat_add, UInt64.add_assoc, UInt64.add_comm 1]
      · simp [Store.deserializeAll, UInt64.ofNat_add, UInt64.add_assoc, UInt64.add_comm 1]
    · exact hlock

/-- An answer gives a code or the reason why a frame was refused. It is never a crash, and
never that of a lock that was left poisoned. -/
theorem answer_ne_crashed (config : FrameConfig) (frame : Bytes) :
    answer schema config frame ≠ .error .lockPoisoned ∧
      ∀ e, answer schema config frame = .error e → e.isCrash = false := by
  have hne := schema.decodeFrame_ne_crashed config frame
  unfold answer
  cases hdecode : schema.decodeFrame config frame with
  | ok decoded => simp [Except.map, Except.mapError]
  | error cause =>
    rw [hdecode] at hne
    refine ⟨by simp [Except.map, Except.mapError], ?_⟩
    intro e he
    obtain rfl : NodeError.frame cause = e := by simpa [Except.map, Except.mapError] using he
    cases cause with
    | sourceCrashed => exact absurd rfl hne
    | _ => rfl

/-! ### The last word -/

/-- What a receiver has made of some frames, and what it answered to them. -/
structure Summary (config : FrameConfig) (frames : List Bytes)
    (answers : List (Except NodeError MessageCode)) (n : Receiver schema) : Prop where
  /-- Each frame is answered for what it is: accepted under its code, or refused. -/
  answered : answers = frames.map (answer schema config)
  /-- Nothing poisons the lock. -/
  healthy : n.poisoned = false
  /-- Every call returns, and none finds the lock poisoned. -/
  returned : ∀ a ∈ answers, a ≠ .error .lockPoisoned ∧ ∀ e, a = .error e → e.isCrash = false
  /-- What is read of an accepted frame lies inside it. -/
  inside : ∀ frame ∈ frames, ∀ decoded, schema.decodeFrame config frame = .ok decoded →
    schema.Reads frame (schema.impliedLen decoded.code) decoded
  /-- A field has the value of the last accepted frame that carries it. -/
  last : ∀ (before : List Bytes) (frame : Bytes) (after : List Bytes) (i : Nat) (f : Field),
    frames = before ++ frame :: after → schema.fields[i]? = some f →
    schema.Carries config frame f → (∀ later ∈ after, ¬ schema.Carries config later f) →
    n.get f.name = (.ok (schema.valueIn frame i f), n)
  /-- A field that no accepted frame carries has its initial value. -/
  untouched : ∀ (i : Nat) (f : Field), schema.fields[i]? = some f →
    (∀ frame ∈ frames, ¬ schema.Carries config frame f) →
    n.get f.name = (.ok (Reading.initial f.kind), n)
  received : n.received = .ofNat (answers.countP Except.isOk)
  dropped : n.dropped = .ofNat (answers.countP fun a => !a.isOk)
  total : n.received + n.dropped = .ofNat frames.length
  /-- As long as no count wraps, the counts are the numbers of the frames. -/
  counted : frames.length < UInt64.size →
    n.received.toNat = answers.countP Except.isOk ∧
      n.dropped.toNat = (answers.countP fun a => !a.isOk) ∧
      n.received.toNat + n.dropped.toNat = frames.length

theorem summary_run (hs : schema.Canonical) (config : FrameConfig) (frames : List Bytes) :
    Summary config frames ((initial schema config).run frames).1
      ((initial schema config).run frames).2 := by
  have hlength : ((frames.map (answer schema config)).countP Except.isOk) +
      ((frames.map (answer schema config)).countP fun a => !a.isOk) = frames.length := by
    have hsplit := List.length_eq_countP_add_countP Except.isOk
      (l := frames.map (answer schema config))
    rw [List.length_map] at hsplit
    simp [hsplit]
  rw [run_eq rfl]
  exact {
    answered := rfl
    healthy := rfl
    returned := by
      intro a ha
      obtain ⟨frame, -, rfl⟩ := List.mem_map.mp ha
      exact answer_ne_crashed config frame
    inside := fun _ _ _ hdecode => hs.reads_of_decodeFrame hdecode
    last := by
      rintro before frame after i f rfl hf hcarries hlater
      apply get_of_owned hs rfl hf
      -- the frames after this one leave the slot as it has set it
      rw [Store.deserializeAll_append]
      have hset := Store.getElem?_slots_deserialize_of_carries hs hf hcarries
        ((Store.initial schema).deserializeAll config before)
      rw [← hset]
      exact Store.getElem?_slots_deserializeAll hs hf hlater _
    untouched := by
      intro i f hf hnone
      apply get_of_owned hs rfl hf
      have hinitial := Store.getElem?_slots_initial schema i
      rw [hf] at hinitial
      exact (Store.getElem?_slots_deserializeAll hs hf hnone _).trans hinitial
    received := UInt64.zero_add _
    dropped := UInt64.zero_add _
    total := by
      simp only [initial, UInt64.zero_add]
      rw [← UInt64.ofNat_add, hlength]
    counted := by
      intro hfew
      simp only [initial, UInt64.zero_add]
      rw [UInt64.toNat_ofNat_of_lt' (by omega), UInt64.toNat_ofNat_of_lt' (by omega)]
      exact ⟨rfl, rfl, hlength⟩ }

/-- **The state of a receiver is the last-writer fold of the frames it accepted.** Each field has
the value of the last accepted frame that carried it, the counts are those of the accepted and
the refused frames, every call returns, and it makes no difference to the store whether a
refused frame was there. -/
theorem run_summary {limits : SchemaLimits} {name : String} {declared : List Field}
    (hbuild : Schema.build limits name declared = .ok schema) (config : FrameConfig)
    (frames : List Bytes) :
    Summary config frames ((initial schema config).run frames).1
        ((initial schema config).run frames).2 ∧
      ∀ kept, schema.Thins config frames kept →
        ((initial schema config).run kept).2.store =
          ((initial schema config).run frames).2.store := by
  refine ⟨summary_run (Schema.build_eq_ok hbuild) config frames, fun kept hkept => ?_⟩
  rw [run_eq rfl, run_eq rfl]
  exact Store.deserializeAll_of_thins hkept _

/-- In the scenario layout, a frame of the slow tier, one that is cut short, one of the fast tier
with event 1, one of the fast tier alone, and one without a full header. -/
theorem run_summary_scenario :
    let schema : Schema := ⟨"scenario", Schema.scenarioFields⟩
    let slow : Bytes := [4, 0, 9, 0]
    let full : Bytes := [17, 0, 100, 0, 200, 0, 7]
    let fast : Bytes := [1, 0, 44, 1, 2, 0]
    let frames : List Bytes := [slow, [5, 0, 1, 0], full, fast, [255]]
    let n := ((initial schema {}).run frames).2
    Schema.build {} "scenario" Schema.scenarioFields = .ok schema ∧
      n.get "a" = (.ok (.unsigned 300), n) ∧ n.get "s" = (.ok (.unsigned 9), n) ∧
      n.get "c" = (.ok (.unsigned 7), n) ∧ n.received.toNat + n.dropped.toNat = 5 ∧
      ((initial schema {}).run [slow, full, fast]).2.store = n.store := by
  intro schema slow full fast frames n
  have hbuild : Schema.build {} "scenario" Schema.scenarioFields = .ok schema :=
    Schema.build_scenario
  obtain ⟨hsummary, hthin⟩ := run_summary hbuild {} frames
  have ha := hsummary.last [slow, [5, 0, 1, 0], full] fast [[255]] 0
    (Schema.periodicField .fast "a" (.unsigned .w16)) rfl rfl (by decide) (by decide)
  have hslow := hsummary.last [] slow [[5, 0, 1, 0], full, fast, [255]] 2
    (Schema.periodicField .slow "s" (.unsigned .w16)) rfl rfl (by decide) (by decide)
  have hc := hsummary.last [slow, [5, 0, 1, 0]] full [fast, [255]] 3
    (Schema.conditionalField "c" 1 (.unsigned .w8)) rfl rfl (by decide) (by decide)
  have hcut : schema.decodeFrame {} [5, 0, 1, 0] = .error (.truncatedFrame 8 4) := rfl
  have hshort : schema.decodeFrame {} [255] = .error (.truncatedFrame 2 1) := rfl
  obtain ⟨-, -, htotal⟩ := hsummary.counted (by decide)
  refine ⟨hbuild, ha.trans ?_, hslow.trans ?_, hc.trans ?_, htotal, hthin _ ?_⟩
  · exact congrArg (fun r => (Except.ok r, n)) (by decide)
  · exact congrArg (fun r => (Except.ok r, n)) (by decide)
  · exact congrArg (fun r => (Except.ok r, n)) (by decide)
  · exact .keep _ (.drop hcut (.keep _ (.keep _ (.drop hshort .nil))))

end Receiver

end Telemetry
