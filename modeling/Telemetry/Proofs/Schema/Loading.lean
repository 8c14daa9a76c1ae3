import Telemetry.Proofs.Schema.Format
/-!
# Telemetry.Proofs.Schema.Loading

**Why a document of the format is not loaded.** Once a document has the format, its declarations
are valid one by one, and what is left to fail concerns them together: how many they are, the
order of their events, their names and the length of the longest frame. `Schema.Outcome` lists
the answers with the check that decides each, in the order in which the checks are made.

A check of events stops at the first event that is not above the one before it, so the two
directions of `build_eq_iff_outcome` meet in the split of the declarations at this field. The
main statement is `ofText_outcome`.
-/

namespace Telemetry.Schema

/-! ### Events -/

/-- The event that the next declaration must come after. -/
def lastEvent (previous : Option Nat) (declared : List Field) : Option Nat :=
  (declared.filterMap Field.event).getLast?.or previous

theorem lastEvent_cons (previous : Option Nat) (f : Field) (rest : List Field) :
    lastEvent previous (f :: rest) = lastEvent (f.event.or previous) rest := by
  unfold lastEvent
  cases he : f.event with
  | none => rw [List.filterMap_cons_none he, Option.none_or]
  | some event =>
    rw [List.filterMap_cons_some he, List.getLast?_cons]
    cases (rest.filterMap Field.event).getLast? <;> rfl

section Events

variable {previous : Option Nat} {f : Field} {declared done rest : List Field}

theorem checkKind_of_usable (h : f.kind.IsUsable) : checkKind f = .ok () := by
  unfold checkKind
  cases hk : f.kind with
  | unsigned | signed | single | double => rfl
  | quantized raw scale bias =>
    rw [hk] at h
    exact if_pos h

theorem checkField_of_valid (hf : f.Valid) : checkField previous f = checkEvent previous f := by
  rw [checkField, if_neg hf.named, checkKind_of_usable hf.usable]

/-- A valid declaration passes if its event is above the one before it. -/
theorem checkField_of_lt (hf : f.Valid)
    (h : ∀ event ∈ f.event, ∀ before ∈ previous, before < event) :
    checkField previous f = .ok (f.event.or previous) := by
  rw [checkField_of_valid hf, checkEvent]
  cases he : f.event with
  | none =>
    have htier : f.tier ≠ .conditional := fun htier => by
      obtain ⟨event, hsome⟩ := hf.exists_event htier
      rw [he] at hsome
      cases hsome
    rw [if_neg htier, Option.none_or]
  | some event =>
    rw [if_pos (hf.tier_of_event he)]
    dsimp only
    rw [if_neg (Nat.not_lt.mpr (hf.event_le he))]
    cases previous with
    | none => rfl
    | some before => exact if_neg (Nat.not_le.mpr (h event he before rfl))

theorem checkField_of_le {event before : Nat} (hf : f.Valid) (he : f.event = some event)
    (h : event ≤ before) :
    checkField (some before) f = .error (.eventOrder f.name event before) := by
  rw [checkField_of_valid hf, checkEvent, if_pos (hf.tier_of_event he), he]
  dsimp only
  rw [if_neg (Nat.not_lt.mpr (hf.event_le he)), if_pos h]

theorem checkFields_of_ascend (hvalid : ∀ f ∈ declared, f.Valid)
    (hascend : (declared.filterMap Field.event).Pairwise (· < ·))
    (hprevious : ∀ event ∈ declared.filterMap Field.event, ∀ before ∈ previous, before < event) :
    checkFields previous declared = .ok () := by
  induction declared generalizing previous with
  | nil => rfl
  | cons f rest ih =>
    obtain ⟨hf, hrest⟩ := List.forall_mem_cons.mp hvalid
    cases he : f.event with
    | none =>
      rw [List.filterMap_cons_none he] at hascend hprevious
      have hafter : ∀ event ∈ f.event, ∀ before ∈ previous, before < event := by simp [he]
      have hcheck := checkField_of_lt hf hafter
      rw [checkFields, hcheck, he, Option.none_or]
      exact ih hrest hascend hprevious
    | some event =>
      rw [List.filterMap_cons_some he] at hascend hprevious
      obtain ⟨hfirst, hascend⟩ := List.pairwise_cons.mp hascend
      have hafter : ∀ event ∈ f.event, ∀ before ∈ previous, before < event := by
        simpa [he] using hprevious event List.mem_cons_self
      have hcheck := checkField_of_lt hf hafter
      rw [checkFields, hcheck, he, Option.some_or]
      exact ih hrest hascend fun e hmem before hb => by
        obtain rfl := Option.some.inj hb
        exact hfirst e hmem

theorem checkFields_append (h : checkFields previous done = .ok ()) :
    checkFields previous (done ++ rest) = checkFields (lastEvent previous done) rest := by
  induction done generalizing previous with
  | nil => rfl
  | cons f done ih =>
    rw [checkFields] at h
    cases hf : checkField previous f with
    | error e => simp [hf] at h
    | ok next =>
      simp only [hf] at h
      obtain ⟨-, -, rfl⟩ := checkField_eq_ok hf
      rw [List.cons_append, checkFields, hf, lastEvent_cons]
      exact ih h

/-- The check of valid declarations stops at the first event that is not above the one before. -/
theorem exists_of_checkFields_error {e : SchemaError} (hvalid : ∀ f ∈ declared, f.Valid)
    (h : checkFields previous declared = .error e) :
    ∃ done f rest event before, declared = done ++ f :: rest ∧
      checkFields previous done = .ok () ∧ lastEvent previous done = some before ∧
      f.event = some event ∧ event ≤ before ∧ e = .eventOrder f.name event before := by
  induction declared generalizing previous with
  | nil => cases h
  | cons f rest ih =>
    obtain ⟨hf, hrest⟩ := List.forall_mem_cons.mp hvalid
    by_cases hafter : ∀ event ∈ f.event, ∀ before ∈ previous, before < event
    · have hcheck := checkField_of_lt hf hafter
      rw [checkFields, hcheck] at h
      obtain ⟨done, g, rest', event, before, rfl, hdone, hlast, hg, hle, rfl⟩ := ih hrest h
      refine ⟨f :: done, g, rest', event, before, rfl, ?_, ?_, hg, hle, rfl⟩
      · rw [checkFields, hcheck]
        exact hdone
      · rw [lastEvent_cons]
        exact hlast
    · push Not at hafter
      obtain ⟨event, he, before, hb, hle⟩ := hafter
      obtain rfl : previous = some before := hb
      have hcheck := checkField_of_le hf he hle
      rw [checkFields, hcheck] at h
      exact ⟨[], f, rest, event, before, rfl, rfl, rfl, he, hle, (Except.error.inj h).symm⟩

end Events

/-! ### Names -/

section Names

variable {seen : List String} {fields done rest : List Field} {f : Field}

/-- The search for a repeated name stops at the first field whose name was there before. -/
theorem exists_of_repeatedName? {name : String} (h : repeatedName? seen fields = some name) :
    ∃ done f rest, fields = done ++ f :: rest ∧ repeatedName? seen done = none ∧
      (f.name ∈ seen ∨ f.name ∈ done.map Field.name) ∧ name = f.name := by
  induction fields generalizing seen with
  | nil => cases h
  | cons f rest ih =>
    unfold repeatedName? at h
    by_cases hseen : f.name ∈ seen
    · rw [if_pos hseen] at h
      exact ⟨[], f, rest, rfl, rfl, Or.inl hseen, (Option.some.inj h).symm⟩
    · rw [if_neg hseen] at h
      obtain ⟨done, g, rest', rfl, hdone, hg, rfl⟩ := ih h
      refine ⟨f :: done, g, rest', rfl, ?_, ?_, rfl⟩
      · rw [repeatedName?, if_neg hseen]
        exact hdone
      · rcases hg with hg | hg
        · rcases List.mem_cons.mp hg with heq | hg
          · exact Or.inr (heq ▸ List.mem_cons_self)
          · exact Or.inl hg
        · exact Or.inr (List.mem_cons_of_mem _ hg)

theorem repeatedName?_append (hdone : repeatedName? seen done = none)
    (hf : f.name ∈ seen ∨ f.name ∈ done.map Field.name) :
    repeatedName? seen (done ++ f :: rest) = some f.name := by
  induction done generalizing seen with
  | nil =>
    rcases hf with hf | hf
    · exact if_pos hf
    · cases hf
  | cons g done ih =>
    unfold repeatedName? at hdone
    by_cases hseen : g.name ∈ seen
    · rw [if_pos hseen] at hdone
      cases hdone
    · rw [if_neg hseen] at hdone
      rw [List.cons_append, repeatedName?, if_neg hseen]
      refine ih hdone ?_
      rcases hf with hf | hf
      · exact Or.inl (List.mem_cons_of_mem _ hf)
      · rcases List.mem_cons.mp hf with heq | hf
        · exact Or.inl (heq ▸ List.mem_cons_self)
        · exact Or.inr hf

end Names

/-! ### Outcomes -/

/-- The events ascend in the order of the fields. -/
def EventsAscend (fields : List Field) : Prop := (fields.filterMap Field.event).Pairwise (· < ·)

def NamesDiffer (fields : List Field) : Prop := (fields.map Field.name).Nodup

/-- What building valid declarations answers. Each error has the conditions under which no
earlier check fails. -/
inductive Outcome (limits : SchemaLimits) (name : String) (declared : List Field) :
    Except SchemaError Schema → Prop
  | tooManyFields (count : limits.maxFields < declared.length) :
      Outcome limits name declared (.error (.tooManyFields declared.length limits.maxFields))
  /-- The event of `f` is the first that is not above the event declared last before it. -/
  | eventOrder {done rest : List Field} {f : Field} {event previous : Nat}
      (count : declared.length ≤ limits.maxFields) (split : declared = done ++ f :: rest)
      (ascend : EventsAscend done)
      (last : (done.filterMap Field.event).getLast? = some previous)
      (hf : f.event = some event) (notAbove : event ≤ previous) :
      Outcome limits name declared (.error (.eventOrder f.name event previous))
  /-- The name of `f` is the first in priority order that stands a second time. -/
  | duplicateField {done rest : List Field} {f : Field}
      (count : declared.length ≤ limits.maxFields) (ascend : EventsAscend declared)
      (split : inPriorityOrder declared = done ++ f :: rest) (differ : NamesDiffer done)
      (repeated : f.name ∈ done.map Field.name) :
      Outcome limits name declared (.error (.duplicateField f.name))
  | frameTooLarge (count : declared.length ≤ limits.maxFields) (ascend : EventsAscend declared)
      (differ : NamesDiffer declared)
      (long : limits.maxFrameSize < 2 + (declared.map Field.size).sum) :
      Outcome limits name declared
        (.error (.frameTooLarge (2 + (declared.map Field.size).sum) limits.maxFrameSize))
  | loaded (count : declared.length ≤ limits.maxFields) (ascend : EventsAscend declared)
      (differ : NamesDiffer declared)
      (short : 2 + (declared.map Field.size).sum ≤ limits.maxFrameSize) :
      Outcome limits name declared (.ok ⟨name, inPriorityOrder declared⟩)

section Build

variable {limits : SchemaLimits} {name : String} {declared : List Field}
  {result : Except SchemaError Schema}

theorem maxFrameLen_inPriorityOrder (name : String) (declared : List Field) :
    maxFrameLen ⟨name, inPriorityOrder declared⟩ = 2 + (declared.map Field.size).sum := by
  rw [maxFrameLen, totalSize_inPriorityOrder, totalSize_eq_sum]
  rfl

theorem namesDiffer_inPriorityOrder :
    NamesDiffer (inPriorityOrder declared) ↔ NamesDiffer declared :=
  ((inPriorityOrder_perm declared).map Field.name).nodup_iff

theorem repeatedName?_nil_eq_none_iff {fields : List Field} :
    repeatedName? [] fields = none ↔ NamesDiffer fields := by
  rw [repeatedName?_eq_none_iff, NamesDiffer]
  simp

theorem checkFields_none_eq_ok_iff (hvalid : ∀ f ∈ declared, f.Valid) :
    checkFields none declared = .ok () ↔ EventsAscend declared :=
  ⟨fun h => (checkFields_eq_ok h).2.1, fun h => checkFields_of_ascend hvalid h (by simp)⟩

/-- The answer whose conditions hold is the one that is given. -/
theorem Outcome.build_eq (hvalid : ∀ f ∈ declared, f.Valid)
    (h : Outcome limits name declared result) : build limits name declared = result := by
  unfold build
  cases h with
  | tooManyFields count => exact if_pos count
  | @eventOrder done rest f event previous count split ascend last hf notAbove =>
    subst split
    have hdone : ∀ g ∈ done, g.Valid := fun g hg => hvalid g (List.mem_append_left _ hg)
    have hcheck := (checkFields_none_eq_ok_iff hdone).mpr ascend
    have hlast : lastEvent none done = some previous := by rw [lastEvent, last, Option.some_or]
    rw [if_neg (Nat.not_lt.mpr count), checkFields_append hcheck, hlast, checkFields,
      checkField_of_le (hvalid f (by simp)) hf notAbove]
  | duplicateField count ascend split differ repeated =>
    rw [if_neg (Nat.not_lt.mpr count), (checkFields_none_eq_ok_iff hvalid).mpr ascend]
    dsimp only
    rw [split, repeatedName?_append (repeatedName?_nil_eq_none_iff.mpr differ) (Or.inr repeated)]
  | frameTooLarge count ascend differ long =>
    have hnames := repeatedName?_nil_eq_none_iff.mpr (namesDiffer_inPriorityOrder.mpr differ)
    rw [if_neg (Nat.not_lt.mpr count), (checkFields_none_eq_ok_iff hvalid).mpr ascend]
    dsimp only
    rw [hnames, maxFrameLen_inPriorityOrder]
    exact if_pos long
  | loaded count ascend differ short =>
    have hnames := repeatedName?_nil_eq_none_iff.mpr (namesDiffer_inPriorityOrder.mpr differ)
    rw [if_neg (Nat.not_lt.mpr count), (checkFields_none_eq_ok_iff hvalid).mpr ascend]
    dsimp only
    rw [hnames, maxFrameLen_inPriorityOrder]
    exact if_neg (Nat.not_lt.mpr short)

/-- One of the answers has its conditions. -/
theorem exists_outcome (limits : SchemaLimits) (name : String)
    (hvalid : ∀ f ∈ declared, f.Valid) : ∃ result, Outcome limits name declared result := by
  by_cases count : limits.maxFields < declared.length
  · exact ⟨_, .tooManyFields count⟩
  have count := Nat.not_lt.mp count
  cases hcheck : checkFields none declared with
  | error e =>
    obtain ⟨done, f, rest, event, before, split, hdone, hlast, hf, hle, -⟩ :=
      exists_of_checkFields_error hvalid hcheck
    have last : (done.filterMap Field.event).getLast? = some before := by
      rwa [lastEvent, Option.or_none] at hlast
    exact ⟨_, .eventOrder count split (checkFields_eq_ok hdone).2.1 last hf hle⟩
  | ok u =>
    have ascend : EventsAscend declared := (checkFields_eq_ok hcheck).2.1
    cases hnames : repeatedName? [] (inPriorityOrder declared) with
    | some repeated =>
      obtain ⟨done, f, rest, split, hdone, hf, -⟩ := exists_of_repeatedName? hnames
      have hmem : f.name ∈ done.map Field.name := hf.resolve_left List.not_mem_nil
      exact ⟨_, .duplicateField count ascend split (repeatedName?_nil_eq_none_iff.mp hdone) hmem⟩
    | none =>
      have differ := namesDiffer_inPriorityOrder.mp (repeatedName?_nil_eq_none_iff.mp hnames)
      by_cases long : limits.maxFrameSize < 2 + (declared.map Field.size).sum
      · exact ⟨_, .frameTooLarge count ascend differ long⟩
      · exact ⟨_, .loaded count ascend differ (Nat.not_lt.mp long)⟩

theorem build_eq_iff_outcome (hvalid : ∀ f ∈ declared, f.Valid) :
    build limits name declared = result ↔ Outcome limits name declared result := by
  refine ⟨fun h => ?_, Outcome.build_eq hvalid⟩
  obtain ⟨result', houtcome⟩ := exists_outcome limits name hvalid
  rwa [← h, houtcome.build_eq hvalid]

/-- A name that stands twice is not reported while an event is out of order. -/
example :
    let c := conditionalField "a" 3 (.unsigned .w8)
    let d := conditionalField "b" 3 (.unsigned .w8)
    build {} "mixed" [c, periodicField .fast "a" .single, d] = .error (.eventOrder "b" 3 3) := by
  decide +kernel

end Build

/-! ### Documents of the format -/

/-- The errors that a document of the format does not lead to. -/
def IsExcluded : SchemaError → Prop
  | .validationFailed => True
  | .emptyFieldName => True
  | .invalidEvent _ _ => True
  | .invalidQuantizer _ _ _ => True
  | _ => False

theorem Outcome.not_isExcluded {limits : SchemaLimits} {name : String} {declared : List Field}
    {e : SchemaError} (h : Outcome limits name declared (.error e)) :
    ¬ IsExcluded e ∧ e ≠ .invalidJson := by
  cases h <;> exact ⟨id, by simp⟩

/-- **Loading a document of the format fails only for the documented reasons.** It answers
`invalidJson` exactly if an event is whole but not written as a whole number; otherwise the
document declares some fields, and the answer is the one of their `Outcome`. -/
theorem ofText_outcome (limits : SchemaLimits) {text : String} {document : Json}
    (hparse : Json.parse text = some document) (hformat : Definition.hasFormat document = true) :
    (ofText limits text = .error .invalidJson ↔ Definition.SomeLooseEvent document) ∧
      (¬ Definition.SomeLooseEvent document → ∃ d, Definition.Declares document d ∧
        ∀ result, ofText limits text = result ↔ Outcome limits d.name d.fields result) ∧
      ∀ e, ofText limits text = .error e → ¬ IsExcluded e := by
  have hload : ofText limits text =
      (Definition.ofJson? document).elim (.error .invalidJson) fun d => d.build limits := by
    rw [ofText, hparse]
    refine (if_pos hformat).trans ?_
    cases Definition.ofJson? document <;> rfl
  by_cases hloose : Definition.SomeLooseEvent document
  · have hinvalid : ofText limits text = .error .invalidJson := by
      rw [hload, hloose.ofJson?_eq_none, Option.elim_none]
    refine ⟨iff_of_true hinvalid hloose, fun hstrict => absurd hloose hstrict, fun e he => ?_⟩
    obtain rfl := Except.error.inj (hinvalid.symm.trans he)
    exact id
  · obtain ⟨d, hdeclares, hvalid⟩ :=
      Definition.exists_declares (Json.parsed_of_parse hparse) hformat hloose
    have hiff : ∀ result, ofText limits text = result ↔
        Outcome limits d.name d.fields result := by
      intro result
      rw [hload, hdeclares.ofJson?_eq, Option.elim_some, Definition.build_of_valid limits hvalid,
        build_eq_iff_outcome hvalid]
    refine ⟨iff_of_false (fun h => ?_) hloose, fun _ => ⟨d, hdeclares, hiff⟩, fun e he => ?_⟩
    · exact ((hiff _).mp h).not_isExcluded.2 rfl
    · exact ((hiff _).mp he).not_isExcluded.1

/-- An event that is written with an exponent has the format, but it is not read. -/
theorem ofText_outcome_exponent :
    let alarm := "\x7b\"name\":\"alarm\",\"tier\":\"conditional\",\"event\":1e1," ++
      "\"kind\":\x7b\"type\":\"u8\"\x7d\x7d"
    let text := "\x7b\"name\":\"pump\",\"fields\":[" ++ alarm ++ "]\x7d"
    ∃ document, Json.parse text = some document ∧ Definition.hasFormat document = true ∧
      Definition.SomeLooseEvent document ∧ ofText {} text = .error .invalidJson := by
  intro alarm text
  have hformat : (Json.parse text).any Definition.hasFormat = true := by decide +kernel
  obtain ⟨document, hparse, hdocument⟩ := (Option.any_eq_true ..).mp hformat
  have hload : ofText {} text = .error .invalidJson := by decide +kernel
  exact ⟨document, hparse, hdocument, (ofText_outcome {} hparse hdocument).1.mp hload, hload⟩

end Telemetry.Schema
