import Telemetry.Proofs.Json.RoundTrip
import Telemetry.Proofs.Schema.Building
import Telemetry.Schema.Definition
/-!
# Telemetry.Proofs.Schema.Document

**The definition document of a schema declares this schema again.** The writer leaves out what a
field has not, an event on a periodic field and the parameters of a plain kind, and the format
asks for exactly what is left. The fields are listed in priority order, which is an order that
they may be declared in and that building does not change.

The main statements are `loadsAgain_iff` for a schema that was built and `ofText_toText` for one
that was loaded.
-/

namespace Telemetry

/-! ### Building again -/

namespace Schema

variable {limits : SchemaLimits} {declared : List Field}

theorem inPriorityOrder_inPriorityOrder (declared : List Field) :
    inPriorityOrder (inPriorityOrder declared) = inPriorityOrder declared :=
  inPriorityOrder_of_pairwise (pairwise_inPriorityOrder declared)

/-- Declarations that pass every check pass them in priority order as well. -/
theorem Admissible.inPriorityOrder (h : Admissible limits declared) :
    Admissible limits (inPriorityOrder declared) :=
  h.of_perm (inPriorityOrder_perm declared).symm (filterMap_event_inPriorityOrder h.valid).symm

theorem Admissible.build_eq (h : Admissible limits declared) (name : String) :
    build limits name declared = .ok ⟨name, Schema.inPriorityOrder declared⟩ := by
  cases hbuild : build limits name declared with
  | error e => exact absurd (refusal_of_build hbuild) (h.not_refusal e)
  | ok s =>
    obtain ⟨-, -, -, -, rfl⟩ := build_inv hbuild
    rfl

/-- The check of the declarations one by one finds them valid and their events in order. -/
theorem Admissible.of_checkFields (hchecked : checkFields none declared = .ok ())
    (hcount : declared.length ≤ limits.maxFields) (hdiffer : (declared.map Field.name).Nodup)
    (hshort : headerSize + totalSize declared ≤ limits.maxFrameSize) :
    Admissible limits declared := by
  obtain ⟨hvalid, hevents, -⟩ := checkFields_eq_ok hchecked
  exact ⟨hcount, hvalid, hevents, hdiffer, hshort⟩

/-- A schema is built again from its own fields. -/
theorem build_fields {name : String} {s : Schema} (h : build limits name declared = .ok s) :
    build limits s.name s.fields = .ok s := by
  have hadmissible := (admissible_of_build h).inPriorityOrder
  obtain ⟨-, -, -, -, rfl⟩ := build_inv h
  rw [hadmissible.build_eq, inPriorityOrder_inPriorityOrder]

end Schema

namespace Definition

/-! ### The text of a document -/

open Json (Writable WritableNumber)

theorem writable_ofBinary64 {depth : Nat} (x : Binary64) : Writable depth (Json.ofBinary64 x) := by
  unfold Json.ofBinary64
  split
  · rename_i hx
    exact .number (.real hx)
  · exact .null

theorem writable_kindToJson {depth : Nat} (k : FieldKind) :
    Writable (depth + 1) (kindToJson k) := by
  unfold kindToJson
  split
  · refine .object fun member hmember => ?_
    simp only [List.mem_cons, List.not_mem_nil, or_false] at hmember
    rcases hmember with rfl | rfl | rfl | rfl
    · exact .string _
    · exact .string _
    · exact writable_ofBinary64 _
    · exact writable_ofBinary64 _
  · refine .object fun member hmember => ?_
    obtain rfl := List.mem_singleton.mp hmember
    exact .string _

theorem writable_fieldToJson {depth : Nat} (f : Field) :
    Writable (depth + 2) (fieldToJson f) := by
  unfold fieldToJson
  refine .object fun member hmember => ?_
  cases hevent : f.event <;>
    simp only [hevent, List.append_nil, List.cons_append, List.nil_append, List.mem_cons,
      List.not_mem_nil, or_false] at hmember
  · rcases hmember with rfl | rfl | rfl
    · exact .string _
    · exact .string _
    · exact writable_kindToJson _
  · rcases hmember with rfl | rfl | rfl | rfl
    · exact .string _
    · exact .string _
    · exact .number (.unsigned _)
    · exact writable_kindToJson _

theorem writable_toJson {depth : Nat} (d : Definition) : Writable (depth + 4) d.toJson := by
  unfold toJson
  refine .object fun member hmember => ?_
  simp only [List.mem_cons, List.not_mem_nil, or_false] at hmember
  rcases hmember with rfl | rfl
  · exact .string _
  · refine .array fun item hitem => ?_
    obtain ⟨f, -, rfl⟩ := List.mem_map.mp hitem
    exact writable_fieldToJson f

/-- The document is parsed with its members in the order of their keys. -/
theorem parse_text_toJson (d : Definition) : Json.parse d.toJson.text = some d.toJson.sorted :=
  Json.parse_text (writable_toJson d : Writable (123 + 4) d.toJson)

/-! ### Kinds -/

theorem mem_plain_or_eq_quantized (k : FieldKind) :
    k ∈ FieldKind.plain ∨ ∃ raw scale bias, k = .quantized raw scale bias := by
  cases k with
  | unsigned w | signed w =>
    left
    cases w <;> decide
  | single | double =>
    left
    decide
  | quantized raw scale bias => exact Or.inr ⟨raw, scale, bias, rfl⟩

theorem ofLabel?_label {k : FieldKind} (hk : k ∈ FieldKind.plain) :
    FieldKind.ofLabel? k.label = some k ∧ k.label ≠ "quantized" := by
  have hall : ∀ k ∈ FieldKind.plain,
      FieldKind.ofLabel? k.label = some k ∧ k.label ≠ "quantized" := by decide
  exact hall k hk

theorem sorted_kindToJson {k : FieldKind} (hk : k ∈ FieldKind.plain) :
    (kindToJson k).sorted = .object [("type", .string k.label)] := by
  unfold kindToJson
  split
  · simp [FieldKind.plain] at hk
  · rfl

theorem sorted_quantized {raw : RawWidth} {scale bias : Binary64} (h : IsUsableScale scale bias) :
    (kindToJson (.quantized raw scale bias)).sorted =
      .object [("bias", .number (.real bias)), ("raw", .string raw.name),
        ("scale", .number (.real scale)), ("type", .string "quantized")] := by
  obtain ⟨hscale, -, hbias⟩ := h
  simp (disch := decide) only [kindToJson, Json.sorted, Json.sortedMembers, Json.insertMember_nil,
    Json.insertMember_of_lt, Json.insertMember_of_not_lt, Json.ofBinary64, hscale, hbias,
    if_true]

/-- What is written for a kind has the format, and the kind is read from it. -/
theorem isKind_kindToJson {k : FieldKind} (hk : k.IsUsable) :
    isKind (kindToJson k).sorted = true := by
  rcases mem_plain_or_eq_quantized k with hplain | ⟨raw, scale, bias, rfl⟩
  · rw [sorted_kindToJson hplain]
    have hlabel : (FieldKind.plain.any fun l => isText l.label (.string k.label)) = true :=
      List.any_eq_true.mpr ⟨k, hplain, by simp [isText]⟩
    simp [isKind, hasOnlyKeys, has, Json.member?, hlabel]
  · rw [sorted_quantized hk]
    simp [isKind, hasOnlyKeys, has, Json.member?, isText, isRawName, isPositiveNumber, isNumber,
      RawWidth.ofName?_name, hk.2.1, List.lookup_cons]

theorem kind?_kindToJson {k : FieldKind} (hk : k.IsUsable) :
    kind? (kindToJson k).sorted = some k := by
  rcases mem_plain_or_eq_quantized k with hplain | ⟨raw, scale, bias, rfl⟩
  · obtain ⟨hlabel, hne⟩ := ofLabel?_label hplain
    rw [sorted_kindToJson hplain]
    simp [kind?, Json.member?, text?, hlabel, hne]
  · rw [sorted_quantized hk]
    simp [kind?, Json.member?, text?, real?, RawWidth.ofName?_name, List.lookup_cons]

/-! ### Fields -/

/-- The members of a field in the order of their keys. -/
theorem sorted_fieldToJson (f : Field) : (fieldToJson f).sorted =
    .object ((match f.event with
      | some event => [("event", Json.ofNat event)]
      | none => []) ++ [("kind", (kindToJson f.kind).sorted), ("name", .string f.name),
        ("tier", .string f.tier.name)]) := by
  unfold fieldToJson
  cases f.event with
  | none =>
    simp (disch := decide) only [List.append_nil, List.cons_append, List.nil_append, Json.sorted,
      Json.sortedMembers, Json.insertMember_nil, Json.insertMember_of_lt,
      Json.insertMember_of_not_lt]
  | some event =>
    simp (disch := decide) only [List.cons_append, List.nil_append, Json.ofNat, Json.ofUInt64,
      Json.sorted, Json.sortedMembers, Json.insertMember_nil, Json.insertMember_of_lt,
      Json.insertMember_of_not_lt]

/-- An event is a whole number of the format, and it is read as it was written. -/
theorem event?_ofNat {event : Nat} (h : event ≤ maxEvent) :
    event? (Json.ofNat event) = some event ∧ isEventNumber (Json.ofNat event) = true := by
  have hback : (UInt64.ofNat event).toNat = event := by
    unfold maxEvent at h
    rw [UInt64.toNat_ofNat']
    omega
  refine ⟨congrArg some hback, ?_⟩
  show decide ((UInt64.ofNat event).toNat ≤ maxEvent) = true
  rw [hback]
  exact decide_eq_true h

theorem isText_tier_name (t : Tier) :
    isText Tier.conditional.name (.string t.name) = decide (t = .conditional) := by
  cases t <;> decide

theorem isField_fieldToJson {f : Field} (hf : f.Valid) : isField (fieldToJson f).sorted = true := by
  have hkind := isKind_kindToJson hf.usable
  have hname := hf.named
  rw [sorted_fieldToJson]
  cases hevent : f.event with
  | none =>
    have htier : f.tier ≠ .conditional := by
      intro htier
      obtain ⟨event, hsome⟩ := hf.exists_event htier
      rw [hevent] at hsome
      cases hsome
    simp [isField, hasOnlyKeys, has, mayHave, Json.member?, List.lookup_cons, isName, isTierName,
      Tier.ofName?_name, hkind, hname, isText_tier_name, htier]
  | some event =>
    have htier := hf.tier_of_event hevent
    have hnumber := (event?_ofNat (hf.event_le hevent)).2
    simp [isField, hasOnlyKeys, has, mayHave, Json.member?, List.lookup_cons, isName, isTierName,
      Tier.ofName?_name, hkind, hname, isText_tier_name, htier, hnumber]

theorem field?_fieldToJson {f : Field} (hf : f.Valid) :
    field? (fieldToJson f).sorted = some f := by
  have hkind := kind?_kindToJson hf.usable
  rw [sorted_fieldToJson]
  obtain ⟨name, tier, kind, event⟩ := f
  cases event with
  | none =>
    simp [field?, Json.member?, List.lookup_cons, text?, hkind, Tier.ofName?_name]
  | some event =>
    have hevent := (event?_ofNat (hf.event_le rfl)).1
    simp [field?, Json.member?, List.lookup_cons, text?, hkind, Tier.ofName?_name, hevent]

/-! ### Documents -/

theorem sorted_toJson (d : Definition) : d.toJson.sorted =
    .object [("fields", .array (d.fields.map fun f => (fieldToJson f).sorted)),
      ("name", .string d.name)] := by
  have hitems : Json.sortedItems (d.fields.map fieldToJson) =
      d.fields.map fun f => (fieldToJson f).sorted := by
    rw [Json.sortedItems_eq_map, List.map_map]
    rfl
  simp (disch := decide) only [toJson, Json.sorted, Json.sortedMembers, Json.insertMember_nil,
    Json.insertMember_of_lt, hitems]

/-- What is written for fields that are valid has the format. -/
theorem hasFormat_toJson {d : Definition} (hname : d.name ≠ "")
    (hfields : ∀ f ∈ d.fields, f.Valid) : hasFormat d.toJson.sorted = true := by
  have hlist : isFieldList (.array (d.fields.map fun f => (fieldToJson f).sorted)) = true := by
    refine List.all_eq_true.mpr fun item hitem => ?_
    obtain ⟨f, hf, rfl⟩ := List.mem_map.mp hitem
    exact isField_fieldToJson (hfields f hf)
  rw [sorted_toJson]
  simp [hasFormat, hasOnlyKeys, has, Json.member?, List.lookup_cons, isName, hname, hlist]

theorem mapM_field? {fields : List Field} (h : ∀ f ∈ fields, f.Valid) :
    (fields.map fun f => (fieldToJson f).sorted).mapM field? = some fields := by
  induction fields with
  | nil => rfl
  | cons f rest ih =>
    have hrest := ih fun g hg => h g (List.mem_cons_of_mem f hg)
    rw [List.map_cons, List.mapM_cons, field?_fieldToJson (h f List.mem_cons_self), hrest]
    rfl

theorem ofJson?_toJson {d : Definition} (hfields : ∀ f ∈ d.fields, f.Valid) :
    ofJson? d.toJson.sorted = some d := by
  rw [sorted_toJson]
  simp [ofJson?, Json.member?, List.lookup_cons, text?, fields?, mapM_field? hfields]

/-- The name of a document of the format is not empty. -/
theorem name_ne_of_hasFormat {document : Json} {d : Definition}
    (hformat : hasFormat document = true) (h : ofJson? document = some d) : d.name ≠ "" := by
  have hname : has "name" isName document = true := by
    simp only [hasFormat, Bool.and_eq_true] at hformat
    exact hformat.1.2
  unfold has at hname
  unfold ofJson? at h
  cases hmember : document.member? "name" with
  | none => simp [hmember] at hname
  | some j =>
    rw [hmember] at hname h
    cases j with
    | string s =>
      have hne : s ≠ "" := by simpa [isName] using hname
      simp only [text?, Option.bind_eq_bind, Option.bind_some] at h
      obtain ⟨fields, -, hd⟩ := Option.bind_eq_some_iff.mp h
      obtain rfl := Option.some.inj hd
      exact hne
    | null | bool | number | array | object => simp [isName] at hname

/-- Fields that are valid have their events on conditional fields exactly. -/
theorem build_of_valid (limits : SchemaLimits) {d : Definition}
    (hfields : ∀ f ∈ d.fields, f.Valid) :
    d.build limits = Schema.build limits d.name d.fields := by
  have hnone : misplacedEvent? d.fields = none := by
    unfold misplacedEvent?
    rw [List.find?_eq_none]
    intro f hf
    have hiff := Schema.event_isSome_iff (hfields f hf)
    cases hsome : f.event.isSome with
    | true => simp [hiff.mp hsome]
    | false =>
      have hne : f.tier ≠ .conditional := fun htier => by simp [hiff.mpr htier] at hsome
      simp [hne]
  unfold build
  rw [hnone]

end Definition

/-! ### Writing and loading -/

namespace Schema

variable {limits : SchemaLimits} {s : Schema}

/-- A text is loaded exactly if it has the format and its fields are built. -/
theorem ofText_eq_ok_iff {text : String} : ofText limits text = .ok s ↔
    ∃ document d, Json.parse text = some document ∧ Definition.hasFormat document = true ∧
      Definition.ofJson? document = some d ∧ build limits d.name d.fields = .ok s := by
  constructor
  · intro h
    unfold ofText at h
    cases hparse : Json.parse text with
    | none => simp [hparse] at h
    | some document =>
      simp only [hparse, ofJson] at h
      by_cases hformat : Definition.hasFormat document = true
      · rw [if_pos hformat] at h
        cases hread : Definition.ofJson? document with
        | none => simp [hread] at h
        | some d =>
          simp only [hread, Definition.build] at h
          split at h
          · cases h
          · exact ⟨document, d, rfl, hformat, hread, h⟩
      · rw [if_neg hformat] at h
        cases h
  · rintro ⟨document, d, hparse, hformat, hread, hbuild⟩
    have hvalid := (admissible_of_build hbuild).valid
    simp only [ofText, ofJson, hparse, hformat, hread, if_true]
    rw [Definition.build_of_valid limits hvalid, hbuild]

/-- A schema with a name is loaded from its own text. -/
theorem ofText_toText_of_build {declared : List Field} {name : String} (hname : name ≠ "")
    (h : build limits name declared = .ok s) : ofText limits s.toText = .ok s := by
  have hagain := build_fields h
  have hvalid := (build_eq_ok h).valid
  have hsame : s.name ≠ "" := by
    obtain ⟨-, -, -, -, rfl⟩ := build_inv h
    exact hname
  exact ofText_eq_ok_iff.mpr ⟨_, _, Definition.parse_text_toJson _,
    Definition.hasFormat_toJson hsame hvalid, Definition.ofJson?_toJson hvalid, hagain⟩

/-- The text of a schema is a document of the format, and a schema is loaded from it. -/
def LoadsAgain (limits : SchemaLimits) (s : Schema) : Prop :=
  (∃ document, Json.parse s.toText = some document ∧ Definition.hasFormat document = true) ∧
    ∃ loaded, ofText limits s.toText = .ok loaded

/-- The format asks for the name of a schema, and of valid fields for nothing more. -/
theorem hasFormat_toDefinition_iff (hvalid : ∀ f ∈ s.fields, f.Valid) :
    Definition.hasFormat s.toDefinition.toJson.sorted = true ↔ s.name ≠ "" :=
  ⟨fun hformat => Definition.name_ne_of_hasFormat hformat (Definition.ofJson?_toJson hvalid),
    fun hname => Definition.hasFormat_toJson hname hvalid⟩

/-- **A schema that was built loads again exactly if it has a name.** Then it is the same schema
again; otherwise its text is refused by the format, which is the only check that `build` does not
make. -/
theorem loadsAgain_iff {declared : List Field} {name : String}
    (h : build limits name declared = .ok s) :
    (s.LoadsAgain limits ↔ s.name ≠ "") ∧
      (s.name ≠ "" → ofText limits s.toText = .ok s) ∧
      (s.name = "" → ofText limits s.toText = .error .validationFailed) := by
  have hparse : Json.parse s.toText = some s.toDefinition.toJson.sorted :=
    Definition.parse_text_toJson s.toDefinition
  have hformat := hasFormat_toDefinition_iff (build_eq_ok h).valid
  have hname : s.name = name := by
    obtain ⟨-, -, -, -, rfl⟩ := build_inv h
    rfl
  have hload : s.name ≠ "" → ofText limits s.toText = .ok s := fun hne =>
    ofText_toText_of_build (hname ▸ hne) h
  refine ⟨⟨?_, fun hne => ⟨⟨_, hparse, hformat.mpr hne⟩, s, hload hne⟩⟩, hload, ?_⟩
  · rintro ⟨⟨document, hdocument, hok⟩, -⟩
    obtain rfl := Option.some.inj (hparse.symm.trans hdocument)
    exact hformat.mp hok
  · intro hempty
    have hrefused : ¬ Definition.hasFormat s.toDefinition.toJson.sorted = true := fun hok =>
      hformat.mp hok hempty
    rw [ofText, hparse]
    exact if_neg hrefused

/-- The wheel board, whose fields are quantized and plain, periodic and conditional. -/
theorem loadsAgain_wheels :
    let s : Schema := ⟨"wheels", wheelsFields⟩
    build {} "wheels" wheelsFields = .ok s ∧ s.LoadsAgain {} ∧ ofText {} s.toText = .ok s := by
  intro s
  have hbuild : build {} "wheels" wheelsFields = .ok s :=
    build_of_pairwise (by decide +kernel) (by decide) (by decide +kernel) (by decide +kernel)
      (by decide +kernel)
  obtain ⟨hiff, hload, -⟩ := loadsAgain_iff hbuild
  exact ⟨hbuild, hiff.mpr (by decide), hload (by decide)⟩

/-- A schema with one field and no name is built, but its text is refused. -/
theorem not_loadsAgain_unnamed :
    ¬ ∀ (limits : SchemaLimits) (name : String) (declared : List Field) (s : Schema),
      build limits name declared = .ok s → s.LoadsAgain limits := by
  intro hall
  have hbuild : build {} "" [periodicField .fast "a" (.unsigned .w8)] =
      .ok ⟨"", [periodicField .fast "a" (.unsigned .w8)]⟩ :=
    build_of_pairwise (by decide) (by decide) (by decide) (by decide) (by decide)
  obtain ⟨-, loaded, hloaded⟩ := hall {} "" _ _ hbuild
  have hrefused : ofText {} (toText ⟨"", [periodicField .fast "a" (.unsigned .w8)]⟩) =
      .error .validationFailed := by decide +kernel
  rw [hrefused] at hloaded
  cases hloaded

/-- **A schema that was loaded is loaded again from the text that is written for it.** -/
theorem ofText_toText {text : String} (h : ofText limits text = .ok s) :
    ofText limits s.toText = .ok s := by
  obtain ⟨document, d, -, hformat, hread, hbuild⟩ := ofText_eq_ok_iff.mp h
  exact ofText_toText_of_build (Definition.name_ne_of_hasFormat hformat hread) hbuild

/-- The keys and the fields of a document may stand in another order than those of its schema, and
its numbers may be written in another way. -/
theorem ofText_toText_scenario :
    let alarm := "\x7b\"kind\":\x7b\"type\":\"u8\"\x7d,\"event\":3,\"tier\":\"conditional\"," ++
      "\"name\":\"alarm\"\x7d"
    let volts := "\x7b\"name\":\"volts\",\"tier\":\"fast\",\"kind\":\x7b\"type\":\"quantized\"," ++
      "\"raw\":\"u16\",\"scale\":1e2,\"bias\":-5\x7d\x7d"
    let text := "\x7b\"fields\": [" ++ alarm ++ ", " ++ volts ++ "], \"name\": \"pump\"\x7d"
    let s : Schema := ⟨"pump",
      [periodicField .fast "volts" (.quantized .w16 (Binary64.ofNat 100) (Binary64.ofInt (-5))),
        conditionalField "alarm" 3 (.unsigned .w8)]⟩
    ofText {} text = .ok s ∧ ofText {} s.toText = .ok s := by
  intro alarm volts text s
  let d : Definition := ⟨"pump", s.fields.reverse⟩
  have hread : (Json.parse text).any (fun document =>
      Definition.hasFormat document && (Definition.ofJson? document == some d)) = true := by
    decide +kernel
  obtain ⟨document, hparse, hdocument⟩ := (Option.any_eq_true ..).mp hread
  obtain ⟨hformat, hdefinition⟩ := Bool.and_eq_true_iff.mp hdocument
  have hadmissible : Admissible {} d.fields :=
    .of_checkFields (by decide +kernel) (by decide) (by decide +kernel) (by decide +kernel)
  have hbuild : build {} d.name d.fields = .ok s := by
    rw [hadmissible.build_eq, inPriorityOrder_eq]
    decide +kernel
  have hload : ofText {} text = .ok s :=
    ofText_eq_ok_iff.mpr ⟨document, d, hparse, hformat, eq_of_beq hdefinition, hbuild⟩
  exact ⟨hload, ofText_toText hload⟩

end Schema

end Telemetry
