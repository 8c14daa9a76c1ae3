import Telemetry.Proofs.Float.Order
import Telemetry.Proofs.Json.Parsed
import Telemetry.Proofs.Schema.Document
/-!
# Telemetry.Proofs.Schema.Format

**What a document of the format declares.** `Declares` says it part by part: the members that a
name, a tier, a kind and an event are taken from. Every declaration that a document of the format
makes is valid on its own, because a number that was parsed is finite and one that is above zero
stays above zero when it is rounded.

One thing has the format and declares nothing: an event that is whole but is not written as a
whole number (`IsLooseWhole`). The two sides are `exists_declares` and `ofJson?_eq_none`.
-/

namespace Telemetry.Definition

open Json (Parsed)

/-! ### Members -/

section Members

variable {key : String} {test : Json → Bool} {j : Json}

theorem has_iff : has key test j = true ↔ ∃ v, j.member? key = some v ∧ test v = true := by
  rw [has, Option.any_eq_true]

theorem mayHave_iff : mayHave key test j = true ↔ ∀ v, j.member? key = some v → test v = true := by
  rw [mayHave, Option.all_eq_true]

/-- The members of a value that was parsed were parsed. -/
theorem parsed_of_member? {depth : Nat} {v : Json} (h : Parsed depth j)
    (hv : j.member? key = some v) : ∃ depth', Parsed depth' v := by
  cases h with
  | @object depth members hkeys hmembers =>
    obtain ⟨before, after, rfl, -⟩ := List.lookup_eq_some_iff.mp hv
    exact ⟨depth, hmembers (key, v) (by simp)⟩
  | null | bool | number | string | array => cases hv

theorem eq_of_isText {s : String} (h : isText s j = true) : j = .string s := by
  cases j with
  | string t =>
    obtain rfl : s = t := by simpa [isText] using h
    rfl
  | null | bool | number | array | object => simp [isText] at h

theorem exists_of_isName (h : isName j = true) : ∃ s, j = .string s ∧ s ≠ "" := by
  cases j with
  | string s => exact ⟨s, rfl, by simpa [isName] using h⟩
  | null | bool | number | array | object => simp [isName] at h

theorem exists_of_isTierName (h : isTierName j = true) : ∃ t : Tier, j = .string t.name := by
  cases j with
  | string s =>
    obtain ⟨t, ht⟩ := Option.isSome_iff_exists.mp h
    have hfind : Tier.all.find? (fun t => t.name == s) = some t := ht
    have hname : t.name = s := by simpa using List.find?_some hfind
    exact ⟨t, by rw [hname]⟩
  | null | bool | number | array | object => simp [isTierName] at h

theorem exists_of_isRawName (h : isRawName j = true) : ∃ w : RawWidth, j = .string w.name := by
  cases j with
  | string s =>
    obtain ⟨w, hw⟩ := Option.isSome_iff_exists.mp h
    have hfind : RawWidth.all.find? (fun w => w.name == s) = some w := hw
    have hname : w.name = s := by simpa using List.find?_some hfind
    exact ⟨w, by rw [hname]⟩
  | null | bool | number | array | object => simp [isRawName] at h

end Members

/-! ### Numbers -/

section Numbers

variable {depth : Nat} {j : Json}

/-- Every number of a text is a finite one. -/
theorem exists_real?_of_isNumber (hparsed : Parsed depth j) (h : isNumber j = true) :
    ∃ x, real? j = some x ∧ x.isFinite = true := by
  cases hparsed with
  | @number _ n hn =>
    cases hn with
    | unsigned n =>
      refine ⟨_, rfl, Binary64.isFinite_ofInt ?_⟩
      have hlt := n.toNat_lt
      omega
    | @signed n hneg =>
      refine ⟨_, rfl, Binary64.isFinite_ofInt ?_⟩
      have hlow := n.le_toInt
      have hhigh := n.toInt_lt
      omega
    | real hfinite => exact ⟨_, rfl, hfinite⟩
  | null | bool | string | array | object => simp [isNumber] at h

theorem exists_real?_of_isPositiveNumber (hparsed : Parsed depth j)
    (h : isPositiveNumber j = true) :
    ∃ x, real? j = some x ∧ x.isFinite = true ∧ x.isPositive = true := by
  have hnumber : isNumber j = true := by
    cases j with
    | number n => rfl
    | null | bool | string | array | object => simp [isPositiveNumber] at h
  obtain ⟨x, hx, hfinite⟩ := exists_real?_of_isNumber hparsed hnumber
  refine ⟨x, hx, hfinite, ?_⟩
  cases hparsed with
  | @number _ n hn =>
    cases hn with
    | unsigned n =>
      have hne : n ≠ 0 := by simpa [isPositiveNumber] using h
      have hpos : 0 < n.toNat := Nat.pos_of_ne_zero fun hzero => hne (UInt64.toNat_inj.mp hzero)
      obtain rfl := Option.some.inj hx
      exact Binary64.isPositive_ofNat hpos
    | signed => simp [isPositiveNumber] at h
    | real =>
      obtain rfl := Option.some.inj hx
      exact h
  | null | bool | string | array | object => cases hx

/-- A whole number that is not written as one: with a fraction, with an exponent or as negative
zero. -/
def IsLooseWhole (j : Json) : Prop :=
  ∃ x, j = .number (.real x) ∧ ∃ n : Int, x.toInt = n * Binary64.one

/-- The events of the format are the whole numbers up to `maxEvent`, however they are written. -/
theorem eq_ofNat_or_isLooseWhole (h : isEventNumber j = true) :
    (∃ event ≤ maxEvent, j = Json.ofNat event) ∨ IsLooseWhole j := by
  cases j with
  | number n =>
    cases n with
    | unsigned n =>
      refine Or.inl ⟨n.toNat, of_decide_eq_true h, ?_⟩
      rw [Json.ofNat, UInt64.ofNat_toNat]
      rfl
    | signed n => simp [isEventNumber] at h
    | real x =>
      obtain ⟨n, -, hn⟩ := List.any_eq_true.mp h
      exact Or.inr ⟨x, rfl, n, eq_of_beq hn⟩
  | null | bool | string | array | object => simp [isEventNumber] at h

theorem IsLooseWhole.event?_eq_none (h : IsLooseWhole j) : event? j = none := by
  obtain ⟨x, rfl, -⟩ := h
  rfl

end Numbers

/-! ### Kinds -/

/-- The kind that a value declares. -/
inductive DeclaresKind (j : Json) : FieldKind → Prop
  | plain {k : FieldKind} (hk : k ∈ FieldKind.plain)
      (type : j.member? "type" = some (.string k.label)) : DeclaresKind j k
  | quantized {width : RawWidth} {scale bias : Binary64}
      (type : j.member? "type" = some (.string "quantized"))
      (raw : j.member? "raw" = some (.string width.name))
      (hscale : (j.member? "scale").bind real? = some scale)
      (hbias : (j.member? "bias").bind real? = some bias) :
      DeclaresKind j (.quantized width scale bias)

theorem DeclaresKind.kind?_eq {j : Json} {k : FieldKind} (h : DeclaresKind j k) :
    kind? j = some k := by
  cases h with
  | plain hk type =>
    obtain ⟨hlabel, hne⟩ := ofLabel?_label hk
    simp [kind?, type, text?, hlabel, hne]
  | quantized type raw hscale hbias =>
    simp [kind?, type, text?, raw, RawWidth.ofName?_name, hscale, hbias]

theorem exists_declaresKind {depth : Nat} {j : Json} (hparsed : Parsed depth j)
    (h : isKind j = true) : ∃ k, DeclaresKind j k ∧ k.IsUsable := by
  simp only [isKind, Bool.or_eq_true, Bool.and_eq_true, has_iff] at h
  rcases h with ⟨-, type, htype, hplain⟩ |
    ⟨⟨⟨⟨-, type, htype, hquantized⟩, raw, hraw, hname⟩, scale, hscale, hpositive⟩,
      bias, hbias, hnumber⟩
  · obtain ⟨k, hk, hlabel⟩ := List.any_eq_true.mp hplain
    obtain rfl := eq_of_isText hlabel
    refine ⟨k, .plain hk htype, ?_⟩
    -- only a quantized kind has anything that could be unusable
    cases k with
    | unsigned | signed | single | double => trivial
    | quantized => simp [FieldKind.plain] at hk
  · obtain rfl := eq_of_isText hquantized
    obtain ⟨width, rfl⟩ := exists_of_isRawName hname
    obtain ⟨_, hscaleParsed⟩ := parsed_of_member? hparsed hscale
    obtain ⟨_, hbiasParsed⟩ := parsed_of_member? hparsed hbias
    obtain ⟨x, hx, hxfinite, hxpositive⟩ := exists_real?_of_isPositiveNumber hscaleParsed hpositive
    obtain ⟨y, hy, hyfinite⟩ := exists_real?_of_isNumber hbiasParsed hnumber
    exact ⟨.quantized width x y,
      .quantized htype hraw (by rw [hscale, Option.bind_some, hx])
        (by rw [hbias, Option.bind_some, hy]),
      hxfinite, hxpositive, hyfinite⟩

/-! ### Fields -/

/-- The field that a value declares. An event is written as a whole number. -/
structure DeclaresField (j : Json) (f : Field) : Prop where
  name : j.member? "name" = some (.string f.name)
  tier : j.member? "tier" = some (.string f.tier.name)
  kind : ∃ k, j.member? "kind" = some k ∧ DeclaresKind k f.kind
  event : j.member? "event" = f.event.map Json.ofNat
  event_le : ∀ event ∈ f.event, event ≤ maxEvent

theorem DeclaresField.field?_eq {j : Json} {f : Field} (h : DeclaresField j f) :
    field? j = some f := by
  obtain ⟨k, hk, hkind⟩ := h.kind
  obtain ⟨name, tier, kind, event⟩ := f
  cases event with
  | none =>
    simp [field?, h.name, h.tier, hk, hkind.kind?_eq, h.event, text?, Tier.ofName?_name]
  | some event =>
    have hevent := (event?_ofNat (h.event_le event rfl)).1
    simp [field?, h.name, h.tier, hk, hkind.kind?_eq, h.event, text?, Tier.ofName?_name, hevent]

/-- The value has an event that is whole but not written as a whole number. -/
def HasLooseEvent (j : Json) : Prop := ∃ event, j.member? "event" = some event ∧ IsLooseWhole event

theorem HasLooseEvent.field?_eq_none {j : Json} (h : HasLooseEvent j) : field? j = none := by
  obtain ⟨event, hevent, hloose⟩ := h
  simp [field?, hevent, hloose.event?_eq_none]

theorem exists_declaresField {depth : Nat} {j : Json} (hparsed : Parsed depth j)
    (h : isField j = true) (hstrict : ¬ HasLooseEvent j) : ∃ f, DeclaresField j f ∧ f.Valid := by
  simp only [isField, Bool.and_eq_true, has_iff, mayHave_iff, beq_iff_eq] at h
  obtain ⟨⟨⟨⟨⟨-, n, hname, hn⟩, t, htier, ht⟩, k, hkind, hk⟩, hevent⟩, hplaced⟩ := h
  obtain ⟨name, rfl, hne⟩ := exists_of_isName hn
  obtain ⟨tier, rfl⟩ := exists_of_isTierName ht
  obtain ⟨_, hkparsed⟩ := parsed_of_member? hparsed hkind
  obtain ⟨kind, hdeclares, husable⟩ := exists_declaresKind hkparsed hk
  have hconditional : decide (tier = .conditional) = (j.member? "event").isSome := by
    rw [← isText_tier_name, ← hplaced, has, htier, Option.any_some]
  cases hmember : j.member? "event" with
  | none =>
    have hperiodic : tier ≠ .conditional := by simpa [hmember] using hconditional
    exact ⟨⟨name, tier, kind, none⟩,
      ⟨hname, htier, ⟨k, hkind, hdeclares⟩, hmember, fun _ he => by cases he⟩,
      ⟨hne, husable, hperiodic⟩⟩
  | some v =>
    have htier' : tier = .conditional := by simpa [hmember] using hconditional
    rcases eq_ofNat_or_isLooseWhole (hevent v hmember) with ⟨event, hle, rfl⟩ | hloose
    · exact ⟨⟨name, tier, kind, some event⟩,
        ⟨hname, htier, ⟨k, hkind, hdeclares⟩, hmember, fun _ he => by cases he; exact hle⟩,
        ⟨hne, husable, htier', hle⟩⟩
    · exact absurd ⟨v, hmember, hloose⟩ hstrict

/-! ### Documents -/

/-- The definition that a document declares. The fields stand in the order of their items. -/
structure Declares (document : Json) (d : Definition) : Prop where
  name : document.member? "name" = some (.string d.name)
  fields : ∃ items, document.member? "fields" = some (.array items) ∧
    List.Forall₂ DeclaresField items d.fields

theorem mapM_field?_of_forall₂ {items : List Json} {fields : List Field}
    (h : List.Forall₂ DeclaresField items fields) : items.mapM field? = some fields := by
  induction h with
  | nil => rfl
  | cons hfield _ ih =>
    rw [List.mapM_cons, hfield.field?_eq, ih]
    rfl

theorem Declares.ofJson?_eq {document : Json} {d : Definition} (h : Declares document d) :
    ofJson? document = some d := by
  obtain ⟨items, hitems, hfields⟩ := h.fields
  simp [ofJson?, h.name, hitems, text?, fields?, mapM_field?_of_forall₂ hfields]

/-- Some item of the field list has an event that is whole but not written as a whole number. -/
def SomeLooseEvent (document : Json) : Prop :=
  ∃ items, document.member? "fields" = some (.array items) ∧ ∃ item ∈ items, HasLooseEvent item

theorem mapM_eq_none {α β : Type} {g : α → Option β} {l : List α} {a : α} (ha : a ∈ l)
    (h : g a = none) : l.mapM g = none := by
  induction l with
  | nil => cases ha
  | cons b rest ih =>
    rw [List.mapM_cons]
    rcases List.mem_cons.mp ha with rfl | ha
    · rw [h]
      rfl
    · rw [ih ha]
      cases g b <;> rfl

theorem SomeLooseEvent.ofJson?_eq_none {document : Json} (h : SomeLooseEvent document) :
    ofJson? document = none := by
  obtain ⟨items, hitems, item, hitem, hloose⟩ := h
  simp [ofJson?, hitems, fields?, mapM_eq_none hitem hloose.field?_eq_none]

theorem exists_declares_items {items : List Json}
    (h : ∀ item ∈ items, ∃ f, DeclaresField item f ∧ f.Valid) :
    ∃ fields, List.Forall₂ DeclaresField items fields ∧ ∀ f ∈ fields, f.Valid := by
  induction items with
  | nil => exact ⟨[], .nil, by simp⟩
  | cons item rest ih =>
    obtain ⟨f, hf, hvalid⟩ := h item List.mem_cons_self
    obtain ⟨fields, hfields, hrest⟩ := ih fun item hitem => h item (List.mem_cons_of_mem _ hitem)
    exact ⟨f :: fields, .cons hf hfields, List.forall_mem_cons.mpr ⟨hvalid, hrest⟩⟩

/-- **A document of the format declares a definition of valid fields**, if its events are written
as whole numbers. -/
theorem exists_declares {depth : Nat} {document : Json} (hparsed : Parsed depth document)
    (hformat : hasFormat document = true) (hstrict : ¬ SomeLooseEvent document) :
    ∃ d, Declares document d ∧ ∀ f ∈ d.fields, f.Valid := by
  simp only [hasFormat, Bool.and_eq_true, has_iff] at hformat
  obtain ⟨⟨-, n, hname, hn⟩, list, hlist, hitems⟩ := hformat
  obtain ⟨name, rfl, -⟩ := exists_of_isName hn
  obtain ⟨_, hlistParsed⟩ := parsed_of_member? hparsed hlist
  cases hlistParsed with
  | @array depth items hitemsParsed =>
    have hall : ∀ item ∈ items, ∃ f, DeclaresField item f ∧ f.Valid := fun item hitem =>
      exists_declaresField (hitemsParsed item hitem) (List.all_eq_true.mp hitems item hitem)
        fun hloose => hstrict ⟨items, hlist, item, hitem, hloose⟩
    obtain ⟨fields, hfields, hvalid⟩ := exists_declares_items hall
    exact ⟨⟨name, fields⟩, ⟨hname, items, hlist, hfields⟩, hvalid⟩
  | null | bool | number | string | object => simp [isFieldList] at hitems

end Telemetry.Definition
