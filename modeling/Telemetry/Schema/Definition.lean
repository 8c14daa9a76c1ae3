import Telemetry.Schema.Builder
import Telemetry.Json.Reader
import Telemetry.Json.Writer
/-!
# Telemetry.Schema.Definition

**Definition documents**: schemas as JSON. A document names its fields in any tier
order; the format it must have is `hasFormat`, checked before anything is built.

A number counts as a whole number of the format also when it is written with a fraction
of zero or an exponent. An event written so has the format but is not a whole-number
literal, and reading the document fails on it.
-/

namespace Telemetry

/-- A schema as it is declared in a document: its name and its fields in the order they
are listed. -/
structure Definition where
  name : String
  fields : List Field
  deriving DecidableEq

namespace Definition

/-! ### Writing -/

def kindToJson (k : FieldKind) : Json :=
  match k with
  | .quantized raw scale bias =>
    .object [("type", .string "quantized"), ("raw", .string raw.name),
      ("scale", Json.ofBinary64 scale), ("bias", Json.ofBinary64 bias)]
  | k => .object [("type", .string k.label)]

def fieldToJson (f : Field) : Json :=
  let event := match f.event with
    | some event => [("event", Json.ofNat event)]
    | none => []
  .object ([("name", .string f.name), ("tier", .string f.tier.name)] ++ event
    ++ [("kind", kindToJson f.kind)])

def toJson (d : Definition) : Json :=
  .object [("name", .string d.name), ("fields", .array (d.fields.map fieldToJson))]

/-! ### The format -/

/-- The value is a text of at least one character. -/
def isName : Json → Bool
  | .string s => s != ""
  | _ => false

/-- The value is a whole number from `0` to `maxEvent`, however it is written. -/
def isEventNumber : Json → Bool
  | .number (.unsigned n) => n.toNat ≤ maxEvent
  | .number (.signed _) => false
  | .number (.real x) => (List.range (maxEvent + 1)).any fun e => x.toInt == e * Binary64.one
  | _ => false

def isTierName : Json → Bool
  | .string s => (Tier.ofName? s).isSome
  | _ => false

def isPositiveNumber : Json → Bool
  | .number (.unsigned n) => n != 0
  | .number (.signed _) => false
  | .number (.real x) => x.isPositive
  | _ => false

def isNumber : Json → Bool
  | .number _ => true
  | _ => false

def isRawName : Json → Bool
  | .string s => (RawWidth.ofName? s).isSome
  | _ => false

/-- The value is an object whose keys are all among `allowed`. -/
def hasOnlyKeys (allowed : List String) : Json → Bool
  | .object members => members.all fun (key, _) => allowed.contains key
  | _ => false

/-- The value has a member of this key, and the member passes the test. -/
def has (key : String) (test : Json → Bool) (j : Json) : Bool := (j.member? key).any test

/-- The value has no member of this key, or one that passes the test. -/
def mayHave (key : String) (test : Json → Bool) (j : Json) : Bool := (j.member? key).all test

def isText (s : String) : Json → Bool
  | .string t => s == t
  | _ => false

/-- A kind is a plain kind without parameters, or quantized with all three. -/
def isKind (j : Json) : Bool :=
  (hasOnlyKeys ["type"] j && has "type" (fun t => FieldKind.plain.any fun k => isText k.label t) j)
  || (hasOnlyKeys ["type", "raw", "scale", "bias"] j && has "type" (isText "quantized") j
    && has "raw" isRawName j && has "scale" isPositiveNumber j && has "bias" isNumber j)

/-- A field has an event exactly when its tier is the conditional one. -/
def isField (j : Json) : Bool :=
  hasOnlyKeys ["name", "tier", "event", "kind"] j && has "name" isName j
  && has "tier" isTierName j && has "kind" isKind j && mayHave "event" isEventNumber j
  && (has "tier" (isText Tier.conditional.name) j == (j.member? "event").isSome)

def isFieldList : Json → Bool
  | .array items => items.all isField
  | _ => false

/-- The value has the definition format. -/
def hasFormat (j : Json) : Bool :=
  hasOnlyKeys ["name", "fields"] j && has "name" isName j && has "fields" isFieldList j

/-! ### Reading -/

def text? : Json → Option String
  | .string s => some s
  | _ => none

/-- A number as a float; a whole number is converted to the nearest. -/
def real? : Json → Option Binary64
  | .number (.unsigned n) => some (Binary64.ofNat n.toNat)
  | .number (.signed n) => some (Binary64.ofInt n.toInt)
  | .number (.real x) => some x
  | _ => none

/-- An event as a whole-number literal. -/
def event? : Json → Option Nat
  | .number (.unsigned n) => some n.toNat
  | _ => none

def kind? (j : Json) : Option FieldKind := do
  let type ← j.member? "type" >>= text?
  if type = "quantized" then
    let raw ← j.member? "raw" >>= text? >>= RawWidth.ofName?
    let scale ← j.member? "scale" >>= real?
    let bias ← j.member? "bias" >>= real?
    return .quantized raw scale bias
  else FieldKind.ofLabel? type

def field? (j : Json) : Option Field := do
  let name ← j.member? "name" >>= text?
  let tier ← j.member? "tier" >>= text? >>= Tier.ofName?
  let kind ← j.member? "kind" >>= kind?
  match j.member? "event" with
  | none => return ⟨name, tier, kind, none⟩
  | some event => return ⟨name, tier, kind, some (← event? event)⟩

def fields? : Json → Option (List Field)
  | .array items => items.mapM field?
  | _ => none

/-- The definition that a document of the format holds; none when an event is not a
whole-number literal. -/
def ofJson? (j : Json) : Option Definition := do
  let name ← j.member? "name" >>= text?
  let fields ← j.member? "fields" >>= fields?
  return ⟨name, fields⟩

/-! ### Building -/

/-- The first field whose event does not suit its tier: a conditional field without an
event, or a periodic field with one. -/
def misplacedEvent? (fields : List Field) : Option Field :=
  fields.find? fun f => (f.tier == .conditional) != f.event.isSome

/-- The schema that a definition declares. That events stand on conditional fields
exactly is settled before any other check. -/
def build (limits : SchemaLimits) (d : Definition) : Except SchemaError Schema :=
  match misplacedEvent? d.fields with
  | some f => .error (.invalidEvent f.name f.event)
  | none => Schema.build limits d.name d.fields

end Definition

namespace Schema

/-- The definition of a schema lists its fields in priority order. -/
def toDefinition (s : Schema) : Definition := ⟨s.name, s.fields⟩

/-- The schema of a JSON document. -/
def ofJson (limits : SchemaLimits) (document : Json) : Except SchemaError Schema :=
  if Definition.hasFormat document then
    match Definition.ofJson? document with
    | some definition => definition.build limits
    | none => .error .invalidJson
  else .error .validationFailed

/-- The schema of a definition text. -/
def ofText (limits : SchemaLimits) (text : String) : Except SchemaError Schema :=
  match Json.parse text with
  | some document => ofJson limits document
  | none => .error .invalidJson

/-- The definition text of a schema. -/
def toText (s : Schema) : String := s.toDefinition.toJson.text

end Schema

end Telemetry
