import Telemetry.Frame.Encoding
import Telemetry.Text.Quoted
/-!
# Telemetry.Store

**The current value of every field of a schema.** A slot owns its value or is linked to
a live source, which is read each time the value is needed.

Values are checked against the encoding of their field when they are set. What sources
yield is not checked until it is encoded; a source may also crash when it is read.
-/

namespace Telemetry

/-- What a live source does when it is read. -/
inductive Source
  | yields (r : Reading)
  | crashes
  deriving DecidableEq

/-- The live sources by name, as they are at one moment. -/
abbrev Sources := String → Source

/-- The place of one field. -/
inductive Slot
  | owned (r : Reading)
  | linked (source : String)
  deriving DecidableEq

/-- One slot for each field of the schema. -/
structure Store (schema : Schema) where
  slots : Vector Slot schema.fields.length
  deriving DecidableEq

namespace Store

variable {schema : Schema}

/-- Every field at its initial value. -/
def initial (schema : Schema) : Store schema :=
  ⟨⟨(schema.fields.map fun f => Slot.owned (Reading.initial f.kind)).toArray, by simp⟩⟩

/-- The initial store holds the initial value of every field. -/
theorem getElem?_slots_initial (schema : Schema) (i : Nat) :
    (initial schema).slots[i]? =
      (schema.fields[i]?).map fun f => Slot.owned (Reading.initial f.kind) := by
  simp [initial]

/-- The current value of a slot. -/
def readSlot (sources : Sources) : Slot → Except FrameError Reading
  | .owned r => .ok r
  | .linked source =>
    match sources source with
    | .yields r => .ok r
    | .crashes => .error .sourceCrashed

/-- The current value of a field; a linked one is read from its source. -/
def get (s : Store schema) (sources : Sources) (index : Nat) : Except FrameError Reading :=
  match s.slots[index]? with
  | some slot => readSlot sources slot
  | none => .error (.unknownField (toString index))

/-- The store with a value put into a field without a check. -/
def put (s : Store schema) (index : Nat) (r : Reading) : Store schema :=
  ⟨s.slots.setIfInBounds index (.owned r)⟩

/-- Putting a value into a field replaces its slot and no other. -/
theorem getElem?_slots_put (s : Store schema) (index : Nat) (r : Reading) (i : Nat) :
    (s.put index r).slots[i]? =
      if index = i then (if index < schema.fields.length then some (.owned r) else none)
      else s.slots[i]? := by
  simp [put, Vector.getElem?_setIfInBounds]

/-- Gives a field a value of its own. A value that its encoding refuses is not taken. -/
def set (s : Store schema) (index : Nat) (r : Reading) : Except FrameError (Store schema) :=
  match schema.fields[index]? with
  | none => .error (.unknownField (toString index))
  | some f =>
    match r.encode f with
    | .error e => .error e
    | .ok _ => .ok (s.put index r)

/-- Links a field to a live source. -/
def link (s : Store schema) (index : Nat) (source : String) :
    Except FrameError (Store schema) :=
  if index < schema.fields.length then
    .ok ⟨s.slots.setIfInBounds index (.linked source)⟩
  else .error (.unknownField (toString index))

def isLinked (s : Store schema) (index : Nat) : Bool :=
  match s.slots[index]? with
  | some (.linked _) => true
  | _ => false

/-- The index of a field name. -/
def index (schema : Schema) (name : String) : Except FrameError Nat :=
  match schema.indexOf? name with
  | some i => .ok i
  | none => .error (.unknownField name)

def getByName (s : Store schema) (sources : Sources) (name : String) :
    Except FrameError Reading :=
  match index schema name with
  | .ok i => s.get sources i
  | .error e => .error e

def setByName (s : Store schema) (name : String) (r : Reading) :
    Except FrameError (Store schema) :=
  match index schema name with
  | .ok i => s.set i r
  | .error e => .error e

/-- The text of a slot in diagnostics. The source of a linked one is not shown. -/
def slotText : Slot → String
  | .owned r => r.diagnostic
  | .linked _ => Text.quoted "<linked>"

/-- The names and values of the store, for diagnostics. -/
def diagnostic (s : Store schema) : String :=
  let entries := (schema.fields.zip s.slots.toList).map fun (f, slot) =>
    s!"{Text.quoted f.name}: {slotText slot}"
  "\x7b" ++ ", ".intercalate entries ++ "\x7d"

end Store

end Telemetry
