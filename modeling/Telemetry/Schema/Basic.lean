import Telemetry.Tier
import Telemetry.FieldKind
/-!
# Telemetry.Schema.Basic

**The field layout that both ends of a link share.** The fields stand in priority
order: every fast field, then the medium, slow and conditional ones. The position of a
field in this order is its index everywhere else.

A frame carries no names, so the layout alone says which bytes belong to which field;
everything here is computed from the list of fields.
-/

namespace Telemetry

/-- A named quantity. A conditional field is bound to the event that carries it. -/
structure Field where
  name : String
  tier : Tier
  kind : FieldKind
  event : Option Nat
  deriving DecidableEq

/-- Bytes that the field takes in a frame. -/
def Field.size (f : Field) : Nat := f.kind.size

/-- Bytes that some fields take together. -/
def totalSize : List Field → Nat
  | [] => 0
  | f :: rest => f.size + totalSize rest

theorem totalSize_append (l m : List Field) : totalSize (l ++ m) = totalSize l + totalSize m := by
  induction l with
  | nil => simp [totalSize]
  | cons f rest ih => rw [List.cons_append, totalSize, totalSize, ih, Nat.add_assoc]

/-- A run of indices, the end excluded. -/
structure Span where
  start : Nat
  stop : Nat
  deriving DecidableEq

/-- The indices of a span in ascending order. -/
def Span.indices (s : Span) : List Nat := List.range' s.start (s.stop - s.start)

theorem Span.mem_indices {s : Span} {i : Nat} : i ∈ s.indices ↔ s.start ≤ i ∧ i < s.stop := by
  rw [indices, List.mem_range'_1]
  omega

/-- A name and the fields in priority order. -/
structure Schema where
  name : String
  fields : List Field
  deriving DecidableEq

namespace Schema

def size (s : Schema) : Nat := s.fields.length

/-- The indices of a tier: as many fields stand before it as there are fields of higher
priority. -/
def span (s : Schema) (t : Tier) : Span where
  start := s.fields.countP fun f => f.tier.index < t.index
  stop := s.fields.countP fun f => f.tier.index ≤ t.index

/-- The fields of a tier in frame order. -/
def fieldsIn (s : Schema) (t : Tier) : List Field := s.fields.filter fun f => f.tier = t

/-- Bytes that the fields of a tier take together; of the conditional tier, with every
event present. -/
def tierSize (s : Schema) (t : Tier) : Nat := totalSize (s.fieldsIn t)

/-- The length of the frame that carries every field. -/
def maxFrameLen (s : Schema) : Nat := headerSize + totalSize s.fields

def indexOf? (s : Schema) (name : String) : Option Nat :=
  s.fields.findIdx? fun f => f.name == name

/-- The index of the conditional field bound to an event. -/
def conditionalIndex? (s : Schema) (event : Nat) : Option Nat :=
  (s.span .conditional).indices.find? fun i => (s.fields[i]?.bind Field.event) == some event

end Schema

/-- Limits on schemas and on the documents they are read from. -/
structure SchemaLimits where
  /-- The longest frame of the link. -/
  maxFrameSize : Nat := 251
  maxFields : Nat := 256
  /-- The longest definition file, in bytes. -/
  maxFileSize : Nat := 256 * 1024

end Telemetry
