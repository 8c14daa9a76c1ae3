import Telemetry.Float.Binary64
/-!
# Telemetry.FieldKind

**What a field holds and how it travels.** Whole numbers and plain floats travel as
their little-endian bytes. A quantized field is a float on both ends and travels as a
scaled and shifted unsigned number.
-/

namespace Telemetry

/-- The width of a whole-number field. -/
inductive IntWidth
  | w8
  | w16
  | w32
  | w64
  deriving DecidableEq

/-- The width of the unsigned number that a quantized float is packed into. -/
inductive RawWidth
  | w8
  | w16
  | w32
  deriving DecidableEq

def IntWidth.bytes : IntWidth → Nat
  | w8 => 1
  | w16 => 2
  | w32 => 4
  | w64 => 8

/-- How many numbers have this width. -/
def IntWidth.count : IntWidth → Nat
  | w8 => 0x100
  | w16 => 0x10000
  | w32 => 0x100000000
  | w64 => 0x10000000000000000

/-- How many of the numbers of this width are negative when it is signed. -/
def IntWidth.negatives (w : IntWidth) : Nat := w.count / 2

namespace RawWidth

def bytes : RawWidth → Nat
  | w8 => 1
  | w16 => 2
  | w32 => 4

/-- The largest raw number of this width. -/
def maxRaw : RawWidth → Nat
  | w8 => 0xff
  | w16 => 0xffff
  | w32 => 0xffffffff

/-- The name of the unsigned number type of this width. -/
def name : RawWidth → String
  | w8 => "u8"
  | w16 => "u16"
  | w32 => "u32"

def all : List RawWidth := [w8, w16, w32]

def ofName? (s : String) : Option RawWidth := all.find? fun w => w.name == s

theorem ofName?_name (w : RawWidth) : ofName? w.name = some w := by
  cases w <;> decide

end RawWidth

/-- The kind of a field. -/
inductive FieldKind
  | unsigned (width : IntWidth)
  | signed (width : IntWidth)
  | single
  | double
  | quantized (raw : RawWidth) (scale bias : Binary64)
  deriving DecidableEq

namespace FieldKind

/-- Bytes that a field of this kind takes in a frame. -/
def size : FieldKind → Nat
  | unsigned w => w.bytes
  | signed w => w.bytes
  | single => 4
  | double => 8
  | quantized raw _ _ => raw.bytes

def isFloat : FieldKind → Bool
  | single => true
  | double => true
  | quantized .. => true
  | _ => false

def isSigned : FieldKind → Bool
  | signed _ => true
  | _ => false

/-- The short name of a kind, such as `u16` or `q16`. -/
def label : FieldKind → String
  | unsigned .w8 => "u8"
  | unsigned .w16 => "u16"
  | unsigned .w32 => "u32"
  | unsigned .w64 => "u64"
  | signed .w8 => "i8"
  | signed .w16 => "i16"
  | signed .w32 => "i32"
  | signed .w64 => "i64"
  | single => "f32"
  | double => "f64"
  | quantized .w8 _ _ => "q8"
  | quantized .w16 _ _ => "q16"
  | quantized .w32 _ _ => "q32"

/-- The kinds that have no parameters. -/
def plain : List FieldKind :=
  [unsigned .w8, signed .w8, unsigned .w16, signed .w16, unsigned .w32, signed .w32,
    unsigned .w64, signed .w64, single, double]

/-- The parameterless kind of this label. -/
def ofLabel? (s : String) : Option FieldKind := plain.find? fun k => k.label == s

end FieldKind

end Telemetry
