import Telemetry.Json.Basic
import Telemetry.Decimal.Basic
import Telemetry.Text.Hex
/-!
# Telemetry.Json.Reader

**Strict JSON text.** The reader accepts exactly one value with blanks around it:
no comments, no trailing commas, no raw controls in strings, no lone surrogate
escapes, no number past the largest binary64 number, and at most `maxDepth` arrays
and objects inside one another.

Every scanner takes what it reads off the front of the text and answers the rest.
`value` and its partners are recursive on a fuel that `parse` sets from the length
of the text: each call takes one unit, and no text needs more than two per character.
-/

namespace Telemetry.Json

/-- How many arrays and objects may be open at once. -/
def maxDepth : Nat := 127

def isBlank (c : Char) : Bool := c == ' ' || c == '\t' || c == '\n' || c == '\r'

def skipBlanks (cs : List Char) : List Char := cs.dropWhile isBlank

/-- Takes a fixed word off the front. -/
def expect : List Char → List Char → Option (List Char)
  | [], cs => some cs
  | w :: ws, c :: cs => if w = c then expect ws cs else none
  | _ :: _, [] => none

/-! ### Strings -/

/-- The value of four hexadecimal digits. -/
def hexUnit? (a b c d : Char) : Option Nat := do
  let a ← Text.Hex.digit? a
  let b ← Text.Hex.digit? b
  let c ← Text.Hex.digit? c
  let d ← Text.Hex.digit? d
  return ((a * 16 + b) * 16 + c) * 16 + d

def isHighSurrogate (n : Nat) : Bool := 0xD800 ≤ n && n ≤ 0xDBFF

def isLowSurrogate (n : Nat) : Bool := 0xDC00 ≤ n && n ≤ 0xDFFF

/-- The character that a one-letter escape stands for. -/
def shortEscape? : Char → Option Char
  | '"' => some '"'
  | '\\' => some '\\'
  | '/' => some '/'
  | 'b' => some '\x08'
  | 'f' => some '\x0c'
  | 'n' => some '\n'
  | 'r' => some '\r'
  | 't' => some '\t'
  | _ => none

/-- The characters up to the closing quote. A high surrogate escape must be followed
by a low one, and the two make one character. -/
def stringBody : List Char → Option (List Char × List Char)
  | '"' :: rest => some ([], rest)
  | '\\' :: 'u' :: a :: b :: c :: d :: rest =>
    match hexUnit? a b c d with
    | none => none
    | some high =>
      if isHighSurrogate high then
        match rest with
        | '\\' :: 'u' :: e :: f :: g :: h :: rest =>
          match hexUnit? e f g h with
          | none => none
          | some low =>
            if isLowSurrogate low then
              let code := 0x10000 + (high - 0xD800) * 0x400 + (low - 0xDC00)
              (stringBody rest).map fun (s, rest) => (Char.ofNat code :: s, rest)
            else none
        | _ => none
      else if isLowSurrogate high then none
      else (stringBody rest).map fun (s, rest) => (Char.ofNat high :: s, rest)
  | '\\' :: c :: rest =>
    match shortEscape? c with
    | none => none
    | some c => (stringBody rest).map fun (s, rest) => (c :: s, rest)
  | c :: rest =>
    if c = '\\' ∨ c.toNat < 0x20 then none
    else (stringBody rest).map fun (s, rest) => (c :: s, rest)
  | [] => none

/-! ### Numbers -/

/-- A whole number without fraction and exponent. A negative zero and everything that
does not fit 64 bits is read as a real number. -/
def wholeNumber (negative : Bool) (n : Nat) : Option JsonNumber :=
  if !negative && n < UInt64.size then some (.unsigned (UInt64.ofNat n))
  else if negative && 0 < n && 2 * n ≤ UInt64.size then some (.signed (Int64.ofInt (-(n : Int))))
  else
    let x := Decimal.toBinary64 negative ⟨n, 0⟩
    if x.isFinite then some (.real x) else none

/-- A number with a fraction or an exponent; none when it is too large. The reader is the
idealised one, which finds the nearest number in every case (`Decimal.toBinary64`): a text
that is written for a number then stands for this number again. -/
def realNumber (negative : Bool) (whole fraction : List Char) (exponent : Int) :
    Option JsonNumber :=
  let digits := Decimal.readDigits (Decimal.readDigits 0 whole) fraction
  let x := Decimal.toBinary64 negative ⟨digits, exponent - fraction.length⟩
  if x.isFinite then some (.real x) else none

/-- The digits after a point, which must be at least one; none of both without a point. -/
def fractionPart : List Char → Option (Option (List Char) × List Char)
  | '.' :: cs =>
    let digits := cs.takeWhile Char.isDigit
    if digits.isEmpty then none else some (some digits, cs.dropWhile Char.isDigit)
  | cs => some (none, cs)

def exponentSign : List Char → Bool × List Char
  | '-' :: cs => (true, cs)
  | '+' :: cs => (false, cs)
  | cs => (false, cs)

/-- The exponent after `e` or `E`, which must have at least one digit. -/
def exponentPart : List Char → Option (Option Int × List Char)
  | c :: cs =>
    if c = 'e' ∨ c = 'E' then
      let (negative, cs) := exponentSign cs
      let digits := cs.takeWhile Char.isDigit
      if digits.isEmpty then none
      else
        let n : Int := Decimal.readDigits 0 digits
        some (some (if negative then -n else n), cs.dropWhile Char.isDigit)
    else some (none, c :: cs)
  | [] => some (none, [])

/-- A number without its sign. The whole part has no leading zero. -/
def unsignedNumber (negative : Bool) (cs : List Char) : Option (JsonNumber × List Char) := do
  let whole := cs.takeWhile Char.isDigit
  if whole.isEmpty || (whole.head? == some '0' && whole.length ≠ 1) then none
  let (fraction, cs) ← fractionPart (cs.dropWhile Char.isDigit)
  let (exponent, cs) ← exponentPart cs
  -- the way a number is written decides its form, not its value
  let n ←
    if fraction.isNone && exponent.isNone then
      wholeNumber negative (Decimal.readDigits 0 whole)
    else realNumber negative whole (fraction.getD []) (exponent.getD 0)
  return (n, cs)

def scanNumber : List Char → Option (JsonNumber × List Char)
  | '-' :: cs => unsignedNumber true cs
  | cs => unsignedNumber false cs

/-! ### Values -/

mutual

/-- One value, blanks before it included. -/
def scanValue (fuel depth : Nat) (cs : List Char) : Option (Json × List Char) :=
  match fuel with
  | 0 => none
  | fuel + 1 =>
    match skipBlanks cs with
    | 'n' :: cs => (expect ['u', 'l', 'l'] cs).map (null, ·)
    | 't' :: cs => (expect ['r', 'u', 'e'] cs).map (bool true, ·)
    | 'f' :: cs => (expect ['a', 'l', 's', 'e'] cs).map (bool false, ·)
    | '"' :: cs => (stringBody cs).map fun (s, cs) => (string (String.ofList s), cs)
    | '[' :: cs =>
      match depth with
      | 0 => none
      | depth + 1 =>
        match skipBlanks cs with
        | ']' :: cs => some (array [], cs)
        | cs => (scanItems fuel depth cs).map fun (items, cs) => (array items, cs)
    | '\x7b' :: cs =>
      match depth with
      | 0 => none
      | depth + 1 =>
        match skipBlanks cs with
        | '\x7d' :: cs => some (object [], cs)
        | cs => (scanMembers fuel depth [] cs).map fun (members, cs) => (object members, cs)
    | cs => (scanNumber cs).map fun (n, cs) => (number n, cs)

/-- The items of an array from a value on, up to the closing bracket. -/
def scanItems (fuel depth : Nat) (cs : List Char) : Option (List Json × List Char) :=
  match fuel with
  | 0 => none
  | fuel + 1 =>
    match scanValue fuel depth cs with
    | none => none
    | some (item, cs) =>
      match skipBlanks cs with
      | ',' :: cs => (scanItems fuel depth cs).map fun (items, cs) => (item :: items, cs)
      | ']' :: cs => some ([item], cs)
      | _ => none

/-- The members of an object from a key on, up to the closing brace, put into those
already read. -/
def scanMembers (fuel depth : Nat) (members : List (String × Json)) (cs : List Char) :
    Option (List (String × Json) × List Char) :=
  match fuel with
  | 0 => none
  | fuel + 1 =>
    match skipBlanks cs with
    | '"' :: cs =>
      match stringBody cs with
      | none => none
      | some (key, cs) =>
        match skipBlanks cs with
        | ':' :: cs =>
          match scanValue fuel depth cs with
          | none => none
          | some (value, cs) =>
            let members := insertMember (String.ofList key) value members
            match skipBlanks cs with
            | ',' :: cs => scanMembers fuel depth members cs
            | '\x7d' :: cs => some (members, cs)
            | _ => none
        | _ => none
    | _ => none

end

/-- The value of a JSON text; none when the text is not JSON. -/
def parse (text : String) : Option Json :=
  let cs := text.toList
  match scanValue (2 * cs.length + 2) maxDepth cs with
  | some (value, rest) => if (skipBlanks rest).isEmpty then some value else none
  | none => none

end Telemetry.Json
