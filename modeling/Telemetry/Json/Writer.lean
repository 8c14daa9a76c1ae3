import Telemetry.Json.Basic
import Telemetry.Decimal.Layout
/-!
# Telemetry.Json.Writer

**Compact JSON text.** Members are written in the order they are held. In strings
the quote, the backslash and the controls below the space are escaped, and every
other character stands for itself. Numbers are written with the fewest digits that
read back; a real number always shows a fraction or an exponent, so that it reads
back as a real number.
-/

namespace Telemetry.Json

/-- Zero and `1e-5 ≤ |x| < 1e16` are positional; an exponent carries its sign. -/
def numberLayout : Layout where
  tie := .even
  positionalFrom := some (-5)
  positionalTo := some 15
  wholeFraction := true
  exponentPlus := true

/-- The lower-case hexadecimal digit of `n % 16`. -/
def hexDigit (n : Nat) : Char := Nat.digitChar (n % 16)

/-- A character as it stands inside quotes. -/
def escape (c : Char) : List Char :=
  match c with
  | '"' => ['\\', '"']
  | '\\' => ['\\', '\\']
  | '\x08' => ['\\', 'b']
  | '\x0c' => ['\\', 'f']
  | '\n' => ['\\', 'n']
  | '\r' => ['\\', 'r']
  | '\t' => ['\\', 't']
  | c =>
    if c.toNat < 0x20 then ['\\', 'u', '0', '0', hexDigit (c.toNat / 16), hexDigit c.toNat]
    else [c]

def quote (s : String) : List Char := '"' :: s.toList.flatMap escape ++ ['"']

def renderNumber : JsonNumber → List Char
  | .unsigned n => Nat.toDigits 10 n.toNat
  | .signed n => (toString n.toInt).toList
  | .real x => (numberLayout.text x).toList

/-- The texts of the items of a list, with a comma between neighbours. -/
def commaSeparated : List (List Char) → List Char
  | [] => []
  | [text] => text
  | text :: rest => text ++ ',' :: commaSeparated rest

mutual

def render : Json → List Char
  | null => "null".toList
  | bool true => "true".toList
  | bool false => "false".toList
  | number n => renderNumber n
  | string s => quote s
  | array items => '[' :: commaSeparated (renderItems items) ++ [']']
  | object members => '\x7b' :: commaSeparated (renderMembers members) ++ ['\x7d']

def renderItems : List Json → List (List Char)
  | [] => []
  | item :: rest => render item :: renderItems rest

def renderMembers : List (String × Json) → List (List Char)
  | [] => []
  | (key, value) :: rest => (quote key ++ ':' :: render value) :: renderMembers rest

end

/-- The compact text of a value. -/
def text (j : Json) : String := String.ofList (render j)

end Telemetry.Json
