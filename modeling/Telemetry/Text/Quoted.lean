import Telemetry.Text.Unprinted
/-!
# Telemetry.Text.Quoted

**Names in quotes**, as diagnostics show them: the quote, the backslash and the common
controls by their short escapes, every other unprinted character by its number.
-/

namespace Telemetry.Text

/-- The escape of a character by its code point, in lower-case hexadecimal. -/
def numberedEscape (c : Char) : List Char :=
  ['\\', 'u', '\x7b'] ++ Nat.toDigits 16 c.toNat ++ ['\x7d']

/-- A character as it stands inside quotes. -/
def quotedChar (c : Char) : List Char :=
  match c with
  | '\x00' => ['\\', '0']
  | '\t' => ['\\', 't']
  | '\r' => ['\\', 'r']
  | '\n' => ['\\', 'n']
  | '"' => ['\\', '"']
  | '\\' => ['\\', '\\']
  | c => if isUnprinted c then numberedEscape c else [c]

/-- The text in quotes. -/
def quoted (s : String) : String := String.ofList ('"' :: s.toList.flatMap quotedChar ++ ['"'])

end Telemetry.Text
