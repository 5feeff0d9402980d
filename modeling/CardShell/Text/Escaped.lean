/-!
# Escaped text

A text between double quotes in which quotes, backslashes and control
characters are written as escapes, so that it stays on one line.
-/

namespace CardShell.Text

/-- The lower-case hexadecimal digits of a number. -/
def hexDigits (value : Nat) : List Char :=
  Nat.toDigits 16 value

/-- Whether a character is a control character. -/
def isControl (character : Char) : Bool :=
  character.toNat < 0x20 || (0x7F ≤ character.toNat && character.toNat < 0xA0)

/-- The escape of one character, or the character itself. -/
def escapeChar (character : Char) : List Char :=
  match character with
  | '"' => ['\\', '"']
  | '\\' => ['\\', '\\']
  | '\n' => ['\\', 'n']
  | '\r' => ['\\', 'r']
  | '\t' => ['\\', 't']
  | '\x00' => ['\\', '0']
  | other =>
      if isControl other then ['\\', 'u', '\x7b'] ++ hexDigits other.toNat ++ ['\x7d']
      else [other]

/-- A text between double quotes, escaped. -/
def escaped (text : String) : String :=
  String.ofList ('"' :: (text.toList.flatMap escapeChar ++ ['"']))

end CardShell.Text
