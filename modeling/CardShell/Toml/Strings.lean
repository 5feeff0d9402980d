/-!
# Strings of a TOML document

Basic strings stand between double quotes and know escapes, literal strings
between single quotes and know none; tripled quotes let both run over several
lines.  Each reader starts behind the opening quotes and returns the content and
the text behind the closing ones, or nothing for a malformed string.
-/

namespace CardShell.Toml

/-- Whether a character may not stand in strings and comments: the control
characters other than the tab. -/
def isForbidden (character : Char) : Bool :=
  (character.toNat < 0x20 && character != '\t') || character.toNat == 0x7F

/-- The value of a hexadecimal digit. -/
def hexDigit? (character : Char) : Option Nat :=
  if character.isDigit then some (character.toNat - '0'.toNat)
  else if 'a' ≤ character && character ≤ 'f' then some (character.toNat - 'a'.toNat + 10)
  else if 'A' ≤ character && character ≤ 'F' then some (character.toNat - 'A'.toNat + 10)
  else none

/-- The character with a hexadecimal code point.  Surrogates and numbers beyond
the last code point stand for no character. -/
def codePoint? (digits : List Char) : Option Char := do
  let values ← digits.mapM hexDigit?
  let value := values.foldl (fun value digit => 16 * value + digit) 0
  if value.isValidChar then some (Char.ofNat value) else none

/-- The character of a one-letter escape. -/
def escape? : Char → Option Char
  | 'b' => some '\x08'
  | 't' => some '\t'
  | 'n' => some '\n'
  | 'f' => some '\x0c'
  | 'r' => some '\r'
  | '"' => some '"'
  | '\\' => some '\\'
  | _ => none

/-- Put a character in front of the content that was read. -/
def consContent (character : Char) (parts : Option (List Char × List Char)) :
    Option (List Char × List Char) :=
  parts.map fun parts => (character :: parts.1, parts.2)

/-- Read a basic string on one line. -/
def readBasic : List Char → Option (List Char × List Char)
  | [] => none
  | '"' :: rest => some ([], rest)
  | '\\' :: 'u' :: a :: b :: c :: d :: rest => do
      consContent (← codePoint? [a, b, c, d]) (readBasic rest)
  | '\\' :: 'U' :: a :: b :: c :: d :: e :: f :: g :: h :: rest => do
      consContent (← codePoint? [a, b, c, d, e, f, g, h]) (readBasic rest)
  | '\\' :: letter :: rest => do
      consContent (← escape? letter) (readBasic rest)
  | character :: rest =>
      if isForbidden character then none else consContent character (readBasic rest)

/-- Read a literal string on one line. -/
def readLiteral : List Char → Option (List Char × List Char)
  | [] => none
  | '\'' :: rest => some ([], rest)
  | character :: rest =>
      if isForbidden character then none else consContent character (readLiteral rest)

/-- Whether only spaces and tabs stand in front of the next line end. -/
def endsLine (text : List Char) : Bool :=
  match text.dropWhile fun character => character == ' ' || character == '\t' with
  | '\n' :: _ => true
  | '\r' :: '\n' :: _ => true
  | _ => false

/-- Read a basic string that may run over several lines.  Up to two quotes may
stand in front of the closing three, and a backslash at the end of a line takes
away the line end and the blanks behind it: while `skipping`, those are
dropped. -/
def readLongBasic (skipping : Bool) : List Char → Option (List Char × List Char)
  | [] => none
  | '"' :: '"' :: '"' :: '"' :: '"' :: rest => some (['"', '"'], rest)
  | '"' :: '"' :: '"' :: '"' :: rest => some (['"'], rest)
  | '"' :: '"' :: '"' :: rest => some ([], rest)
  | '\r' :: '\n' :: rest =>
      if skipping then readLongBasic true rest
      else consContent '\n' (readLongBasic false rest)
  | '\n' :: rest =>
      if skipping then readLongBasic true rest
      else consContent '\n' (readLongBasic false rest)
  | '\\' :: 'u' :: a :: b :: c :: d :: rest => do
      consContent (← codePoint? [a, b, c, d]) (readLongBasic false rest)
  | '\\' :: 'U' :: a :: b :: c :: d :: e :: f :: g :: h :: rest => do
      consContent (← codePoint? [a, b, c, d, e, f, g, h]) (readLongBasic false rest)
  | '\\' :: letter :: rest =>
      if endsLine (letter :: rest) then readLongBasic true rest
      else do
        consContent (← escape? letter) (readLongBasic false rest)
  | character :: rest =>
      if skipping && (character == ' ' || character == '\t') then readLongBasic true rest
      else if isForbidden character then none
      else consContent character (readLongBasic false rest)

/-- Read a literal string that may run over several lines. -/
def readLongLiteral : List Char → Option (List Char × List Char)
  | [] => none
  | '\'' :: '\'' :: '\'' :: '\'' :: '\'' :: rest => some (['\'', '\''], rest)
  | '\'' :: '\'' :: '\'' :: '\'' :: rest => some (['\''], rest)
  | '\'' :: '\'' :: '\'' :: rest => some ([], rest)
  | '\r' :: '\n' :: rest => consContent '\n' (readLongLiteral rest)
  | '\n' :: rest => consContent '\n' (readLongLiteral rest)
  | character :: rest =>
      if isForbidden character then none else consContent character (readLongLiteral rest)

/-- Drop the line end that directly follows the opening quotes of a long
string. -/
def dropFirstLineEnd : List Char → List Char
  | '\r' :: '\n' :: rest => rest
  | '\n' :: rest => rest
  | text => text

/-- Read a string of any kind, from its opening quotes on. -/
def readString : List Char → Option (List Char × List Char)
  | '"' :: '"' :: '"' :: rest => readLongBasic false (dropFirstLineEnd rest)
  | '\'' :: '\'' :: '\'' :: rest => readLongLiteral (dropFirstLineEnd rest)
  | '"' :: rest => readBasic rest
  | '\'' :: rest => readLiteral rest
  | _ => none

end CardShell.Toml
