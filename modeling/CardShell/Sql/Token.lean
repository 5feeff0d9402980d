/-!
# Words and signs of statements

A statement is cut into lexemes by one pass over its characters.  The pass keeps
the lexeme that is being read; a character either belongs to it or ends it and
starts the next one, so a text that ends between two lexemes is cut in the same
way whatever follows.  Each lexeme knows the byte at which it starts.
-/

namespace CardShell.Sql

/-- The comparisons. -/
inductive Comparison where
  | equal
  | unequal
  | less
  | atMost
  | greater
  | atLeast
deriving DecidableEq, Repr

/-- What a lexeme is. -/
inductive Token where
  | word (text : String)
  | quoted (name : String)
  | number (text : String)
  | text (content : String)
  | blob (digits : String)
  | comparison (sign : Comparison)
  | openParen
  | closeParen
  | comma
  | dot
  | star
  | plus
  | minus
  | illegal
deriving DecidableEq, Repr

/-- A token with its spelling and the byte at which it starts. -/
structure Lexeme where
  token : Token
  spelling : String
  offset : Nat
deriving DecidableEq, Repr

/-- The kind of lexeme being read.  A quoted one is closed when its last
character was a quote, which another quote would double. -/
inductive Mode where
  | word
  | number
  | text (closed : Bool)
  | quoted (closed : Bool)
  | blob
  | sign
  | complete
deriving DecidableEq, Repr

/-- A lexeme being read, its characters in reverse. -/
structure Partial where
  mode : Mode
  reversed : List Char
  offset : Nat
deriving DecidableEq, Repr

/-- The state of the pass: the bytes read, the lexeme being read, and the
finished ones in reverse. -/
structure Scan where
  position : Nat
  current : Option Partial
  finished : List Lexeme
deriving DecidableEq, Repr

/-- The blanks between lexemes. -/
def isSpace (character : Char) : Bool :=
  [' ', '\t', '\n', '\x0c', '\r'].contains character

/-- The characters of words.  Every character beyond ASCII is one. -/
def isWordChar (character : Char) : Bool :=
  character.isAlphanum || character == '_' || character == '$' || 0x80 ≤ character.toNat

/-- Whether a character is an exponent mark. -/
def isExponentMark (character : Char) : Bool :=
  character == 'e' || character == 'E'

/-- The comparison or punctuation that a spelling is. -/
def signToken : List Char → Token
  | ['='] | ['=', '='] => .comparison .equal
  | ['!', '='] | ['<', '>'] => .comparison .unequal
  | ['<'] => .comparison .less
  | ['<', '='] => .comparison .atMost
  | ['>'] => .comparison .greater
  | ['>', '='] => .comparison .atLeast
  | ['('] => .openParen
  | [')'] => .closeParen
  | [','] => .comma
  | ['.'] => .dot
  | ['*'] => .star
  | ['+'] => .plus
  | ['-'] => .minus
  | _ => .illegal

/-- Whether digits, a fraction and an exponent make a number.  There is a digit on one side
of the point at least. -/
def isNumber (spelling : List Char) : Bool :=
  let mantissa := spelling.takeWhile fun character => !isExponentMark character
  let exponent := (spelling.dropWhile fun character => !isExponentMark character).drop 1
  let whole := mantissa.takeWhile (· != '.')
  let fraction := (mantissa.dropWhile (· != '.')).drop 1
  let digits :=
    match exponent with
    | '+' :: digits => digits
    | '-' :: digits => digits
    | digits => digits
  !(whole.isEmpty && fraction.isEmpty) && whole.all Char.isDigit && fraction.all Char.isDigit &&
    digits.all Char.isDigit && (!digits.isEmpty || !spelling.any isExponentMark)

/-- Whether a character is a hexadecimal digit. -/
def isHexDigit (character : Char) : Bool :=
  character.isDigit || ('a' ≤ character && character ≤ 'f') ||
    ('A' ≤ character && character ≤ 'F')

/-- Take one of two neighbouring quotes away. -/
def undouble (quote : Char) : List Char → List Char
  | first :: second :: rest =>
      if first = quote && second = quote then quote :: undouble quote rest
      else first :: undouble quote (second :: rest)
  | rest => rest

/-- The content between the quotes of a spelling. -/
def unquote (quote : Char) (spelling : List Char) : String :=
  String.ofList (undouble quote (spelling.drop 1).dropLast)

namespace Partial

/-- The characters in order. -/
def spelling (pending : Partial) : List Char :=
  pending.reversed.reverse

/-- The token of a lexeme that has ended. -/
def token (pending : Partial) : Token :=
  match pending.mode with
  | .word => .word (String.ofList pending.spelling)
  | .number =>
      if isNumber pending.spelling then .number (String.ofList pending.spelling) else .illegal
  | .text true => .text (unquote '\'' pending.spelling)
  | .quoted true => .quoted (unquote '"' pending.spelling)
  | .text false | .quoted false | .blob => .illegal
  | .sign => signToken pending.spelling
  | .complete =>
      let digits := (pending.spelling.drop 2).dropLast
      if digits.all isHexDigit && digits.length % 2 == 0 then .blob (String.ofList digits)
      else .illegal

/-- The lexeme that has ended. -/
def lexeme (pending : Partial) : Lexeme :=
  ⟨pending.token, String.ofList pending.spelling, pending.offset⟩

/-- The mode after one more character, or nothing when the character starts the
next lexeme. -/
def extendMode? (pending : Partial) (character : Char) : Option Mode :=
  match pending.mode with
  | .word =>
      if isWordChar character then some .word
      else if character = '\'' && (pending.reversed == ['x'] || pending.reversed == ['X']) then
        some .blob
      else none
  | .number =>
      let signed :=
        (character == '+' || character == '-') && (pending.reversed.take 1).any isExponentMark
      if isWordChar character || character == '.' || signed then some .number else none
  | .text closed =>
      if character = '\'' then some (.text !closed) else if closed then none else some (.text false)
  | .quoted closed =>
      if character = '"' then some (.quoted !closed)
      else if closed then none
      else some (.quoted false)
  | .blob => if character = '\'' then some .complete else some .blob
  | .sign =>
      if pending.reversed.length = 1 && signToken (pending.reversed ++ [character]) != .illegal then
        some .sign
      else none
  | .complete => none

/-- The mode that a first character starts. -/
def startMode (character : Char) : Mode :=
  if character.isDigit then .number
  else if isWordChar character && character != '$' then .word
  else if character = '\'' then .text false
  else if character = '"' then .quoted false
  else .sign

end Partial

namespace Scan

/-- Before the first character. -/
def start : Scan :=
  ⟨0, none, []⟩

/-- End the lexeme being read. -/
def flush (scan : Scan) : Scan :=
  match scan.current with
  | none => scan
  | some pending => { scan with current := none, finished := pending.lexeme :: scan.finished }

/-- Read a character outside of lexemes. -/
def begin (scan : Scan) (character : Char) : Scan :=
  { scan with
    position := scan.position + character.utf8Size
    current :=
      if isSpace character then none
      else some ⟨Partial.startMode character, [character], scan.position⟩ }

/-- Read one character. -/
def step (scan : Scan) (character : Char) : Scan :=
  match scan.current with
  | none => scan.begin character
  | some pending =>
      match pending.extendMode? character with
      | some mode =>
          { scan with
            position := scan.position + character.utf8Size
            current := some { pending with mode, reversed := character :: pending.reversed } }
      | none => scan.flush.begin character

end Scan

/-- The lexemes of a text, in order. -/
def lexemes (text : List Char) : List Lexeme :=
  (text.foldl Scan.step .start).flush.finished.reverse

end CardShell.Sql
