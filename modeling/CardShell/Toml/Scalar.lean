import CardShell.Binary64
import CardShell.Text.Numeral

/-!
# Booleans, numbers and dates of a TOML document

Nothing is kept of these values, but they have to be well formed: integers fit
in a signed 64-bit word, floats are finite unless they are written otherwise,
dates and times lie within the calendar and the clock.
-/

namespace CardShell.Toml

/-- Whether a text consists of digits in which single underscores may stand
between two digits. -/
def isDigitRun (isDigit : Char → Bool) (text : List Char) : Bool :=
  (text.splitOn '_').all fun group => !group.isEmpty && group.all isDigit

/-- A text without underscores. -/
def withoutUnderscores (text : List Char) : List Char :=
  text.filter (· != '_')

/-- A text without a leading sign, and whether the sign was a minus. -/
def splitSign : List Char → Bool × List Char
  | '+' :: rest => (false, rest)
  | '-' :: rest => (true, rest)
  | text => (false, text)

/-- Whether digits form a decimal integer without sign: no leading zero. -/
def isDecimalBody (text : List Char) : Bool :=
  isDigitRun Char.isDigit text &&
    match text with
    | '0' :: _ :: _ => false
    | _ => true

/-- Whether a text is a decimal integer that fits in a signed 64-bit word. -/
def isDecimalInteger (text : List Char) : Bool :=
  isDecimalBody (splitSign text).2 && (Text.int64? (withoutUnderscores text)).isSome

/-- Whether a character is a hexadecimal digit. -/
def isHexDigit (character : Char) : Bool :=
  character.isDigit || ('a' ≤ character && character ≤ 'f') ||
    ('A' ≤ character && character ≤ 'F')

/-- The value of a digit of any base up to sixteen. -/
def digitValue (character : Char) : Nat :=
  if character.isDigit then character.toNat - '0'.toNat
  else if 'a' ≤ character then character.toNat - 'a'.toNat + 10
  else character.toNat - 'A'.toNat + 10

/-- Whether digits of a base form an integer that fits in a signed 64-bit
word. -/
def isBasedInteger (base : Nat) (isDigit : Char → Bool) (text : List Char) : Bool :=
  isDigitRun isDigit text &&
    Text.fitsInt64 ((withoutUnderscores text).foldl
      (fun value digit => base * value + digitValue digit) 0 : Nat)

/-- Whether a text is an integer in any notation. -/
def isInteger : List Char → Bool
  | '0' :: 'x' :: digits => isBasedInteger 16 isHexDigit digits
  | '0' :: 'o' :: digits =>
      isBasedInteger 8 (fun digit => '0' ≤ digit && digit ≤ '7') digits
  | '0' :: 'b' :: digits =>
      isBasedInteger 2 (fun digit => digit == '0' || digit == '1') digits
  | text => isDecimalInteger text

/-- The exponent behind a mark: a sign and digits, leading zeros allowed. -/
def exponent? (text : List Char) : Option Int :=
  let body := (splitSign text).2
  if isDigitRun Char.isDigit body then Text.integer? (withoutUnderscores text) else none

/-- Whether integer part, fraction and exponent, the latter two with their
marks or empty, form a float that does not overflow upwards. -/
def isFloatParts (whole fraction exponent : List Char) : Bool :=
  let (negative, body) := splitSign whole
  let fractionDigits? : Option (List Char) :=
    match fraction with
    | [] => some []
    | _ :: digits => if isDigitRun Char.isDigit digits then some digits else none
  let exponent? : Option Int :=
    match exponent with
    | [] => some 0
    | _ :: digits => exponent? digits
  match fractionDigits?, exponent? with
  | some fractionDigits, some exponent =>
      let fractionDigits := withoutUnderscores fractionDigits
      let digits := Nat.ofDigitChars 10 (withoutUnderscores body ++ fractionDigits) 0
      let scale := exponent - fractionDigits.length
      isDecimalBody body &&
        (negative || (Binary64.ofDecimal false digits scale).exponentField != 2047)
  | _, _ => false

/-- Whether a text is a float. -/
def isFloat (text : List Char) : Bool :=
  let body := String.ofList (splitSign text).2
  if body == "inf" || body == "nan" then true
  else
    let isMark (character : Char) : Bool := character == 'e' || character == 'E'
    let mantissa := text.takeWhile fun character => !isMark character
    let exponent := text.dropWhile fun character => !isMark character
    let whole := mantissa.takeWhile (· != '.')
    let fraction := mantissa.dropWhile (· != '.')
    !(fraction.isEmpty && exponent.isEmpty) && isFloatParts whole fraction exponent

/-- The value of a number of exactly this many digits. -/
def fixed? (length : Nat) (text : List Char) : Option Nat :=
  if text.length = length then Text.natural? text else none

/-- The number of days of a month. -/
def daysIn (year month : Nat) : Nat :=
  if month = 2 then
    if year % 4 = 0 && (year % 100 != 0 || year % 400 = 0) then 29 else 28
  else if [4, 6, 9, 11].contains month then 30
  else 31

/-- Whether a text is a date of the calendar. -/
def isDate (text : List Char) : Bool :=
  match text.splitOn '-' with
  | [year, month, day] =>
      match fixed? 4 year, fixed? 2 month, fixed? 2 day with
      | some year, some month, some day =>
          1 ≤ month && month ≤ 12 && 1 ≤ day && day ≤ daysIn year month
      | _, _, _ => false
  | _ => false

/-- Whether a text is an hour and a minute. -/
def isHourMinute (text : List Char) : Bool :=
  match text.splitOn ':' with
  | [hour, minute] =>
      match fixed? 2 hour, fixed? 2 minute with
      | some hour, some minute => hour ≤ 23 && minute ≤ 59
      | _, _ => false
  | _ => false

/-- Whether a text is a time of day.  A leap second is one. -/
def isTime (text : List Char) : Bool :=
  let seconds := text.drop 6
  let whole := seconds.takeWhile (· != '.')
  let fraction := seconds.dropWhile (· != '.')
  isHourMinute (text.take 5) && (text.drop 5).take 1 == [':'] &&
    ((fixed? 2 whole).any fun second => second ≤ 60) &&
    match fraction with
    | [] => true
    | _ :: digits => !digits.isEmpty && digits.all Char.isDigit

/-- Whether a text is a time of day with an offset. -/
def isOffsetTime (text : List Char) : Bool :=
  match text.getLast? with
  | some 'Z' | some 'z' => isTime text.dropLast
  | _ =>
      let split := text.length - 6
      match text.drop split with
      | sign :: offset =>
          (sign == '+' || sign == '-') && isHourMinute offset && isTime (text.take split)
      | [] => false

/-- Whether a text is a date, a time, or both joined by a mark. -/
def isDateTime (text : List Char) : Bool :=
  isDate text || isTime text ||
    (isDate (text.take 10) &&
      match text.drop 10 with
      | mark :: time =>
          (mark == 'T' || mark == 't' || mark == ' ') && (isTime time || isOffsetTime time)
      | [] => false)

/-- Whether a text is a boolean, a number, a date or a time. -/
def isScalar (text : List Char) : Bool :=
  text == "true".toList || text == "false".toList || isInteger text || isFloat text ||
    isDateTime text

/-- The characters of which these values consist. -/
def isScalarChar (character : Char) : Bool :=
  character.isAlphanum || ['+', '-', '_', '.', ':'].contains character

/-- Read a boolean, a number, a date or a time, and return what follows.  A date
and a time may be joined by a space. -/
def readScalar (text : List Char) : Option (List Char) :=
  let first := text.takeWhile isScalarChar
  let rest := text.dropWhile isScalarChar
  let joined :=
    match rest with
    | ' ' :: next => first ++ ' ' :: next.takeWhile isScalarChar
    | _ => []
  if isDate first && isDateTime joined then some (text.drop joined.length)
  else if isScalar first then some rest
  else none

end CardShell.Toml
