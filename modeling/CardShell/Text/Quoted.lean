/-!
# Quoted names

A quoted name stands between two double quotes, and a double quote inside it is
written twice.  Reading a quoted name stops at the first quote that is not
doubled, so the name and what follows it are recovered as long as the
continuation does not start with a quote.
-/

namespace CardShell.Text

/-- Write every double quote twice. -/
def doubleQuotes : List Char → List Char
  | [] => []
  | character :: rest =>
      if character = '"' then '"' :: '"' :: doubleQuotes rest
      else character :: doubleQuotes rest

/-- A name between double quotes. -/
def quoteName (name : List Char) : List Char :=
  '"' :: (doubleQuotes name ++ ['"'])

/-- Read up to the first double quote that is not doubled: the name before it
and the text behind it. -/
def readQuotedBody : List Char → Option (List Char × List Char)
  | [] => none
  | '"' :: '"' :: rest =>
      (readQuotedBody rest).map fun parts => ('"' :: parts.1, parts.2)
  | '"' :: rest => some ([], rest)
  | character :: rest =>
      (readQuotedBody rest).map fun parts => (character :: parts.1, parts.2)

/-- Read a quoted name at the start of a text. -/
def readQuoted : List Char → Option (List Char × List Char)
  | '"' :: rest => readQuotedBody rest
  | _ => none

/-- The quoted form of a name, as a string. -/
def quoteString (name : String) : String :=
  String.ofList (quoteName name.toList)

end CardShell.Text
