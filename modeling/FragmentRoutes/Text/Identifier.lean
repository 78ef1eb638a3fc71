/-
  Identifiers and reserved words of the generated code.

  An identifier starts with a letter or an underscore and goes on with letters,
  digits, marks and underscores of any script.  A reserved word has the form of an
  identifier but cannot name anything.
-/
import FragmentRoutes.Text.Identifier.Ranges

namespace FragmentRoutes.Text

/-- The character may start an identifier. -/
def startsIdentifier (c : Char) : Bool :=
  isAsciiLetter c || c == '_' || (128 ≤ c.toNat && Identifier.startRanges.contains c)

/-- The character may stand in an identifier after the first place. -/
def continuesIdentifier (c : Char) : Bool :=
  startsIdentifier c || isAsciiDigit c || (128 ≤ c.toNat && Identifier.followRanges.contains c)

/-- The characters spell an identifier; a reserved word is one as well. -/
def isIdentifierChars : List Char → Bool
  | [] => false
  | c :: cs => startsIdentifier c && cs.all continuesIdentifier

/-- The text spells an identifier; a reserved word is one as well. -/
def isIdentifier (s : String) : Bool :=
  isIdentifierChars s.toList

/-- The words that have the form of an identifier but are part of the grammar. -/
def reservedWords : List String := [
  "False", "None", "True", "and", "as", "assert", "async", "await", "break", "class", "continue",
  "def", "del", "elif", "else", "except", "finally", "for", "from", "global", "if", "import", "in",
  "is", "lambda", "nonlocal", "not", "or", "pass", "raise", "return", "try", "while", "with",
  "yield"]

/-- The text is a reserved word. -/
def isReserved (s : String) : Bool :=
  reservedWords.contains s

/-- The text can name a variable of the generated code. -/
def isName (s : String) : Bool :=
  isIdentifier s && !isReserved s

end FragmentRoutes.Text
