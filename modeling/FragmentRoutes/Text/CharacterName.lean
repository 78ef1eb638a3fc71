/-
  Characters by their names.

  An escape may name a character in place of its code point.  Names are looked for in
  letters of either case.  The blocks that are listed are those of the European scripts and
  of common marks; a name of any other block is taken for an unknown one.
-/
import FragmentRoutes.Text.CharacterName.Blocks
import FragmentRoutes.Text.Ranges

namespace FragmentRoutes.Text

namespace CharacterName

/-- The words of a list of lines, each of which ends with a semicolon. -/
def wordsOf (lines : List String) : List String :=
  lines.flatMap fun line => (line.splitOn ";").dropLast

/-- The code point of a name in a block. -/
def Block.code? (block : Block) (name : String) : Option Nat :=
  ((wordsOf block.names).findIdx? (· == name)).map (block.first + ·)

/-- The number that digits of base sixteen spell. -/
def hexNumber (digits : String) : Nat :=
  digits.toList.foldl (fun n d =>
    16 * n + if isAsciiDigit d then d.toNat - 48 else d.toNat - 87) 0

/-- The code point of a word that is no name, when it stands for a character. -/
def otherCode? (word : String) : Option Nat :=
  (wordsOf otherWords).findSome? fun entry =>
    match entry.splitOn "=" with
    | [other, digits] => if other == word then some (hexNumber digits) else none
    | _ => none

/-- The code point of a name that is given in capitals. -/
def codeOfCapitals? (name : String) : Option Nat :=
  if name.isEmpty then none
  else (blocks.findSome? (·.code? name)).orElse fun _ => otherCode? name

end CharacterName

/-- The code point of the character of a name. -/
def codeNamed? (name : List Char) : Option Nat :=
  CharacterName.codeOfCapitals? (String.ofList (name.map upperAscii))

end FragmentRoutes.Text
