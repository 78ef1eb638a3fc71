/-
  Quoted text.

  A text is quoted between single quotes, or between double quotes when it holds a
  single quote and no double one.  The quote and the backslash are escaped, line
  feed, return and tab have letters of their own, and every other character that
  is not shown as itself is written by its code point in two, four or eight
  hexadecimal digits.  Bytes are quoted alike after a `b`, where everything beyond
  printable ASCII is hidden.
-/
import FragmentRoutes.Text.Quoted.Ranges

namespace FragmentRoutes.Text

/-- The digits of `n` in base sixteen, at least `width` of them. -/
def hexDigits (width n : Nat) : List Char :=
  let ds := Nat.toDigits 16 n
  List.replicate (width - ds.length) '0' ++ ds

/-- Quoting writes the character as an escape by its code point. -/
def isHidden (c : Char) : Bool :=
  let n := c.toNat
  n < 32 || n == 127 || (128 ≤ n && Quoted.hiddenRanges.contains c)

/-- The code point of a character, in the shortest of three widths. -/
def escapeCode (c : Char) : List Char :=
  let n := c.toNat
  if n < 0x100 then ['\\', 'x'] ++ hexDigits 2 n
  else if n < 0x10000 then ['\\', 'u'] ++ hexDigits 4 n
  else ['\\', 'U'] ++ hexDigits 8 n

/-- One character between quotes of the kind `mark`. -/
def quoteChar (mark c : Char) : List Char :=
  if c == mark || c == '\\' then ['\\', c]
  else if c == '\n' then ['\\', 'n']
  else if c == '\r' then ['\\', 'r']
  else if c == '\t' then ['\\', 't']
  else if isHidden c then escapeCode c
  else [c]

/-- The quote that needs fewer escapes: double only for a text with a single
quote and no double one. -/
def quoteMark (cs : List Char) : Char :=
  if cs.contains '\'' && !cs.contains '"' then '"' else '\''

/-- The text between quotes, with escapes. -/
def quoteChars (cs : List Char) : List Char :=
  let mark := quoteMark cs
  mark :: (cs.flatMap (quoteChar mark) ++ [mark])

/-- The text between quotes, with escapes. -/
def quote (s : String) : String :=
  String.ofList (quoteChars s.toList)

/-- One byte between quotes of the kind `mark`. -/
def quoteByte (mark : Char) (b : UInt8) : List Char :=
  let c := Char.ofNat b.toNat
  if c == mark || c == '\\' then ['\\', c]
  else if c == '\n' then ['\\', 'n']
  else if c == '\r' then ['\\', 'r']
  else if c == '\t' then ['\\', 't']
  else if b < 32 || 127 ≤ b then ['\\', 'x'] ++ hexDigits 2 b.toNat
  else [c]

/-- Bytes between quotes, after a `b`. -/
def quoteBytes (bs : List UInt8) : String :=
  let mark := quoteMark (bs.map fun b => Char.ofNat b.toNat)
  String.ofList ('b' :: mark :: (bs.flatMap (quoteByte mark) ++ [mark]))

end FragmentRoutes.Text
