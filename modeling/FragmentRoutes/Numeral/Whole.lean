/-
  Whole numbers written in text.

  A whole number is an optional sign and decimal digits of any script, with
  single underscores allowed between digits and blanks allowed around the whole.
  More than `maxDigits` digits are refused.  The digits are read in two steps: the
  text is first brought to plain form (`plainChars`), where every digit is an ASCII
  digit and every blank beyond ASCII a space, and the plain form is then read.
-/
import FragmentRoutes.Text.Blank
import FragmentRoutes.Text.Digit

namespace FragmentRoutes.Numeral

open Text

/-- The longest run of digits that is read as a number. -/
def maxDigits : Nat := 4300

/-- The blanks of a numeral in plain form. -/
def isPlainBlank (c : Char) : Bool :=
  (9 ≤ c.toNat && c.toNat ≤ 13) || c == ' '

/-- A character beyond ASCII in plain form: a space for a blank, an ASCII digit for
a decimal digit, and a question mark, which no numeral holds, for all else. -/
def plainChar (c : Char) : Char :=
  if c.toNat < 127 then c
  else if isBlank c then ' '
  else match decimalValue? c with
    | some v => Char.ofNat (48 + v)
    | none => '?'

/-- The plain form of a numeral, without the blanks around it. -/
def plainChars (s : String) : List Char :=
  ((s.toList.map plainChar |>.dropWhile isPlainBlank).reverse.dropWhile isPlainBlank).reverse

/-- The digits of a run in which single underscores may stand between digits;
`some` only for a run that starts and ends with a digit. -/
def ungroupDigits : List Char → Option (List Char)
  | [] => none
  | [c] => if isAsciiDigit c then some [c] else none
  | c :: '_' :: cs => if isAsciiDigit c then (ungroupDigits cs).map (c :: ·) else none
  | c :: cs => if isAsciiDigit c then (ungroupDigits cs).map (c :: ·) else none

/-- The number that ASCII digits spell in base ten. -/
def ofDigits (ds : List Char) : Nat :=
  ds.foldl (fun n d => 10 * n + (d.toNat - 48)) 0

/-- A sign, when there is one, and the rest; `true` for a minus. -/
def splitSign : List Char → Bool × List Char
  | '-' :: cs => (true, cs)
  | '+' :: cs => (false, cs)
  | cs => (false, cs)

/-- The whole number that a text spells. -/
def readWhole? (s : String) : Option Int :=
  let (negative, cs) := splitSign (plainChars s)
  match ungroupDigits cs with
  | none => none
  | some ds =>
    if maxDigits < ds.length then none
    else if negative then some (-(Int.ofNat (ofDigits ds)))
    else some (Int.ofNat (ofDigits ds))

end FragmentRoutes.Numeral
