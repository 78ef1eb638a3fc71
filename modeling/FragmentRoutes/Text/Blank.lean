/-
  Blank characters, and the words of a text.

  Labels, form attributes and the lines of a table are cut at blanks.  A text is
  read as the list of its `words`, the maximal runs of characters that are not
  blank; stripping and collapsing are then two ways of putting words together.
-/
import FragmentRoutes.Text.Ranges

namespace FragmentRoutes.Text

/-- The twenty-nine characters of Unicode 14 that separate words: the ASCII
controls nine to thirteen and twenty-eight to thirty-one, the space, next line,
the no-break space and the other separators. -/
def isBlank (c : Char) : Bool :=
  let n := c.toNat
  (9 ≤ n && n ≤ 13) || (28 ≤ n && n ≤ 32) || n == 0x85 || n == 0xa0 || n == 0x1680 ||
    (0x2000 ≤ n && n ≤ 0x200a) || n == 0x2028 || n == 0x2029 || n == 0x202f || n == 0x205f ||
    n == 0x3000

/-- The characters left after leading and trailing blanks are dropped. -/
def stripChars (cs : List Char) : List Char :=
  ((cs.dropWhile isBlank).reverse.dropWhile isBlank).reverse

/-- The text without leading and trailing blanks. -/
def strip (s : String) : String :=
  String.ofList (stripChars s.toList)

/-- The maximal runs of characters that are not blank, in order; `run` holds the
characters of the run being read, last first. -/
def wordsFrom (run : List Char) : List Char → List (List Char)
  | [] => if run.isEmpty then [] else [run.reverse]
  | c :: cs =>
    if isBlank c then
      if run.isEmpty then wordsFrom [] cs else run.reverse :: wordsFrom [] cs
    else wordsFrom (c :: run) cs

/-- The words of a text: its maximal runs of characters that are not blank. -/
def words (cs : List Char) : List (List Char) :=
  wordsFrom [] cs

/-- Words put together with single spaces. -/
def unwords (ws : List (List Char)) : List Char :=
  [' '].intercalate ws

/-- The text with one space between its words and none around them. -/
def collapse (s : String) : String :=
  String.ofList (unwords (words s.toList))

end FragmentRoutes.Text
