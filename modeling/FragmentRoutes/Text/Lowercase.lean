/-
  Small letters.

  Every capital of any script has one small letter, but for the I with a dot above, whose
  small form is an i and a mark, and the sigma, whose small form depends on its place: it
  is the final one after a letter when no letter follows.  Marks between the letters do
  not count.
-/
import FragmentRoutes.Text.Lowercase.Context
import FragmentRoutes.Text.Lowercase.Runs

namespace FragmentRoutes.Text

namespace Lowercase

/-- The entry of a run stands for the code point. -/
def inRun (n : Nat) (run : Nat × Nat × Nat × Nat) : Bool :=
  let (first, _, count, step) := run
  first ≤ n && n < first + count * step && (n - first) % step = 0

/-- The small form of a character on its own. -/
def letter (c : Char) : List Char :=
  if c.toNat < 128 then [lowerAscii c]
  else if c.toNat = 0x130 then ['i', '\u0307']
  else match runs.find? (inRun c.toNat) with
    | some (first, image, _, _) => [Char.ofNat (image + (c.toNat - first))]
    | none => [c]

/-- The first character that is not passed over is a letter with case. -/
def meetsLetter : List Char → Bool
  | [] => false
  | c :: cs =>
    if passedRanges.contains c then meetsLetter cs else casedRanges.contains c

/-- The small sigma between the characters before it, the nearest first, and those
after it. -/
def sigma (before after : List Char) : Char :=
  if meetsLetter before && !meetsLetter after then 'ς' else 'σ'

/-- The small forms of characters, where `before` are those in front of them, the
nearest first. -/
def lettersAfter (before : List Char) : List Char → List Char
  | [] => []
  | c :: cs =>
    if c == 'Σ' then sigma before cs :: lettersAfter (c :: before) cs
    else letter c ++ lettersAfter (c :: before) cs

end Lowercase

/-- The text in small letters. -/
def lowercase (s : String) : String :=
  String.ofList (Lowercase.lettersAfter [] s.toList)

end FragmentRoutes.Text
