/-
  Patterns for file names.

  A star stands for any characters, a question mark for one, and characters in square
  brackets for one of them or, after an exclamation mark, for one of the others.  A
  bracket that is never closed stands for itself.  Case counts, and a dot in front is
  a character like any other.
-/

namespace FragmentRoutes.Text

/-- A piece of a pattern for names. -/
inductive Glob where
  | char (c : Char)
  | any
  | star
  | oneOf (negated : Bool) (ranges : List (Char × Char))
  deriving DecidableEq, Repr

namespace Glob

/-- The ranges that the characters between brackets name.  A hyphen between two
characters makes a range of them; one whose ends are out of order is empty. -/
def ranges : List Char → List (Char × Char)
  | lo :: '-' :: hi :: cs => if lo ≤ hi then (lo, hi) :: ranges cs else ranges cs
  | c :: cs => (c, c) :: ranges cs
  | [] => []

/-- The characters up to the bracket that closes a set, and what follows it.  A
bracket at the very start belongs to the set. -/
def setBody : List Char → Option (List Char × List Char)
  | [] => none
  | c :: cs =>
    if cs.contains ']' then
      some (c :: cs.takeWhile (· != ']'), (cs.dropWhile (· != ']')).drop 1)
    else none

/-- A set that starts after a bracket, and what follows it. -/
def readSet (cs : List Char) : Option (Glob × List Char) :=
  match cs with
  | '!' :: rest => (setBody rest).map fun (body, after) => (.oneOf true (ranges body), after)
  | _ => (setBody cs).map fun (body, after) => (.oneOf false (ranges body), after)

/-- The pieces of a pattern; the bound is the number of its characters. -/
def piecesWithin : Nat → List Char → List Glob
  | 0, _ => []
  | _, [] => []
  | fuel + 1, c :: cs =>
    if c == '*' then .star :: piecesWithin fuel cs
    else if c == '?' then .any :: piecesWithin fuel cs
    else if c == '[' then
      match readSet cs with
      | some (set, rest) => set :: piecesWithin fuel rest
      | none => .char c :: piecesWithin fuel cs
    else .char c :: piecesWithin fuel cs

/-- The pieces of a pattern. -/
def pieces (pattern : List Char) : List Glob :=
  piecesWithin pattern.length pattern

/-- A piece other than a star stands for the character. -/
def accepts : Glob → Char → Bool
  | char d, c => c == d
  | any, _ => true
  | star, _ => true
  | oneOf negated ranges, c => negated != ranges.any fun (lo, hi) => lo ≤ c && c ≤ hi

/-- The characters are a name that the pieces stand for. -/
def admits : List Glob → List Char → Bool
  | [], cs => cs.isEmpty
  | .star :: gs, [] => admits gs []
  | .star :: gs, c :: cs => admits gs (c :: cs) || admits (.star :: gs) cs
  | _ :: _, [] => false
  | g :: gs, c :: cs => g.accepts c && admits gs cs
termination_by gs cs => gs.length + cs.length

/-- The name is one that the pattern stands for. -/
def isMatch (pattern name : String) : Bool :=
  admits (pieces pattern.toList) name.toList

end Glob

end FragmentRoutes.Text
