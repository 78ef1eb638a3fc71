/-
  Style tags in printed texts.

  A text that is printed on a terminal may hold style tags: a bracket, a small letter or
  one of `#`, `/` and `@`, and all up to the closing bracket.  A tag after a backslash is
  shown as it is.  So a text falls into tags and pieces that are shown, and a renderer says
  what is seen of them.

  A closing tag names the tag that it closes, or none for the last one; when there is no
  such tag the text cannot be printed.  The `plain` renderer shows nothing of the tags and
  all that stands between them, save what terminals act on.
-/

namespace FragmentRoutes.Terminal

/-- The first character of a tag after the bracket. -/
def startsTag (c : Char) : Bool :=
  ('a' ≤ c && c ≤ 'z') || c == '#' || c == '/' || c == '@'

/-- The inside of a tag and what follows it, when the characters after a bracket are
those of a tag. -/
def splitTag? (cs : List Char) : Option (List Char × List Char) :=
  match cs with
  | [] => none
  | c :: _ =>
    let inside := cs.takeWhile fun d => d != ']' && d != '['
    match cs.dropWhile fun d => d != ']' && d != '[' with
    | ']' :: rest => if startsTag c then some (inside, rest) else none
    | _ => none

/-- A piece of a text: shown characters, or a tag. -/
inductive Span where
  | shown (cs : List Char)
  | tag (inside : List Char)
  deriving DecidableEq, Repr

/-- The pieces of a text; the bound is the number of its characters.  A backslash in front
of a bracket that starts no tag is not shown. -/
def spansWithin : Nat → List Char → List Span
  | _, [] => []
  | 0, cs => [.shown cs]
  | fuel + 1, c :: cs =>
    let slashes := (c :: cs).takeWhile (· == '\\')
    let found := match (c :: cs).dropWhile (· == '\\') with
      | '[' :: rest => splitTag? rest
      | _ => none
    match found with
    | none =>
      let kept := if c == '\\' && cs.head? == some '[' then [] else [c]
      .shown kept :: spansWithin fuel cs
    | some (inside, rest) =>
      let kept := Span.shown (List.replicate (slashes.length / 2) '\\')
      let piece := if slashes.length % 2 == 1 then Span.shown ('[' :: inside ++ [']'])
        else .tag inside
      kept :: piece :: spansWithin fuel rest

/-- The pieces of a text. -/
def spans (s : String) : List Span :=
  spansWithin s.toList.length s.toList

/-- The name of a tag: what stands before an equals sign, in small letters. -/
def tagName (inside : List Char) : List Char :=
  let name := inside.takeWhile (· != '=')
  let trimmed := ((name.dropWhile (· == ' ')).reverse.dropWhile (· == ' ')).reverse
  trimmed.map Char.toLower

/-- Names without the first that is equal to the given one, when there is one. -/
def closeNamed (name : List Char) : List (List Char) → Option (List (List Char))
  | [] => none
  | n :: ns => if n == name then some ns else (closeNamed name ns).map (n :: ·)

/-- The characters that are shown, given the names of the open tags, the last first. -/
def shownOf (opened : List (List Char)) : List Span → Option (List Char)
  | [] => some []
  | .shown cs :: rest => (shownOf opened rest).map (cs ++ ·)
  | .tag ('/' :: inside) :: rest =>
    match tagName inside, opened with
    | [], [] => none
    | [], _ :: others => shownOf others rest
    | name, opened => (closeNamed name opened).bind fun others => shownOf others rest
  | .tag inside :: rest => shownOf (tagName inside :: opened) rest

/-- A control that terminals act on, which is left out. -/
def isControl (c : Char) : Bool :=
  [7, 8, 11, 12, 13].contains c.toNat

/-! ### Renderers -/

/-- What is seen of the pieces of a text, when they can be printed.  The ends of lines that
a terminal puts in where a line is too long for it are not among the characters. -/
abbrev Renderer := List Span → Option (List Char)

namespace Renderer

/-- The text as it is seen, when it can be printed. -/
def print? (render : Renderer) (s : String) : Option String :=
  (render (spans s)).map String.ofList

/-- The renderer that knows tags by their names alone. -/
def plain : Renderer := fun spans =>
  (shownOf [] spans).map fun cs => cs.filter fun c => !isControl c

end Renderer

end FragmentRoutes.Terminal
