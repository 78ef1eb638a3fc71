/-
  Paths of routes and their segments.

  A path is a slash followed by segments with slashes between them.  A segment is a
  literal, a parameter `{n}`, or, in last place, a wildcard `{n...}` or the end mark
  `{$}`; a slash after the last segment opens the subtree below it.  A parameter is
  named like a variable of the generated code and must not take a name that the code
  binds itself.
-/
import FragmentRoutes.Text.Identifier
import FragmentRoutes.Text.Quoted

namespace FragmentRoutes.Route

/-- One segment of a path. -/
inductive Segment where
  | literal (text : String)
  | param (name : String)
  | wildcard (name : String)
  | finish
  deriving DecidableEq, Repr, Inhabited

namespace Segment

/-- The segment as it is written in a path. -/
def render : Segment → String
  | literal text => text
  | param name => "\x7b" ++ name ++ "\x7d"
  | wildcard name => "\x7b" ++ name ++ "...\x7d"
  | finish => "\x7b$\x7d"

/-- The name that a segment binds. -/
def bound? : Segment → Option String
  | param name => some name
  | wildcard name => some name
  | _ => none

end Segment

/-- Names that every handler binds and a call may use. -/
def argumentNames : List String := ["ctx", "request", "response", "form"]

/-- Names that the functions around the handlers bind. -/
def generatedNames : List String := ["receiver", "logger", "paths_prefix"]

namespace Path

/-- Why a text is not a path. -/
inductive Fault where
  | emptySegment
  | badSegment (part : String)
  | endNotLast
  | wildcardNotLast (name : String)
  | notIdentifier (name : String)
  | underscore (name : String)
  | self
  | taken (name : String)
  | repeated (name : String)
  deriving DecidableEq, Repr

/-! ### Names of parameters -/

/-- The first name of the list that may not name a parameter; `seen` are the names
before it. -/
def checkNamesFrom (seen : List String) : List String → Except Fault Unit
  | [] => .ok ()
  | name :: names =>
    if !Text.isName name then .error (.notIdentifier name)
    else if name.toList.head? = some '_' then .error (.underscore name)
    else if name = "self" then .error .self
    else if argumentNames.contains name || generatedNames.contains name then .error (.taken name)
    else if seen.contains name then .error (.repeated name)
    else checkNamesFrom (name :: seen) names

/-- Every name may name a parameter, and no two are equal. -/
def checkNames (names : List String) : Except Fault Unit :=
  checkNamesFrom [] names

/-! ### Segments -/

/-- The parts of a text between slashes; a text without a slash is one part. -/
def splitSlashes : List Char → List (List Char)
  | [] => [[]]
  | c :: cs =>
    if c = '/' then [] :: splitSlashes cs
    else match splitSlashes cs with
      | [] => [[c]]
      | part :: parts => (c :: part) :: parts

/-- The text between the braces of a part that is one pair of braces around a text
without braces.  A line feed after the closing brace is not looked at. -/
def braced? (part : List Char) : Option (List Char) :=
  let part := if part.getLast? = some '\n' then part.dropLast else part
  match part with
  | '{' :: rest =>
    let inner := rest.dropLast
    if rest.getLast? = some '}' && !inner.contains '{' && !inner.contains '}' then some inner
    else none
  | _ => none

/-- A name and whether three dots follow it. -/
def splitDots (inner : List Char) : List Char × Bool :=
  match inner.reverse with
  | '.' :: '.' :: '.' :: name => (name.reverse, true)
  | _ => (inner, false)

/-- The segment that a part of a path spells, none for the empty part after a final
slash; `last` tells whether it is the last part. -/
def parsePart (part : List Char) (last : Bool) : Except Fault (Option Segment) :=
  if part.isEmpty then if last then .ok none else .error .emptySegment
  else if !part.contains '{' && !part.contains '}' then .ok (some (.literal (String.ofList part)))
  else match braced? part with
    | none => .error (.badSegment (String.ofList part))
    | some inner =>
      let (name, dots) := splitDots inner
      if name = ['$'] then if last && !dots then .ok (some .finish) else .error .endNotLast
      else if dots then
        if last then .ok (some (.wildcard (String.ofList name)))
        else .error (.wildcardNotLast (String.ofList name))
      else .ok (some (.param (String.ofList name)))

/-- The segments that the parts of a path spell, in order. -/
def parseParts : List (List Char) → Except Fault (List Segment)
  | [] => .ok []
  | part :: parts => do
    let segment ← parsePart part parts.isEmpty
    let segments ← parseParts parts
    return segment.toList ++ segments

/-- The names that segments bind, in order. -/
def params (segments : List Segment) : List String :=
  segments.filterMap Segment.bound?

/-- The segments of a path; what stands before its first slash is not looked at. -/
def parse (path : List Char) : Except Fault (List Segment) := do
  let segments ← parseParts (splitSlashes path).tail
  checkNames (params segments)
  return segments

end Path

end FragmentRoutes.Route
