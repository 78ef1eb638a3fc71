/-
  Names for routes.

  A text is cut into words at changes of case, digits and every other character; the
  words put together with capitals, or with underscores, give an identifier.  A route
  is named for its callee when no other route has it, else for its method and path.
  Equal names get a number in the order of the definitions (`allocate`).
-/
import FragmentRoutes.Definition

namespace FragmentRoutes.Naming

open Text

/-! ### Words of an identifier -/

/-- A capital ASCII letter. -/
def isCapital (c : Char) : Bool :=
  'A' ≤ c && c ≤ 'Z'

/-- A small ASCII letter. -/
def isSmall (c : Char) : Bool :=
  'a' ≤ c && c ≤ 'z'

/-- The word at the start of a text, and what follows it: capitals up to the one that
starts the next word, a capital or none with small letters, or digits. -/
def splitWord (cs : List Char) : List Char × List Char :=
  let capitals := cs.takeWhile isCapital
  let rest := cs.dropWhile isCapital
  let small := rest.takeWhile isSmall
  if small.isEmpty then
    if capitals.isEmpty then (cs.takeWhile isAsciiDigit, cs.dropWhile isAsciiDigit)
    else (capitals, rest)
  else if 2 ≤ capitals.length then
    (capitals.dropLast, cs.drop (capitals.length - 1))
  else (capitals ++ small, rest.dropWhile isSmall)

/-- The words of a text; the bound is the number of steps, at most one for each
character. -/
def wordsWithin : Nat → List Char → List (List Char)
  | 0, _ => []
  | _, [] => []
  | fuel + 1, c :: cs =>
    let (word, rest) := splitWord (c :: cs)
    if word.isEmpty then wordsWithin fuel cs else word :: wordsWithin fuel rest

/-- The words of a text: its runs of letters and digits, cut before a capital that
small letters follow and between letters and digits. -/
def words (s : String) : List (List Char) :=
  wordsWithin s.toList.length s.toList

/-- A word with its first letter capital. -/
def capitalized : List Char → List Char
  | [] => []
  | c :: cs => upperAscii c :: cs

/-- The words of a text with capitals and nothing between them. -/
def pascalCase (s : String) : String :=
  String.ofList ((words s).map capitalized).flatten

/-- The words of a text in small letters with underscores between them. -/
def snakeCase (s : String) : String :=
  "_".intercalate ((words s).map fun w => String.ofList (w.map lowerAscii))

/-! ### Groups -/

/-- The name of a file without what follows its last dot.  Dots in front do not
count as that dot. -/
def stem (group : String) : String :=
  let cs := group.toList
  if (cs.dropWhile (· == '.')).contains '.' then
    String.ofList ((cs.reverse.dropWhile (· != '.')).drop 1).reverse
  else group

/-- The identifier of a group, which starts with a letter; empty for the routes that
belong to no group. -/
def groupIdentifier (group : String) : String :=
  let ident := snakeCase (stem group)
  match ident.toList.head? with
  | some c => if isAsciiDigit c then "t" ++ ident else ident
  | none => ""

/-! ### Routes -/

/-- What a method does to the thing that the path names. -/
def verb : Route.Method → String
  | .get => "Read"
  | .post => "Create"
  | .put => "Replace"
  | .patch => "Update"
  | .delete => "Delete"

/-- A text without the dots at its end. -/
def dropLastDots (s : String) : String :=
  String.ofList (s.toList.reverse.dropWhile (· == '.')).reverse

/-- The part of a name that a segment stands for in its place. -/
def segmentName : Route.Segment → String
  | .literal text => pascalCase (dropLastDots text)
  | .finish => "Index"
  | _ => ""

/-- The names of parameters as a name ends in them, the last after `And`. -/
def parameterNames (params : List String) : List String :=
  match params.map pascalCase with
  | [] => []
  | [p] => ["By", p]
  | ps => "By" :: (ps.dropLast ++ ["And" ++ ps.getLastD ""])

/-- The name of a route from its label alone, such as `ReadUserById`. -/
def routeIdentifier (label : Route.Label) : String :=
  let front := match label.method with
    | some m => verb m
    | none => ""
  let host := pascalCase label.host
  let path := if label.path = "/" then "Index" else String.join (label.segments.map segmentName)
  let params := if label.path = "/" then [] else parameterNames label.params
  let ident := front ++ host ++ path ++ String.join params
  match ident.toList.head? with
  | none => "Index"
  | some c => if isAsciiDigit c then "Route" ++ ident else ident

/-! ### Allocation -/

/-- The name that a definition asks for: its callee when no other definition has it,
the name of its route before `Calling` and the callee when another has, and the name
of its route when it has no call. -/
def proposed (definitions : List Definition) (d : Definition) : String :=
  match d.call with
  | none => routeIdentifier d.label
  | some call =>
    let shares := fun (e : Definition) => (e.call.map (·.callee)) == some call.callee
    if 1 < definitions.countP shares then
      routeIdentifier d.label ++ "Calling" ++ call.callee
    else call.callee

/-- The first of `name` with the numbers `n`, `n + 1`, … that is not taken; a list of
`fuel` names cannot take more than `fuel` of them. -/
def numbered (taken : List String) (name : String) (n : Nat) : Nat → String
  | 0 => name ++ toString n
  | fuel + 1 =>
    let candidate := name ++ toString n
    if taken.contains candidate then numbered taken name (n + 1) fuel else candidate

/-- A name that is not taken: the one asked for, else the same with the least number
from two on. -/
def fresh (taken : List String) (name : String) : String :=
  if taken.contains name then numbered taken name 2 taken.length else name

/-- Names for the definitions in their order, each not taken before. -/
def allocateFrom (taken : List String) : List String → List String
  | [] => []
  | name :: names =>
    let ident := fresh taken name
    ident :: allocateFrom (taken ++ [ident]) names

/-- One name for each definition, all different. -/
def allocate (definitions : List Definition) : List String :=
  allocateFrom [] (definitions.map (proposed definitions))

end FragmentRoutes.Naming
