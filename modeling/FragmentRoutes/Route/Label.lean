/-
  Labels of routes.

  The name of a fragment is a label when its words are, in this order, an optional
  method, a host and path in one word, an optional status and the text of an optional
  call.  The host may be empty; one with neither a dot nor a port makes the name an
  ordinary template name, as `partials/nav.html` is.  A name that is no label is not
  an error (`Label.parse` gives `none`), while a label with a bad part is one.

  The pattern of a label, its method, host and path with one space, is its identity:
  two fragments of one pattern serve the same requests.
-/
import FragmentRoutes.Route.Path
import FragmentRoutes.Route.Status
import FragmentRoutes.Text.Blank

namespace FragmentRoutes.Route

/-- The methods that a label may name. -/
inductive Method where
  | get
  | post
  | put
  | patch
  | delete
  deriving DecidableEq, Repr, Inhabited

namespace Method

/-- The method as a request names it. -/
def render : Method → String
  | get => "GET"
  | post => "POST"
  | put => "PUT"
  | patch => "PATCH"
  | delete => "DELETE"

/-- All methods. -/
def all : List Method := [get, post, put, patch, delete]

/-- The method of a name in capitals. -/
def ofName? (name : String) : Option Method :=
  all.find? fun m => m.render == name

end Method

namespace Label

/-- Why the name of a fragment is a malformed label. -/
inductive Fault where
  | method (name : String)
  | path (fault : Path.Fault)
  | status (fault : Status.Fault)
  deriving DecidableEq, Repr

end Label

/-- The label of a route; `name` is the text it was read from. -/
structure Label where
  name : String
  method : Option Method
  host : String
  path : String
  segments : List Segment
  status : Nat
  explicitStatus : Bool
  callText : String
  deriving DecidableEq, Repr, Inhabited

namespace Label

/-- The text of the method, empty for a label of every method. -/
def methodText (label : Label) : String :=
  match label.method with
  | some m => m.render
  | none => ""

/-- Method, host and path, by which routes are told apart. -/
def pattern (label : Label) : String :=
  match label.method with
  | some m => m.render ++ " " ++ label.host ++ label.path
  | none => label.host ++ label.path

/-- The names that the path binds, in order. -/
def params (label : Label) : List String :=
  Path.params label.segments

/-- The path ends in `{$}`. -/
def exact (label : Label) : Bool :=
  label.segments.getLast? = some .finish

/-- The path ends in a slash, so that the route serves every path below it. -/
def subtree (label : Label) : Bool :=
  label.path.toList.getLast? = some '/'

/-- The route serves paths of any depth: its path is a subtree or ends in a wildcard. -/
def catchAll (label : Label) : Bool :=
  label.subtree || label.segments.any fun s => match s with
    | .wildcard _ => true
    | _ => false

/-! ### Hosts -/

/-- A character of a host name. -/
def isHostChar (c : Char) : Bool :=
  ('a' ≤ c && c ≤ 'z') || Text.isAsciiDigit c || c == '-'

/-- A character of a host in small letters.  The Kelvin sign is the one character beyond
ASCII whose small letter may stand in a host. -/
def lowerHostChar (c : Char) : Char :=
  if c == '\u212a' then 'k' else Text.lowerAscii c

/-- The characters of a host in small letters. -/
def lowerHost (cs : List Char) : List Char :=
  cs.map lowerHostChar

/-- The parts of a host name between dots; none may be empty. -/
def splitDots : List Char → List (List Char)
  | [] => [[]]
  | c :: cs =>
    if c = '.' then [] :: splitDots cs
    else match splitDots cs with
      | [] => [[c]]
      | part :: parts => (c :: part) :: parts

/-- A host in small letters: names with dots between them, or a single name when a
port follows.  The port is a colon and decimal digits. -/
def isHost (cs : List Char) : Bool :=
  let names := cs.takeWhile (· != ':')
  let port := cs.dropWhile (· != ':')
  let parts := splitDots names
  let named := parts.all fun p => !p.isEmpty && p.all isHostChar
  let ported := match port with
    | _ :: ds => !ds.isEmpty && ds.all Text.isDecimal
    | [] => false
  named && if port.isEmpty then 2 ≤ parts.length else ported

/-! ### Reading a label -/

/-- The words of a label: the letters of its method, host, path, status and call.
`none` when they are not in the order of a label. -/
structure Parts where
  method : Option (List Char)
  host : List Char
  path : List Char
  status : Option (List Char)
  call : List Char

/-- Status and call, read from the words after the path. -/
def statusAndCall : List (List Char) → Option (List Char) × List Char
  | [] => (none, [])
  | word :: words =>
    if Status.isStatusWord word then (some word, Text.unwords words)
    else (none, Text.unwords (word :: words))

/-- The parts of a label whose words after the method are given. -/
def partsAfterMethod (method : Option (List Char)) : List (List Char) → Option Parts
  | [] => none
  | target :: words =>
    if target.contains '/' then
      let (status, call) := statusAndCall words
      some ⟨method, target.takeWhile (· != '/'), target.dropWhile (· != '/'), status, call⟩
    else none

/-- The parts of a label from its words. -/
def partsOfWords : List (List Char) → Option Parts
  | [] => none
  | word :: words =>
    if word.contains '/' then partsAfterMethod none (word :: words)
    else if word.all Text.isAsciiLetter then partsAfterMethod (some word) words
    else none

/-- The parts of the name of a fragment, when it is a label. -/
def parts? (name : String) : Option Parts :=
  match partsOfWords (Text.words name.toList) with
  | none => none
  | some parts =>
    if parts.host.isEmpty || isHost (lowerHost parts.host) then some parts else none

/-- The method of the letters that name it in any case. -/
def parseMethod : Option (List Char) → Except Fault (Option Method)
  | none => .ok none
  | some letters =>
    let name := String.ofList (letters.map Text.upperAscii)
    match Method.ofName? name with
    | some m => .ok (some m)
    | none => .error (.method name)

/-- The code of the word of a status, with whether there is such a word. -/
def parseStatus : Option (List Char) → Except Fault (Nat × Bool)
  | none => .ok (Status.ok, false)
  | some word =>
    match Status.parse (String.ofList word) with
    | .ok code => .ok (code, true)
    | .error fault => .error (.status fault)

/-- The label of given parts. -/
def ofParts (name : String) (parts : Parts) : Except Fault Label := do
  let method ← parseMethod parts.method
  let segments ← (Path.parse parts.path).mapError Fault.path
  let (status, explicitStatus) ← parseStatus parts.status
  return {
    name := name
    method := method
    host := String.ofList (lowerHost parts.host)
    path := String.ofList parts.path
    segments := segments
    status := status
    explicitStatus := explicitStatus
    callText := String.ofList parts.call }

/-- The label that the name of a fragment is, `none` when it is an ordinary template
name. -/
def parse (name : String) : Except Fault (Option Label) :=
  match parts? name with
  | none => .ok none
  | some parts => (ofParts name parts).map some

/-! ### Paths of the router -/

/-- A segment as the router writes it; the end mark has no text of its own. -/
def routerSegment? : Segment → Option String
  | .literal text => some text
  | .param name => some ("\x7b" ++ name ++ "\x7d")
  | .wildcard name => some ("\x7b" ++ name ++ ":path\x7d")
  | .finish => none

/-- A text without the slashes at its end. -/
def dropLastSlashes (cs : List Char) : List Char :=
  (cs.reverse.dropWhile (· == '/')).reverse

/-- The path under which the router matches the route: a wildcard takes the rest of
the path, an exact path keeps its slash, and a subtree takes everything below it
under a name of its own. -/
def routerPath (label : Label) : String :=
  let parts := label.segments.filterMap routerSegment?
  let path := "/" ++ "/".intercalate parts
  if label.exact then if parts.isEmpty then "/" else path ++ "/"
  else if label.subtree then
    String.ofList (dropLastSlashes path.toList) ++ "/\x7b_subtree:path\x7d"
  else path

end Label

end FragmentRoutes.Route
