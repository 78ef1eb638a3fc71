/-
  Definitions: the routes that fragments define.

  A fragment whose name is a label defines a route.  `ofFragments` reads the names of
  all fragments in the order of their files, refuses two of one pattern, and lists the
  definitions by path, method and host.
-/
import FragmentRoutes.Fragment.Basic
import FragmentRoutes.Grammar

namespace FragmentRoutes

/-- A route: its label, its call, and where it was defined. -/
structure Definition where
  label : Route.Label
  call : Option Call
  source : String
  group : String
  deriving Repr, Inhabited

namespace Definition

/-- Why a set of fragments defines no routes. -/
inductive Error where
  | grammar (error : Grammar.Error)
  | duplicate (pattern first second : String)
  deriving Repr

/-- The pattern of the label. -/
def pattern (d : Definition) : String :=
  d.label.pattern

/-- The name of the fragment. -/
def name (d : Definition) : String :=
  d.label.name

/-- The call uses the response, so the handler does not write it. -/
def writesResponse (d : Definition) : Bool :=
  match d.call with
  | some call => call.mentions "response"
  | none => false

/-- Where the route is defined, as errors show it. -/
def location (d : Definition) : String :=
  if d.source.isEmpty then Text.quote d.name else d.source ++ ": " ++ Text.quote d.name

/-- The identifiers that the call of a label may use. -/
def scope (label : Route.Label) : List String :=
  Route.argumentNames ++ label.params

/-- The call of a label, read and checked against the scope. -/
def parseCall (label : Route.Label) : Except Call.Fault (Option Call) :=
  if label.callText.isEmpty then .ok none
  else do
    let call ← Call.parse label.callText
    call.checkScope (scope label)
    return some call

/-- The definition that the name of a fragment is, `none` when it is no label. -/
def parse (name source group : String) : Except Grammar.Error (Option Definition) :=
  match Route.Label.parse name with
  | .error fault => .error ⟨.label fault, name⟩
  | .ok none => .ok none
  | .ok (some label) =>
    match parseCall label with
    | .error fault => .error ⟨.call fault, name⟩
    | .ok call =>
      let definition : Definition := ⟨label, call, source, group⟩
      if label.explicitStatus && definition.writesResponse then
        .error ⟨.statusWithResponse, name⟩
      else .ok (some definition)

/-! ### Definitions of many fragments -/

/-- Fragments in the order of their files and, in a file, of their names. -/
def byFile (a b : Fragment) : Bool :=
  !decide ([b.file, b.name] < [a.file, a.name])

/-- The texts by which definitions are listed. -/
def sortKey (d : Definition) : List String :=
  [d.label.path, d.label.methodText, d.label.host, d.label.name]

/-- Definitions in the order of their sort keys. -/
def bySortKey (a b : Definition) : Bool :=
  !decide (b.sortKey < a.sortKey)

/-- The definitions of fragments in the order given, after those of `seen`, which come
last first.  A pattern must not occur twice. -/
def collect (seen : List Definition) : List Fragment → Except Error (List Definition)
  | [] => .ok seen.reverse
  | fragment :: rest =>
    match parse fragment.name fragment.file fragment.group with
    | .error error => .error (.grammar error)
    | .ok none => collect seen rest
    | .ok (some d) =>
      match seen.find? fun e => e.pattern == d.pattern with
      | some first => .error (.duplicate d.pattern first.location d.location)
      | none => collect (d :: seen) rest

/-- The definitions of a collection of fragments, by path, method and host. -/
def ofFragments (fragments : List Fragment) : Except Error (List Definition) := do
  let definitions ← collect [] (fragments.mergeSort byFile)
  return definitions.mergeSort bySortKey

/-- The words of an error. -/
def Error.message (error : Error) (diagnosis : Diagnosis := .brief) : String :=
  match error with
  | grammar error => error.message diagnosis
  | duplicate pattern first second =>
    let sources := [first, second].filter fun s => !s.isEmpty
    "duplicate route pattern: " ++ pattern ++
      if sources.isEmpty then "" else " (defined in " ++ " and ".intercalate sources ++ ")"

end Definition

end FragmentRoutes
