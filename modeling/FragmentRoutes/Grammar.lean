/-
  Malformed labels.

  What can be wrong with a label is wrong with its method, path or status, with its
  call, or with the markup that its form fields are checked against.  The words of the
  fault are followed by the label, where it is known.
-/
import FragmentRoutes.Call
import FragmentRoutes.Constraint
import FragmentRoutes.Route.Label

namespace FragmentRoutes

namespace Route

/-- The words of a fault of a status. -/
def Status.Fault.message : Status.Fault → String
  | .missing => "string index out of range"
  | .unreadable text => "failed to parse status code " ++ Text.quote text
  | .outOfRange code => "status code " ++ toString code ++ " out of range"
  | .unknown text => "unknown HTTPStatus constant " ++ text

/-- The words of a fault of a path. -/
def Path.Fault.message : Path.Fault → String
  | .emptySegment => "template has an empty path segment"
  | .badSegment part =>
    "bad wildcard segment " ++ Text.quote part ++ ": must be a whole segment"
  | .endNotLast => "\x7b$\x7d not at end"
  | .wildcardNotLast name => "\x7b" ++ name ++ "...\x7d wildcard not at end"
  | .notIdentifier name =>
    "path parameter name not permitted: " ++ Text.quote name ++ " is not a Python identifier"
  | .underscore name =>
    "path parameter name not permitted: " ++ Text.quote name ++
      " must not start with an underscore"
  | .self => "path parameter name not permitted: self names the URL builder instance"
  | .taken name =>
    "the name " ++ name ++ " is not allowed as a path parameter it is already in scope"
  | .repeated name => "forbidden repeated path parameter names: " ++ name

/-- The words of a fault of a label. -/
def Label.Fault.message : Label.Fault → String
  | .method name => name ++ " method not allowed"
  | .path fault => fault.message
  | .status fault => fault.message

end Route

namespace Grammar

/-- What is wrong with a label. -/
inductive Fault where
  | label (fault : Route.Label.Fault)
  | call (fault : Call.Fault)
  | statusWithResponse
  | constraint (mistake : Constraint.Mistake)
  deriving Repr

/-- The words of a fault, where `diagnosis` gives those of the interpreter. -/
def Fault.message (fault : Fault) (diagnosis : Diagnosis := .brief) : String :=
  match fault with
  | label fault => fault.message
  | call fault => fault.message diagnosis
  | statusWithResponse =>
    "you can not use response as an argument and specify an HTTP status code"
  | constraint mistake => mistake.message diagnosis

/-- A fault with the label it was found in, empty when there is none. -/
structure Error where
  fault : Fault
  label : String
  deriving Repr

/-- The words of the fault with the label after them. -/
def Error.message (error : Error) (diagnosis : Diagnosis := .brief) : String :=
  if error.label.isEmpty then error.fault.message diagnosis
  else error.fault.message diagnosis ++ " (in " ++ Text.quote error.label ++ ")"

end Grammar

end FragmentRoutes
