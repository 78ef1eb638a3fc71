/-
  Making the generated module.

  Code is made while imports are recorded, and the making may fail: a form may not fit
  the type it is read into, and the constraints in the markup may not fit its fields.
-/
import FragmentRoutes.Constraint
import FragmentRoutes.Imports

namespace FragmentRoutes

open Code

namespace RoutesModule

/-- Why a module cannot be made. -/
inductive Fault where
  | notConvertible (type : HostType) (arg : String)
  | rebound (expected : HostType) (arg : String) (given : HostType) (definition : String)
  | formTwice (first second : HostType) (definition : String)
  | fieldType (type : HostType) (field : String) (struct : HostType) (definition : String)
  | missingTemplate (field template : String)
  | pathType (type : HostType) (param : String)
  | constraint (fault : Constraint.Fault) (definition : String)
  deriving Repr

/-- The words of a fault, where they are those of this library. -/
def Fault.message? : Fault → Option String
  | .notConvertible type arg =>
    some ("method expects type " ++ type.render ++ " but " ++ arg ++ " is str")
  | .rebound expected arg given definition =>
    some ("method expects type " ++ expected.render ++ " but " ++ arg ++ " is " ++
      given.render ++ " (in " ++ Text.quote definition ++ ")")
  | .formTwice first second definition =>
    some ("form is bound to both " ++ first.render ++ " and " ++ second.render ++ " in " ++
      Text.quote definition)
  | .fieldType type field struct definition =>
    some ("unsupported type " ++ type.render ++ " for form field " ++ field ++ " of " ++
      struct.render ++ " (in " ++ Text.quote definition ++ ")")
  | .missingTemplate field template =>
    some ("form field " ++ field ++ " names template " ++ Text.quote template ++
      " which does not exist")
  | .pathType type param =>
    some ("unsupported type " ++ type.render ++ " for path parameter " ++ param)
  | .constraint _ _ => none

/-- A step of the making. -/
abbrev Making := ExceptT Fault (StateM Imports)

/-! ### Names in handlers -/

/-- An attribute of the template data of a handler. -/
def data (name : String) : Expr :=
  .attribute (.name "_td") name

/-- An attribute of the request of a handler. -/
def request (name : String) : Expr :=
  .attribute (.name "request") name

/-- A method of the response of a handler, called. -/
def response (method : String) (args : List Expr) : Expr :=
  .apply (.attribute (.name "response") method) args

/-- The code of a status by its name. -/
def statusNamed (name : String) : Expr :=
  .attribute (.name "HTTPStatus") name

/-- No failure has been recorded. -/
def noFailure : Expr :=
  .unary .not (data "_errors")

/-- The response is complete. -/
def returnResponse : Stmt :=
  .ret (response "to_response" [])

end RoutesModule

end FragmentRoutes
