/-
  Converting and checking values.

  A text of a path or form is converted to the type of its parameter or field.  When
  that fails, or a constraint does not hold, the failure is recorded and the answer is
  that the request was bad.  Constraints are checked in their order, after the
  conversion and before the value is used.
-/
import FragmentRoutes.Host.View
import FragmentRoutes.RoutesModule.Basic

namespace FragmentRoutes.RoutesModule

open Code Host

/-- Records a failure and answers that the request was bad. -/
def fail (error : Expr) : Imports.Making (List Stmt) := do
  let status ← Imports.ref "http" "HTTPStatus"
  return [.expr (.apply (.attribute (data "_errors") "append") [error]),
    .setAttribute "_td" "_err_status_code" (.attribute status "BAD_REQUEST")]

/-- The value of a type that a text is converted to. -/
def converted (kind : Conversion) (type : HostType) (text : Expr) : Imports.Making Expr := do
  match kind with
  | .str => return text
  | .int => return .applyName "int" [text, .int 10]
  | .float => return .applyName "float" [text]
  | .bool => return .applyName "_parse_bool" [text]
  | .text => do
    let front ← Imports.typeExpr type
    return .apply (.attribute front "from_text") [text]

/-- The constant for a limit. -/
def limitConstant : Constraint.Limit → Constant
  | .whole value => .int value
  | .real value => .real value
  | .text value => .text value

/-- The condition under which a value breaks a constraint. -/
def broken (c : Constraint) (value : Expr) : Imports.Making Expr := do
  let limit := Expr.constant (limitConstant c.limit)
  let length := Expr.applyName "len" [value]
  match c.kind with
  | .min => return .compare value [(.lt, limit)]
  | .max => return .compare value [(.gt, limit)]
  | .minLength => return .compare length [(.lt, limit)]
  | .maxLength => return .compare length [(.gt, limit)]
  | .pattern => do
    let module ← Imports.moduleExpr "re"
    let found := Expr.apply (.attribute module "fullmatch") [limit, value]
    return .compare found [(.is, Expr.absent)]

/-- The check of a constraint on a local value. -/
def guard (name : String) (c : Constraint) : Imports.Making Stmt := do
  let test ← broken c (.name name)
  let failure ← fail (.applyName "ValueError" [.text c.message])
  return .when test failure

/-- The checks of constraints in their order. -/
def guards (name : String) : List Constraint → Imports.Making (List Stmt)
  | [] => return []
  | c :: cs => do
    let first ← guard name c
    let rest ← guards name cs
    return first :: rest

/-- Converts a text into a local value, checks it and goes on with it.  A failure of the
conversion is recorded, and then nothing is checked. -/
def bindConverted (name : String) (kind : Conversion) (type : HostType) (text : Expr)
    (constraints : List Constraint) (next : List Stmt) : Imports.Making (List Stmt) := do
  let checks ← guards name constraints
  if kind == .str then return .set name text :: (checks ++ next)
  else
    let value ← converted kind type text
    let failure ← fail (.name "_err")
    return [.attempt [.set name value] (.name "ValueError") (some "_err") failure
      (checks ++ next)]

end FragmentRoutes.RoutesModule
