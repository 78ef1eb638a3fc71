/-
  URL builders.

  The generated module has a class with one method for each endpoint, which spells the
  path of its route.  The method takes the path parameters as values of the types that
  the handler converts them to.  A value that writes itself as a text may fail to do so;
  the method then returns the path and no error, or no path and the error.
-/
import FragmentRoutes.Endpoint
import FragmentRoutes.RoutesModule.Basic

namespace FragmentRoutes.RoutesModule

open Code Host

/-- The text of a value of a path parameter, for the types that have one form of text. -/
def encoded (param : String) (type : HostType) : Making Expr := do
  let type := type.unwrap
  let value := Expr.name param
  if type.isBuiltin "str" then return value
  else if type.isBuiltin "bool" then
    return .conditional value (.text "true") (.text "false")
  else if type.isBuiltin "int" || type.isBuiltin "float" then
    return .template [.value value none none]
  else throw (.pathType type param)

/-- What a builder is made of so far: its parameters, the statements before the path is
put together, the parts of the path, the literal parts that were not yet put into one,
and whether a value may fail to write itself. -/
structure Builder where
  params : List Param
  body : List Stmt
  parts : List Expr
  literals : List String
  fallible : Bool

/-- The parts with those that are literal at the end as one text. -/
def Builder.flush (b : Builder) : Builder :=
  if b.literals.isEmpty then b
  else { b with parts := b.parts ++ [.text ("/".intercalate b.literals)], literals := [] }

/-- What is said when the value of a parameter does not write itself. -/
def encodeFailure (label : Route.Label) (param : String) (index : Nat) : String :=
  "failed to encode path value \x7b" ++ param ++ "\x7d (segment " ++ toString index ++ ") in " ++
    label.path

/-- Writes the value of a parameter as the text of a segment; a failure is returned. -/
def encodeBody (label : Route.Label) (param : String) (index : Nat) (target : String) :
    List Stmt :=
  [.assign (.tuple [.name target, .name "_err"])
      (.applyName "_encode_text" [.name param, .text (encodeFailure label param index)]),
    .when (.compare (.name "_err") [(.isNot, Expr.absent)])
      [.ret (.tuple [.text "", .name "_err"])]]

/-- Adds a parameter of the path; the slashes in the value of a wildcard are kept. -/
def Builder.addParam (b : Builder) (host : Host) (endpoint : Endpoint) (param : String)
    (index : Nat) (isWildcard : Bool) : Making Builder := do
  let b := b.flush
  let type := endpoint.pathType param
  let shown ← Imports.typeExpr type
  let b := { b with params := b.params ++ [Param.typed param shown] }
  let kept := if isWildcard then [Expr.text "/"] else []
  if host.isEncodable type.unwrap then
    let target := "_segment" ++ toString index
    let body := encodeBody endpoint.definition.label param index target
    return { b with
      body := b.body ++ body
      parts := b.parts ++ [.applyName "_segment" (.name target :: kept)]
      fallible := true }
  else
    let value ← encoded param type
    return { b with parts := b.parts ++ [.applyName "_segment" (value :: kept)] }

/-- Adds the segments of a path; `index` is the number of the first. -/
def Builder.addSegments (b : Builder) (host : Host) (endpoint : Endpoint) (index : Nat) :
    List Route.Segment → Making Builder
  | [] => return b
  | segment :: rest => do
    let b ← match segment with
      | .literal text => pure { b with literals := b.literals ++ [text] }
      | .finish => pure b
      | .param name => b.addParam host endpoint name index false
      | .wildcard name => b.addParam host endpoint name index true
    b.addSegments host endpoint (index + 1) rest

/-- The type of a path, or of a path and an error. -/
def pathResult (fallible : Bool) : Expr :=
  if fallible then
    .subscript (.name "tuple")
      (.tuple [.name "str", .binary (.name "Exception") .bitOr Expr.absent])
  else .name "str"

/-- The method that spells the path of an endpoint. -/
def urlMethod (host : Host) (endpoint : Endpoint) : Making Stmt := do
  let label := endpoint.definition.label
  let start : Builder :=
    ⟨[Param.plain "self"], [], [.attribute (.name "self") "paths_prefix"], [], false⟩
  let isRoot := label.path == "/" || label.path == "/\x7b$\x7d"
  let b ← if isRoot then pure start else start.addSegments host endpoint 1 label.segments
  let b := b.flush
  let joined := Expr.applyName "_join" b.parts
  let path := if label.exact && !isRoot then .binary joined .add (.text "/") else joined
  let result := if b.fallible then .tuple [path, Expr.absent] else path
  return .function false endpoint.ident b.params (pathResult b.fallible) (b.body ++ [.ret result])

/-- The methods of endpoints, in their order. -/
def urlMethods (host : Host) : List Endpoint → Making (List Stmt)
  | [] => return []
  | e :: es => do
    let first ← urlMethod host e
    let rest ← urlMethods host es
    return first :: rest

/-- The class of all URL builders. -/
def urlClass (host : Host) (name : String) (endpoints : List Endpoint) : Making Stmt := do
  let methods ← urlMethods host endpoints
  let start := Stmt.function false "__init__"
    [Param.plain "self", .mk .positional "paths_prefix" (some (.name "str")) (some (.text ""))]
    Expr.absent [.setAttribute "self" "paths_prefix" (.name "paths_prefix")]
  let description := Stmt.expr
    (.text "URL builders for every route, relative to ``paths_prefix``.")
  return .classDef name [] (description :: start :: methods)

end FragmentRoutes.RoutesModule
