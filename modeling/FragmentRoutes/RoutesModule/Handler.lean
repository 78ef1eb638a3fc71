/-
  Handlers.

  The handler of an endpoint binds the arguments of its call, carries out the calls
  innermost first, renders the fragment and writes the response.  Every failure on the
  way is recorded in the data that the fragment is rendered with, and a call is only
  carried out while there is none.

  Each path parameter is converted once, for the parameter that it is passed to first.
  The form is read once; it is passed as it is, or as a value of the one class whose
  fields it fills.
-/
import FragmentRoutes.Endpoint
import FragmentRoutes.RoutesModule.Guard

namespace FragmentRoutes

open Code Host

/-- What handlers are made from. -/
structure RoutesModule.Context where
  config : Config
  host : Host
  library : Library
  signatures : List Signature
  /-- The expression for the templates. -/
  templates : Expr

namespace RoutesModule

/-- A signature that asks for nothing, in the place of one that was not recorded. -/
def unknownSignature (callee : String) : Signature :=
  ⟨callee, [], .any, .value, .synthesized, false, .any, ""⟩

/-- The signature recorded for a callee. -/
def Context.signature (context : Context) (callee : String) : Signature :=
  (context.signatures.find? fun s => s.name == callee).getD (unknownSignature callee)

/-! ### Arguments -/

mutual

/-- The identifiers of an argument, each with the parameter that it is passed to. -/
def boundArgument (context : Context) (param : Signature.Param) :
    Argument → List (Signature.Param × String)
  | .name id => [(param, id)]
  | .call callee args => boundArguments context (context.signature callee).params args

/-- The identifiers of arguments from left to right, each with the parameter that it is
passed to. -/
def boundArguments (context : Context) :
    List Signature.Param → List Argument → List (Signature.Param × String)
  | p :: ps, a :: as => boundArgument context p a ++ boundArguments context ps as
  | _, _ => []

end

/-- What the form is passed as: it is not passed, passed as it is, or passed as a value of
a class, which the expression makes. -/
inductive FormUse where
  | unused
  | whole
  | struct (type : HostType) (value : Expr)

/-- What the identifiers of a call stand for so far: the path parameters that were
converted with their types, whether the form was read, and what it is passed as. -/
structure Bindings where
  paths : List (String × HostType)
  formRead : Bool
  form : FormUse

/-- The local value of a path parameter. -/
def pathLocal (param : String) : String :=
  "_p_" ++ param

/-- The expression that is passed for an identifier. -/
def Bindings.value (bindings : Bindings) (id : String) : Expr :=
  match id with
  | "ctx" => request "scope"
  | "request" => .name "request"
  | "response" => .name "response"
  | "form" =>
    match bindings.form with
    | .struct _ value => value
    | _ => .name "_form"
  | param => .name (pathLocal param)

/-- Converts a path parameter for the first parameter that it is passed to, and checks
that every other one accepts the same value. -/
def bindPath (context : Context) (definition : Definition) (param : Signature.Param)
    (id : String) (bindings : Bindings) : Making (Bindings × List Stmt) := do
  match bindings.paths.lookup id with
  | some bound =>
    if context.host.accepts param.type bound then return (bindings, [])
    else throw (.rebound param.type id bound definition.name)
  | none =>
    match context.host.conversion? param.type with
    | none => throw (.notConvertible param.type id)
    | some kind => do
      let type := if kind == .str then HostType.str else param.type.unwrap
      let text := Expr.subscript (request "path_params") (.text id)
      let body ← bindConverted (pathLocal id) kind type text [] []
      return ({ bindings with paths := bindings.paths ++ [(id, type)] }, body)

/-! ### Forms -/

/-- The constraints that the template of a field, or else the fragment, sets for it. -/
def fieldConstraints (context : Context) (definition : Definition) (field : FormField)
    (type : HostType) : Making (List Constraint) := do
  let template := match field.template with
    | some name => if name.isEmpty then definition.name else name
    | none => definition.name
  match context.library.get? template with
  | none => throw (.missingTemplate field.name template)
  | some fragment =>
    match Constraint.parse fragment.source field.external type with
    | .ok constraints => return constraints
    | .error fault => throw (.constraint fault definition.name)

/-- The place of a field among the values of a form. -/
def fieldPlace (field : FormField) : Expr :=
  .subscript (.name "_form_fields") (.text field.name)

/-- Reads a field that has one value. -/
def bindValue (field : FormField) (kind : Conversion) (type : HostType)
    (constraints : List Constraint) : Making (List Stmt) := do
  let text := Expr.apply (.attribute (.name "_form") "get") [.text field.external, .text ""]
  bindConverted "_value" kind type text constraints [.assign (fieldPlace field) (.name "_value")]

/-- Reads a field that has any number of values. -/
def bindItems (field : FormField) (kind : Conversion) (type : HostType)
    (constraints : List Constraint) : Making (List Stmt) := do
  let keep := Stmt.expr (.apply (.attribute (.name "_values") "append") [.name "_value"])
  let body ← bindConverted "_value" kind type (.name "_text") constraints [keep]
  let texts := Expr.apply (.attribute (.name "_form") "getlist") [.text field.external]
  let isTuple := field.type.origin? == some (.builtin "tuple")
  let values := if isTuple then Expr.applyName "tuple" [.name "_values"] else .name "_values"
  return [.set "_values" (.list []), .each (.name "_text") texts body,
    .assign (fieldPlace field) values]

/-- Reads a field of a class from the form. -/
def bindField (context : Context) (definition : Definition) (struct : HostType)
    (field : FormField) : Making (List Stmt) := do
  let item := Host.item? field.type
  let type := (item.getD field.type).unwrap
  match context.host.conversion? type with
  | none => throw (.fieldType field.type field.name struct definition.name)
  | some kind => do
    let type := if kind == .str then HostType.str else type
    let constraints ← fieldConstraints context definition field type
    if item.isSome then bindItems field kind type constraints
    else bindValue field kind type constraints

/-- Reads fields of a class from the form, in their order. -/
def bindFields (context : Context) (definition : Definition) (struct : HostType) :
    List FormField → Making (List Stmt)
  | [] => return []
  | field :: fields => do
    let first ← bindField context definition struct field
    let rest ← bindFields context definition struct fields
    return first ++ rest

/-- Reads the form into the values of the fields of a class; the result is the value of
the class too. -/
def bindStruct (context : Context) (definition : Definition) (struct : HostType) :
    Making (Expr × List Stmt) := do
  let (fields, isModel) := match classOf? struct with
    | some c => (context.host.formFields c, context.host.isModel c)
    | none => ([], false)
  let body ← bindFields context definition struct fields
  let front ← Imports.typeExpr struct
  let front := if isModel then front.attribute "model_construct" else front
  return (.call front [] [(none, .name "_form_fields")],
    .set "_form_fields" (.dict []) :: body)

/-- The type that the form was passed as, any type when it was passed as it is. -/
def FormUse.type? : FormUse → Option HostType
  | .unused => none
  | .whole => some .any
  | .struct type _ => some type

/-- Reads the form for a parameter that it is passed to. -/
def bindForm (context : Context) (definition : Definition) (param : Signature.Param)
    (bindings : Bindings) : Making (Bindings × List Stmt) := do
  let read := Stmt.set "_form" (.await (.applyName "_read_form" [.name "request"]))
  let front := if bindings.formRead then [] else [read]
  let bindings := { bindings with formRead := true }
  if context.host.isStruct param.type then
    match bindings.form.type? with
    | some bound =>
      if bound.same param.type then return (bindings, front)
      else throw (.formTwice bound param.type definition.name)
    | none => do
      let (value, body) ← bindStruct context definition param.type
      return ({ bindings with form := .struct param.type value }, front ++ body)
  else
    match bindings.form with
    | .unused => return ({ bindings with form := .whole }, front)
    | _ => return (bindings, front)

/-- Binds the identifiers of a call from left to right. -/
def bindArguments (context : Context) (definition : Definition) (bindings : Bindings) :
    List (Signature.Param × String) → Making (Bindings × List Stmt)
  | [] => return (bindings, [])
  | (param, id) :: rest => do
    let (bindings, first) ←
      if definition.label.params.contains id then bindPath context definition param id bindings
      else if id == "form" then bindForm context definition param bindings
      else pure (bindings, [])
    let (bindings, body) ← bindArguments context definition bindings rest
    return (bindings, first ++ body)

/-! ### Calls -/

/-- The call of a callee with expressions for its arguments. -/
def invocation (signature : Signature) (args : List Expr) : Imports.Making Expr := do
  let callee ←
    if signature.isRequired then pure (Expr.attribute (.name "receiver") signature.name)
    else Imports.ref signature.module signature.name
  let call := callee.apply args
  return if signature.isAsync then .await call else call

/-- Keeps the result of the outermost call for the fragment. -/
def keepResult (target : String) : Stmt :=
  .setAttribute "_td" "_result" (.name target)

/-- Notes that the outermost call succeeded. -/
def keepSuccess : Stmt :=
  .setAttribute "_td" "_ok" (.constant (.bool true))

/-- Carries out a call and branches on its result. -/
def resultBody (signature : Signature) (target : String) (call : Expr) (isOuter : Bool) :
    List Stmt :=
  let kept := if isOuter then [keepResult target, keepSuccess] else []
  match signature.shape with
  | .value => .set target call :: kept
  | .withError =>
    let failure := [
      Stmt.expr (.apply (.attribute (data "_errors") "append") [.name "_err"]),
      .setAttribute "_td" "_err_status_code" (.applyName "_error_status" [.name "_err"])]
    let test := Expr.compare (.name "_err") [(.isNot, Expr.absent)]
    .assign (.tuple [.name target, .name "_err"]) call ::
      (if isOuter then [keepResult target] else []) ++
      [.ifElse test failure (if isOuter then [keepSuccess] else [])]
  | .withSuccess =>
    .assign (.tuple [.name target, .name "_ok"]) call ::
      .when (.unary .not (.name "_ok")) [returnResponse] :: kept

/-- Carries out a call unless something failed before. -/
def invoke (context : Context) (callee target : String) (args : List Expr) (isOuter : Bool) :
    Imports.Making Stmt := do
  let signature := context.signature callee
  let call ← invocation signature args
  return .when noFailure (resultBody signature target call isOuter)

/-- The local value for the result of a nested call, by its number. -/
def resultLocal (n : Nat) : String :=
  "_result" ++ toString n

mutual

/-- Carries out the calls in an argument, where `n` nested calls came before.  The result
is the expression that is passed, the number of nested calls, and the statements. -/
def invokeArgument (context : Context) (bindings : Bindings) (n : Nat) :
    Argument → Imports.Making (Expr × Nat × List Stmt)
  | .name id => return (bindings.value id, n, [])
  | .call callee args => do
    let (values, n, body) ← invokeArguments context bindings n args
    let target := resultLocal (n + 1)
    let block ← invoke context callee target values false
    return (.name target, n + 1, body ++ [block])

/-- Carries out the calls in arguments from left to right. -/
def invokeArguments (context : Context) (bindings : Bindings) (n : Nat) :
    List Argument → Imports.Making (List Expr × Nat × List Stmt)
  | [] => return ([], n, [])
  | a :: as => do
    let (value, n, first) ← invokeArgument context bindings n a
    let (values, n, rest) ← invokeArguments context bindings n as
    return (value :: values, n, first ++ rest)

end

/-- Carries out a call, nested calls innermost first. -/
def invokeCall (context : Context) (bindings : Bindings) (call : Call) :
    Imports.Making (List Stmt) := do
  let (values, _, body) ← invokeArguments context bindings 0 call.args
  let block ← invoke context call.callee "_result" values true
  return body ++ [block]

/-- Binds the arguments of the call of a definition and carries it out. -/
def callBody (context : Context) (definition : Definition) : Making (List Stmt) := do
  match definition.call with
  | none => return []
  | some call => do
    let wanted := boundArguments context (context.signature call.callee).params call.args
    let (bindings, bound) ← bindArguments context definition ⟨[], false, .unused⟩ wanted
    let invoked ← invokeCall context bindings call
    return bound ++ invoked

/-! ### Rendering -/

/-- What a message about a request is logged with. -/
def logFields (definition : Definition) : Option String × Expr :=
  (some "extra", .dict [(some (.text "pattern"), .text definition.pattern),
    (some (.text "path"), (request "url").attribute "path")])

/-- Renders the fragment; a failure to do so is logged and answered. -/
def renderFragment (context : Context) (definition : Definition) : Stmt :=
  let logger := if context.config.logger then "logger" else "_logger"
  let template := (context.templates.attribute "get_template").apply [.text definition.name]
  let rendered := Expr.call (template.attribute "render") [] [(some "data", .name "_td")]
  let words := Expr.text "failed to render page"
  .attempt [.set "_body" rendered] (.name "Exception") none
    [.expr (.call (.attribute (.name logger) "exception") [words] [logFields definition]),
      .ret (.call (.name "PlainTextResponse") [words]
        [(some "status_code", statusNamed "INTERNAL_SERVER_ERROR")])]
    []

/-- Renders the fragment, or the failures in its place. -/
def renderBody (context : Context) (definition : Definition) : Stmt :=
  let render := renderFragment context definition
  if context.config.renderErrors then render
  else .ifElse noFailure [render] [.set "_body" (.applyName "_error_text" [data "_errors"])]

/-- The code of a status, by its name if it has one. -/
def statusExpr (code : Nat) : Expr :=
  match Route.Status.name? code with
  | some name => statusNamed name
  | none => .int code

/-- The status that the result of a call tells. -/
def resultStatus? (host : Host) (signature : Option Signature) : Option Expr :=
  match signature.bind fun s => host.statusAccess? s.result with
  | none => none
  | some .method => some ((Expr.attribute (data "_result") "status_code").apply [])
  | some .attribute => some (.attribute (data "_result") "status_code")

/-- The status of the response: the one the fragment sets, that of a failure, that of the
result, or that of the label. -/
def statusChain (context : Context) (endpoint : Endpoint) : Expr :=
  let told := match resultStatus? context.host endpoint.signature with
    | some e => [Expr.conditional (data "_ok") e (.int 0)]
    | none => []
  .boolean .or ([data "_status_code", data "_err_status_code"] ++ told ++
    [statusExpr endpoint.definition.label.status])

/-- Redirects if the fragment asked for it. -/
def redirectBody : List Stmt :=
  [.when (data "_redirect_url")
    [.expr (response "redirect" [data "_redirect_url", .name "_status"]), returnResponse]]

/-- A header of the response. -/
def header (name : String) : Expr :=
  .subscript (.attribute (.name "response") "headers") (.text name)

/-- Writes the rendered fragment with its headers. -/
def flushBody : List Stmt :=
  let headers := Expr.attribute (.name "response") "headers"
  [.when (.compare (.text "content-type") [(.notIn, headers)])
      [.assign (header "content-type") (.text "text/html; charset=utf-8")],
    .set "_data" (.apply (.attribute (.name "_body") "encode") [.text "utf-8"]),
    .assign (header "content-length")
      (.applyName "str" [.applyName "len" [.name "_data"]]),
    .expr (response "write_header" [.name "_status"]),
    .expr (response "write" [.name "_data"]),
    returnResponse]

/-- Writes the response, unless the call has done so. -/
def finishBody (context : Context) (endpoint : Endpoint) : List Stmt :=
  if endpoint.definition.writesResponse then
    [.expr (response "write" [.name "_body"]), returnResponse]
  else
    .set "_status" (statusChain context endpoint) ::
      (if endpoint.redirects then redirectBody else []) ++ flushBody

/-! ### Handlers -/

/-- Makes the response and the data of the fragment. -/
def openingBody (context : Context) (definition : Definition) : List Stmt :=
  let values := ["receiver", "response", "request", "_paths"].map Expr.name
  let words := Expr.text "handling request"
  [.set "response" (.applyName "ResponseWriter" []),
    .set "_td" (.applyName context.config.templateDataType values)] ++
    if context.config.logger then
      [.expr (.call (.attribute (.name "logger") "debug") [words] [logFields definition])]
    else []

/-- The handler of an endpoint. -/
def handler (context : Context) (endpoint : Endpoint) : Making Stmt := do
  let definition := endpoint.definition
  let called ← callBody context definition
  let body := openingBody context definition ++ called ++
    renderBody context definition :: finishBody context endpoint
  return .function true endpoint.handlerName [Param.typed "request" (.name "Request")]
    (.name "Response") body

end RoutesModule

end FragmentRoutes
