/-
  Protocols and registration functions.

  The receiver must have a method for each signature that is required of it.  Each group
  of routes has a protocol with the methods that its handlers call, and the protocol of
  the whole receiver is made of these and of the methods that routes without a group
  call.

  Each group has a function that makes its handlers and lists its routes with their
  ranks; the entry function puts the routes of all groups into the router.
-/
import FragmentRoutes.RoutesModule.Handler

namespace FragmentRoutes.RoutesModule

open Code

/-- The endpoints of the routes of a group. -/
structure EndpointGroup where
  ident : String
  endpoints : List Endpoint

namespace EndpointGroup

/-- The endpoints in the groups of their definitions. -/
def ofEndpoints (endpoints : List Endpoint) : List EndpointGroup :=
  (Group.ofDefinitions (endpoints.map (·.definition))).map fun g =>
    ⟨g.ident, g.routes.filterMap fun route => endpoints[route.2]?⟩

end EndpointGroup

/-! ### Protocols -/

/-- The signatures of the calls of endpoints that are required of the receiver, each
once, by name. -/
def required (context : Context) (endpoints : List Endpoint) : List Signature :=
  let calls := endpoints.flatMap fun e => (e.definition.call.map Call.walk).getD []
  let callees := ((calls.map (·.callee)).mergeSort fun a b => !decide (b < a)).eraseReps
  (callees.map context.signature).filter Signature.isRequired

/-- Parameters with their types, from left to right. -/
def paramsOf : List Signature.Param → Imports.Making (List Param)
  | [] => return []
  | p :: ps => do
    let type ← Imports.typeExpr p.type
    let rest ← paramsOf ps
    return Param.typed p.name type :: rest

/-- The method that a signature requires. -/
def protocolMethod (signature : Signature) : Imports.Making Stmt := do
  let params ← paramsOf signature.params
  let returns ← Imports.typeExpr signature.returns
  return .function signature.isAsync signature.name (Param.plain "self" :: params) returns
    [.expr (.constant .ellipsis)]

/-- The methods that signatures require. -/
def protocolMethods : List Signature → Imports.Making (List Stmt)
  | [] => return []
  | s :: ss => do
    let first ← protocolMethod s
    let rest ← protocolMethods ss
    return first :: rest

/-- The protocols of groups, and the methods of the routes without a group. -/
def groupProtocols (context : Context) (protocol : Expr) :
    List EndpointGroup → Imports.Making (List Stmt × List Stmt)
  | [] => return ([], [])
  | g :: gs => do
    let methods ← protocolMethods (required context g.endpoints)
    let (protocols, others) ← groupProtocols context protocol gs
    if g.ident.isEmpty then return (protocols, methods ++ others)
    else
      let name := Group.protocolName context.config g.ident
      let body := if methods.isEmpty then [.pass] else methods
      return (.classDef name [protocol] body :: protocols, others)

/-- The protocols of all groups and of the whole receiver. -/
def protocols (context : Context) (groups : List EndpointGroup) : Imports.Making (List Stmt) := do
  let protocol ← Imports.ref "typing" "Protocol"
  let (named, methods) ← groupProtocols context protocol groups
  let idents := (groups.map (·.ident)).filter fun ident => !ident.isEmpty
  let bases := idents.map fun ident => Expr.name (Group.protocolName context.config ident)
  let description := Stmt.expr (.text "Everything the generated handlers call on the receiver.")
  return named ++ [.classDef context.config.receiverInterface (bases ++ [protocol])
    (description :: methods)]

/-! ### Registration -/

/-- The type of lists of routes with their ranks and hosts. -/
def entriesType : Expr :=
  .subscript (.name "list")
    (.subscript (.name "tuple") (.tuple [.name "int", .name "str", .name "BaseRoute"]))

/-- The optional parameters of a registration function, which `kind` says how to pass. -/
def optionalParams (context : Context) (kind : ParamKind) (hasPrefix : Bool) :
    Imports.Making (List Param) := do
  let front := if hasPrefix then
    [Param.mk kind "paths_prefix" (some (.name "str")) (some (.text ""))] else []
  if context.config.logger then
    let logging ← Imports.moduleExpr "logging"
    let type := Expr.binary (logging.attribute "Logger") .bitOr Expr.absent
    return front ++ [.mk kind "logger" (some type) (some Expr.absent)]
  else return front

/-- The function that puts the routes of all groups into the router. -/
def entryFunction (context : Context) (groups : List EndpointGroup) : Imports.Making Stmt := do
  let config := context.config
  let givenPrefix := if config.pathPrefix then Expr.name "paths_prefix" else .text ""
  let args := [Expr.name "receiver", givenPrefix] ++
    if config.logger then [.name "logger"] else []
  let extend := fun (g : EndpointGroup) =>
    let entries := Expr.applyName (Group.functionName config g.ident) args
    Stmt.expr (.apply (.attribute (.name "_entries") "extend") [entries])
  let params ← optionalParams context .keywordOnly config.pathPrefix
  let description := Stmt.expr (.text
    "Register a handler for every route template on ``router`` and return the URL builders.")
  let body := [description, .typedAssign (.name "_entries") entriesType (.list [])] ++
    groups.map extend ++
    [.expr (.applyName "_register_routes" [.name "router", .name "_entries"]),
      .ret (.applyName config.routePathsType
        (if config.pathPrefix then [.name "paths_prefix"] else []))]
  return .function false config.routesFunction
    ([Param.typed "router" (.name "Router"),
      Param.typed "receiver" (.name config.receiverInterface)] ++ params)
    (.name config.routePathsType) body

/-- The route of an endpoint with its rank and host. -/
def routeEntry (endpoint : Endpoint) : Expr :=
  let label := endpoint.definition.label
  let methods := if endpoint.methodText.isEmpty then []
    else [(some "methods", Expr.list [.text endpoint.methodText])]
  .tuple [.int endpoint.rank, .text label.host,
    .call (.name "Route") [.text label.routerPath, .name endpoint.handlerName]
      (methods ++ [(some "name", .text endpoint.ident)])]

/-- The handlers of endpoints, in their order. -/
def handlers (context : Context) : List Endpoint → Making (List Stmt)
  | [] => return []
  | e :: es => do
    let first ← handler context e
    let rest ← handlers context es
    return first :: rest

/-- The function that makes the handlers of a group and lists its routes. -/
def groupFunction (context : Context) (group : EndpointGroup) : Making Stmt := do
  let config := context.config
  let front := if config.logger then
    [Stmt.set "logger" (.boolean .or [.name "logger", .name "_logger"])] else []
  let made ← handlers context group.endpoints
  let params ← optionalParams context .positional true
  let body := front ++
    [.set "_paths" (.applyName config.routePathsType [.name "paths_prefix"])] ++ made ++
    [.ret (.list (group.endpoints.map routeEntry))]
  return .function false (Group.functionName config group.ident)
    (Param.typed "receiver" (.name (Group.protocolName config group.ident)) :: params)
    entriesType body

/-- The functions of groups, in their order. -/
def groupFunctions (context : Context) : List EndpointGroup → Making (List Stmt)
  | [] => return []
  | g :: gs => do
    let first ← groupFunction context g
    let rest ← groupFunctions context gs
    return first :: rest

end FragmentRoutes.RoutesModule
