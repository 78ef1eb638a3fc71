/-
  The generated module.

  `generate` reads the routes of a library, gives their calls signatures, and makes the
  module that serves them: its imports, the helpers, the protocols of the receiver, the
  classes, the registration functions with the handlers in them, and the URL builders.
-/
import FragmentRoutes.RoutesModule.Entry
import FragmentRoutes.RoutesModule.Support
import FragmentRoutes.RoutesModule.UrlBuilder

namespace FragmentRoutes

open Code

/-- A module that serves the routes of a library. -/
structure RoutesModule where
  fileName : String
  pieces : List Piece
  endpoints : List Endpoint
  signatures : List Signature

namespace RoutesModule

/-- Why no module is generated. -/
inductive Failure where
  | endpoints (fault : Endpoint.Fault)
  | making (fault : Fault)
  deriving Repr

/-- The words of a failure, when it is one that users are told about; `diagnosis` gives those of
the interpreter.  The other failures are errors of the interpreter and of the reader of
templates, and of the resolution itself. -/
def Failure.message? (failure : Failure) (diagnosis : Diagnosis := .brief) : Option String :=
  match failure with
  | .endpoints (.definition (.grammar error)) =>
    match error.fault with
    | .call .nullCharacter => none
    | .label (.status .missing) => none
    | _ => some (error.message diagnosis)
  | .endpoints (.definition error) => some (error.message diagnosis)
  | .endpoints (.resolution (.unrecorded _)) => none
  | .endpoints (.resolution (.changed _ _)) => none
  | .endpoints (.resolution fault) => some (fault.message diagnosis)
  | .endpoints (.template _) => none
  | .making (.constraint (.mistake mistake) label) =>
    some (Grammar.Error.message ⟨.constraint mistake, label⟩ diagnosis)
  | .making fault => fault.message?

/-- The text of the module. -/
def text (m : RoutesModule) : String :=
  renderModule Support.header m.pieces

/-- The patterns of the routes, in the order of their definitions. -/
def patterns (m : RoutesModule) : List String :=
  m.endpoints.map fun e => e.definition.pattern

/-- Keeps the names that the module uses from being given to imports. -/
def reserveNames (config : Config) (endpoints : List Endpoint) : Imports.Making Unit := do
  Support.register config
  modify (·.reserve (Route.argumentNames ++ Route.generatedNames))
  modify (·.reserve (endpoints.flatMap fun e => e.handlerName :: e.definition.label.params))

/-- The expression for the templates: a variable of their module, or an attribute of it
when one is given. -/
def templatesExpr (config : Config) (attributeName : String) : Imports.Making Expr := do
  let templates ← Imports.ref config.templatesModule config.templatesVariable
  return if attributeName.isEmpty then templates else templates.attribute attributeName

/-- Makes everything but the imports. -/
def body (context : Context) (endpoints : List Endpoint) : Making (List Piece) := do
  let groups := EndpointGroup.ofEndpoints endpoints
  let config := context.config
  let names := groups.flatMap fun g =>
    [Group.functionName config g.ident, Group.protocolName config g.ident]
  modify (·.reserve names)
  let protocols ← protocols context groups
  let entry ← entryFunction context groups
  let functions ← groupFunctions context groups
  let urls ← urlClass context.host config.routePathsType endpoints
  return Support.helpers ++ protocols.map .stmt ++ Support.classes config ++
    (entry :: functions ++ [urls]).map .stmt

/-- Makes the module that serves endpoints. -/
def make (config : Config) (library : Library) (host : Host) (attributeName : String)
    (endpoints : List Endpoint) (signatures : List Signature) : Making (List Piece) := do
  reserveNames config endpoints
  let templates ← templatesExpr config attributeName
  let pieces ← body ⟨config, host, library, signatures, templates⟩ endpoints
  let imports ← get
  return imports.statements.map .stmt ++ pieces

/-- The module that serves the routes of a library. -/
def generate (config : Config) (library : Library) (host : Host) (attributeName : String) :
    Except Failure RoutesModule := do
  let (endpoints, signatures) ← (Endpoint.ofLibrary library host).mapError Failure.endpoints
  let made := make config library host attributeName endpoints signatures
  match (made.run.run (Imports.start "")).1 with
  | .ok pieces => return ⟨config.outputFile, pieces, endpoints, signatures⟩
  | .error fault => .error (.making fault)

end RoutesModule

end FragmentRoutes
