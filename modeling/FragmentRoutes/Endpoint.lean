/-
  Endpoints: definitions that are ready to be generated.

  An endpoint is a definition with its identifier, its place in the order of the router,
  the signature of its call, what its path parameters are converted to, and whether
  rendering it may redirect.  `ofLibrary` makes the endpoints of all routes of a library.
-/
import FragmentRoutes.Redirect
import FragmentRoutes.Registration
import FragmentRoutes.Resolution

namespace FragmentRoutes

/-- A definition with all that the generated module needs to know of it. -/
structure Endpoint where
  definition : Definition
  ident : String
  rank : Nat
  signature : Option Signature
  pathTypes : List (String × HostType)
  redirects : Bool
  deriving Repr

namespace Endpoint

/-- Why a library has no endpoints. -/
inductive Fault where
  | definition (error : Definition.Error)
  | resolution (fault : Resolution.Fault)
  | template (fault : Template.Fault)
  deriving Repr

/-- The type that a path parameter is converted to, the type of texts if it is not. -/
def pathType (e : Endpoint) (param : String) : HostType :=
  (e.pathTypes.lookup param).getD HostType.str

/-- The function that handles requests of the endpoint. -/
def handlerName (e : Endpoint) : String :=
  "handle_" ++ e.ident

/-- The method of the route, empty for any. -/
def methodText (e : Endpoint) : String :=
  e.definition.label.methodText

/-- A definition with the signature of its call and its path types. -/
abbrev Resolved := Option Signature × List (String × HostType)

/-- Definitions with their signatures and path types, given the signatures recorded
before; all recorded signatures come with them. -/
def resolveFrom (host : Host) (signatures : List Signature) :
    List Definition → Except Resolution.Fault (List Resolved × List Signature)
  | [] => .ok ([], signatures)
  | d :: ds =>
    match (Resolution.resolve host d).run ⟨signatures, []⟩ with
    | (.error fault, _) => .error fault
    | (.ok signature, state) => do
      let (rest, all) ← resolveFrom host state.signatures ds
      return ((signature, state.pathTypes) :: rest, all)

/-- The endpoints of definitions whose identifiers, ranks, signatures and redirects are
given in their order. -/
def zip : List Definition → List String → List Nat → List Resolved → List Bool → List Endpoint
  | d :: ds, ident :: idents, rank :: ranks, (signature, types) :: rs, redirects :: bs =>
    ⟨d, ident, rank, signature, types, redirects⟩ :: zip ds idents ranks rs bs
  | _, _, _, _, _ => []

/-- The endpoints of a library in the order of its definitions, and all signatures in the
order of their recording. -/
def ofLibrary (library : Library) (host : Host) :
    Except Fault (List Endpoint × List Signature) := do
  let definitions ← (Definition.ofFragments library.fragments).mapError Fault.definition
  let idents := Naming.allocate definitions
  let (resolved, signatures) ← (resolveFrom host [] definitions).mapError Fault.resolution
  let redirects ← (definitions.mapM fun d => Redirect.mayRedirect library [] d.name).mapError
    Fault.template
  return (zip definitions idents (Registration.ranks definitions) resolved redirects, signatures)

end Endpoint

end FragmentRoutes
