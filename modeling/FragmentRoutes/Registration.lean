/-
  The order in which routes are registered, and their groups.

  The router takes the first route that matches.  So routes of a host come before
  those of any host, routes with a fixed number of segments before those that match
  everything below a path, of the latter the longer before the shorter, and a route of
  one method before that of any method.  `ranks` numbers the definitions in this order.

  Routes of one group share a function and a protocol.  Groups are ordered by their
  identifiers; those whose files give the same identifier are one group.
-/
import FragmentRoutes.Config
import FragmentRoutes.Naming

namespace FragmentRoutes

namespace Registration

/-- The route matches everything below a path. -/
def isCatchAll (d : Definition) : Bool :=
  d.label.catchAll

/-- The order of truth values with true first. -/
def trueFirst (a b : Bool) : Ordering :=
  compare b a

/-- How two definitions are ordered for the router. -/
def precedence (a b : Definition) : Ordering :=
  (trueFirst (!a.label.host.isEmpty) (!b.label.host.isEmpty)).then <|
  (compare a.label.host b.label.host).then <|
  (trueFirst (!isCatchAll a) (!isCatchAll b)).then <|
  (if isCatchAll a && isCatchAll b then compare b.label.path.length a.label.path.length
    else .eq).then <|
  (compare a.label.path b.label.path).then <|
  (trueFirst a.label.method.isSome b.label.method.isSome).then <|
  (compare a.label.methodText b.label.methodText).then <|
  compare a.label.name b.label.name

/-- The definitions with their positions, in the order of the router. -/
def order (definitions : List Definition) : List (Definition × Nat) :=
  definitions.zipIdx.mergeSort fun a b => precedence a.1 b.1 != .gt

/-- The number of each definition in the order of the router. -/
def ranks (definitions : List Definition) : List Nat :=
  let positions := (order definitions).map (·.2)
  (List.range definitions.length).map fun i => positions.idxOf i

end Registration

/-- Routes that are registered together, each with its position among all. -/
structure Group where
  ident : String
  routes : List (Definition × Nat)
  deriving Repr, Inhabited

namespace Group

/-- The identifier of the group that a definition belongs to. -/
def identOf (d : Definition) : String :=
  Naming.groupIdentifier d.group

/-- The groups of definitions, by their identifiers. -/
def ofDefinitions (definitions : List Definition) : List Group :=
  let idents := (definitions.map identOf).mergeSort fun a b => !decide (b < a)
  idents.eraseReps.map fun ident =>
    ⟨ident, definitions.zipIdx.filter fun route => identOf route.1 == ident⟩

/-- The function that registers the routes of a group. -/
def functionName (config : Config) (ident : String) : String :=
  ident ++ "_" ++ config.routesFunction

/-- The protocol of a receiver of the routes of a group. -/
def protocolName (config : Config) (ident : String) : String :=
  Naming.pascalCase ident ++ config.receiverInterface

end Group

end FragmentRoutes
