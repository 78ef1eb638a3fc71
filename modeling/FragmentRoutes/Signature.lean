/-
  Signatures.

  The signature of a callee says what a handler passes to it and how it branches on the
  result.  It comes from a method of the receiver, from a free function, or from the
  calls in labels when the application has neither (`Resolution`).

  A result that is a pair of a value and an error, or of a value and a truth value, is
  split into its parts.
-/
import FragmentRoutes.Diagnosis
import FragmentRoutes.Host.Accept
import FragmentRoutes.Host.Naming

namespace FragmentRoutes

open Host

/-- How a handler branches on a result. -/
inductive Signature.Shape where
  | value
  | withError
  | withSuccess
  deriving DecidableEq, Repr

/-- Where a signature comes from. -/
inductive Signature.Origin where
  | method
  | function
  | synthesized
  deriving DecidableEq, Repr

/-- A parameter with its type. -/
structure Signature.Param where
  name : String
  type : HostType
  deriving Repr

/-- The signature of a callee.  `returns` is the whole type of the result, and `result`
that of the value in it; `module` is where a free function is defined. -/
structure Signature where
  name : String
  params : List Signature.Param
  result : HostType
  shape : Signature.Shape
  origin : Signature.Origin
  isAsync : Bool
  returns : HostType
  module : String
  deriving Repr

namespace Signature

/-- Why a function of the application has no signature. -/
inductive Fault where
  | unknownName (callee name : String)
  | variadic (callee shown : String)
  | keywordOnly (callee param : String)
  | noValue (callee : String)
  deriving DecidableEq, Repr

/-- The words of a fault, where `diagnosis` gives those of the interpreter. -/
def Fault.message (fault : Fault) (diagnosis : Diagnosis := .brief) : String :=
  match fault with
  | unknownName callee name =>
    "failed to resolve annotations of " ++ callee ++ ": " ++ diagnosis.name name
  | variadic callee shown => callee ++ ": unsupported variadic parameter " ++ shown
  | keywordOnly callee param =>
    callee ++ ": unsupported keyword-only parameter " ++ param ++ " without a default"
  | noValue callee => callee ++ ": method must return a value"

/-- Free functions are called directly, everything else is asked of the receiver. -/
def isRequired (s : Signature) : Bool :=
  s.origin != .function

/-- Two signatures take the same types, have the same result, and handlers branch on it and
wait for it alike. -/
def isBuiltLike (s t : Signature) : Bool :=
  HostType.sameList (s.params.map (·.type)) (t.params.map (·.type)) && s.result.same t.result &&
    s.shape == t.shape && s.isAsync == t.isAsync

/-- The signature as listings and messages show it. -/
def render (s : Signature) : String :=
  s.name ++ "(" ++ ", ".intercalate (s.params.map fun p => p.name ++ ": " ++ p.type.render) ++
    ") -> " ++ s.returns.render

/-- The type of the value in a result, and how a handler branches on it. -/
def shapeOf (host : Host) (returns : HostType) : HostType × Shape :=
  if returns.origin? == some (.builtin "tuple") then
    match returns.args with
    | [value, mark] =>
      if host.isErrorLike mark then (value, .withError)
      else if mark.isBuiltin "bool" then (value, .withSuccess)
      else (returns, .value)
    | _ => (returns, .value)
  else (returns, .value)

/-! ### Signatures of functions -/

/-- A type written in a function, with names replaced and remarks left out. -/
def written (host : Host) (callee : String) (t : HostType) : Except Fault HostType :=
  match (HostType.named t).settle host.named? with
  | .ok t => .ok t.withoutRemarks
  | .error name => .error (.unknownName callee name)

/-- A parameter as it is shown when it takes any number of arguments. -/
def renderParam (p : Host.Parameter) : String :=
  let front := match p.passing with
    | .rest => "*"
    | .keywordRest => "**"
    | _ => ""
  front ++ p.name ++
    match p.type with
    | some t => ": " ++ t.renderWritten
    | none => ""

/-- The types of parameters, any type where none is written. -/
def paramTypes (host : Host) (callee : String) :
    List Host.Parameter → Except Fault (List (Host.Parameter × HostType))
  | [] => .ok []
  | p :: ps => do
    let t ← match p.type with
      | some t => written host callee t
      | none => pure .any
    let rest ← paramTypes host callee ps
    return (p, t) :: rest

/-- The parameters that a handler passes arguments for. -/
def positional (callee : String) : List (Host.Parameter × HostType) → Except Fault (List Param)
  | [] => .ok []
  | (p, t) :: rest =>
    match p.passing with
    | .rest | .keywordRest => .error (.variadic callee (renderParam p))
    | .keywordOnly => if p.hasDefault then positional callee rest
      else .error (.keywordOnly callee p.name)
    | .positional | .positionalOnly => do
      let params ← positional callee rest
      return ⟨p.name, t⟩ :: params

/-- The type of the result of a function, any type where none is written. -/
def resultType (host : Host) (callee : String) (f : Function) : Except Fault HostType :=
  match f.result with
  | some t => written host callee t
  | none => .ok .any

/-- The signature of a function that goes by a name. -/
def ofFunction (host : Host) (callee : String) (f : Function) (origin : Origin) :
    Except Fault Signature := do
  let types ← paramTypes host callee f.params
  let returns ← resultType host callee f
  let params ← positional callee types
  if returns.isNoneType then .error (.noValue callee)
  else
    let (result, shape) := shapeOf host returns
    let module := if origin == .function then f.module else ""
    return ⟨callee, params, result, shape, origin, f.isAsync, returns, module⟩

/-! ### Callees of the application -/

/-- The function that every class of an abstract kind answers `register` with. -/
def registration : Function :=
  ⟨"abc", [⟨"subclass", none, .positional, false⟩], none, false⟩

/-- The class can have others listed under it. -/
def isAbstract (host : Host) (c : ClassId) : Bool :=
  (host.lineage c).any fun d =>
    d == Class.protocolBase || d == Class.modelBase || d.module == "collections.abc"

/-- The function that the receiver answers a name with. -/
def receiverFunction? (host : Host) (name : String) : Option Function :=
  if name.startsWith "_" then none
  else match host.receiver with
    | none => none
    | some c =>
      match host.attribute? c name with
      | some (.method f) => some f
      | some (.static f) => some f
      | some (.ofClass f) => some f
      | some _ => none
      | none => if name == "register" && isAbstract host c then some registration else none

/-- The signature that the application has for a callee, when it has one. -/
def ofHost? (host : Host) (callee : String) : Option (Except Fault Signature) :=
  match receiverFunction? host callee with
  | some f => some (ofFunction host callee f .method)
  | none => (host.functions.lookup callee).map fun f => ofFunction host callee f .function

end Signature

end FragmentRoutes
