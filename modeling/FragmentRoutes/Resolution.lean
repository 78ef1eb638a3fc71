/-
  Signatures of calls.

  Every call of a definition, innermost first, is given a signature: the one recorded
  for its callee, the one of the application, or one made from the call itself
  (`synthesize`).  Each argument is then checked against its parameter.  What a path
  parameter is converted to is recorded for the definition, and must be the same
  wherever it is used.

  What was recorded before a fault stays recorded (`Resolution.State`).
-/
import FragmentRoutes.Naming
import FragmentRoutes.Signature

namespace FragmentRoutes

open Host

namespace Resolution

/-- Why the calls of a definition cannot be carried out.  The last two are faults of the
resolution itself: a nested call has no recorded signature yet, or a callee is given a
second signature. -/
inductive Fault where
  | signature (fault : Signature.Fault)
  | arity (callee : Signature) (call : Call) (definition : String)
  | notConvertible (type : HostType) (arg definition : String)
  | boundTwice (param : String) (first second : HostType) (definition : String)
  | mismatch (expected : HostType) (arg : String) (given : HostType) (definition : String)
  | unrecorded (callee : String)
  | changed (known given : Signature)
  deriving Repr

/-- The words of a fault, where `diagnosis` gives those of the interpreter. -/
def Fault.message (fault : Fault) (diagnosis : Diagnosis := .brief) : String :=
  match fault with
  | .signature fault => fault.message diagnosis
  | .arity callee call definition =>
    "handler func " ++ callee.render ++ " expects " ++ toString callee.params.length ++
      " arguments but call " ++ call.render ++ " has " ++ toString call.args.length ++
      " (in " ++ Text.quote definition ++ ")"
  | .notConvertible type arg definition =>
    "method expects type " ++ type.render ++ " but " ++ arg ++ " is str (in " ++
      Text.quote definition ++ ")"
  | .boundTwice param first second definition =>
    "path parameter " ++ param ++ " is bound as both " ++ first.render ++ " and " ++
      second.render ++ " (in " ++ Text.quote definition ++ ")"
  | .mismatch expected arg given definition =>
    "method expects type " ++ expected.render ++ " but " ++ arg ++ " is " ++ given.render ++
      " (in " ++ Text.quote definition ++ ")"
  | .unrecorded callee => Text.quote callee
  | .changed known given =>
    "signature for " ++ given.name ++ " changed from " ++ known.render ++ " to " ++ given.render

/-- The signatures recorded so far in the order of recording, and what the path
parameters of the definition are converted to. -/
structure State where
  signatures : List Signature
  pathTypes : List (String × HostType)
  deriving Repr

/-- A step of the resolution. -/
abbrev Step := ExceptT Fault (StateM State)

/-- The state of a resolution that has not begun. -/
def State.start : State := ⟨[], []⟩

/-- The signature of a callee among the recorded ones. -/
def recorded? (signatures : List Signature) (callee : String) : Option Signature :=
  signatures.find? fun g => g.name == callee

/-! ### Arguments -/

/-- The type of what a handler has for an identifier of its own. -/
def reservedType? (name : String) : Option HostType :=
  match name with
  | "ctx" => some (.applied .direct (.abstract "MutableMapping") [HostType.str, .any])
  | "request" => some (.cls (.standard "starlette.requests" "Request"))
  | "response" => some (.generated "ResponseWriter")
  | "form" => some (.cls (.standard "starlette.datastructures" "FormData"))
  | _ => none

/-- The type of what a handler has for an argument before any conversion. -/
def argumentType (signatures : List Signature) : Argument → Except Fault HostType
  | .name id => .ok ((reservedType? id).getD HostType.str)
  | .call callee _ =>
    match recorded? signatures callee with
    | some g => .ok g.result
    | none => .error (.unrecorded callee)

/-! ### Signatures made from calls -/

/-- The name that an argument suggests for its parameter. -/
def suggestedName (index : Nat) (arg : Argument) : String :=
  let base := match arg with
    | .name id => id
    | .call callee _ => Naming.snakeCase callee
  if Text.isName base then base else "arg" ++ toString index

/-- The first of a name and the name with the numbers from `n` on that is not used; the
bound is the number of names in use. -/
def freeNameWithin (used : List String) (base : String) : Nat → Nat → String
  | 0, n => base ++ "_" ++ toString n
  | fuel + 1, n =>
    let name := base ++ "_" ++ toString n
    if used.contains name then freeNameWithin used base fuel (n + 1) else name

/-- A name that is not used, the suggested one if possible. -/
def freeName (used : List String) (base : String) : String :=
  if used.contains base then freeNameWithin used base used.length 2 else base

/-- The parameters for arguments from a place on, given the names in use. -/
def synthesizeParams (signatures : List Signature) (used : List String) (index : Nat) :
    List Argument → Except Fault (List Signature.Param)
  | [] => .ok []
  | arg :: args => do
    let name := freeName used (suggestedName index arg)
    let type ← argumentType signatures arg
    let params ← synthesizeParams signatures (name :: used) (index + 1) args
    return ⟨name, type⟩ :: params

/-- The signature that a call requires of the receiver. -/
def synthesize (signatures : List Signature) (call : Call) : Except Fault Signature := do
  let params ← synthesizeParams signatures [] 0 call.args
  return ⟨call.callee, params, .any, .value, .synthesized, false, .any, ""⟩

/-! ### Checking calls -/

/-- What a text is converted to for a parameter of a type, when it can be. -/
def conversionTarget? (host : Host) (t : HostType) : Option HostType :=
  (host.conversion? t).map fun kind => if kind == .str then HostType.str else t.unwrap

/-- Records what a path parameter is converted to, and checks it against the record. -/
def bindPath (definition : Definition) (param : String) (target : HostType) : Step Unit := do
  let state ← get
  match state.pathTypes.lookup param with
  | none => set { state with pathTypes := state.pathTypes ++ [(param, target)] }
  | some recorded =>
    if !recorded.same target then
      throw (.boundTwice param recorded target definition.name)

/-- Checks that a parameter accepts what a handler has for an argument. -/
def checkAccepted (host : Host) (definition : Definition) (param : Signature.Param)
    (arg : Argument) : Step Unit := do
  let given ← ofExcept (argumentType (← get).signatures arg)
  if !host.accepts param.type given then
    throw (.mismatch param.type (Call.renderArgument arg) given definition.name)

/-- Checks an argument against its parameter. -/
def checkArgument (host : Host) (definition : Definition) (param : Signature.Param) :
    Argument → Step Unit
  | .call callee args => checkAccepted host definition param (.call callee args)
  | .name id =>
    if definition.label.params.contains id then
      match conversionTarget? host param.type with
      | none => throw (.notConvertible param.type id definition.name)
      | some target => bindPath definition id target
    else if id == "form" && host.isStruct param.type then pure ()
    else checkAccepted host definition param (.name id)

/-- Checks arguments against their parameters, from left to right. -/
def checkArguments (host : Host) (definition : Definition) :
    List (Signature.Param × Argument) → Step Unit
  | [] => pure ()
  | (param, arg) :: rest => do
    checkArgument host definition param arg
    checkArguments host definition rest

/-- Checks the arguments of a call against the signature of its callee. -/
def checkCall (host : Host) (definition : Definition) (signature : Signature) (call : Call) :
    Step Unit := do
  if signature.params.length != call.args.length then
    throw (.arity signature call definition.name)
  checkArguments host definition (signature.params.zip call.args)

/-- Records a signature.  The callee must not have another one already. -/
def record (signature : Signature) : Step Signature := do
  let state ← get
  match recorded? state.signatures signature.name with
  | some known =>
    if known.isBuiltLike signature then return known else throw (.changed known signature)
  | none =>
    set { state with signatures := state.signatures ++ [signature] }
    return signature

/-- The signature recorded for a callee, else the one that the application has, which
is then recorded. -/
def lookup (host : Host) (callee : String) : Step (Option Signature) := do
  match recorded? (← get).signatures callee with
  | some known => return some known
  | none =>
    match Signature.ofHost? host callee with
    | none => return none
    | some (.error fault) => throw (.signature fault)
    | some (.ok signature) => return some (← record signature)

/-- The signature of the callee of a call: the one recorded or of the application, else one
made from the call. -/
def signatureOf (host : Host) (call : Call) : Step Signature := do
  match ← lookup host call.callee with
  | some known => return known
  | none => record (← ofExcept (synthesize (← get).signatures call))

/-- Gives a call of a definition its signature and checks its arguments. -/
def resolveCall (host : Host) (definition : Definition) (call : Call) : Step Unit := do
  let signature ← signatureOf host call
  checkCall host definition signature call

/-- Gives calls of a definition their signatures, in their order. -/
def resolveCalls (host : Host) (definition : Definition) : List Call → Step Unit
  | [] => pure ()
  | call :: rest => do
    resolveCall host definition call
    resolveCalls host definition rest

/-- Gives all calls of a definition their signatures; the result is that of the
outermost call. -/
def resolve (host : Host) (definition : Definition) : Step (Option Signature) := do
  match definition.call with
  | none => return none
  | some call =>
    resolveCalls host definition call.walk
    return recorded? (← get).signatures call.callee

end Resolution

end FragmentRoutes
