/-
  Calls in labels.

  A call names a callee and its arguments, which are identifiers or calls again.  It
  is read as an expression of the generated code and narrowed to this shape, so any
  spacing, further parentheses and comments are accepted, and an expression of
  another shape is shown in the error.  `walk` lists the calls innermost first, the
  order in which they are carried out.
-/
import FragmentRoutes.Code.Printer
import FragmentRoutes.Code.Reader
import FragmentRoutes.Diagnosis
import FragmentRoutes.Text.Blank

namespace FragmentRoutes

/-- An argument of a call: an identifier, or the result of a nested call. -/
inductive Argument where
  | name (id : String)
  | call (callee : String) (args : List Argument)
  deriving Repr, Inhabited

/-- A call of a named callee. -/
structure Call where
  callee : String
  args : List Argument
  deriving Repr, Inhabited

namespace Call

/-- Why a text is not a call, or uses what is not in scope. -/
inductive Fault where
  | nullCharacter
  | unreadable (text : String)
  | notCall (shown : String)
  | notFunction (shown : String)
  | keywords (callee : String)
  | argumentKind (index : Nat) (shown : String)
  | unknownArgument (name : String) (index : Nat)
  | inCall (callee : String) (fault : Fault)
  deriving DecidableEq, Repr

/-! ### Views of a call -/

mutual

/-- The text of an argument. -/
def renderArgument : Argument → String
  | .name id => id
  | .call callee args => callee ++ "(" ++ ", ".intercalate (renderArguments args) ++ ")"

/-- The texts of arguments. -/
def renderArguments : List Argument → List String
  | [] => []
  | a :: as => renderArgument a :: renderArguments as

end

/-- The call as it is written with single spaces. -/
def render (call : Call) : String :=
  call.callee ++ "(" ++ ", ".intercalate (renderArguments call.args) ++ ")"

/-- The call an argument is, when it is one. -/
def ofArgument? : Argument → Option Call
  | .name _ => none
  | .call callee args => some ⟨callee, args⟩

mutual

/-- The calls in an argument, innermost first. -/
def walkArgument : Argument → List Call
  | .name _ => []
  | .call callee args => walkArguments args ++ [⟨callee, args⟩]

/-- The calls in arguments, innermost first. -/
def walkArguments : List Argument → List Call
  | [] => []
  | a :: as => walkArgument a ++ walkArguments as

end

/-- Nested calls innermost first, the call itself last. -/
def walk (call : Call) : List Call :=
  walkArguments call.args ++ [call]

mutual

/-- The identifiers in an argument, from left to right. -/
def identifiersOfArgument : Argument → List String
  | .name id => [id]
  | .call _ args => identifiersOfArguments args

/-- The identifiers in arguments, from left to right. -/
def identifiersOfArguments : List Argument → List String
  | [] => []
  | a :: as => identifiersOfArgument a ++ identifiersOfArguments as

end

/-- The identifiers at any depth, from left to right. -/
def identifiers (call : Call) : List String :=
  identifiersOfArguments call.args

/-- The call uses an identifier at some depth. -/
def mentions (call : Call) (id : String) : Bool :=
  call.identifiers.contains id

/-! ### Reading a call -/

mutual

/-- The call that an expression with a callee, arguments and keyword arguments is. -/
def ofParts (callee : Code.Expr) (args : List Code.Expr) (keyworded : Bool) : Except Fault Call :=
  match callee with
  | .name id =>
    if keyworded then .error (.keywords id)
    else do
      let args ← argumentsOf 0 args
      return ⟨id, args⟩
  | callee => .error (.notFunction callee.render)

/-- The arguments that expressions are; `index` is the place of the first. -/
def argumentsOf (index : Nat) : List Code.Expr → Except Fault (List Argument)
  | [] => .ok []
  | e :: es => do
    let a ← argumentOf index e
    let as ← argumentsOf (index + 1) es
    return a :: as

/-- The argument that the expression at a place is. -/
def argumentOf (index : Nat) : Code.Expr → Except Fault Argument
  | .name id => .ok (.name id)
  | .call callee args keywords => do
    let call ← ofParts callee args !keywords.isEmpty
    return .call call.callee call.args
  | e => .error (.argumentKind index e.render)

end

/-- The call that an expression is. -/
def ofExpr : Code.Expr → Except Fault Call
  | .call callee args keywords => ofParts callee args !keywords.isEmpty
  | e => .error (.notCall e.render)

/-- The call that a text spells. -/
def parse (text : String) : Except Fault Call :=
  let cs := Text.stripChars text.toList
  if cs.contains '\x00' then .error .nullCharacter
  else match Code.Expr.read cs with
    | none => .error (.unreadable text)
    | some e => ofExpr e

/-! ### Scope -/

mutual

/-- Every identifier in arguments is in scope; the first that is not is reported with
its place in the innermost call and the calls around it. -/
def checkArguments (scope : List String) (index : Nat) : List Argument → Except Fault Unit
  | [] => .ok ()
  | a :: as => do
    checkArgument scope index a
    checkArguments scope (index + 1) as

/-- Every identifier in the argument at a place is in scope. -/
def checkArgument (scope : List String) (index : Nat) : Argument → Except Fault Unit
  | .name id => if scope.contains id then .ok () else .error (.unknownArgument id index)
  | .call callee args => (checkArguments scope 0 args).mapError (.inCall callee)

end

/-- Every identifier at any depth is in scope. -/
def checkScope (scope : List String) (call : Call) : Except Fault Unit :=
  (checkArguments scope 0 call.args).mapError (.inCall call.callee)

/-- The words of a fault, where `diagnosis` gives those of the interpreter. -/
def Fault.message (fault : Fault) (diagnosis : Diagnosis := .brief) : String :=
  match fault with
  | nullCharacter => diagnosis.nullCharacter
  | unreadable text =>
    Diagnosis.explain ("failed to parse call expression " ++ Text.quote text)
      (diagnosis.expression text)
  | notCall shown => "expected call expression, got " ++ Text.quote shown
  | notFunction shown => "expected function identifier, got " ++ Text.quote shown
  | keywords callee => "call " ++ callee ++ " must not use keyword arguments"
  | argumentKind index shown =>
    "expected only identifier or call expressions as arguments, argument at index " ++
      toString index ++ " is: " ++ shown
  | unknownArgument name index => "unknown argument " ++ name ++ " at index " ++ toString index
  | inCall callee fault => "call " ++ callee ++ " argument error: " ++ fault.message diagnosis

end Call

end FragmentRoutes
