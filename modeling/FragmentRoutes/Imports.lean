/-
  Imports of the generated module.

  A class or function that the generated code names is imported under its own name, or,
  when something else has that name, under one made of the name of its module and its
  own.  `Imports` records what was imported and what each local name stands for; the
  record grows while code is made, and `statements` lists it in the end.
-/
import FragmentRoutes.Code.Stmt
import FragmentRoutes.Host.Basic

namespace FragmentRoutes

open Host Code

/-- What a local name stands for: a symbol of a module, a module, or, with an empty
module, something that the generated module defines itself. -/
structure Imports.Owner where
  module : String
  symbol : String
  deriving DecidableEq, Repr

/-- The imports of a generated module.  `own` is the name of that module, `modules` are
those imported whole, `symbols` those imported from a module with their local names, and
`owners` says what each local name stands for. -/
structure Imports where
  own : String
  modules : List String
  symbols : List (Imports.Owner × String)
  owners : List (String × Imports.Owner)
  deriving Repr

namespace Imports

/-- No imports in a module of a name. -/
def start (own : String) : Imports := ⟨own, [], [], []⟩

/-- Code that is made while imports are recorded. -/
abbrev Making := StateM Imports

/-- A local name gets an owner unless it has one. -/
def grant (imports : Imports) (name : String) (owner : Owner) : Imports :=
  if (imports.owners.lookup name).isSome then imports
  else { imports with owners := (name, owner) :: imports.owners }

/-- Names that the generated module defines itself. -/
def reserve (imports : Imports) (names : List String) : Imports :=
  names.foldl (fun imports name => imports.grant name ⟨"", name⟩) imports

/-- A module that is imported whole. -/
def addModule (imports : Imports) (module : String) : Imports :=
  let head := (module.splitOn ".").headD module
  let imports := imports.grant head ⟨module, ""⟩
  if imports.modules.contains module then imports
  else { imports with modules := module :: imports.modules }

/-! ### Local names -/

/-- The name may stand for the owner: it stands for nothing else. -/
def isFree (imports : Imports) (name : String) (owner : Owner) : Bool :=
  match imports.owners.lookup name with
  | some other => other == owner
  | none => true

/-- The first of the names with a number from `n` on that is free; the bound is the number
of names that are not. -/
def numberedWithin (imports : Imports) (owner : Owner) (base : String) : Nat → Nat → String
  | 0, n => base ++ toString n
  | fuel + 1, n =>
    let name := base ++ toString n
    if imports.isFree name owner then name else numberedWithin imports owner base fuel (n + 1)

/-- The text without underscores at its ends. -/
def trimUnderscores (s : String) : String :=
  String.ofList ((s.toList.dropWhile (· == '_')).reverse.dropWhile (· == '_')).reverse

/-- The local name made of the name of the module and that of the symbol. -/
def aliasOf (owner : Owner) : String :=
  trimUnderscores ((owner.module.splitOn ".").getLastD owner.module) ++ "_" ++ owner.symbol

/-- The local name that a symbol gets when it is first asked for. -/
def choose (imports : Imports) (owner : Owner) : String :=
  if imports.isFree owner.symbol owner then owner.symbol
  else if imports.isFree (aliasOf owner) owner then aliasOf owner
  else numberedWithin imports owner (aliasOf owner) imports.owners.length 2

/-- The imports with a symbol under a local name. -/
def addSymbol (imports : Imports) (owner : Owner) (name : String) : Imports :=
  { imports with
    symbols := (owner, name) :: imports.symbols
    owners := (name, owner) :: imports.owners.filter (·.1 != name) }

/-- The local name of a symbol of a module. -/
def localName (module symbol : String) : Making String := do
  let imports ← get
  if module == imports.own then return symbol
  match imports.symbols.lookup ⟨module, symbol⟩ with
  | some name => return name
  | none =>
    let name := imports.choose ⟨module, symbol⟩
    set (imports.addSymbol ⟨module, symbol⟩ name)
    return name

/-- A symbol of a module as an expression. -/
def ref (module symbol : String) : Making Expr := do
  return .name (← localName module symbol)

/-- A whole module as an expression. -/
def moduleExpr (module : String) : Making Expr := do
  modify (·.addModule module)
  return Expr.dotted module

/-! ### Types as expressions -/

/-- The type of everything. -/
def anyExpr : Making Expr :=
  ref "typing" "Any"

/-- The class cannot be imported. -/
def isHidden (c : ClassId) : Bool :=
  c.module == "__main__" || (c.qualname.splitOn "<locals>").length != 1

/-- A class as an expression. -/
def classExpr (c : ClassId) : Making Expr := do
  if c.isBuiltin then return .name c.qualname
  if isHidden c then anyExpr
  else match c.qualname.splitOn "." with
    | [] => ref c.module c.qualname
    | head :: rest => return (← ref c.module head).attrs rest

/-- The constant for a value of a literal type. -/
def valueConstant : Value → Constant
  | .none => .none
  | .flag value => .bool value
  | .whole value => .int value
  | .real value => .real value
  | .text value => .text value
  | v => .text v.render

/-- An expression applied to others in brackets. -/
def subscript (value : Expr) : List Expr → Expr
  | [] => value
  | [item] => .subscript value item
  | items => .subscript value (.tuple items)

/-- Expressions with bars between them. -/
def barred : List Expr → Expr
  | [] => Expr.absent
  | e :: es => es.foldl (fun left right => .binary left .bitOr right) e

mutual

/-- A type as an expression, with everything that it names imported. -/
def typeExpr : HostType → Making Expr
  | .any => anyExpr
  | .var _ => anyExpr
  | .nothing => return Expr.absent
  | .ellipsis => return .constant .ellipsis
  | .generated name => return .name name
  | .params types => do
    let items ← typeExprs types
    return .list items
  | .union _ types => do
    let items ← typeExprs types
    return barred items
  | .annotated base _ => typeExpr base
  | .literal values => do
    let front ← ref "typing" "Literal"
    return subscript front (values.map fun v => .constant (valueConstant v))
  | .applied _ c types => do
    let front ← classExpr c
    let items ← typeExprs types
    return subscript front items
  | .synonym _ c => classExpr c
  | .cls c => if c == .builtin "NoneType" then return Expr.absent else classExpr c
  | .newType _ _ _ => anyExpr
  | .special _ _ => anyExpr
  | .value _ => anyExpr
  | .forward _ => anyExpr

/-- Types as expressions, from left to right. -/
def typeExprs : List HostType → Making (List Expr)
  | [] => return []
  | t :: ts => do
    let e ← typeExpr t
    let es ← typeExprs ts
    return e :: es

end

/-! ### Statements -/

/-- Texts in order, each once. -/
def inOrder (texts : List String) : List String :=
  texts.eraseDups.mergeSort fun a b => !decide (b < a)

/-- The symbols imported from a module in order, with the local names that differ. -/
def symbolsOf (imports : Imports) (module : String) : List (String × Option String) :=
  let own := imports.symbols.filter fun s => s.1.module == module
  let sorted := own.mergeSort fun a b => !decide (b.1.symbol < a.1.symbol)
  sorted.map fun (owner, name) =>
    (owner.symbol, if name == owner.symbol then none else some name)

/-- The import statements of the module. -/
def statements (imports : Imports) : List Stmt :=
  .importFrom "__future__" [("annotations", none)] ::
    (inOrder imports.modules).map .importModule ++
    (inOrder (imports.symbols.map (·.1.module))).map fun module =>
      .importFrom module (imports.symbolsOf module)

end Imports

end FragmentRoutes
