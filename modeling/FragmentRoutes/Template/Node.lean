/-
  The tree of a template.

  A template is a list of statements that hold expressions.  The tree keeps what the
  analysis of templates reads: the shape of every expression with its operands in the
  order in which they are looked at, the names and constant texts in it, and whether
  the text between tags is blank.
-/

namespace FragmentRoutes.Template

mutual

/-- An expression of a template.  The arguments of calls, filters and tests come in one
order: those by place, those by name, a list of further ones, a mapping of further
ones. -/
inductive Expr where
  | name (id : String)
  | spaceName (space id : String)
  | text (value : String)
  | constant
  | tuple (items : List Expr)
  | list (items : List Expr)
  | dict (entries : List (Expr × Expr))
  | conditional (test body : Expr) (otherwise : Option Expr)
  | junction (isAnd : Bool) (left right : Expr)
  | operation (operands : List Expr)
  | slice (bounds : List Expr)
  | attribute (subject : Expr) (name : String)
  | item (subject key : Expr)
  | call (callee : Expr) (args : List Expr)
  | filter (subject : Option Expr) (name : String) (args : List Expr)
  | test (subject : Expr) (name : String) (args : List Expr)

end

instance : Inhabited Expr := ⟨.constant⟩

/-- A statement of a template.  A reference names the template that it includes,
imports or extends. -/
inductive Stmt where
  | data (blank : Bool)
  | output (exprs : List Expr)
  | reference (template : Expr)
  | assign (target value : Expr)
  | assignBlock (target : Expr) (filter : Option Expr) (body : List Stmt)
  | loop (target iter : Expr) (body otherwise : List Stmt) (test : Option Expr)
  | branch (test : Expr) (body elifs otherwise : List Stmt)
  | routine (name : String) (defaults : List Expr) (body : List Stmt)
  | callBlock (call : Expr) (defaults : List Expr) (body : List Stmt)
  | filterBlock (filter : Expr) (body : List Stmt)
  | binding (targets values : List Expr) (body : List Stmt)
  | block (name : String) (body : List Stmt)
  | escaping (option : Expr) (body : List Stmt)

instance : Inhabited Stmt := ⟨.data true⟩

namespace Expr

mutual

/-- The expression can be assigned to. -/
def isTarget : Expr → Bool
  | .name _ => true
  | .spaceName _ _ => true
  | .tuple items => areTargets items
  | _ => false

/-- Every expression can be assigned to. -/
def areTargets : List Expr → Bool
  | [] => true
  | e :: es => isTarget e && areTargets es

end

end Expr

end FragmentRoutes.Template
