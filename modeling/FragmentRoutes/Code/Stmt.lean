/-
  Statements of the generated code.

  A generated module is a list of statements; the ones here are all that the generator
  needs.  Functions and classes hold statements of their own.
-/
import FragmentRoutes.Code.Expr

namespace FragmentRoutes.Code

/-- A statement. -/
inductive Stmt where
  /-- An expression for its effect, or the description of what it opens. -/
  | expr (value : Expr)
  | assign (target value : Expr)
  | typedAssign (target type value : Expr)
  | ret (value : Expr)
  | pass
  | ifElse (test : Expr) (body otherwise : List Stmt)
  /-- A body, what is done when it raises an error of a class, which may be given a name,
  and what is done when it does not. -/
  | attempt (body : List Stmt) (error : Expr) (name : Option String) (handler otherwise : List Stmt)
  | each (target iter : Expr) (body : List Stmt)
  | function (isAsync : Bool) (name : String) (params : List Param) (returns : Expr)
      (body : List Stmt)
  | classDef (name : String) (bases : List Expr) (body : List Stmt)
  | importModule (module : String)
  /-- Symbols of a module, each with the name it is given when that is another one. -/
  | importFrom (module : String) (symbols : List (String × Option String))

namespace Stmt

/-- The assignment of a value to a name. -/
def set (name : String) (value : Expr) : Stmt :=
  .assign (.name name) value

/-- The assignment of a value to an attribute of a name. -/
def setAttribute (owner name : String) (value : Expr) : Stmt :=
  .assign (.attribute (.name owner) name) value

/-- A condition without an alternative. -/
def when (test : Expr) (body : List Stmt) : Stmt :=
  .ifElse test body []

/-- The statement defines a function or a class. -/
def isDefinition : Stmt → Bool
  | .function .. => true
  | .classDef .. => true
  | _ => false

/-- The statement imports something. -/
def isImport : Stmt → Bool
  | .importModule _ => true
  | .importFrom .. => true
  | _ => false

end Stmt

/-- A parameter with a type. -/
def Param.typed (name : String) (type : Expr) : Param :=
  .mk .positional name (some type) none

/-- A parameter without a type. -/
def Param.plain (name : String) : Param :=
  .mk .positional name none none

end FragmentRoutes.Code
