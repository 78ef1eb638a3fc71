/-
  Expressions of the generated code.

  The same trees serve two purposes: the text of a call in a label is read into one,
  so that a call of a wrong shape can be shown in an error, and the bodies of the
  generated functions are built from them.  The printer and the reader are modules of
  their own.
-/
import FragmentRoutes.Numeral.Double

namespace FragmentRoutes.Code

/-- A constant.  A text keeps whether it was written with the mark of the old text
literals; `codes` is a text with code points that are no characters. -/
inductive Constant where
  | none
  | bool (value : Bool)
  | ellipsis
  | int (value : Int)
  | real (value : Numeral.Double)
  | imaginary (value : Numeral.Double)
  | text (value : String)
  | markedText (value : String)
  | codes (value : List Nat)
  | bytes (value : List UInt8)
  deriving DecidableEq, Repr, Inhabited

/-- Operators with one operand. -/
inductive UnaryOp where
  | not
  | plus
  | minus
  | invert
  deriving DecidableEq, Repr

/-- Arithmetic operators with two operands. -/
inductive BinaryOp where
  | add
  | sub
  | mul
  | matMul
  | div
  | mod
  | floorDiv
  | pow
  | shiftLeft
  | shiftRight
  | bitOr
  | bitXor
  | bitAnd
  deriving DecidableEq, Repr

/-- The two operators that stop at the first deciding operand. -/
inductive BoolOp where
  | and
  | or
  deriving DecidableEq, Repr

/-- Comparisons; several in a row form one expression. -/
inductive CompareOp where
  | eq
  | notEq
  | lt
  | le
  | gt
  | ge
  | is
  | isNot
  | isIn
  | notIn
  deriving DecidableEq, Repr

/-- How an argument reaches a parameter. -/
inductive ParamKind where
  | positionalOnly
  | positional
  | rest
  | keywordOnly
  | keywordRest
  deriving DecidableEq, Repr

mutual

/-- An expression. -/
inductive Expr where
  | name (id : String)
  | constant (value : Constant)
  | attribute (value : Expr) (name : String)
  | subscript (value index : Expr)
  | call (callee : Expr) (args : List Expr) (keywords : List (Option String × Expr))
  | starred (value : Expr)
  | unary (op : UnaryOp) (operand : Expr)
  | binary (left : Expr) (op : BinaryOp) (right : Expr)
  | boolean (op : BoolOp) (operands : List Expr)
  | compare (first : Expr) (rest : List (CompareOp × Expr))
  | conditional (test body otherwise : Expr)
  | lambda (params : List Param) (body : Expr)
  | tuple (items : List Expr)
  | list (items : List Expr)
  | set (items : List Expr)
  | dict (items : List (Option Expr × Expr))
  | listOf (element : Expr) (clauses : List Clause)
  | setOf (element : Expr) (clauses : List Clause)
  | generator (element : Expr) (clauses : List Clause)
  | dictOf (key value : Expr) (clauses : List Clause)
  | await (value : Expr)
  | yield (value : Option Expr)
  | yieldFrom (value : Expr)
  | binding (name : String) (value : Expr)
  | template (parts : List TemplatePart)
  | slice (lower upper step : Option Expr)

/-- A `for` clause of a comprehension with the conditions after it. -/
inductive Clause where
  | mk (isAsync : Bool) (target iter : Expr) (conditions : List Expr)

/-- A piece of a text with values in it: literal text, or a value with an optional
conversion letter and an optional format, which may hold values itself. -/
inductive TemplatePart where
  | literal (text : String)
  | value (expr : Expr) (conversion : Option Char) (format : Option (List TemplatePart))

/-- A parameter of a function. -/
inductive Param where
  | mk (kind : ParamKind) (name : String) (type default : Option Expr)

end

instance : Inhabited Expr := ⟨.name ""⟩

namespace Expr

/-! ### Short forms used by the generator -/

/-- The constant for a text. -/
def text (value : String) : Expr :=
  .constant (.text value)

/-- The constant for a number. -/
def int (value : Int) : Expr :=
  .constant (.int value)

/-- The constant for nothing. -/
def absent : Expr :=
  .constant .none

/-- A chain of attributes of a value. -/
def attrs (value : Expr) (names : List String) : Expr :=
  names.foldl .attribute value

/-- A call with positional arguments. -/
def apply (callee : Expr) (args : List Expr) : Expr :=
  .call callee args []

/-- A call of a named function with positional arguments. -/
def applyName (callee : String) (args : List Expr) : Expr :=
  .call (.name callee) args []

/-- The dotted name as attributes of its first part. -/
def dotted (path : String) : Expr :=
  match path.splitOn "." with
  | [] => .name path
  | head :: rest => attrs (.name head) rest

end Expr

end FragmentRoutes.Code
