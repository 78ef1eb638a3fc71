/-
  Layout of the generated code.

  Each statement is written on a line of its own, and what belongs to it on the lines
  below, four spaces further in.  Inside of another statement a definition follows an
  empty line.  At the top of a module definitions stand between two empty lines, and the
  imports before one.
-/
import FragmentRoutes.Code.Printer
import FragmentRoutes.Code.Stmt

namespace FragmentRoutes.Code

/-- A line at a depth. -/
def line (depth : Nat) (text : String) : String :=
  String.ofList (List.replicate (4 * depth) ' ') ++ text

/-- A symbol with the name it is given. -/
def renderSymbol : String × Option String → String
  | (symbol, none) => symbol
  | (symbol, some name) => symbol ++ " as " ++ name

/-- An expression on the left of an assignment. -/
def Expr.renderTarget (e : Expr) : String :=
  e.print false Level.tuple

/-- The text that describes what a statement list opens, between triple quotes. -/
def renderDescription (text : String) : String :=
  "\"\"\"" ++ text ++ "\"\"\""

mutual

/-- The lines of a statement at a depth. -/
def Stmt.lines (depth : Nat) : Stmt → List String
  | .expr value => [line depth value.render]
  | .assign target value => [line depth (target.renderTarget ++ " = " ++ value.render)]
  | .typedAssign target type value =>
    [line depth (target.renderTarget ++ ": " ++ type.render ++ " = " ++ value.render)]
  | .ret value => [line depth ("return " ++ value.render)]
  | .pass => [line depth "pass"]
  | .ifElse test body otherwise =>
    line depth ("if " ++ test.render ++ ":") :: bodyLines (depth + 1) body ++
      elseLines depth otherwise
  | .attempt body error name handler otherwise =>
    let named := match name with
      | some n => " as " ++ n
      | none => ""
    let rest := bodyLines (depth + 1) otherwise
    line depth "try:" :: bodyLines (depth + 1) body ++
      line depth ("except " ++ error.render ++ named ++ ":") :: bodyLines (depth + 1) handler ++
      (if rest.isEmpty then [] else line depth "else:" :: rest)
  | .each target iter body =>
    line depth ("for " ++ target.renderTarget ++ " in " ++ iter.render ++ ":") ::
      bodyLines (depth + 1) body
  | .function isAsync name params returns body =>
    let front := if isAsync then "async def " else "def "
    line depth (front ++ name ++ "(" ++ ", ".intercalate (printParams false false params) ++
      ") -> " ++ returns.render ++ ":") :: describedLines (depth + 1) body
  | .classDef name bases body =>
    let listed := if bases.isEmpty then ""
      else "(" ++ ", ".intercalate (bases.map Expr.render) ++ ")"
    line depth ("class " ++ name ++ listed ++ ":") :: describedLines (depth + 1) body
  | .importModule module => [line depth ("import " ++ module)]
  | .importFrom module symbols =>
    [line depth ("from " ++ module ++ " import " ++ ", ".intercalate (symbols.map renderSymbol))]

/-- The lines of statements inside of another one. -/
def bodyLines (depth : Nat) : List Stmt → List String
  | [] => []
  | s :: rest =>
    let own := s.lines depth
    (if s.isDefinition then "" :: own else own) ++ bodyLines depth rest

/-- The lines of statements that may open with a description. -/
def describedLines (depth : Nat) : List Stmt → List String
  | .expr (.constant (.text text)) :: rest =>
    line depth (renderDescription text) :: bodyLines depth rest
  | body => bodyLines depth body

/-- The lines of the alternative of a condition; one that is a condition itself continues
it. -/
def elseLines (depth : Nat) : List Stmt → List String
  | [] => []
  | [.ifElse test body otherwise] =>
    line depth ("elif " ++ test.render ++ ":") :: bodyLines (depth + 1) body ++
      elseLines depth otherwise
  | s :: rest => line depth "else:" :: bodyLines (depth + 1) (s :: rest)

end

/-- The text of a statement that stands alone. -/
def Stmt.render (s : Stmt) : String :=
  "\n".intercalate (s.lines 0)

/-! ### Modules -/

/-- A piece of a module: a statement, or a text that is the same in every module and
defines something if `isDefinition` says so. -/
inductive Piece where
  | stmt (s : Stmt)
  | text (isDefinition : Bool) (value : String)

namespace Piece

/-- The piece defines a function or a class. -/
def isDefinition : Piece → Bool
  | .stmt s => s.isDefinition
  | .text d _ => d

/-- The piece imports something. -/
def isImport : Piece → Bool
  | .stmt s => s.isImport
  | .text _ _ => false

/-- The text of a piece. -/
def render : Piece → String
  | .stmt s => s.render
  | .text _ value => value

/-- The ends of lines between two pieces. -/
def between (a b : Piece) : String :=
  if a.isDefinition || b.isDefinition then "\n\n\n"
  else if a.isImport && !b.isImport then "\n\n"
  else "\n"

end Piece

/-- The text of pieces, the first after another one. -/
def renderAfter (previous : Piece) : List Piece → String
  | [] => ""
  | p :: ps => previous.between p ++ p.render ++ renderAfter p ps

/-- The text of a module: its first line, and its pieces after an empty one. -/
def renderModule (header : String) : List Piece → String
  | [] => header ++ "\n\n"
  | p :: ps => header ++ "\n\n" ++ p.render ++ renderAfter p ps ++ "\n"

end FragmentRoutes.Code
