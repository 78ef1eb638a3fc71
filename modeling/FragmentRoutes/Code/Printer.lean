/-
  The text of expressions.

  An expression is written on one line with single spaces around operators.  Each
  place gives the expression in it a level, and the expression stands in parentheses
  when its own level is below that.  The operands of `and` and `or` are given rising
  levels, so a chain of them may hold parentheses that its meaning does not need.
  Texts are quoted, numbers written in their shortest form, an infinity as a number
  too large to be finite.
-/
import FragmentRoutes.Code.Expr
import FragmentRoutes.Numeral.Shortest
import FragmentRoutes.Text.Quoted

namespace FragmentRoutes.Code

/-! ### Levels -/

/-- How tightly a place binds the expression in it; greater is tighter. -/
abbrev Level := Nat

namespace Level

def binding : Level := 1
def tuple : Level := 2
def yield : Level := 3
def test : Level := 4
def or : Level := 5
def and : Level := 6
def not : Level := 7
def compare : Level := 8
def bitOr : Level := 9
def bitXor : Level := 10
def bitAnd : Level := 11
def shift : Level := 12
def sum : Level := 13
def term : Level := 14
def factor : Level := 15
def power : Level := 16
def await : Level := 17
def atom : Level := 18

/-- The next tighter level; there is none above an atom. -/
def next (level : Level) : Level :=
  if level < atom then level + 1 else atom

end Level

namespace UnaryOp

/-- The operator with the space it needs before its operand. -/
def render : UnaryOp → String
  | not => "not "
  | plus => "+"
  | minus => "-"
  | invert => "~"

/-- The level of the operator and of its operand. -/
def level : UnaryOp → Level
  | not => Level.not
  | _ => Level.factor

end UnaryOp

namespace BinaryOp

/-- The operator as it is written. -/
def render : BinaryOp → String
  | add => "+"
  | sub => "-"
  | mul => "*"
  | matMul => "@"
  | div => "/"
  | mod => "%"
  | floorDiv => "//"
  | pow => "**"
  | shiftLeft => "<<"
  | shiftRight => ">>"
  | bitOr => "|"
  | bitXor => "^"
  | bitAnd => "&"

/-- The level of the operator. -/
def level : BinaryOp → Level
  | add | sub => Level.sum
  | mul | matMul | div | mod | floorDiv => Level.term
  | pow => Level.power
  | shiftLeft | shiftRight => Level.shift
  | bitOr => Level.bitOr
  | bitXor => Level.bitXor
  | bitAnd => Level.bitAnd

/-- The levels of the two operands: all operators but the power group to the left. -/
def operandLevels (op : BinaryOp) : Level × Level :=
  match op with
  | pow => (op.level.next, op.level)
  | _ => (op.level, op.level.next)

end BinaryOp

namespace BoolOp

/-- The operator as it is written. -/
def render : BoolOp → String
  | and => "and"
  | or => "or"

/-- The level of the operator. -/
def level : BoolOp → Level
  | and => Level.and
  | or => Level.or

end BoolOp

/-- The comparison as it is written. -/
def CompareOp.render : CompareOp → String
  | eq => "=="
  | notEq => "!="
  | lt => "<"
  | le => "<="
  | gt => ">"
  | ge => ">="
  | is => "is"
  | isNot => "is not"
  | isIn => "in"
  | notIn => "not in"

/-! ### Constants -/

/-- The text that stands for an infinity: the least power of ten that is none. -/
def infinityText : String := "1e309"

/-- A number of the generated code in its shortest form, `.0` after a whole number
when `fraction` asks for it.  What is no number is the difference of two infinities. -/
def realText (fraction : Bool) : Numeral.Double → String
  | .infinite negative => (if negative then "-" else "") ++ infinityText
  | .nan => "(" ++ infinityText ++ "-" ++ infinityText ++ ")"
  | x => x.render fraction

/-- A text with code points that are no characters, quoted. -/
def quoteCodes (codes : List Nat) : String :=
  let cs := codes.map Char.ofNat
  let mark := Text.quoteMark cs
  let piece := fun n =>
    if 0xd800 ≤ n && n ≤ 0xdfff then ['\\', 'u'] ++ Text.hexDigits 4 n
    else Text.quoteChar mark (Char.ofNat n)
  String.ofList (mark :: (codes.flatMap piece ++ [mark]))

/-- The constant as it is written. -/
def Constant.render : Constant → String
  | none => "None"
  | bool true => "True"
  | bool false => "False"
  | ellipsis => "..."
  | int n => toString n
  | real x => realText true x
  | imaginary x => realText false x ++ "j"
  | text s => Text.quote s
  | markedText s => "u" ++ Text.quote s
  | codes ns => quoteCodes ns
  | bytes bs => Text.quoteBytes bs

/-! ### Texts with values in them -/

/-- The four ways to quote a text, in order of preference. -/
def quoteKinds : List (List Char) :=
  [['\''], ['"'], ['"', '"', '"'], ['\'', '\'', '\'']]

/-- The characters of a text as they are written between quotes; line feeds and tabs
are kept when `layout` asks for it. -/
def escapeText (layout : Bool) (c : Char) : List Char :=
  if layout && (c == '\n' || c == '\t') then [c]
  else if c == '\\' then ['\\', '\\']
  else if c == '\n' then ['\\', 'n']
  else if c == '\r' then ['\\', 'r']
  else if c == '\t' then ['\\', 't']
  else if Text.isHidden c then Text.escapeCode c
  else [c]

/-- Whether the characters `part` stand in a row in `cs`. -/
def occursIn (part : List Char) : List Char → Bool
  | [] => part.isEmpty
  | c :: cs => part.isPrefixOf (c :: cs) || occursIn part cs

/-- A piece of text as it is written, with the ways to quote it that need no escape
of a quote.  When there is none, the piece is quoted in full and brings its quote. -/
def quotable (kinds : List (List Char)) (layout : Bool) (cs : List Char) :
    List Char × List (List Char) :=
  let escaped := cs.flatMap (escapeText layout)
  let kinds' := if escaped.contains '\n' then kinds.filter (3 ≤ ·.length) else kinds
  match kinds'.filter fun k => !occursIn k escaped, escaped.getLast? with
  | [], _ =>
    let quoted := Text.quoteChars cs
    let mark := quoted.take 1
    let kind := (kinds.find? fun k => mark.isPrefixOf k).getD mark
    ((quoted.drop 1).dropLast, [kind])
  | k :: ks, none => (escaped, k :: ks)
  | k :: ks, some last =>
    let sorted := (k :: ks).filter (·.head? != some last) ++ (k :: ks).filter (·.head? == some last)
    if sorted.head?.bind List.head? = some last then (escaped.dropLast ++ ['\\', last], sorted)
    else (escaped, sorted)

/-- The pieces of a text, literal ones marked, between the first quotes that serve
them all. -/
def quotePieces (pieces : List (Bool × List Char)) : String :=
  let step := fun (acc : List Char × List (List Char)) (piece : Bool × List Char) =>
    let (written, kinds) := quotable acc.2 (!piece.1) piece.2
    (acc.1 ++ written, kinds)
  let (written, kinds) := pieces.foldl step ([], quoteKinds)
  let mark := kinds.head?.getD ['\'']
  String.ofList (mark ++ written ++ mark)

/-- A text between quotes that avoids escapes. -/
def quotePlain (cs : List Char) : String :=
  let (written, kinds) := quotable quoteKinds true cs
  let mark := kinds.head?.getD ['\'']
  String.ofList (mark ++ written ++ mark)

/-- Literal text with its braces doubled. -/
def doubleBraces (cs : List Char) : List Char :=
  cs.flatMap fun c => if c == '\x7b' || c == '\x7d' then [c, c] else [c]

/-- The text in parentheses when its place binds tighter than its own level. -/
def parenthesize (place own : Level) (s : String) : String :=
  if own < place then "(" ++ s ++ ")" else s

/-- Items with commas; a single item keeps its comma. -/
def withCommas : List String → String
  | [s] => s ++ ","
  | ss => ", ".intercalate ss

/-! ### Expressions -/

mutual

/-- The text of an expression in a place of the given level.  Inside a text with
values, where `inner` holds, texts are quoted without escapes if possible. -/
def Expr.print (inner : Bool) (place : Level) : Expr → String
  | .name id => id
  | .constant (.text s) => if inner then quotePlain s.toList else Text.quote s
  | .constant (.markedText s) => "u" ++ (if inner then quotePlain s.toList else Text.quote s)
  | .constant c => c.render
  | .attribute value name =>
    let space := match value with
      | .constant (.int _) => " "
      | .constant (.bool _) => " "
      | _ => ""
    value.print inner Level.atom ++ space ++ "." ++ name
  | .subscript value index =>
    let shown := match index with
      | .tuple (item :: items) => withCommas (printItems inner Level.test (item :: items))
      | index => index.print inner Level.test
    value.print inner Level.atom ++ "[" ++ shown ++ "]"
  | .call callee args keywords =>
    let items := printItems inner Level.test args ++ printKeywords inner keywords
    callee.print inner Level.atom ++ "(" ++ ", ".intercalate items ++ ")"
  | .starred value => "*" ++ value.print inner Level.bitOr
  | .unary op operand =>
    parenthesize place op.level (op.render ++ operand.print inner op.level)
  | .binary left op right =>
    let (l, r) := op.operandLevels
    parenthesize place op.level
      (left.print inner l ++ " " ++ op.render ++ " " ++ right.print inner r)
  | .boolean op operands =>
    parenthesize place op.level
      ((" " ++ op.render ++ " ").intercalate (printRising inner op.level operands))
  | .compare first rest =>
    parenthesize place Level.compare
      (first.print inner Level.compare.next ++ printComparisons inner rest)
  | .conditional test body otherwise =>
    parenthesize place Level.test
      (body.print inner Level.test.next ++ " if " ++ test.print inner Level.test.next ++
        " else " ++ otherwise.print inner Level.test)
  | .lambda params body =>
    let shown := printParams inner false params
    parenthesize place Level.test
      ("lambda" ++ (if shown.isEmpty then "" else " ") ++ ", ".intercalate shown ++ ": " ++
        body.print inner Level.test)
  | .tuple items =>
    let shown := withCommas (printItems inner Level.test items)
    if items.isEmpty then "()" else parenthesize place Level.tuple shown
  | .list items => "[" ++ ", ".intercalate (printItems inner Level.test items) ++ "]"
  | .set items =>
    if items.isEmpty then "\x7b*()\x7d"
    else "\x7b" ++ ", ".intercalate (printItems inner Level.test items) ++ "\x7d"
  | .dict items => "\x7b" ++ ", ".intercalate (printPairs inner items) ++ "\x7d"
  | .listOf element clauses =>
    "[" ++ element.print inner Level.test ++ printClauses inner clauses ++ "]"
  | .setOf element clauses =>
    "\x7b" ++ element.print inner Level.test ++ printClauses inner clauses ++ "\x7d"
  | .generator element clauses =>
    "(" ++ element.print inner Level.test ++ printClauses inner clauses ++ ")"
  | .dictOf key value clauses =>
    "\x7b" ++ key.print inner Level.test ++ ": " ++ value.print inner Level.test ++
      printClauses inner clauses ++ "\x7d"
  | .await value =>
    parenthesize place Level.await ("await " ++ value.print inner Level.atom)
  | .yield none => parenthesize place Level.yield "yield"
  | .yield (some value) =>
    parenthesize place Level.yield ("yield " ++ value.print inner Level.atom)
  | .yieldFrom value =>
    parenthesize place Level.yield ("yield from " ++ value.print inner Level.atom)
  | .binding name value =>
    parenthesize place Level.binding (name ++ " := " ++ value.print inner Level.atom)
  | .template parts =>
    let pieces := printParts parts
    if inner then "f" ++ quotePlain (pieces.flatMap Prod.snd) else "f" ++ quotePieces pieces
  | .slice lower upper step =>
    printOptional inner "" lower ++ ":" ++ printOptional inner "" upper ++
      printOptional inner ":" step

/-- The texts of expressions in places of one level. -/
def printItems (inner : Bool) (place : Level) : List Expr → List String
  | [] => []
  | e :: es => e.print inner place :: printItems inner place es

/-- The texts of operands in places of rising levels, the first above `place`. -/
def printRising (inner : Bool) (place : Level) : List Expr → List String
  | [] => []
  | e :: es => e.print inner place.next :: printRising inner place.next es

/-- The text of an expression after `front`, nothing for no expression. -/
def printOptional (inner : Bool) (front : String) : Option Expr → String
  | none => ""
  | some e => front ++ e.print inner Level.test

/-- The texts of keyword arguments. -/
def printKeywords (inner : Bool) : List (Option String × Expr) → List String
  | [] => []
  | (none, e) :: rest => ("**" ++ e.print inner Level.test) :: printKeywords inner rest
  | (some name, e) :: rest =>
    (name ++ "=" ++ e.print inner Level.test) :: printKeywords inner rest

/-- The text of the comparisons after the first operand. -/
def printComparisons (inner : Bool) : List (CompareOp × Expr) → String
  | [] => ""
  | (op, e) :: rest =>
    " " ++ op.render ++ " " ++ e.print inner Level.compare.next ++ printComparisons inner rest

/-- The texts of the entries of a dictionary. -/
def printPairs (inner : Bool) : List (Option Expr × Expr) → List String
  | [] => []
  | (none, value) :: rest => ("**" ++ value.print inner Level.bitOr) :: printPairs inner rest
  | (some key, value) :: rest =>
    (key.print inner Level.test ++ ": " ++ value.print inner Level.test) :: printPairs inner rest

/-- The text of the clauses of a comprehension. -/
def printClauses (inner : Bool) : List Clause → String
  | [] => ""
  | .mk isAsync target iter conditions :: rest =>
    (if isAsync then " async for " else " for ") ++ target.print inner Level.tuple ++ " in " ++
      iter.print inner Level.test.next ++ printConditions inner conditions ++
      printClauses inner rest

/-- The text of the conditions of a clause. -/
def printConditions (inner : Bool) : List Expr → String
  | [] => ""
  | e :: es => " if " ++ e.print inner Level.test.next ++ printConditions inner es

/-- The pieces of a text with values in it, the literal ones marked. -/
def printParts : List TemplatePart → List (Bool × List Char)
  | [] => []
  | .literal text :: rest => (true, doubleBraces text.toList) :: printParts rest
  | .value expr conversion none :: rest =>
    let shown := expr.print true Level.test.next
    let space := if shown.toList.head? = some '\x7b' then " " else ""
    let converted := match conversion with
      | none => ""
      | some c => "!" ++ c.toString
    (false, ("\x7b" ++ space ++ shown ++ converted ++ "\x7d").toList) :: printParts rest
  | .value expr conversion (some format) :: rest =>
    let shown := expr.print true Level.test.next
    let space := if shown.toList.head? = some '\x7b' then " " else ""
    let converted := match conversion with
      | none => ""
      | some c => "!" ++ c.toString
    let spec := (printParts format).flatMap Prod.snd
    (false, ("\x7b" ++ space ++ shown ++ converted ++ ":").toList ++ spec ++ ['\x7d']) ::
      printParts rest

/-- The texts of parameters with the marks between their kinds; `starred` tells
whether the mark before keyword-only parameters has been written. -/
def printParams (inner : Bool) (starred : Bool) : List Param → List String
  | [] => []
  | .mk kind name type default :: rest =>
    let shown := name ++ printOptional inner ": " type ++ printOptional inner "=" default
    match kind with
    | .positionalOnly =>
      let isLast := match rest with
        | .mk .positionalOnly _ _ _ :: _ => false
        | _ => true
      if isLast then shown :: "/" :: printParams inner starred rest
      else shown :: printParams inner starred rest
    | .positional => shown :: printParams inner starred rest
    | .rest => ("*" ++ shown) :: printParams inner true rest
    | .keywordOnly =>
      if starred then shown :: printParams inner true rest
      else "*" :: shown :: printParams inner true rest
    | .keywordRest => ("**" ++ shown) :: printParams inner starred rest

end

/-- The text of an expression that stands alone. -/
def Expr.render (e : Expr) : String :=
  e.print false Level.test

end FragmentRoutes.Code
