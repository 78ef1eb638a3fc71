/-
  Reading templates.

  The reader follows the statements of a template, each with the blocks up to its end
  tag, and the levels of expressions inside tags, from a conditional down to a primary
  expression with what follows it.  Every function takes a bound on the depth of the
  reading; the bound that `parse` starts from is never reached.
-/
import FragmentRoutes.Template.Node
import FragmentRoutes.Template.Token

namespace FragmentRoutes.Template

/-- Why a text is not a template: it does not follow the grammar, or it imports a
private name. -/
inductive Fault where
  | syntaxError
  | privateImport
  deriving DecidableEq, Repr

namespace Reader

/-- The text does not follow the grammar. -/
def fail : Except Fault α :=
  .error .syntaxError

/-- The tokens after a given one. -/
def expect (token : Token) : List Token → Except Fault (List Token)
  | t :: ts => if t = token then .ok ts else fail
  | [] => fail

/-- The name at the start of the tokens, and the tokens after it. -/
def expectName : List Token → Except Fault (String × List Token)
  | .name id :: ts => .ok (id, ts)
  | _ => fail

/-- The tokens start with a given one. -/
def startsWith (token : Token) : List Token → Bool
  | t :: _ => t = token
  | [] => false

/-- The tokens after a given one that they may start with, and whether they did. -/
def skip (token : Token) (ts : List Token) : Bool × List Token :=
  match ts with
  | t :: rest => if t = token then (true, rest) else (false, ts)
  | [] => (false, ts)

/-- The names of constants, which are no names of values. -/
def constantNames : List String := ["true", "false", "True", "False", "none", "None"]

/-- The tokens are at the end of a row of items: at the end of the tag, at a closing
parenthesis, or at one of the names that end the row. -/
def endsRow (ends : List String) : List Token → Bool
  | .closeValue :: _ => true
  | .closeTag :: _ => true
  | .mark ")" :: _ => true
  | .name id :: _ => ends.contains id
  | _ => false

/-- The names after a point that belong to the name of a filter or a test. -/
def dottedName (name : String) : List Token → Except Fault (String × List Token)
  | .mark "." :: .name id :: ts => dottedName (name ++ "." ++ id) ts
  | .mark "." :: _ => fail
  | ts => .ok (name, ts)

/-- The marks of comparisons. -/
def comparisonMarks : List String := ["==", "!=", ">", ">=", "<", "<="]

/-- The marks of sums and those of products. -/
def sumMarks : List String := ["+", "-"]
def productMarks : List String := ["*", "/", "//", "%"]

/-- The texts at the start of the tokens put together, and the tokens after them. -/
def joinTexts (value : String) : List Token → String × List Token
  | .text more :: ts => joinTexts (value ++ more) ts
  | ts => (value, ts)

/-- The arguments of a call that were read so far, each kind last first. -/
structure Args where
  byPlace : List Expr := []
  byName : List Expr := []
  rest : Option Expr := none
  mapping : Option Expr := none

/-- All arguments in one order. -/
def Args.toList (args : Args) : List Expr :=
  args.byPlace.reverse ++ args.byName.reverse ++ args.rest.toList ++ args.mapping.toList

/-- The tokens start an argument of a test that stands without parentheses. -/
def startsTestArgument : List Token → Bool
  | .name id :: _ => !(["else", "or", "and"].contains id)
  | .text _ :: _ => true
  | .number _ :: _ => true
  | .mark m :: _ => m == "[" || m == "\x7b"
  | _ => false

/-! ### Expressions -/

mutual

/-- An expression, with a condition after it if `conditional` admits one. -/
def expression : Nat → Bool → List Token → Except Fault (Expr × List Token)
  | 0, _, _ => fail
  | fuel + 1, conditional, ts => do
    let (e, ts) ← disjunction fuel ts
    if conditional then conditions fuel e ts else return (e, ts)

/-- The conditions after an expression. -/
def conditions : Nat → Expr → List Token → Except Fault (Expr × List Token)
  | 0, _, _ => fail
  | fuel + 1, e, ts =>
    match ts with
    | .name "if" :: ts => do
      let (test, ts) ← disjunction fuel ts
      match ts with
      | .name "else" :: ts =>
        let (otherwise, ts) ← expression fuel true ts
        conditions fuel (.conditional test e (some otherwise)) ts
      | ts => conditions fuel (.conditional test e none) ts
    | ts => .ok (e, ts)

/-- Operands of `or`. -/
def disjunction : Nat → List Token → Except Fault (Expr × List Token)
  | 0, _ => fail
  | fuel + 1, ts => do
    let (e, ts) ← conjunction fuel ts
    disjunctionRest fuel e ts

/-- The operands of `or` after a left one. -/
def disjunctionRest : Nat → Expr → List Token → Except Fault (Expr × List Token)
  | 0, _, _ => fail
  | fuel + 1, e, ts =>
    match ts with
    | .name "or" :: ts => do
      let (right, ts) ← conjunction fuel ts
      disjunctionRest fuel (.junction false e right) ts
    | ts => .ok (e, ts)

/-- Operands of `and`. -/
def conjunction : Nat → List Token → Except Fault (Expr × List Token)
  | 0, _ => fail
  | fuel + 1, ts => do
    let (e, ts) ← negation fuel ts
    conjunctionRest fuel e ts

/-- The operands of `and` after a left one. -/
def conjunctionRest : Nat → Expr → List Token → Except Fault (Expr × List Token)
  | 0, _, _ => fail
  | fuel + 1, e, ts =>
    match ts with
    | .name "and" :: ts => do
      let (right, ts) ← negation fuel ts
      conjunctionRest fuel (.junction true e right) ts
    | ts => .ok (e, ts)

/-- A negation or a comparison. -/
def negation : Nat → List Token → Except Fault (Expr × List Token)
  | 0, _ => fail
  | fuel + 1, ts =>
    match ts with
    | .name "not" :: ts => do
      let (e, ts) ← negation fuel ts
      return (.operation [e], ts)
    | ts => do
      let (first, ts) ← sum fuel ts
      let (more, ts) ← comparisons fuel ts
      return (if more.isEmpty then first else .operation (first :: more), ts)

/-- The operands of comparisons after the first. -/
def comparisons : Nat → List Token → Except Fault (List Expr × List Token)
  | 0, _ => fail
  | fuel + 1, ts =>
    let after? := match ts with
      | .mark m :: ts => if comparisonMarks.contains m then some ts else none
      | .name "in" :: ts => some ts
      | .name "not" :: .name "in" :: ts => some ts
      | _ => none
    match after? with
    | none => .ok ([], ts)
    | some ts => do
      let (e, ts) ← sum fuel ts
      let (es, ts) ← comparisons fuel ts
      return (e :: es, ts)

/-- Operands of sums and differences. -/
def sum : Nat → List Token → Except Fault (Expr × List Token)
  | 0, _ => fail
  | fuel + 1, ts => do
    let (e, ts) ← joined fuel ts
    sumRest fuel e ts

/-- The operands of sums and differences after a left one. -/
def sumRest : Nat → Expr → List Token → Except Fault (Expr × List Token)
  | 0, _, _ => fail
  | fuel + 1, e, ts =>
    match ts with
    | .mark m :: rest =>
      if sumMarks.contains m then do
        let (right, rest) ← joined fuel rest
        sumRest fuel (.operation [e, right]) rest
      else .ok (e, ts)
    | ts => .ok (e, ts)

/-- Operands that are put together as texts. -/
def joined : Nat → List Token → Except Fault (Expr × List Token)
  | 0, _ => fail
  | fuel + 1, ts => do
    let (first, ts) ← product fuel ts
    let (more, ts) ← joinedRest fuel ts
    return (if more.isEmpty then first else .operation (first :: more), ts)

/-- Further operands that are put together as texts. -/
def joinedRest : Nat → List Token → Except Fault (List Expr × List Token)
  | 0, _ => fail
  | fuel + 1, ts =>
    match ts with
    | .mark "~" :: ts => do
      let (e, ts) ← product fuel ts
      let (es, ts) ← joinedRest fuel ts
      return (e :: es, ts)
    | ts => .ok ([], ts)

/-- Operands of products and quotients. -/
def product : Nat → List Token → Except Fault (Expr × List Token)
  | 0, _ => fail
  | fuel + 1, ts => do
    let (e, ts) ← power fuel ts
    productRest fuel e ts

/-- The operands of products and quotients after a left one. -/
def productRest : Nat → Expr → List Token → Except Fault (Expr × List Token)
  | 0, _, _ => fail
  | fuel + 1, e, ts =>
    match ts with
    | .mark m :: rest =>
      if productMarks.contains m then do
        let (right, rest) ← power fuel rest
        productRest fuel (.operation [e, right]) rest
      else .ok (e, ts)
    | ts => .ok (e, ts)

/-- Operands of powers. -/
def power : Nat → List Token → Except Fault (Expr × List Token)
  | 0, _ => fail
  | fuel + 1, ts => do
    let (e, ts) ← signed fuel true ts
    powerRest fuel e ts

/-- The operands of powers after a left one. -/
def powerRest : Nat → Expr → List Token → Except Fault (Expr × List Token)
  | 0, _, _ => fail
  | fuel + 1, e, ts =>
    match ts with
    | .mark "**" :: ts => do
      let (right, ts) ← signed fuel true ts
      powerRest fuel (.operation [e, right]) ts
    | ts => .ok (e, ts)

/-- A primary expression with signs before it and what follows it; filters and tests
follow only if `filters` admits them. -/
def signed : Nat → Bool → List Token → Except Fault (Expr × List Token)
  | 0, _, _ => fail
  | fuel + 1, filters, ts => do
    let (e, ts) ← match ts with
      | .mark m :: rest =>
        if sumMarks.contains m then do
          let (e, rest) ← signed fuel false rest
          pure (Expr.operation [e], rest)
        else primary fuel false ts
      | ts => primary fuel false ts
    let (e, ts) ← trailers fuel e ts
    if filters then filtered fuel e ts else return (e, ts)

/-- A name, a constant, or what stands in brackets; a name before a point and another
name is one name in a space of names if `spaces` admits it. -/
def primary : Nat → Bool → List Token → Except Fault (Expr × List Token)
  | 0, _, _ => fail
  | fuel + 1, spaces, ts =>
    match ts with
    | .name id :: ts =>
      if constantNames.contains id then .ok (.constant, ts)
      else match ts with
        | .mark "." :: rest =>
          if spaces then do
            let (inner, rest) ← expectName rest
            return (.spaceName id inner, rest)
          else .ok (.name id, ts)
        | ts => .ok (.name id, ts)
    | .text value :: ts =>
      let (value, ts) := joinTexts value ts
      .ok (.text value, ts)
    | .number _ :: ts => .ok (.constant, ts)
    | .mark "(" :: ts => do
      let (e, ts) ← row fuel false true [] true ts
      let ts ← expect (.mark ")") ts
      return (e, ts)
    | .mark "[" :: ts => do
      let (es, ts) ← listItems fuel true ts
      return (.list es, ts)
    | .mark "\x7b" :: ts => do
      let (pairs, ts) ← dictEntries fuel true ts
      return (.dict pairs, ts)
    | _ => fail

/-- Items with commas between them: a tuple, or the item itself when it is single and
without a comma.  Simple items are primary expressions; `ends` are the names that end
the row, and an empty row needs parentheses. -/
def row : Nat → Bool → Bool → List String → Bool → List Token → Except Fault (Expr × List Token)
  | 0, _, _, _, _, _ => fail
  | fuel + 1, simple, conditional, ends, parenthesized, ts =>
    if endsRow ends ts then
      if parenthesized then .ok (.tuple [], ts) else fail
    else do
      let (first, ts) ← rowItem fuel simple conditional ts
      match ts with
      | .mark "," :: ts =>
        let (more, ts) ← rowItems fuel simple conditional ends ts
        return (.tuple (first :: more), ts)
      | ts => return (first, ts)

/-- One item of a row. -/
def rowItem : Nat → Bool → Bool → List Token → Except Fault (Expr × List Token)
  | 0, _, _, _ => fail
  | fuel + 1, simple, conditional, ts =>
    if simple then primary fuel true ts else expression fuel conditional ts

/-- Further items of a row. -/
def rowItems : Nat → Bool → Bool → List String → List Token → Except Fault (List Expr × List Token)
  | 0, _, _, _, _ => fail
  | fuel + 1, simple, conditional, ends, ts =>
    if endsRow ends ts then .ok ([], ts)
    else do
      let (e, ts) ← rowItem fuel simple conditional ts
      match ts with
      | .mark "," :: ts =>
        let (es, ts) ← rowItems fuel simple conditional ends ts
        return (e :: es, ts)
      | ts => return ([e], ts)

/-- The items of a list up to its closing bracket. -/
def listItems : Nat → Bool → List Token → Except Fault (List Expr × List Token)
  | 0, _, _ => fail
  | fuel + 1, first, ts =>
    match ts with
    | .mark "]" :: ts => .ok ([], ts)
    | ts => do
      let ts ← if first then .ok ts else expect (.mark ",") ts
      match ts with
      | .mark "]" :: ts => return ([], ts)
      | ts =>
        let (e, ts) ← expression fuel true ts
        let (es, ts) ← listItems fuel false ts
        return (e :: es, ts)

/-- The entries of a dictionary up to its closing brace. -/
def dictEntries : Nat → Bool → List Token → Except Fault (List (Expr × Expr) × List Token)
  | 0, _, _ => fail
  | fuel + 1, first, ts =>
    match ts with
    | .mark "\x7d" :: ts => .ok ([], ts)
    | ts => do
      let ts ← if first then .ok ts else expect (.mark ",") ts
      match ts with
      | .mark "\x7d" :: ts => return ([], ts)
      | ts =>
        let (key, ts) ← expression fuel true ts
        let ts ← expect (.mark ":") ts
        let (value, ts) ← expression fuel true ts
        let (es, ts) ← dictEntries fuel false ts
        return ((key, value) :: es, ts)

/-- The attributes, items and calls after an expression. -/
def trailers : Nat → Expr → List Token → Except Fault (Expr × List Token)
  | 0, _, _ => fail
  | fuel + 1, e, ts =>
    match ts with
    | .mark "." :: .name id :: ts => trailers fuel (.attribute e id) ts
    | .mark "." :: .number true :: ts => trailers fuel (.item e .constant) ts
    | .mark "." :: _ => fail
    | .mark "[" :: ts => do
      let (keys, ts) ← itemKeys fuel true ts
      let key := match keys with
        | [key] => key
        | keys => .tuple keys
      trailers fuel (.item e key) ts
    | .mark "(" :: ts => do
      let (args, ts) ← arguments fuel {} true ts
      trailers fuel (.call e args) ts
    | ts => .ok (e, ts)

/-- The filters, tests and calls after an expression. -/
def filtered : Nat → Expr → List Token → Except Fault (Expr × List Token)
  | 0, _, _ => fail
  | fuel + 1, e, ts =>
    match ts with
    | .mark "|" :: _ => do
      let (e, ts) ← filters fuel (some e) ts
      match e with
      | some e => filtered fuel e ts
      | none => fail
    | .name "is" :: ts => do
      let (e, ts) ← tested fuel e ts
      filtered fuel e ts
    | .mark "(" :: ts => do
      let (args, ts) ← arguments fuel {} true ts
      filtered fuel (.call e args) ts
    | ts => .ok (e, ts)

/-- The keys between the brackets of an item. -/
def itemKeys : Nat → Bool → List Token → Except Fault (List Expr × List Token)
  | 0, _, _ => fail
  | fuel + 1, first, ts =>
    match ts with
    | .mark "]" :: ts => .ok ([], ts)
    | ts => do
      let ts ← if first then .ok ts else expect (.mark ",") ts
      let (key, ts) ← itemKey fuel ts
      let (keys, ts) ← itemKeys fuel false ts
      return (key :: keys, ts)

/-- One key, a plain one or a slice. -/
def itemKey : Nat → List Token → Except Fault (Expr × List Token)
  | 0, _ => fail
  | fuel + 1, ts =>
    match ts with
    | .mark ":" :: ts => sliceRest fuel [] ts
    | ts => do
      let (e, ts) ← expression fuel true ts
      match ts with
      | .mark ":" :: ts => sliceRest fuel [e] ts
      | ts => return (e, ts)

/-- The bounds of a slice after its first colon. -/
def sliceRest : Nat → List Expr → List Token → Except Fault (Expr × List Token)
  | 0, _, _ => fail
  | fuel + 1, bounds, ts => do
    let (stop, ts) ← match ts with
      | .mark ":" :: _ => .ok ([], ts)
      | ts => sliceBound fuel ts
    match ts with
    | .mark ":" :: ts =>
      let (step, ts) ← sliceBound fuel ts
      return (.slice (bounds ++ stop ++ step), ts)
    | ts => return (.slice (bounds ++ stop), ts)

/-- A bound of a slice, if there is one. -/
def sliceBound : Nat → List Token → Except Fault (List Expr × List Token)
  | 0, _ => fail
  | fuel + 1, ts =>
    match ts with
    | .mark "]" :: _ => .ok ([], ts)
    | .mark "," :: _ => .ok ([], ts)
    | ts => do
      let (e, ts) ← expression fuel true ts
      return ([e], ts)

/-- The arguments of a call up to its closing parenthesis. -/
def arguments : Nat → Args → Bool → List Token → Except Fault (List Expr × List Token)
  | 0, _, _, _ => fail
  | fuel + 1, args, first, ts =>
    match ts with
    | .mark ")" :: ts => .ok (args.toList, ts)
    | ts => do
      let ts ← if first then .ok ts else expect (.mark ",") ts
      match ts with
      | .mark ")" :: ts => return (args.toList, ts)
      | .mark "*" :: ts =>
        if args.rest.isSome || args.mapping.isSome then fail
        else
          let (e, ts) ← expression fuel true ts
          arguments fuel { args with rest := some e } false ts
      | .mark "**" :: ts =>
        if args.mapping.isSome then fail
        else
          let (e, ts) ← expression fuel true ts
          arguments fuel { args with mapping := some e } false ts
      | .name _ :: .mark "=" :: ts =>
        if args.mapping.isSome then fail
        else
          let (e, ts) ← expression fuel true ts
          arguments fuel { args with byName := e :: args.byName } false ts
      | ts =>
        if args.rest.isSome || args.mapping.isSome || !args.byName.isEmpty then fail
        else
          let (e, ts) ← expression fuel true ts
          arguments fuel { args with byPlace := e :: args.byPlace } false ts

/-- Filters, each after a bar, on a subject. -/
def filters : Nat → Option Expr → List Token → Except Fault (Option Expr × List Token)
  | 0, _, _ => fail
  | fuel + 1, subject, ts =>
    match ts with
    | .mark "|" :: ts => do
      let (e, ts) ← filterCall fuel subject ts
      filters fuel (some e) ts
    | ts => .ok (subject, ts)

/-- One filter on a subject, after its bar. -/
def filterCall : Nat → Option Expr → List Token → Except Fault (Expr × List Token)
  | 0, _, _ => fail
  | fuel + 1, subject, ts => do
    let (id, ts) ← expectName ts
    let (name, ts) ← dottedName id ts
    match ts with
    | .mark "(" :: ts =>
      let (args, ts) ← arguments fuel {} true ts
      return (.filter subject name args, ts)
    | ts => return (.filter subject name [], ts)

/-- A test of a subject, after its word. -/
def tested : Nat → Expr → List Token → Except Fault (Expr × List Token)
  | 0, _, _ => fail
  | fuel + 1, subject, ts => do
    let (negated, ts) := skip (.name "not") ts
    let (id, ts) ← expectName ts
    let (name, ts) ← dottedName id ts
    let (args, ts) ← match ts with
      | .mark "(" :: ts => arguments fuel {} true ts
      | .name "is" :: _ => fail
      | ts =>
        if startsTestArgument ts then do
          let (e, ts) ← primary fuel false ts
          let (e, ts) ← trailers fuel e ts
          pure ([e], ts)
        else .ok ([], ts)
    let e := Expr.test subject name args
    return (if negated then .operation [e] else e, ts)

end

/-! ### Targets -/

/-- A target of an assignment: names, alone or in rows. -/
def target (fuel : Nat) (ends : List String) (spaces : Bool) (ts : List Token) :
    Except Fault (Expr × List Token) := do
  let (e, ts) ← row fuel true true ends false ts
  let named := match e with
    | .spaceName _ _ => spaces
    | .tuple items => spaces || items.all fun i => match i with
      | .spaceName _ _ => false
      | _ => true
    | _ => true
  if e.isTarget && named then return (e, ts) else fail

/-- A target that is a single name. -/
def nameTarget (ts : List Token) : Except Fault (String × List Token) := do
  let (id, ts) ← expectName ts
  if constantNames.contains id then fail else return (id, ts)

/-- The defaults of the parameters of a routine, up to the closing parenthesis. -/
def parameters (fuel : Nat) : Nat → Bool → List Expr → List Token →
    Except Fault (List Expr × List Token)
  | 0, _, _, _ => fail
  | steps + 1, first, defaults, ts =>
    match ts with
    | .mark ")" :: ts => .ok (defaults, ts)
    | ts => do
      let ts ← if first then .ok ts else expect (.mark ",") ts
      let (_, ts) ← nameTarget ts
      match ts with
      | .mark "=" :: ts =>
        let (e, ts) ← expression fuel true ts
        parameters fuel steps false (defaults ++ [e]) ts
      | ts =>
        if defaults.isEmpty then parameters fuel steps false defaults ts else fail

/-- The words after a reference that tell whether it sees the context. -/
def contextWords : List Token → Bool × List Token
  | .name "with" :: .name "context" :: ts => (true, ts)
  | .name "without" :: .name "context" :: ts => (true, ts)
  | ts => (false, ts)

/-- The names that an import takes from a template; a name in front of which an
underscore stands is private. -/
def importedNames : Nat → Bool → List Token → Except Fault (List Token)
  | 0, _, _ => fail
  | steps + 1, first, ts => do
    let ts ← if first then .ok ts else expect (.mark ",") ts
    match contextWords ts with
    | (true, ts) => return ts
    | (false, ts) =>
      let (id, ts) ← nameTarget ts
      if id.toList.head? = some '_' then .error .privateImport
      else
        let ts ← match ts with
          | .name "as" :: ts => do
            let (_, ts) ← nameTarget ts
            pure ts
          | ts => .ok ts
        match contextWords ts with
        | (true, ts) => return ts
        | (false, ts) =>
          if startsWith (.mark ",") ts then importedNames steps false ts else return ts

/-- The targets and values of a `with` up to the end of its tag. -/
def bindings (fuel : Nat) : Nat → Bool → List Token → Except Fault (List (Expr × Expr) × List Token)
  | 0, _, _ => fail
  | steps + 1, first, ts =>
    if startsWith .closeTag ts then .ok ([], ts)
    else do
      let ts ← if first then .ok ts else expect (.mark ",") ts
      let (t, ts) ← target fuel [] false ts
      let ts ← expect (.mark "=") ts
      let (e, ts) ← expression fuel true ts
      let (more, ts) ← bindings fuel steps false ts
      return ((t, e) :: more, ts)

/-- The expressions of a `print` up to the end of its tag. -/
def printed (fuel : Nat) : Nat → Bool → List Token → Except Fault (List Expr × List Token)
  | 0, _, _ => fail
  | steps + 1, first, ts =>
    if startsWith .closeTag ts then .ok ([], ts)
    else do
      let ts ← if first then .ok ts else expect (.mark ",") ts
      let (e, ts) ← expression fuel true ts
      let (more, ts) ← printed fuel steps false ts
      return (e :: more, ts)

/-! ### Statements -/

/-- The statement holds nothing but blank text. -/
def isBlankData : Stmt → Bool
  | .data blank => blank
  | _ => false

mutual

/-- Statements up to a tag that starts with one of the names in `ends`, whose opening
marks are read; up to the end of the template when there are none. -/
def statements : Nat → List String → List Token → Except Fault (List Stmt × List Token)
  | 0, _, _ => fail
  | fuel + 1, ends, ts =>
    match ts with
    | [] => if ends.isEmpty then .ok ([], []) else fail
    | .data blank :: ts => do
      let (more, ts) ← statements fuel ends ts
      return (.data blank :: more, ts)
    | .openValue :: ts => do
      let (e, ts) ← row fuel false true [] false ts
      let ts ← expect .closeValue ts
      let (more, ts) ← statements fuel ends ts
      return (.output [e] :: more, ts)
    | .openTag :: .name id :: rest =>
      if ends.contains id then .ok ([], .name id :: rest)
      else do
        let (stmt, ts) ← statement fuel id rest
        let ts ← expect .closeTag ts
        let (more, ts) ← statements fuel ends ts
        return (stmt :: more, ts)
    | _ => fail

/-- The body of a statement: the end of its tag and the statements up to one of the
names in `ends`, which is kept. -/
def body : Nat → List String → List Token → Except Fault (List Stmt × List Token)
  | 0, _, _ => fail
  | fuel + 1, ends, ts => do
    let (_, ts) := skip (.mark ":") ts
    let ts ← expect .closeTag ts
    statements fuel ends ts

/-- The body of a statement up to the one name that ends it. -/
def bodyUntil : Nat → String → List Token → Except Fault (List Stmt × List Token)
  | 0, _, _ => fail
  | fuel + 1, final, ts => do
    let (stmts, ts) ← body fuel [final] ts
    return (stmts, ts.drop 1)

/-- The rest of a branch after its word: its test, its body, and the branches after
it. -/
def branch : Nat → List Token →
    Except Fault ((Expr × List Stmt × List Stmt × List Stmt) × List Token)
  | 0, _ => fail
  | fuel + 1, ts => do
    let (test, ts) ← row fuel false false [] false ts
    let (stmts, ts) ← body fuel ["elif", "else", "endif"] ts
    match ts with
    | .name "elif" :: ts =>
      let ((test', stmts', elifs, otherwise), ts) ← branch fuel ts
      return ((test, stmts, .branch test' stmts' [] [] :: elifs, otherwise), ts)
    | .name "else" :: ts =>
      let (otherwise, ts) ← bodyUntil fuel "endif" ts
      return ((test, stmts, [], otherwise), ts)
    | ts => return ((test, stmts, [], []), ts.drop 1)

/-- The statement of a tag whose first name is read, without the end of its last tag. -/
def statement : Nat → String → List Token → Except Fault (Stmt × List Token)
  | 0, _, _ => fail
  | fuel + 1, id, ts =>
    match id with
    | "for" => do
      let (t, ts) ← target fuel ["in"] false ts
      let ts ← expect (.name "in") ts
      let (iter, ts) ← row fuel false false ["recursive"] false ts
      let (test, ts) ← match ts with
        | .name "if" :: ts => do
          let (e, ts) ← expression fuel true ts
          pure (some e, ts)
        | ts => .ok (none, ts)
      let (_, ts) := skip (.name "recursive") ts
      let (stmts, ts) ← body fuel ["endfor", "else"] ts
      match ts with
      | .name "else" :: ts =>
        let (otherwise, ts) ← bodyUntil fuel "endfor" ts
        return (.loop t iter stmts otherwise test, ts)
      | ts => return (.loop t iter stmts [] test, ts.drop 1)
    | "if" => do
      let ((test, stmts, elifs, otherwise), ts) ← branch fuel ts
      return (.branch test stmts elifs otherwise, ts)
    | "block" => do
      let (name, ts) ← expectName ts
      let (_, ts) := skip (.name "scoped") ts
      let (isRequired, ts) := skip (.name "required") ts
      let (stmts, ts) ← bodyUntil fuel "endblock" ts
      if isRequired && !stmts.all isBlankData then fail
      else
        let (_, ts) := skip (.name name) ts
        return (.block name stmts, ts)
    | "extends" => do
      let (e, ts) ← expression fuel true ts
      return (.reference e, ts)
    | "print" => do
      let (es, ts) ← printed fuel fuel true ts
      return (.output es, ts)
    | "macro" => do
      let (name, ts) ← nameTarget ts
      let ts ← expect (.mark "(") ts
      let (defaults, ts) ← parameters fuel fuel true [] ts
      let (stmts, ts) ← bodyUntil fuel "endmacro" ts
      return (.routine name defaults stmts, ts)
    | "include" => do
      let (e, ts) ← expression fuel true ts
      let ts := match ts with
        | .name "ignore" :: .name "missing" :: ts => ts
        | ts => ts
      return (.reference e, (contextWords ts).2)
    | "from" => do
      let (e, ts) ← expression fuel true ts
      let ts ← expect (.name "import") ts
      let ts ← importedNames fuel true ts
      return (.reference e, ts)
    | "import" => do
      let (e, ts) ← expression fuel true ts
      let ts ← expect (.name "as") ts
      let (_, ts) ← nameTarget ts
      return (.reference e, (contextWords ts).2)
    | "set" => do
      let (t, ts) ← target fuel [] true ts
      match ts with
      | .mark "=" :: ts =>
        let (e, ts) ← row fuel false true [] false ts
        return (.assign t e, ts)
      | ts =>
        let (filter, ts) ← filters fuel none ts
        let (stmts, ts) ← bodyUntil fuel "endset" ts
        return (.assignBlock t filter stmts, ts)
    | "with" => do
      let (pairs, ts) ← bindings fuel fuel true ts
      let (stmts, ts) ← bodyUntil fuel "endwith" ts
      return (.binding (pairs.map Prod.fst) (pairs.map Prod.snd) stmts, ts)
    | "autoescape" => do
      let (e, ts) ← expression fuel true ts
      let (stmts, ts) ← bodyUntil fuel "endautoescape" ts
      return (.escaping e stmts, ts)
    | "call" => do
      let (defaults, ts) ← match ts with
        | .mark "(" :: ts => parameters fuel fuel true [] ts
        | ts => .ok ([], ts)
      let (e, ts) ← expression fuel true ts
      match e with
      | .call _ _ =>
        let (stmts, ts) ← bodyUntil fuel "endcall" ts
        return (.callBlock e defaults stmts, ts)
      | _ => fail
    | "filter" => do
      let (e, ts) ← filterCall fuel none ts
      let (filter, ts) ← filters fuel (some e) ts
      let (stmts, ts) ← bodyUntil fuel "endfilter" ts
      return (.filterBlock (filter.getD e) stmts, ts)
    | _ => fail

end

end Reader

/-- The statements of a template. -/
def parse (source : String) : Except Fault (List Stmt) := do
  let ts := Token.scan source
  let (stmts, _) ← Reader.statements (32 * (ts.length + 4)) [] ts
  return stmts

end FragmentRoutes.Template
