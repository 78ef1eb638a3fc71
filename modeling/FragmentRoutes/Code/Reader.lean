/-
  Reading expressions.

  The reader follows the grammar from the loosest level, a conditional or a lambda,
  to the tightest, an atom with its trailers.  What stands in parentheses, brackets
  or braces is read once, and the token after its first item tells which form it
  has.  Every function takes a bound on the depth of the reading; the bound that
  `Expr.read` starts from is never reached.
-/
import FragmentRoutes.Code.Literal

namespace FragmentRoutes.Code

namespace Reader

/-- The tokens start with a name that is bound in place. -/
def startsBinding : List Token → Bool
  | .name _ :: .mark ":=" :: _ => true
  | _ => false

/-- The tokens start with a clause of a comprehension. -/
def startsClause : List Token → Bool
  | .word "for" :: _ => true
  | .word "async" :: .word "for" :: _ => true
  | _ => false

/-- The tokens after a given mark. -/
def expect (m : String) : List Token → Option (List Token)
  | .mark n :: rest => if n == m then some rest else none
  | _ => none

/-- The number of levels of arithmetic operators. -/
def operatorLevels : Nat := 6

/-- The operator that a mark stands for on a level, the loosest level first. -/
def operatorAt (level : Nat) (m : String) : Option BinaryOp :=
  match level, m with
  | 0, "|" => some .bitOr
  | 1, "^" => some .bitXor
  | 2, "&" => some .bitAnd
  | 3, "<<" => some .shiftLeft
  | 3, ">>" => some .shiftRight
  | 4, "+" => some .add
  | 4, "-" => some .sub
  | 5, "*" => some .mul
  | 5, "/" => some .div
  | 5, "//" => some .floorDiv
  | 5, "%" => some .mod
  | 5, "@" => some .matMul
  | _, _ => none

/-- The comparison at the start of the tokens. -/
def comparison? : List Token → Option (CompareOp × List Token)
  | .mark "==" :: rest => some (.eq, rest)
  | .mark "!=" :: rest => some (.notEq, rest)
  | .mark "<=" :: rest => some (.le, rest)
  | .mark "<" :: rest => some (.lt, rest)
  | .mark ">=" :: rest => some (.ge, rest)
  | .mark ">" :: rest => some (.gt, rest)
  | .word "not" :: .word "in" :: rest => some (.notIn, rest)
  | .word "in" :: rest => some (.isIn, rest)
  | .word "is" :: .word "not" :: rest => some (.isNot, rest)
  | .word "is" :: rest => some (.is, rest)
  | _ => none

/-- The operator before an operand at the start of the tokens. -/
def sign? : List Token → Option (UnaryOp × List Token)
  | .mark "+" :: rest => some (.plus, rest)
  | .mark "-" :: rest => some (.minus, rest)
  | .mark "~" :: rest => some (.invert, rest)
  | _ => none

mutual

/-- A value can be assigned to. -/
def isTarget : Expr → Bool
  | .name _ => true
  | .attribute _ _ => true
  | .subscript _ _ => true
  | .tuple items => areTargets items
  | .list items => areTargets items
  | _ => false

/-- Every item, less a star before it, can be assigned to. -/
def areTargets : List Expr → Bool
  | [] => true
  | .starred e :: es => isTarget e && areTargets es
  | e :: es => isTarget e && areTargets es

end

/-- The quoted texts at the start of the tokens. -/
def quotedRun : List Token → List (TextMarks × List Char) × List Token
  | .quoted marks body :: rest =>
    let (run, rest) := quotedRun rest
    ((marks, body) :: run, rest)
  | ts => ([], ts)

/-- Code points as the literal part of a text with values. -/
def literalText (ns : List Nat) : String :=
  String.ofList (ns.map Char.ofNat)

/-- Neighbouring literal parts put together, empty ones dropped. -/
def mergeLiterals : List TemplatePart → List TemplatePart
  | [] => []
  | .literal s :: rest =>
    match mergeLiterals rest with
    | .literal t :: more => .literal (s ++ t) :: more
    | more => if s.isEmpty then more else .literal s :: more
  | part :: rest => part :: mergeLiterals rest

/-- The parameters read so far, closed for positional use by a slash. -/
def closePositional (params : List Param) : List Param :=
  params.map fun p => match p with
    | .mk .positional name type default => .mk .positionalOnly name type default
    | p => p

/-- How far a list of lambda parameters has come. -/
structure ParamState where
  defaults : Bool := false
  slash : Bool := false
  star : Bool := false
  awaitsName : Bool := false

/-- How far a list of arguments has come. -/
inductive ArgStage where
  | positional
  | keyword
  | mapping
  deriving DecidableEq

mutual

/-- A conditional, a lambda or an `or`. -/
def expression : Nat → List Token → Option (Expr × List Token)
  | 0, _ => none
  | fuel + 1, ts =>
    match ts with
    | .word "lambda" :: rest => do
      let (params, rest) ← parameters fuel {} [] rest
      let (body, rest) ← expression fuel rest
      return (.lambda params body, rest)
    | ts => do
      let (body, rest) ← disjunction fuel ts
      match rest with
      | .word "if" :: rest =>
        let (test, rest) ← disjunction fuel rest
        match rest with
        | .word "else" :: rest =>
          let (otherwise, rest) ← expression fuel rest
          return (.conditional test body otherwise, rest)
        | _ => none
      | rest => return (body, rest)

/-- An expression, or a name bound to one. -/
def named : Nat → List Token → Option (Expr × List Token)
  | 0, _ => none
  | fuel + 1, ts =>
    match ts with
    | .name id :: .mark ":=" :: rest => do
      let (value, rest) ← expression fuel rest
      return (.binding id value, rest)
    | ts => do
      let (e, rest) ← expression fuel ts
      match rest with
      | .mark ":=" :: _ => none
      | rest => return (e, rest)

/-- An item of a display: a starred operand, an expression or a binding. -/
def item : Nat → List Token → Option (Expr × List Token)
  | 0, _ => none
  | fuel + 1, ts =>
    match ts with
    | .mark "*" :: rest => do
      let (e, rest) ← operation fuel 0 rest
      return (.starred e, rest)
    | ts => named fuel ts

/-- Operands of `or`. -/
def disjunction : Nat → List Token → Option (Expr × List Token)
  | 0, _ => none
  | fuel + 1, ts => do
    let (first, rest) ← conjunction fuel ts
    let (more, rest) ← orOperands fuel rest
    return (if more.isEmpty then first else .boolean .or (first :: more), rest)

/-- The operands after the first of an `or`. -/
def orOperands : Nat → List Token → Option (List Expr × List Token)
  | 0, _ => none
  | fuel + 1, ts =>
    match ts with
    | .word "or" :: rest => do
      let (e, rest) ← conjunction fuel rest
      let (es, rest) ← orOperands fuel rest
      return (e :: es, rest)
    | ts => some ([], ts)

/-- Operands of `and`. -/
def conjunction : Nat → List Token → Option (Expr × List Token)
  | 0, _ => none
  | fuel + 1, ts => do
    let (first, rest) ← inversion fuel ts
    let (more, rest) ← andOperands fuel rest
    return (if more.isEmpty then first else .boolean .and (first :: more), rest)

/-- The operands after the first of an `and`. -/
def andOperands : Nat → List Token → Option (List Expr × List Token)
  | 0, _ => none
  | fuel + 1, ts =>
    match ts with
    | .word "and" :: rest => do
      let (e, rest) ← inversion fuel rest
      let (es, rest) ← andOperands fuel rest
      return (e :: es, rest)
    | ts => some ([], ts)

/-- A negation or a comparison. -/
def inversion : Nat → List Token → Option (Expr × List Token)
  | 0, _ => none
  | fuel + 1, ts =>
    match ts with
    | .word "not" :: rest => do
      let (e, rest) ← inversion fuel rest
      return (.unary .not e, rest)
    | ts => do
      let (first, rest) ← operation fuel 0 ts
      let (more, rest) ← comparisons fuel rest
      return (if more.isEmpty then first else .compare first more, rest)

/-- The comparisons after the first operand. -/
def comparisons : Nat → List Token → Option (List (CompareOp × Expr) × List Token)
  | 0, _ => none
  | fuel + 1, ts =>
    match comparison? ts with
    | none => some ([], ts)
    | some (op, rest) => do
      let (e, rest) ← operation fuel 0 rest
      let (more, rest) ← comparisons fuel rest
      return ((op, e) :: more, rest)

/-- Operands of the operators of a level and of tighter ones. -/
def operation : Nat → Nat → List Token → Option (Expr × List Token)
  | 0, _, _ => none
  | fuel + 1, level, ts =>
    if operatorLevels ≤ level then factor fuel ts
    else do
      let (left, rest) ← operation fuel (level + 1) ts
      operationRest fuel level left rest

/-- The operators of a level after a left operand, grouped to the left. -/
def operationRest : Nat → Nat → Expr → List Token → Option (Expr × List Token)
  | 0, _, _, _ => none
  | fuel + 1, level, left, ts =>
    match ts with
    | .mark m :: rest =>
      match operatorAt level m with
      | some op => do
        let (right, rest) ← operation fuel (level + 1) rest
        operationRest fuel level (.binary left op right) rest
      | none => some (left, ts)
    | ts => some (left, ts)

/-- A signed operand or a power. -/
def factor : Nat → List Token → Option (Expr × List Token)
  | 0, _ => none
  | fuel + 1, ts =>
    match sign? ts with
    | some (op, rest) => do
      let (e, rest) ← factor fuel rest
      return (.unary op e, rest)
    | none => do
      let (base, rest) ← awaited fuel ts
      match rest with
      | .mark "**" :: rest =>
        let (exponent, rest) ← factor fuel rest
        return (.binary base .pow exponent, rest)
      | rest => return (base, rest)

/-- An atom with its trailers, awaited or not. -/
def awaited : Nat → List Token → Option (Expr × List Token)
  | 0, _ => none
  | fuel + 1, ts =>
    match ts with
    | .word "await" :: rest => do
      let (e, rest) ← primary fuel rest
      return (.await e, rest)
    | ts => primary fuel ts

/-- An atom with its trailers. -/
def primary : Nat → List Token → Option (Expr × List Token)
  | 0, _ => none
  | fuel + 1, ts => do
    let (e, rest) ← atom fuel ts
    trailers fuel e rest

/-- The attributes, calls and subscripts after a value. -/
def trailers : Nat → Expr → List Token → Option (Expr × List Token)
  | 0, _, _ => none
  | fuel + 1, e, ts =>
    match ts with
    | .mark "." :: .name id :: rest => trailers fuel (.attribute e id) rest
    | .mark "." :: _ => none
    | .mark "(" :: rest => do
      let ((args, keywords), rest) ← arguments fuel .positional [] [] rest
      trailers fuel (.call e args keywords) rest
    | .mark "[" :: rest => do
      let (index, rest) ← subscript fuel rest
      trailers fuel (.subscript e index) rest
    | ts => some (e, ts)

/-- Arguments up to the closing parenthesis, in the order of the stages; those read so
far come last first. -/
def arguments : Nat → ArgStage → List Expr → List (Option String × Expr) → List Token →
    Option ((List Expr × List (Option String × Expr)) × List Token)
  | 0, _, _, _, _ => none
  | fuel + 1, stage, args, keywords, ts =>
    match ts with
    | .mark ")" :: rest => some ((args.reverse, keywords.reverse), rest)
    | .mark "**" :: rest => do
      let (e, rest) ← expression fuel rest
      argumentsNext fuel .mapping args ((none, e) :: keywords) rest
    | .name id :: .mark "=" :: rest => do
      let (e, rest) ← expression fuel rest
      let stage := if stage = .positional then .keyword else stage
      argumentsNext fuel stage args ((some id, e) :: keywords) rest
    | .mark "*" :: rest =>
      if stage = .mapping then none
      else do
        let (e, rest) ← expression fuel rest
        argumentsNext fuel stage (.starred e :: args) keywords rest
    | ts =>
      if stage ≠ .positional then none
      else do
        let (e, rest) ← named fuel ts
        if args.isEmpty && startsClause rest then
          let (cs, rest) ← clauses fuel rest
          let rest ← expect ")" rest
          return (([.generator e cs], []), rest)
        else argumentsNext fuel stage (e :: args) keywords rest

/-- What follows an argument: a comma and further arguments, or the end. -/
def argumentsNext : Nat → ArgStage → List Expr → List (Option String × Expr) → List Token →
    Option ((List Expr × List (Option String × Expr)) × List Token)
  | 0, _, _, _, _ => none
  | fuel + 1, stage, args, keywords, ts =>
    match ts with
    | .mark ")" :: rest => some ((args.reverse, keywords.reverse), rest)
    | .mark "," :: rest => arguments fuel stage args keywords rest
    | _ => none

/-- The index of a subscript up to the closing bracket: one slice, or a tuple. -/
def subscript : Nat → List Token → Option (Expr × List Token)
  | 0, _ => none
  | fuel + 1, ts => do
    let (first, rest) ← sliceItem fuel ts
    match rest with
    | .mark "]" :: rest =>
      match first with
      | .starred _ => return (.tuple [first], rest)
      | first => return (first, rest)
    | .mark "," :: rest =>
      let (more, rest) ← sliceItems fuel rest
      return (.tuple (first :: more), rest)
    | _ => none

/-- Further slices up to the closing bracket. -/
def sliceItems : Nat → List Token → Option (List Expr × List Token)
  | 0, _ => none
  | fuel + 1, ts =>
    match ts with
    | .mark "]" :: rest => some ([], rest)
    | ts => do
      let (e, rest) ← sliceItem fuel ts
      match rest with
      | .mark "]" :: rest => return ([e], rest)
      | .mark "," :: rest =>
        let (es, rest) ← sliceItems fuel rest
        return (e :: es, rest)
      | _ => none

/-- A slice, a starred expression or a plain index. -/
def sliceItem : Nat → List Token → Option (Expr × List Token)
  | 0, _ => none
  | fuel + 1, ts =>
    match ts with
    | .mark "*" :: rest => do
      let (e, rest) ← expression fuel rest
      return (.starred e, rest)
    | ts =>
      if startsBinding ts then named fuel ts
      else do
        let (lower, rest) ← optional fuel ts
        match rest with
        | .mark ":" :: rest =>
          let (upper, rest) ← optional fuel rest
          match rest with
          | .mark ":" :: rest =>
            let (step, rest) ← optional fuel rest
            return (.slice lower upper step, rest)
          | rest => return (.slice lower upper none, rest)
        | rest =>
          match lower with
          | some e => return (e, rest)
          | none => none

/-- An expression, or none before a mark that ends a bound of a slice. -/
def optional : Nat → List Token → Option (Option Expr × List Token)
  | 0, _ => none
  | fuel + 1, ts =>
    match ts with
    | .mark ":" :: _ => some (none, ts)
    | .mark "," :: _ => some (none, ts)
    | .mark "]" :: _ => some (none, ts)
    | ts => (expression fuel ts).map fun r => (some r.1, r.2)

/-- A name, a constant, or what stands in brackets of one kind. -/
def atom : Nat → List Token → Option (Expr × List Token)
  | 0, _ => none
  | fuel + 1, ts =>
    match ts with
    | .name id :: rest => some (.name id, rest)
    | .word "True" :: rest => some (.constant (.bool true), rest)
    | .word "False" :: rest => some (.constant (.bool false), rest)
    | .word "None" :: rest => some (.constant .none, rest)
    | .whole n :: rest => some (.constant (.int n), rest)
    | .real x :: rest => some (.constant (.real x), rest)
    | .imaginary x :: rest => some (.constant (.imaginary x), rest)
    | .mark "..." :: rest => some (.constant .ellipsis, rest)
    | .quoted _ _ :: _ =>
      let (run, rest) := quotedRun ts
      (quotedTexts fuel run).map fun e => (e, rest)
    | .mark "(" :: rest => parenthesized fuel rest
    | .mark "[" :: rest => bracketed fuel rest
    | .mark "\x7b" :: rest => braced fuel rest
    | _ => none

/-- What stands between parentheses: a tuple, a generator or one value. -/
def parenthesized : Nat → List Token → Option (Expr × List Token)
  | 0, _ => none
  | fuel + 1, ts =>
    match ts with
    | .mark ")" :: rest => some (.tuple [], rest)
    | .word "yield" :: rest => do
      let (e, rest) ← yielded fuel rest
      let rest ← expect ")" rest
      return (e, rest)
    | ts => do
      let (first, rest) ← item fuel ts
      let isStarred := match first, ts with
        | .starred _, .mark "*" :: _ => true
        | _, _ => false
      match rest with
      | .mark "," :: rest =>
        let (more, rest) ← items fuel ")" rest
        return (.tuple (first :: more), rest)
      | rest =>
        if isStarred then none
        else if startsClause rest then
          let (cs, rest) ← clauses fuel rest
          let rest ← expect ")" rest
          return (.generator first cs, rest)
        else
          let rest ← expect ")" rest
          return (first, rest)

/-- What follows `yield`. -/
def yielded : Nat → List Token → Option (Expr × List Token)
  | 0, _ => none
  | fuel + 1, ts =>
    match ts with
    | .word "from" :: rest => do
      let (e, rest) ← expression fuel rest
      return (.yieldFrom e, rest)
    | .mark ")" :: _ => some (.yield none, ts)
    | ts => do
      let (first, rest) ← yieldedItem fuel ts
      match rest with
      | .mark "," :: rest =>
        let (more, rest) ← yieldedItems fuel rest
        return (.yield (some (.tuple (first :: more))), rest)
      | rest => return (.yield (some first), rest)

/-- An item after `yield`: a starred operand or an expression. -/
def yieldedItem : Nat → List Token → Option (Expr × List Token)
  | 0, _ => none
  | fuel + 1, ts =>
    match ts with
    | .mark "*" :: rest => do
      let (e, rest) ← operation fuel 0 rest
      return (.starred e, rest)
    | ts => expression fuel ts

/-- Further items after `yield`, up to the closing parenthesis, which is kept. -/
def yieldedItems : Nat → List Token → Option (List Expr × List Token)
  | 0, _ => none
  | fuel + 1, ts =>
    match ts with
    | .mark ")" :: _ => some ([], ts)
    | ts => do
      let (e, rest) ← yieldedItem fuel ts
      match rest with
      | .mark "," :: rest =>
        let (es, rest) ← yieldedItems fuel rest
        return (e :: es, rest)
      | rest => return ([e], rest)

/-- Items up to the mark that closes a display. -/
def items : Nat → String → List Token → Option (List Expr × List Token)
  | 0, _, _ => none
  | fuel + 1, close, ts =>
    match expect close ts with
    | some rest => some ([], rest)
    | none => do
      let (e, rest) ← item fuel ts
      match rest with
      | .mark "," :: rest =>
        let (es, rest) ← items fuel close rest
        return (e :: es, rest)
      | rest =>
        let rest ← expect close rest
        return ([e], rest)

/-- What stands between brackets: a list or a comprehension. -/
def bracketed : Nat → List Token → Option (Expr × List Token)
  | 0, _ => none
  | fuel + 1, ts =>
    match ts with
    | .mark "]" :: rest => some (.list [], rest)
    | ts => do
      let (first, rest) ← item fuel ts
      match rest with
      | .mark "," :: rest =>
        let (more, rest) ← items fuel "]" rest
        return (.list (first :: more), rest)
      | rest =>
        if startsClause rest then
          match ts with
          | .mark "*" :: _ => none
          | _ =>
            let (cs, rest) ← clauses fuel rest
            let rest ← expect "]" rest
            return (.listOf first cs, rest)
        else
          let rest ← expect "]" rest
          return (.list [first], rest)

/-- What stands between braces: a dictionary, a set or a comprehension of one. -/
def braced : Nat → List Token → Option (Expr × List Token)
  | 0, _ => none
  | fuel + 1, ts =>
    match ts with
    | .mark "\x7d" :: rest => some (.dict [], rest)
    | .mark "**" :: _ => do
      let (pairs, rest) ← entries fuel ts
      return (.dict pairs, rest)
    | ts => do
      let (first, rest) ← item fuel ts
      let isPlain := match ts with
        | .mark "*" :: _ => false
        | ts => !startsBinding ts
      match rest with
      | .mark ":" :: rest =>
        if !isPlain then none
        else
          let (value, rest) ← expression fuel rest
          if startsClause rest then
            let (cs, rest) ← clauses fuel rest
            let rest ← expect "\x7d" rest
            return (.dictOf first value cs, rest)
          else match rest with
            | .mark "," :: rest =>
              let (pairs, rest) ← entries fuel rest
              return (.dict ((some first, value) :: pairs), rest)
            | rest =>
              let rest ← expect "\x7d" rest
              return (.dict [(some first, value)], rest)
      | .mark "," :: rest =>
        let (more, rest) ← items fuel "\x7d" rest
        return (.set (first :: more), rest)
      | rest =>
        if startsClause rest then
          match ts with
          | .mark "*" :: _ => none
          | _ =>
            let (cs, rest) ← clauses fuel rest
            let rest ← expect "\x7d" rest
            return (.setOf first cs, rest)
        else
          let rest ← expect "\x7d" rest
          return (.set [first], rest)

/-- The entries of a dictionary up to the closing brace. -/
def entries : Nat → List Token → Option (List (Option Expr × Expr) × List Token)
  | 0, _ => none
  | fuel + 1, ts =>
    match ts with
    | .mark "\x7d" :: rest => some ([], rest)
    | .mark "**" :: rest => do
      let (value, rest) ← operation fuel 0 rest
      entriesNext fuel (none, value) rest
    | ts => do
      let (key, rest) ← expression fuel ts
      let rest ← expect ":" rest
      let (value, rest) ← expression fuel rest
      entriesNext fuel (some key, value) rest

/-- What follows an entry: a comma and further entries, or the end. -/
def entriesNext : Nat → Option Expr × Expr → List Token →
    Option (List (Option Expr × Expr) × List Token)
  | 0, _, _ => none
  | fuel + 1, entry, ts =>
    match ts with
    | .mark "\x7d" :: rest => some ([entry], rest)
    | .mark "," :: rest => do
      let (more, rest) ← entries fuel rest
      return (entry :: more, rest)
    | _ => none

/-- The clauses of a comprehension, at least one. -/
def clauses : Nat → List Token → Option (List Clause × List Token)
  | 0, _ => none
  | fuel + 1, ts => do
    let (isAsync, rest) ← match ts with
      | .word "async" :: .word "for" :: rest => some (true, rest)
      | .word "for" :: rest => some (false, rest)
      | _ => none
    let (target, rest) ← targets fuel rest
    match rest with
    | .word "in" :: rest =>
      let (iter, rest) ← disjunction fuel rest
      let (conditions, rest) ← conditions fuel rest
      let clause := Clause.mk isAsync target iter conditions
      if startsClause rest then
        let (more, rest) ← clauses fuel rest
        return (clause :: more, rest)
      else return ([clause], rest)
    | _ => none

/-- The conditions of a clause. -/
def conditions : Nat → List Token → Option (List Expr × List Token)
  | 0, _ => none
  | fuel + 1, ts =>
    match ts with
    | .word "if" :: rest => do
      let (e, rest) ← disjunction fuel rest
      let (es, rest) ← conditions fuel rest
      return (e :: es, rest)
    | ts => some ([], ts)

/-- The target of a clause: one, or a tuple of them. -/
def targets : Nat → List Token → Option (Expr × List Token)
  | 0, _ => none
  | fuel + 1, ts => do
    let (first, rest) ← target fuel ts
    match rest with
    | .mark "," :: rest =>
      let (more, rest) ← moreTargets fuel rest
      return (.tuple (first :: more), rest)
    | rest => return (first, rest)

/-- Further targets up to the word before the values. -/
def moreTargets : Nat → List Token → Option (List Expr × List Token)
  | 0, _ => none
  | fuel + 1, ts =>
    match ts with
    | .word "in" :: _ => some ([], ts)
    | ts => do
      let (e, rest) ← target fuel ts
      match rest with
      | .mark "," :: rest =>
        let (es, rest) ← moreTargets fuel rest
        return (e :: es, rest)
      | rest => return ([e], rest)

/-- One target, starred or not. -/
def target : Nat → List Token → Option (Expr × List Token)
  | 0, _ => none
  | fuel + 1, ts =>
    match ts with
    | .mark "*" :: rest => do
      let (e, rest) ← primary fuel rest
      if isTarget e then return (.starred e, rest) else none
    | ts => do
      let (e, rest) ← primary fuel ts
      if isTarget e then return (e, rest) else none

/-- The parameters of a lambda up to its colon; those read so far in order. -/
def parameters : Nat → ParamState → List Param → List Token → Option (List Param × List Token)
  | 0, _, _, _ => none
  | fuel + 1, state, params, ts =>
    match ts with
    | .mark ":" :: rest => if state.awaitsName then none else some (params, rest)
    | .mark "/" :: rest =>
      if state.slash || state.star || params.isEmpty then none
      else parametersNext fuel { state with slash := true } (closePositional params) rest
    | .mark "**" :: .name id :: rest =>
      if state.awaitsName then none
      else do
        let rest := match rest with
          | .mark "," :: rest => rest
          | rest => rest
        let rest ← expect ":" rest
        return (params ++ [.mk .keywordRest id none none], rest)
    | .mark "*" :: .mark "," :: rest =>
      if state.star then none
      else parameters fuel { state with star := true, awaitsName := true } params rest
    | .mark "*" :: .name id :: rest =>
      if state.star then none
      else parametersNext fuel { state with star := true } (params ++ [.mk .rest id none none]) rest
    | .name id :: .mark "=" :: rest => do
      let (e, rest) ← expression fuel rest
      let kind := if state.star then ParamKind.keywordOnly else .positional
      parametersNext fuel { state with defaults := true, awaitsName := false }
        (params ++ [.mk kind id none (some e)]) rest
    | .name id :: rest =>
      if state.defaults && !state.star then none
      else
        let kind := if state.star then ParamKind.keywordOnly else .positional
        parametersNext fuel { state with awaitsName := false }
          (params ++ [.mk kind id none none]) rest
    | _ => none

/-- What follows a parameter: a comma and further parameters, or the colon. -/
def parametersNext : Nat → ParamState → List Param → List Token → Option (List Param × List Token)
  | 0, _, _, _ => none
  | fuel + 1, state, params, ts =>
    match ts with
    | .mark ":" :: rest => some (params, rest)
    | .mark "," :: rest => parameters fuel state params rest
    | _ => none

/-- The constant, or text with values, that quoted texts in a row stand for. -/
def quotedTexts : Nat → List (TextMarks × List Char) → Option Expr
  | 0, _ => none
  | fuel + 1, run =>
    if run.all fun t => t.1.bytes then do
      let parts ← run.mapM fun t => Literal.decodeBytes t.1.raw t.2
      return .constant (.bytes parts.flatten)
    else if run.any fun t => t.1.bytes then none
    else if run.any fun t => t.1.template then do
      let parts ← quotedParts fuel run
      return .template (mergeLiterals parts)
    else do
      let parts ← run.mapM fun t => Literal.decode t.1.raw t.2
      let marked := (run.head?.map fun t => t.1.marked).getD false
      return .constant (Literal.ofCodes marked parts.flatten)

/-- The parts of quoted texts in a row, some with values. -/
def quotedParts : Nat → List (TextMarks × List Char) → Option (List TemplatePart)
  | 0, _ => none
  | _ + 1, [] => some []
  | fuel + 1, (marks, body) :: run => do
    let parts ← if marks.template then do
        let pieces ← Literal.template marks.raw body
        templateParts fuel marks.raw pieces
      else do
        let ns ← Literal.decode marks.raw body
        pure [.literal (literalText ns)]
    let more ← quotedParts fuel run
    return parts ++ more

/-- The parts that the pieces of a text with values stand for. -/
def templateParts : Nat → Bool → List Literal.TemplatePiece → Option (List TemplatePart)
  | 0, _, _ => none
  | _ + 1, _, [] => some []
  | fuel + 1, raw, .literal body :: rest => do
    let ns ← Literal.decode raw body
    let more ← templateParts fuel raw rest
    return .literal (literalText ns) :: more
  | fuel + 1, raw, .value text echo conversion format :: rest => do
    let ts ← Token.scan ('(' :: text ++ [')'])
    let (e, _) ← expression fuel ts
    let format ← match format with
      | none => some none
      | some pieces => (templateParts fuel raw pieces).map fun ps => some (mergeLiterals ps)
    let more ← templateParts fuel raw rest
    let front := match echo with
      | some shown => [TemplatePart.literal (String.ofList shown)]
      | none => []
    return front ++ .value e conversion format :: more

end

/-- Further expressions, each after a comma; the last comma may stand before the end of
the line. -/
def moreExpressions (fuel : Nat) : Nat → List Token → Option (List Expr × List Token)
  | 0, _ => none
  | steps + 1, ts =>
    match ts with
    | .mark "," :: .newline :: rest => some ([], .newline :: rest)
    | .mark "," :: rest => do
      let (e, rest) ← expression fuel rest
      let (es, rest) ← moreExpressions fuel steps rest
      return (e :: es, rest)
    | ts => some ([], ts)

/-- Expressions with commas between them, a tuple unless there is one without a comma
after it. -/
def expressions (fuel : Nat) (ts : List Token) : Option (Expr × List Token) := do
  let (first, rest) ← expression fuel ts
  match rest with
  | .mark "," :: _ =>
    let (more, rest) ← moreExpressions fuel fuel rest
    return (.tuple (first :: more), rest)
  | rest => return (first, rest)

end Reader

/-- The expression that a text spells on one logical line, `none` when it spells
none. -/
def Expr.read (cs : List Char) : Option Expr :=
  match Token.scan cs with
  | none => none
  | some ts =>
    match Reader.expressions (32 * (cs.length + 4)) ts with
    | some (e, rest) => if rest.all (· == .newline) then some e else none
    | none => none

end FragmentRoutes.Code
