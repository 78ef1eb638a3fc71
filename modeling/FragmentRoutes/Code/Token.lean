/-
  The tokens of an expression.

  A text is cut into names, words of the grammar, numbers, quoted texts and marks.
  Blanks between tokens are spaces, tabs and form feeds; a line feed ends the
  expression unless a bracket is open, comments and empty lines do not count, and a
  backslash before a line feed joins lines.  Brackets have to match and may not be
  nested too deeply.  Quoted texts stay as they are written here; what they stand
  for is read later, together with the text that stands beside them.
-/
import FragmentRoutes.Numeral.Double
import FragmentRoutes.Text.Compatibility
import FragmentRoutes.Text.Identifier

namespace FragmentRoutes.Code

/-- The letters before the quote of a quoted text. -/
structure TextMarks where
  bytes : Bool := false
  raw : Bool := false
  marked : Bool := false
  template : Bool := false
  deriving DecidableEq, Repr, Inhabited

/-- A token of an expression. -/
inductive Token where
  | name (id : String)
  | word (text : String)
  | whole (value : Nat)
  | real (value : Numeral.Double)
  | imaginary (value : Numeral.Double)
  | quoted (marks : TextMarks) (body : List Char)
  | mark (text : String)
  | newline
  deriving DecidableEq, Repr, Inhabited

namespace Token

/-- The most brackets that may be open at a time. -/
def maxDepth : Nat := 200

/-- Blanks between the tokens of a line. -/
def isGap (c : Char) : Bool :=
  c == ' ' || c == '\t' || c == '\x0c'

/-- A character that may belong to a name; whether it does is decided once the name is
read in full. -/
def isNamePart (c : Char) : Bool :=
  Text.isAsciiLetter c || Text.isAsciiDigit c || c == '_' || 128 ≤ c.toNat

/-! ### Numbers -/

/-- A digit of base sixteen. -/
def isHexDigit (c : Char) : Bool :=
  Text.isAsciiDigit c || ('a' ≤ c && c ≤ 'f') || ('A' ≤ c && c ≤ 'F')

/-- The value of a digit of base sixteen. -/
def hexValue (c : Char) : Nat :=
  if Text.isAsciiDigit c then c.toNat - 48
  else if 'a' ≤ c && c ≤ 'f' then c.toNat - 87
  else c.toNat - 55

/-- Digits in which single underscores may stand between digits, with what follows
them.  `none` when an underscore is not followed by a digit. -/
def digitRun (isDigit : Char → Bool) : List Char → Option (List Char × List Char)
  | [] => some ([], [])
  | '_' :: d :: cs =>
    if isDigit d then (digitRun isDigit cs).map fun r => (d :: r.1, r.2) else none
  | '_' :: [] => none
  | c :: cs =>
    if isDigit c then (digitRun isDigit cs).map fun r => (c :: r.1, r.2) else some ([], c :: cs)

/-- A run of digits that starts with a digit. -/
def digits (isDigit : Char → Bool) (cs : List Char) : Option (List Char × List Char) :=
  match cs with
  | c :: _ => if isDigit c then digitRun isDigit cs else none
  | [] => none

/-- The words of the grammar that may follow a number without a blank. -/
def wordsAfterNumber : List (List Char) :=
  ["and".toList, "else".toList, "for".toList, "if".toList, "in".toList, "is".toList, "or".toList]

/-- What follows a number is not a continuation of it. -/
def endsNumber (cs : List Char) : Bool :=
  match cs with
  | [] => true
  | c :: _ => !isNamePart c || wordsAfterNumber.any (·.isPrefixOf cs)

/-- A number in base two, eight or sixteen, after the letter that names the base. -/
def basedNumber (base : Nat) (cs : List Char) : Option (Token × List Char) :=
  let isDigit := fun c => isHexDigit c && hexValue c < base
  let cs := match cs with
    | '_' :: rest => rest
    | _ => cs
  match digits isDigit cs with
  | none => none
  | some (ds, rest) =>
    let stray := match rest with
      | c :: _ => Text.isAsciiDigit c
      | [] => false
    if stray || !endsNumber rest then none
    else some (.whole (ds.foldl (fun n d => base * n + hexValue d) 0), rest)

/-- The exponent of a number: its sign and digits, with what follows.  A letter `e`
without digits is no exponent. -/
def exponentPart (cs : List Char) : Option (Option (List Char) × List Char) :=
  match cs with
  | e :: rest =>
    if e == 'e' || e == 'E' then
      let (sign, ds) := match rest with
        | '+' :: ds => (['+'], ds)
        | '-' :: ds => (['-'], ds)
        | ds => ([], ds)
      match ds with
      | d :: _ =>
        if Text.isAsciiDigit d then
          (digitRun Text.isAsciiDigit ds).map fun r => (some (sign ++ r.1), r.2)
        else if sign.isEmpty then some (none, cs) else none
      | [] => if sign.isEmpty then some (none, cs) else none
    else some (none, cs)
  | [] => some (none, cs)

/-- A decimal number. -/
def decimalNumber (cs : List Char) : Option (Token × List Char) := do
  let (front, rest) ← digitRun Text.isAsciiDigit cs
  let (fraction, rest) ← match rest with
    | '.' :: after =>
      match after with
      | d :: _ =>
        if Text.isAsciiDigit d then
          (digitRun Text.isAsciiDigit after).map fun r => (some r.1, r.2)
        else some (some [], after)
      | [] => some (some [], after)
    | _ => some (none, rest)
  let (power, rest) ← exponentPart rest
  let exponent := (power.bind Numeral.readExponent?).getD 0
  let isWhole := fraction.isNone && power.isNone
  let parts := fraction.getD []
  let ds := (front ++ parts).dropWhile (· == '0')
  let value := Numeral.Double.ofDecimal false (Numeral.ofDigits ds) ds.length
    (exponent - parts.length)
  match rest with
  | 'j' :: rest => if endsNumber rest then some (.imaginary value, rest) else none
  | 'J' :: rest => if endsNumber rest then some (.imaginary value, rest) else none
  | _ =>
    if !endsNumber rest then none
    else if isWhole then
      let leadingZero := front.head? == some '0' && front.any (· != '0')
      if leadingZero || Numeral.maxDigits < front.length then none
      else some (.whole (Numeral.ofDigits front), rest)
    else some (.real value, rest)

/-- The number at the start of a text that starts with a digit, or with a point and a
digit. -/
def number (cs : List Char) : Option (Token × List Char) :=
  match cs with
  | '0' :: b :: rest =>
    if b == 'x' || b == 'X' then basedNumber 16 rest
    else if b == 'o' || b == 'O' then basedNumber 8 rest
    else if b == 'b' || b == 'B' then basedNumber 2 rest
    else decimalNumber cs
  | _ => decimalNumber cs

/-! ### Quoted texts -/

/-- The characters up to the closing quotes, which are `count` quotes `quote` in a row.
A backslash keeps the character after it.  Only triple quotes go over lines. -/
def quotedBody (quote : Char) (count : Nat) : List Char → Option (List Char × List Char)
  | [] => none
  | '\\' :: c :: cs => (quotedBody quote count cs).map fun r => ('\\' :: c :: r.1, r.2)
  | c :: cs =>
    if c == quote && (List.replicate count quote).isPrefixOf (c :: cs) then
      some ([], (c :: cs).drop count)
    else if c == '\n' && count == 1 then none
    else (quotedBody quote count cs).map fun r => (c :: r.1, r.2)

/-- The quoted text at the start of a text that starts with a quote. -/
def quotedText (marks : TextMarks) (cs : List Char) : Option (Token × List Char) :=
  match cs with
  | quote :: rest =>
    let triple := List.replicate 3 quote
    let (count, body) := if triple.isPrefixOf cs then (3, cs.drop 3) else (1, rest)
    (quotedBody quote count body).map fun r => (.quoted marks r.1, r.2)
  | [] => none

/-- The marks that letters before a quote stand for. -/
def textMarks? (letters : List Char) : Option TextMarks :=
  match letters.map Text.lowerAscii with
  | [] => some {}
  | ['b'] => some { bytes := true }
  | ['u'] => some { marked := true }
  | ['r'] => some { raw := true }
  | ['f'] => some { template := true }
  | ['b', 'r'] => some { bytes := true, raw := true }
  | ['r', 'b'] => some { bytes := true, raw := true }
  | ['f', 'r'] => some { template := true, raw := true }
  | ['r', 'f'] => some { template := true, raw := true }
  | _ => none

/-! ### Names and marks -/

/-- The name or word at the start of a text, or the quoted text that follows its
letters. -/
def nameOrQuoted (cs : List Char) : Option (Token × List Char) :=
  let letters := cs.takeWhile isNamePart
  let rest := cs.dropWhile isNamePart
  let atQuote := rest.head? == some '"' || rest.head? == some '\''
  match if atQuote then textMarks? letters else none with
  | some marks => quotedText marks rest
  | none =>
    let id := String.ofList letters
    if !Text.isIdentifierChars letters then none
    else if Text.isReserved id then some (.word id, rest)
    else some (.name (Text.compatibilityForm id), rest)

/-- The marks of the grammar, longer ones first. -/
def marks : List String := [
  "**=", "//=", ">>=", "<<=", "...",
  "**", "//", ">>", "<<", "<=", ">=", "==", "!=", "->", "+=", "-=", "*=", "/=", "%=", "&=", "|=",
  "^=", "@=", ":=", "<>",
  "(", ")", "[", "]", "\x7b", "\x7d", ",", ":", ".", ";", "+", "-", "*", "/", "|", "&", "<", ">",
  "=", "%", "~", "^", "@"]

/-- The longest mark at the start of a text. -/
def mark? (cs : List Char) : Option (Token × List Char) :=
  (marks.find? fun m => m.toList.isPrefixOf cs).map fun m => (.mark m, cs.drop m.length)

/-! ### The tokens of a text -/

/-- The open brackets after a token, innermost first; `none` for a closing bracket
without its opening one, or too many open ones. -/
def track (opened : List String) (token : Token) : Option (List String) :=
  match token with
  | .mark "(" => if maxDepth ≤ opened.length then none else some (")" :: opened)
  | .mark "[" => if maxDepth ≤ opened.length then none else some ("]" :: opened)
  | .mark "\x7b" => if maxDepth ≤ opened.length then none else some ("\x7d" :: opened)
  | .mark m =>
    if m == ")" || m == "]" || m == "\x7d" then
      match opened with
      | o :: os => if o == m then some os else none
      | [] => none
    else some opened
  | _ => some opened

/-- The token at the start of a text. -/
def next? (cs : List Char) : Option (Token × List Char) :=
  match cs with
  | [] => none
  | c :: rest =>
    if Text.isAsciiDigit c then number cs
    else if c == '.' && (rest.head?.map Text.isAsciiDigit).getD false then number cs
    else if c == '"' || c == '\'' then quotedText {} cs
    else if isNamePart c then nameOrQuoted cs
    else mark? cs

/-- Where the scan stands on its line: at its start, with the column reached, at the start
of one that continues an indented one, or behind a token. -/
inductive Place where
  | lineStart (column : Nat)
  | indented
  | inLine
  deriving DecidableEq, Repr

namespace Place

/-- The place on a line that continues the one that the scan stands on.  The first line
says how far both are indented. -/
def continued : Place → Place
  | lineStart (_ + 1) => indented
  | place => place

/-- What stands here is indented. -/
def isIndented : Place → Bool
  | lineStart column => column != 0
  | indented => true
  | inLine => false

end Place

/-- The tokens of a text, `none` when it has none.  A line that holds a token must not
be indented.  The bound is the number of steps, at most one for each character. -/
def scanFrom (place : Place) (opened : List String) : Nat → List Char → Option (List Token)
  | 0, _ => none
  | _ + 1, [] =>
    if !opened.isEmpty then none
    else if place = .inLine then some [.newline] else some []
  | fuel + 1, c :: cs =>
    if c == '#' then scanFrom place opened fuel (cs.dropWhile (· != '\n'))
    else if c == '\n' then
      match opened, place with
      | [], .inLine => (scanFrom (.lineStart 0) opened fuel cs).map (.newline :: ·)
      | [], _ => scanFrom (.lineStart 0) opened fuel cs
      | _, _ => scanFrom place opened fuel cs
    else if isGap c then
      match place with
      | .lineStart column =>
        let column := if c == ' ' then column + 1 else if c == '\t' then (column / 8 + 1) * 8 else 0
        scanFrom (.lineStart column) opened fuel cs
      | place => scanFrom place opened fuel cs
    else if c == '\\' then
      match cs with
      | '\n' :: rest => if rest.isEmpty then none else scanFrom place.continued opened fuel rest
      | _ => none
    else if place.isIndented then none
    else match next? (c :: cs) with
      | none => none
      | some (token, rest) =>
        match track opened token with
        | none => none
        | some opened => (scanFrom .inLine opened fuel rest).map (token :: ·)

/-- Line ends written in the three usual ways, all as a line feed. -/
def joinLineEnds : List Char → List Char
  | '\r' :: '\n' :: cs => '\n' :: joinLineEnds cs
  | '\r' :: cs => '\n' :: joinLineEnds cs
  | c :: cs => c :: joinLineEnds cs
  | [] => []

/-- The tokens of a text, each line of tokens ended by a `newline`. -/
def scan (cs : List Char) : Option (List Token) :=
  let cs := joinLineEnds cs
  scanFrom (.lineStart 0) [] (cs.length + 1) cs

end Token

end FragmentRoutes.Code
