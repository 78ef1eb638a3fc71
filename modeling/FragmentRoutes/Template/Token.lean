/-
  The tokens of a template.

  A template is text with tags in it: values between double braces, statements
  between braces with percent signs, comments, and raw blocks whose text is not
  looked at.  Inside a value or a statement the text is cut into names, texts,
  numbers and marks; the tag ends at its closing marks when no bracket is open.

  The analysis of templates does not look at the text between tags, so a piece of it
  is kept only as being blank or not.  Text that is no token makes an `invalid` token,
  after which nothing is read.
-/
import FragmentRoutes.Code.Literal
import FragmentRoutes.Text.Blank
import FragmentRoutes.Text.Quoted

namespace FragmentRoutes.Template

/-- A token of a template. -/
inductive Token where
  | data (blank : Bool)
  | openValue
  | closeValue
  | openTag
  | closeTag
  | name (id : String)
  | text (value : String)
  | number (isWhole : Bool)
  | mark (text : String)
  | invalid
  deriving DecidableEq, Repr, Inhabited

namespace Token

open Text

/-! ### Texts -/

/-- The characters of a quoted text as its escapes are read: a backslash before a
character beyond ASCII stands for itself before the code of that character. -/
def spellOut : List Char → List Char
  | '\\' :: c :: cs =>
    if 128 ≤ c.toNat then '\\' :: '\\' :: (escapeCode c).drop 1 ++ spellOut cs
    else '\\' :: c :: spellOut cs
  | c :: cs => c :: spellOut cs
  | [] => []

/-- The text between quotes, and what follows the closing one. -/
def quotedBody (quote : Char) : List Char → Option (List Char × List Char)
  | [] => none
  | '\\' :: c :: cs => (quotedBody quote cs).map fun r => ('\\' :: c :: r.1, r.2)
  | c :: cs =>
    if c == quote then some ([], cs) else (quotedBody quote cs).map fun r => (c :: r.1, r.2)

/-- The token of a quoted text, and what follows it. -/
def quotedText (quote : Char) (cs : List Char) : Option (Token × List Char) := do
  let (body, rest) ← quotedBody quote cs
  let codes ← Code.Literal.decode false (spellOut body)
  return (.text (String.ofList (codes.map Char.ofNat)), rest)

/-! ### Numbers -/

/-- Digits with single underscores between them, and what follows; the run starts and
ends with a digit. -/
def digitRun (isDigit : Char → Bool) : List Char → List Char × List Char
  | [] => ([], [])
  | '_' :: d :: cs =>
    if isDigit d then
      let (ds, rest) := digitRun isDigit cs
      (d :: ds, rest)
    else ([], '_' :: d :: cs)
  | c :: cs =>
    if isDigit c then
      let (ds, rest) := digitRun isDigit cs
      (c :: ds, rest)
    else ([], c :: cs)

/-- A run of digits that starts with a digit. -/
def digits (isDigit : Char → Bool) (cs : List Char) : Option (List Char) :=
  match cs with
  | c :: _ => if isDigit c then some (digitRun isDigit cs).2 else none
  | [] => none

/-- What follows a fraction, if there is one. -/
def fraction (cs : List Char) : Option (List Char) :=
  match cs with
  | '.' :: rest => digits isDecimal rest
  | _ => none

/-- What follows an exponent, if there is one. -/
def exponent (cs : List Char) : Option (List Char) :=
  match cs with
  | e :: rest =>
    if e == 'e' || e == 'E' then
      match rest with
      | '+' :: ds => digits isDecimal ds
      | '-' :: ds => digits isDecimal ds
      | ds => digits isDecimal ds
    else none
  | [] => none

/-- What follows a number with a fraction or an exponent. -/
def real (cs : List Char) : Option (List Char) := do
  let rest ← digits isDecimal cs
  match fraction rest with
  | some after => return (exponent after).getD after
  | none => exponent rest

/-- What follows a whole number in base two, eight or sixteen. -/
def based (isDigit : Char → Bool) (cs : List Char) : Option (List Char) :=
  match cs with
  | '_' :: rest => digits isDigit rest
  | cs => digits isDigit cs

/-- What follows a whole number. -/
def whole (cs : List Char) : Option (List Char) :=
  let inBase := match cs with
    | '0' :: b :: rest =>
      if b == 'b' || b == 'B' then based (fun c => c == '0' || c == '1') rest
      else if b == 'o' || b == 'O' then based Code.Literal.isOctalDigit rest
      else if b == 'x' || b == 'X' then based Code.Token.isHexDigit rest
      else none
    | _ => none
  match inBase, cs with
  | some rest, _ => some rest
  | none, '0' :: rest => some (digitRun (· == '0') rest).2
  | none, c :: rest => if isAsciiDigit c then some (digitRun isDecimal rest).2 else none
  | none, [] => none

/-! ### Tokens inside a tag -/

/-- The marks inside a tag, longer ones first. -/
def marks : List String := [
  "//", "**", "==", "!=", ">=", "<=",
  "+", "-", "/", "*", "%", "~", "[", "]", "(", ")", "\x7b", "\x7d", ">", "<", "=", ".", ":", "|",
  ",", ";"]

/-- The token at the start of a text inside a tag; `afterPoint` tells whether a point
stands before it, where no number with a fraction may start. -/
def next? (afterPoint : Bool) (cs : List Char) : Option (Token × List Char) :=
  match cs with
  | [] => none
  | c :: rest =>
    match if afterPoint then none else real cs with
    | some rest => some (.number false, rest)
    | none => match whole cs with
      | some rest => some (.number true, rest)
      | none =>
        if startsIdentifier c then
          some (.name (String.ofList (cs.takeWhile continuesIdentifier)),
            cs.dropWhile continuesIdentifier)
        else if c == '"' || c == '\'' then quotedText c rest
        else (marks.find? fun m => m.toList.isPrefixOf cs).map fun m =>
          (.mark m, cs.drop m.length)

/-- The open brackets after a mark, innermost first; `none` for a closing bracket that
does not match. -/
def track (opened : List String) (token : Token) : Option (List String) :=
  match token with
  | .mark "(" => some (")" :: opened)
  | .mark "[" => some ("]" :: opened)
  | .mark "\x7b" => some ("\x7d" :: opened)
  | .mark m =>
    if m == ")" || m == "]" || m == "\x7d" then
      match opened with
      | o :: os => if o == m then some os else none
      | [] => none
    else some opened
  | _ => some opened

/-- What follows the end of a tag at the start of a text, when it ends there; a minus
drops the blanks after it. -/
def tagEnd? (isValue : Bool) (cs : List Char) : Option (List Char) :=
  match isValue, cs with
  | true, '-' :: '\x7d' :: '\x7d' :: rest => some (rest.dropWhile isBlank)
  | true, '\x7d' :: '\x7d' :: rest => some rest
  | false, '+' :: '%' :: '\x7d' :: rest => some rest
  | false, '-' :: '%' :: '\x7d' :: rest => some (rest.dropWhile isBlank)
  | false, '%' :: '\x7d' :: rest => some rest
  | _, _ => none

/-! ### Comments and raw blocks -/

/-- What follows the end of a comment. -/
def commentEnd : List Char → Option (List Char)
  | [] => none
  | '-' :: '#' :: '\x7d' :: rest => some (rest.dropWhile isBlank)
  | '#' :: '\x7d' :: rest => some rest
  | _ :: cs => commentEnd cs

/-- A text without a sign at its start. -/
def dropSign : List Char → List Char
  | '-' :: cs => cs
  | '+' :: cs => cs
  | cs => cs

/-- What follows a word with blanks around it. -/
def spacedWord? (word : String) (cs : List Char) : Option (List Char) :=
  let cs := cs.dropWhile isBlank
  if word.toList.isPrefixOf cs then some ((cs.drop word.length).dropWhile isBlank) else none

/-- What follows the tag that opens a raw block, without the marks that open it. -/
def rawStart? (cs : List Char) : Option (List Char) :=
  match spacedWord? "raw" (dropSign cs) with
  | some ('-' :: '%' :: '\x7d' :: rest) => some (rest.dropWhile isBlank)
  | some ('%' :: '\x7d' :: rest) => some rest
  | _ => none

/-- Whether the text of a raw block up to its end is blank, and what follows the tag
that closes it. -/
def rawEnd (blank : Bool) : List Char → Option (Bool × List Char)
  | [] => none
  | c :: cs =>
    let closing := match c, cs with
      | '\x7b', '%' :: rest =>
        match spacedWord? "endraw" (dropSign rest) with
        | some after => tagEnd? false after
        | none => none
      | _, _ => none
    match closing with
    | some rest => some (blank, rest)
    | none => rawEnd (blank && isBlank c) cs

/-! ### The tokens of a template -/

/-- Where the scan stands: in text, with whether some was read and whether it is
blank, or in a tag, with its open brackets and whether a point was read last. -/
inductive Place where
  | text (empty blank : Bool)
  | tag (isValue : Bool) (opened : List String) (afterPoint : Bool)
  deriving DecidableEq, Repr

/-- The token for text that was read, none for no text. -/
def dataToken (empty blank : Bool) : List Token :=
  if empty then [] else [.data blank]

/-- The tokens of a template; the bound is the number of steps, at most one for each
character. -/
def scanFrom (place : Place) : Nat → List Char → List Token
  | 0, _ => [.invalid]
  | fuel + 1, cs =>
    match place, cs with
    | .text empty blank, [] => dataToken empty blank
    | .text empty blank, '\x7b' :: '\x7b' :: rest =>
      dataToken empty blank ++ .openValue :: scanFrom (.tag true [] false) fuel (dropSign rest)
    | .text empty blank, '\x7b' :: '#' :: rest =>
      let rest := dropSign rest
      if rest.isEmpty then dataToken empty blank
      else match commentEnd rest with
        | some rest => dataToken empty blank ++ scanFrom (.text true true) fuel rest
        | none => dataToken empty blank ++ [.invalid]
    | .text empty blank, '\x7b' :: '%' :: rest =>
      match rawStart? rest with
      | some [] => dataToken empty blank
      | some body =>
        match rawEnd true body with
        | some (rawBlank, rest) =>
          dataToken empty blank ++ .data rawBlank :: scanFrom (.text true true) fuel rest
        | none => dataToken empty blank ++ [.invalid]
      | none =>
        dataToken empty blank ++ .openTag :: scanFrom (.tag false [] false) fuel (dropSign rest)
    | .text _ blank, c :: rest => scanFrom (.text false (blank && isBlank c)) fuel rest
    | .tag _ _ _, [] => []
    | .tag isValue opened afterPoint, c :: rest =>
      match if opened.isEmpty then tagEnd? isValue cs else none with
      | some rest =>
        (if isValue then .closeValue else .closeTag) :: scanFrom (.text true true) fuel rest
      | none =>
        if isBlank c then scanFrom (.tag isValue opened false) fuel rest
        else match next? afterPoint cs with
          | none => [.invalid]
          | some (token, rest) =>
            match track opened token with
            | none => [.invalid]
            | some opened =>
              token :: scanFrom (.tag isValue opened (token = .mark ".")) fuel rest

/-- A text without one line feed at its end. -/
def dropLastLineFeed (cs : List Char) : List Char :=
  if cs.getLast? = some '\n' then cs.dropLast else cs

/-- The tokens of a template; one line end at its end does not belong to it. -/
def scan (source : String) : List Token :=
  let cs := dropLastLineFeed (Code.Token.joinLineEnds source.toList)
  scanFrom (.text true true) (2 * cs.length + 2) cs

end Token

end FragmentRoutes.Template
