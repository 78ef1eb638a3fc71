/-
  What quoted texts stand for.

  Between the quotes a backslash starts an escape: a letter for a control, up to
  three octal digits, two, four or eight hexadecimal digits for a code point, the name
  of a character in braces, or a line feed that is dropped.  A backslash before any
  other character stands for itself.  A code point may be half of a pair of surrogates,
  so a decoded text is a list of code points.

  A text with values is cut into its literal pieces and its values (`TemplatePiece`);
  the text of a value is not read here.
-/
import FragmentRoutes.Code.Expr
import FragmentRoutes.Code.Token
import FragmentRoutes.Text.CharacterName

namespace FragmentRoutes.Code

namespace Literal

/-! ### Escapes -/

/-- The code point of exactly `count` hexadecimal digits, and what follows. -/
def hexCode (count : Nat) (cs : List Char) : Option (Nat × List Char) :=
  let ds := cs.take count
  if ds.length = count && ds.all Token.isHexDigit then
    some (ds.foldl (fun n d => 16 * n + Token.hexValue d) 0, cs.drop count)
  else none

/-- A digit of base eight. -/
def isOctalDigit (c : Char) : Bool :=
  '0' ≤ c && c ≤ '7'

/-- The letters of controls with their code points. -/
def controlLetters : List (Char × Nat) := [
  ('a', 7), ('b', 8), ('f', 12), ('n', 10), ('r', 13), ('t', 9), ('v', 11), ('\\', 92),
  ('\'', 39), ('"', 34)]

/-- The code point of a name in braces, and what follows. -/
def namedCode (cs : List Char) : Option (List Nat × List Char) :=
  match cs with
  | '\x7b' :: cs =>
    match cs.dropWhile (· != '\x7d') with
    | _ :: rest => (Text.codeNamed? (cs.takeWhile (· != '\x7d'))).map fun n => ([n], rest)
    | [] => none
  | _ => none

/-- The code points that an escape stands for, given what follows its backslash, and
what follows the escape.  `wide` admits escapes beyond two hexadecimal digits. -/
def escape (wide : Bool) (cs : List Char) : Option (List Nat × List Char) :=
  match cs with
  | [] => none
  | c :: rest =>
    if c == '\n' then some ([], rest)
    else match controlLetters.find? fun e => e.1 == c with
      | some e => some ([e.2], rest)
      | none =>
        if isOctalDigit c then
          let ds := (cs.take 3).takeWhile isOctalDigit
          let n := ds.foldl (fun n d => 8 * n + (d.toNat - 48)) 0
          some ([if wide then n else n % 256], cs.drop ds.length)
        else if c == 'x' then (hexCode 2 rest).map fun r => ([r.1], r.2)
        else if wide && c == 'u' then (hexCode 4 rest).map fun r => ([r.1], r.2)
        else if wide && c == 'U' then
          match hexCode 8 rest with
          | some (n, rest) => if n < 0x110000 then some ([n], rest) else none
          | none => none
        else if wide && c == 'N' then namedCode rest
        else some ([92, c.toNat], rest)

/-- The code points of a text with escapes; the bound is the number of steps. -/
def decodeFrom (wide : Bool) : Nat → List Char → Option (List Nat)
  | _, [] => some []
  | 0, _ => none
  | fuel + 1, c :: cs =>
    if c == '\\' then
      match escape wide cs with
      | some (ns, rest) => (decodeFrom wide fuel rest).map (ns ++ ·)
      | none => none
    else (decodeFrom wide fuel cs).map (c.toNat :: ·)

/-- The code points of the characters between quotes. -/
def decode (raw : Bool) (body : List Char) : Option (List Nat) :=
  if raw then some (body.map Char.toNat) else decodeFrom true body.length body

/-- The bytes of the characters between quotes, all of them ASCII. -/
def decodeBytes (raw : Bool) (body : List Char) : Option (List UInt8) :=
  if body.any fun c => 128 ≤ c.toNat then none
  else
    let codes := if raw then some (body.map Char.toNat) else decodeFrom false body.length body
    codes.map fun ns => ns.map UInt8.ofNat

/-- The constant for code points. -/
def ofCodes (marked : Bool) (ns : List Nat) : Constant :=
  if ns.any fun n => 0xd800 ≤ n && n ≤ 0xdfff then .codes ns
  else
    let s := String.ofList (ns.map Char.ofNat)
    if marked then .markedText s else .text s

/-! ### Texts with values -/

/-- A piece of a text with values: literal text with its escapes, or the text of a
value with what follows it: `echo` is the text shown before the value, the letter of a
conversion, and the pieces of a format. -/
inductive TemplatePiece where
  | literal (body : List Char)
  | value (text : List Char) (echo : Option (List Char)) (conversion : Option Char)
      (format : Option (List TemplatePiece))

/-- Literal text up to a brace that stands for itself no more, and what follows.
Doubled braces stand for one outside of a format.  `none` for a single closing brace
outside of a format; the bound is the number of steps. -/
def templateLiteral (nested raw : Bool) : Nat → List Char → Option (List Char × List Char)
  | _, [] => some ([], [])
  | 0, _ => none
  | fuel + 1, c :: cs =>
    if !raw && c == '\\' then
      match cs with
      | [] => some (['\\'], [])
      | 'N' :: '\x7b' :: rest =>
        let name := rest.takeWhile (· != '\x7d')
        let rest := (rest.dropWhile (· != '\x7d')).drop 1
        (templateLiteral nested raw fuel rest).map fun r =>
          (['\\', 'N', '\x7b'] ++ name ++ '\x7d' :: r.1, r.2)
      | d :: rest =>
        if d == '\x7b' || d == '\x7d' then
          (templateLiteral nested raw fuel cs).map fun r => ('\\' :: r.1, r.2)
        else (templateLiteral nested raw fuel rest).map fun r => ('\\' :: d :: r.1, r.2)
    else if c == '\x7b' || c == '\x7d' then
      if nested then some ([], c :: cs)
      else match cs with
        | d :: rest =>
          if d == c then (templateLiteral nested raw fuel rest).map fun r => (c :: r.1, r.2)
          else if c == '\x7d' then none
          else some ([], c :: cs)
        | [] => if c == '\x7d' then none else some ([], c :: cs)
    else (templateLiteral nested raw fuel cs).map fun r => (c :: r.1, r.2)

/-- The bracket that closes another. -/
def closing (c : Char) : Char :=
  if c == '(' then ')' else if c == '[' then ']' else '\x7d'

/-- The characters of a value up to the mark that ends it, outside of brackets and
quotes; `quote` is the open quote with whether it is triple, `opened` the closing
brackets awaited.  Backslashes and comments are refused. -/
def valueText (quote : Option (Char × Bool)) (opened : List Char) :
    Nat → List Char → Option (List Char × List Char)
  | 0, _ => none
  | _, [] => none
  | fuel + 1, c :: cs =>
    let keep := fun (quote : Option (Char × Bool)) (opened : List Char) (n : Nat) =>
      (valueText quote opened fuel ((c :: cs).drop n)).map fun r => ((c :: cs).take n ++ r.1, r.2)
    let tripled := cs.take 2 == [c, c]
    if c == '\\' then none
    else match quote with
      | some (q, triple) =>
        if c == q then
          if triple then if tripled then keep none opened 3 else keep quote opened 1
          else keep none opened 1
        else keep quote opened 1
      | none =>
        if c == '\'' || c == '"' then
          if tripled then keep (some (c, true)) opened 3 else keep (some (c, false)) opened 1
        else if c == '(' || c == '[' || c == '\x7b' then
          if Token.maxDepth ≤ opened.length then none else keep none (closing c :: opened) 1
        else if c == '#' then none
        else if opened.isEmpty && ['!', ':', '\x7d', '=', '<', '>'].contains c then
          if (c == '!' || c == '=' || c == '<' || c == '>') && cs.head? == some '=' then
            keep none opened 2
          else if c == '<' || c == '>' then keep none opened 1
          else some ([], c :: cs)
        else if c == ')' || c == ']' || c == '\x7d' then
          match opened with
          | o :: os => if o == c then keep none os 1 else none
          | [] => none
        else keep none opened 1

/-- A blank that a value may consist of without being one. -/
def isValueBlank (c : Char) : Bool :=
  c == ' ' || c == '\t' || c == '\n' || c == '\x0c'

/-- The pieces of a text with values, and what follows them; formats nest once.  The
bound is the number of steps. -/
def templatePieces (raw : Bool) (level : Nat) : Nat → List Char →
    Option (List TemplatePiece × List Char)
  | 0, _ => none
  | fuel + 1, cs => do
    let (literal, rest) ← templateLiteral (level != 0) raw (cs.length + 1) cs
    let front := if literal.isEmpty then [] else [TemplatePiece.literal literal]
    match rest with
    | '\x7b' :: inner =>
      if 2 ≤ level then none
      else
        let (text, rest) ← valueText none [] (inner.length + 1) inner
        if text.all isValueBlank then none
        else
          let (echo, rest) := match rest with
            | '=' :: after =>
              let blanks := after.takeWhile Numeral.isPlainBlank
              (some (text ++ '=' :: blanks), after.dropWhile Numeral.isPlainBlank)
            | _ => (none, rest)
          let (conversion, rest) ← match rest with
            | '!' :: c :: after =>
              if c == 's' || c == 'r' || c == 'a' then some (some c, after) else none
            | '!' :: [] => none
            | _ => some (none, rest)
          let (format, rest) ← match rest with
            | ':' :: after =>
              (templatePieces raw (level + 1) fuel after).map fun r => (some r.1, r.2)
            | _ => some (none, rest)
          match rest with
          | '\x7d' :: rest =>
            let (pieces, rest) ← templatePieces raw level fuel rest
            let conversion :=
              if echo.isSome && format.isNone && conversion.isNone then some 'r' else conversion
            return (front ++ TemplatePiece.value text echo conversion format :: pieces, rest)
          | _ => none
    | _ => return (front, rest)

/-- The pieces of the characters between the quotes of a text with values. -/
def template (raw : Bool) (body : List Char) : Option (List TemplatePiece) :=
  match templatePieces raw 0 (body.length + 1) body with
  | some (pieces, []) => some pieces
  | _ => none

end Literal

end FragmentRoutes.Code
