/-
  The start tags of a markup text.

  The text is read as browsers read it: whatever is no markup is text, and a tag that is
  never closed is passed over up to the next mark that may end it.  Names of tags and of
  attributes are in small letters, references in values are replaced, and the contents of
  scripts and style sheets hold no tags.

  Template marks are not known here.  A tag between them, or in a text of theirs, is a
  tag all the same.
-/
import FragmentRoutes.Markup.Reference
import FragmentRoutes.Text.Lowercase
import FragmentRoutes.Text.Quoted

namespace FragmentRoutes.Markup

open Text

/-- A start tag with its attributes in order.  An attribute may stand without a value. -/
structure Tag where
  name : String
  attributes : List (String × Option String)
  deriving DecidableEq, Repr, Inhabited

/-- Why a markup text cannot be read. -/
inductive Fault where
  | sectionName (start : String)
  | sectionKeyword (keyword : String)
  | longNumber
  deriving DecidableEq, Repr

/-- The words of a fault. -/
def Fault.message : Fault → String
  | sectionName start => "expected name token at " ++ quote start
  | sectionKeyword keyword =>
    "unknown status keyword " ++ quote keyword ++ " in marked section"
  | longNumber => "the number in a character reference is too long"

namespace Tag

/-! ### Attributes -/

/-- A character of the name of a tag. -/
def isNameChar (c : Char) : Bool :=
  !(['\t', '\n', '\r', '\x0c', ' ', '/', '>', '\x00'].contains c)

/-- What follows the blanks and slashes between attributes, with the character before
it.  The slash of a closing mark is no gap. -/
def dropGaps (previous : Char) : List Char → Char × List Char
  | [] => (previous, [])
  | c :: cs =>
    if isBlank c || (c == '/' && cs.head? != some '>') then dropGaps c cs
    else (previous, c :: cs)

/-- A quotation mark of a value. -/
def isQuote (c : Char) : Bool :=
  c == '\'' || c == '"'

/-- A character that may stand in front of an attribute. -/
def separates (c : Char) : Bool :=
  isQuote c || isBlank c || c == '/'

/-- A value without quotation marks, and what follows it. -/
def bareValue (cs : List Char) : List Char × List Char :=
  let isBare := fun c => c != '>' && !isBlank c
  (cs.takeWhile isBare, cs.dropWhile isBare)

/-- The value after the name of an attribute, and what follows it with the character in
front.  An unclosed quotation mark starts no value: then the value ends before the last
blank in front of the mark, or starts at the last of several equals signs. -/
def value? (cs : List Char) : Option (List Char × Char × List Char) :=
  let signs := (cs.dropWhile isBlank).takeWhile (· == '=')
  let afterSigns := (cs.dropWhile isBlank).dropWhile (· == '=')
  let blanks := afterSigns.takeWhile isBlank
  let rest := afterSigns.dropWhile isBlank
  let bare := fun (start : List Char) =>
    let (value, after) := bareValue start
    some (value, value.getLastD (blanks.getLastD '='), after)
  if signs.isEmpty then none
  else match rest with
    | [] => bare []
    | q :: body =>
      if !isQuote q then bare rest
      else if body.contains q then
        some (body.takeWhile (· != q), q, (body.dropWhile (· != q)).drop 1)
      else match blanks.reverse with
        | last :: before => some ([], before.headD '=', last :: rest)
        | [] => if 2 ≤ signs.length then bare ('=' :: rest) else none

/-- The attribute at the start of the characters, and what follows the gap after it with
the character in front. -/
def attribute? (previous : Char) (cs : List Char) :
    Option ((List Char × Option (List Char)) × Char × List Char) :=
  match cs with
  | [] => none
  | c :: rest =>
    if !separates previous || isBlank c || c == '/' || c == '>' then none
    else
      let isFollowing := fun d => !isBlank d && d != '/' && d != '=' && d != '>'
      let name := c :: rest.takeWhile isFollowing
      let after := rest.dropWhile isFollowing
      match value? after with
      | some (value, last, rest) => some ((name, some value), dropGaps last rest)
      | none => some ((name, none), dropGaps (name.getLastD c) after)

/-- The attributes at the start of the characters, and what follows them; the bound is
the number of the characters. -/
def attributesWithin : Nat → Char → List Char →
    List (List Char × Option (List Char)) × List Char
  | 0, _, cs => ([], cs)
  | fuel + 1, previous, cs =>
    match attribute? previous cs with
    | none => ([], cs)
    | some (found, previous, rest) =>
      let (more, rest) := attributesWithin fuel previous rest
      (found :: more, rest)

/-- A value with its references replaced. -/
def readValue (value : Option (List Char)) : Except Fault (Option String) :=
  match value with
  | none => .ok none
  | some cs =>
    match Reference.replace cs with
    | .ok cs => .ok (some (String.ofList cs))
    | .error _ => .error .longNumber

/-- Attributes with their names in small letters and their values read. -/
def readAttributes : List (List Char × Option (List Char)) →
    Except Fault (List (String × Option String))
  | [] => .ok []
  | (name, value) :: rest => do
    let value ← readValue value
    return (lowercase (String.ofList name), value) :: (← readAttributes rest)

/-! ### Start tags -/

/-- What stands at a less-than sign that a letter follows: a tag, with whether it is
closed at once, or text up to what follows, or a tag that the text ends in. -/
inductive Start where
  | tag (tag : Tag) (closed : Bool) (rest : List Char)
  | text (rest : List Char)
  | unfinished

/-- Read the tag whose name starts the characters. -/
def readStart (cs : List Char) : Except Fault Start :=
  let name := cs.takeWhile isNameChar
  let (previous, afterName) := dropGaps (name.getLastD '<') (cs.dropWhile isNameChar)
  let (found, rest) := attributesWithin afterName.length previous afterName
  let tag := do
    return (⟨lowercase (String.ofList name), ← readAttributes found⟩ : Tag)
  match rest with
  | '>' :: rest => do return .tag (← tag) false rest
  | '/' :: '>' :: rest => do return .tag (← tag) true rest
  | [] => .ok .unfinished
  | c :: _ =>
    if isAsciiLetter c || c == '=' || c == '/' then .ok .unfinished
    -- the attributes are read although the tag is dropped
    else do
      let _ ← tag
      return .text rest

/-! ### Other markup -/

/-- What follows the first place where `mark` finds itself. -/
def after? (mark : List Char → Option (List Char)) : List Char → Option (List Char)
  | [] => mark []
  | c :: cs =>
    match mark (c :: cs) with
    | some rest => some rest
    | none => after? mark cs

/-- What follows one character at the start. -/
def afterChar (d : Char) : List Char → Option (List Char)
  | c :: cs => if c == d then some cs else none
  | [] => none

/-- What follows the first of a character. -/
def afterFirst (d : Char) (cs : List Char) : Option (List Char) :=
  after? (afterChar d) cs

/-- The mark that ends a comment: two hyphens, blanks and a greater-than sign. -/
def commentEnd (cs : List Char) : Option (List Char) := do
  let cs ← afterChar '-' cs
  let cs ← afterChar '-' cs
  afterChar '>' (cs.dropWhile isBlank)

/-- The mark that ends a conditional section. -/
def conditionEnd (cs : List Char) : Option (List Char) := do
  let cs ← afterChar ']' cs
  afterChar '>' (cs.dropWhile isBlank)

/-- The mark that ends a marked section. -/
def sectionEnd (cs : List Char) : Option (List Char) := do
  let cs ← afterChar ']' cs
  conditionEnd (cs.dropWhile isBlank)

/-- The mark that ends the contents of an element, in any case. -/
def elementEnd (name : String) (cs : List Char) : Option (List Char) := do
  let cs ← afterChar '<' cs
  let cs ← afterChar '/' cs
  let start := cs.dropWhile isBlank
  if (start.take name.length).map lowerAscii = name.toList then
    afterChar '>' ((start.drop name.length).dropWhile isBlank)
  else none

/-- A character of the keyword of a section. -/
def isKeywordChar (c : Char) : Bool :=
  isAsciiLetter c || isAsciiDigit c || c == '-' || c == '_' || c == '.'

/-- What follows the marked section that starts the characters `whole`, where `cs` are
those after its opening mark; `none` when the text ends in it. -/
def afterSection (whole cs : List Char) : Except Fault (Option (List Char)) :=
  match cs with
  | [] => .ok none
  | c :: _ =>
    if !isAsciiLetter c then .error (.sectionName (String.ofList (whole.take 20)))
    else
      let keyword := cs.takeWhile isKeywordChar
      let afterKeyword := cs.dropWhile isKeywordChar
      let rest := afterKeyword.dropWhile isBlank
      if rest.isEmpty then .ok none
      else
        let word := String.ofList (keyword.map lowerAscii)
        if ["temp", "cdata", "ignore", "include", "rcdata"].contains word then
          .ok (after? sectionEnd cs)
        else if ["if", "else", "endif"].contains word then .ok (after? conditionEnd cs)
        else
          .error (.sectionKeyword (String.ofList (keyword ++ afterKeyword.takeWhile isBlank)))

/-- What follows the markup that starts with a less-than sign and `cs`, but for start
tags; `none` when the text ends in it. -/
def afterMarkup (cs : List Char) : Except Fault (Option (List Char)) :=
  match cs with
  | '/' :: rest => .ok (afterFirst '>' rest)
  | '!' :: '-' :: '-' :: rest => .ok (after? commentEnd rest)
  | '?' :: rest => .ok (afterFirst '>' rest)
  | '!' :: '[' :: rest => afterSection ('<' :: cs) rest
  | '!' :: rest => .ok (afterFirst '>' rest)
  | _ => .ok (some cs)

/-- What follows markup that the text ends in: it is passed over up to its first
greater-than sign, else up to the next less-than sign. -/
def recovered (cs : List Char) : List Char :=
  match afterFirst '>' cs with
  | some rest => rest
  | none => cs.dropWhile (· != '<')

/-! ### Texts -/

/-- The elements whose contents hold no tags. -/
def plainElements : List String := ["script", "style"]

/-- Pass over a text before `rest`, whose references must be readable. -/
def passText (cs rest : List Char) : Except Fault (List Char) :=
  match Reference.replace (cs.take (cs.length - rest.length)) with
  | .ok _ => .ok rest
  | .error _ => .error .longNumber

/-- The start tags of the characters; the bound is the number of the characters. -/
def scanWithin : Nat → List Char → Except Fault (List Tag)
  | 0, _ => .ok []
  | fuel + 1, cs => do
    let markup ← passText cs (cs.dropWhile (· != '<'))
    match markup with
    | [] => return []
    | _ :: rest =>
      let skip := do scanWithin fuel (← passText markup (recovered rest))
      if rest.head?.any isAsciiLetter then
        match ← readStart rest with
        | .unfinished => skip
        | .text rest => scanWithin fuel rest
        | .tag tag closed rest =>
          let contents :=
            if closed || !plainElements.contains tag.name then some rest
            else after? (elementEnd tag.name) rest
          match contents with
          | some rest => return tag :: (← scanWithin fuel rest)
          | none => return [tag]
      else
        match ← afterMarkup rest with
        | some rest => scanWithin fuel rest
        | none => skip

/-- The start tags of a markup text, in order. -/
def scan (markup : String) : Except Fault (List Tag) :=
  scanWithin (markup.toList.length + 1) markup.toList

end Tag

end FragmentRoutes.Markup
