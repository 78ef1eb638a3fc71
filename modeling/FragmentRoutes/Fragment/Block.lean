/-
  Blocks of a template file.

  A template file may hold named blocks between a `define` and an `end` comment.
  `split` cuts them out in the order of the file and keeps the text between the two
  comments as it stands.  Blocks do not nest and their names are distinct.

  The markers are found wherever they stand, in a value or a raw section too: a block
  is cut out before its text is read as a template.
-/
import FragmentRoutes.Text.Blank
import FragmentRoutes.Text.Quoted

namespace FragmentRoutes

open Text

/-- A named part of a template file. -/
structure Block where
  name : String
  body : String
  deriving DecidableEq, Repr

namespace Block

/-- Why a file cannot be cut into blocks. -/
inductive Fault where
  | unclosed (name : String)
  | nested (inner outer : String)
  | repeated (name : String)
  deriving DecidableEq, Repr

/-! ### Markers -/

/-- What follows an optional hyphen. -/
def afterHyphen : List Char → List Char
  | '-' :: cs => cs
  | cs => cs

/-- What follows a word that starts the characters. -/
def afterWord (word cs : List Char) : Option (List Char) :=
  if word.isPrefixOf cs then some (cs.drop word.length) else none

/-- What follows a comment's start and the word in it. -/
def afterKeyword (word : String) (cs : List Char) : Option (List Char) := do
  let inside ← afterWord ['\x7b', '#'] cs
  afterWord word.toList ((afterHyphen inside).dropWhile isBlank)

/-- What follows the end of a comment, with blanks and a hyphen before it. -/
def afterComment (cs : List Char) : Option (List Char) :=
  afterWord ['#', '\x7d'] (afterHyphen (cs.dropWhile isBlank))

/-- The rest of a quoted name and what follows the comment.  The name ends at the
first quote that the end of the comment follows, and stays on its line. -/
def closeName (quote : Char) (name : List Char) : List Char → Option (String × List Char)
  | [] => none
  | c :: cs =>
    if c == quote && !name.isEmpty then
      match afterComment cs with
      | some rest => some (String.ofList name.reverse, rest)
      | none => closeName quote (c :: name) cs
    else if c == '\n' then none
    else closeName quote (c :: name) cs

/-- The name in a marker that opens a block, and what follows the marker. -/
def openMarker? (cs : List Char) : Option (String × List Char) := do
  let rest ← afterKeyword "define" cs
  match rest.dropWhile isBlank with
  | q :: name =>
    if (q == '"' || q == '\'') && rest.head?.any isBlank then closeName q [] name else none
  | [] => none

/-- What follows a marker that closes a block. -/
def closeMarker? (cs : List Char) : Option (List Char) := do
  afterComment (← afterKeyword "end" cs)

/-! ### Cutting -/

/-- The first place where a marker stands: the characters before it, what it says. -/
def find? (marker : List Char → Option α) : List Char → Option (List Char × α)
  | [] => none
  | c :: cs =>
    match marker (c :: cs) with
    | some found => some ([], found)
    | none => (find? marker cs).map fun (before, found) => (c :: before, found)

/-- The blocks of the characters, where `seen` are the names of those before them; the
bound is the number of the characters. -/
def splitWithin (seen : List String) : Nat → List Char → Except Fault (List Block)
  | 0, _ => .ok []
  | fuel + 1, cs =>
    match find? openMarker? cs with
    | none => .ok []
    | some (_, name, afterOpen) =>
      match find? closeMarker? afterOpen with
      | none => .error (.unclosed name)
      | some (body, rest) =>
        match find? openMarker? body with
        | some (_, inner, _) => .error (.nested inner name)
        | none =>
          if seen.contains name then .error (.repeated name)
          else do
            let blocks ← splitWithin (name :: seen) fuel rest
            return ⟨name, String.ofList body⟩ :: blocks

/-- The blocks of a file, in order. -/
def split (source : String) : Except Fault (List Block) :=
  splitWithin [] source.toList.length source.toList

/-- The words of a fault, without the file it was found in. -/
def Fault.message : Fault → String
  | unclosed name => "define " ++ quote name ++ " has no end marker"
  | nested inner outer => "define " ++ quote inner ++ " nested inside " ++ quote outer
  | repeated name => "fragment " ++ quote name ++ " defined more than once"

end Block

end FragmentRoutes
