/-
  Fragments from a folder.

  Every file of a folder that one of the patterns names is a fragment under its path,
  and so is every block in it under its own name.  The files are visited in the order
  of the components of their paths; a block must not bear a name that is taken when
  its file is visited.
-/
import FragmentRoutes.Fragment.Block
import FragmentRoutes.Fragment.Library
import FragmentRoutes.Text.Glob

namespace FragmentRoutes

open Text

/-- A text file, by its path from the folder. -/
structure TextFile where
  path : String
  text : String
  deriving DecidableEq, Repr

namespace TextFile

/-- The parts of a path between its slashes, without those that stay in place. -/
def components (path : String) : List String :=
  (path.splitOn "/").filter fun part => part != "" && part != "."

/-- The lines of a text with one character between them, whichever ended them before. -/
def unifyLines : List Char → List Char
  | '\r' :: '\n' :: cs => '\n' :: unifyLines cs
  | '\r' :: cs => '\n' :: unifyLines cs
  | c :: cs => c :: unifyLines cs
  | [] => []

end TextFile

namespace Folder

/-- The patterns of the names of template files. -/
def defaultPatterns : List String := ["*.html", "*.jinja", "*.j2"]

/-- Why the files of a folder are no fragments. -/
inductive Error where
  | block (file : String) (fault : Block.Fault)
  | clash (name first second : String)
  deriving DecidableEq, Repr

/-- The parts of a pattern stand for the last components of a path; two stars stand
for any components. -/
def admits : List String → List String → Bool
  | [], cs => cs.isEmpty
  | _ :: _, [] => false
  | p :: ps, c :: cs =>
    if p == "**" then admits ps (c :: cs) || admits (p :: ps) cs
    else Glob.isMatch p c && admits ps cs
termination_by ps cs => ps.length + cs.length

/-- The file is one that a pattern names, in the folder or below it. -/
def names (pattern : String) (file : TextFile) : Bool :=
  let parts := TextFile.components pattern
  !parts.isEmpty && admits ("**" :: parts) (TextFile.components file.path)

/-- The files that one of the patterns names, in the order of their components. -/
def visited (patterns : List String) (files : List TextFile) : List TextFile :=
  let found := files.filter fun file => patterns.any fun pattern => names pattern file
  found.mergeSort fun a b =>
    !decide (TextFile.components b.path < TextFile.components a.path)

/-- The fragments with one more, which takes the place of one of its name. -/
def put (fragments : List Fragment) (fragment : Fragment) : List Fragment :=
  if fragments.any (·.name == fragment.name) then
    fragments.map fun f => if f.name == fragment.name then fragment else f
  else fragments ++ [fragment]

/-- The fragments with those that the blocks of a file make. -/
def putBlocks (file : String) (fragments : List Fragment) :
    List Block → Except Error (List Fragment)
  | [] => .ok fragments
  | block :: blocks =>
    match fragments.find? (·.name == block.name) with
    | some other => .error (.clash block.name (other.file) file)
    | none => putBlocks file (fragments ++ [⟨block.name, block.body, some file⟩]) blocks

/-- The fragments with those that a file of the folder `root` makes: one of its whole
text under its path, and one for each block. -/
def putFile (root : String) (fragments : List Fragment) (file : TextFile) :
    Except Error (List Fragment) :=
  let path := "/".intercalate (TextFile.components file.path)
  let place := root ++ "/" ++ path
  let text := String.ofList (TextFile.unifyLines file.text.toList)
  match Block.split text with
  | .error fault => .error (.block place fault)
  | .ok blocks => putBlocks place (put fragments ⟨path, text, some place⟩) blocks

/-- The fragments that the files of the folder `root` make. -/
def load (root : String) (patterns : List String) (files : List TextFile) :
    Except Error (List Fragment) :=
  (visited patterns files).foldlM (putFile root) []

/-- The words of an error. -/
def Error.message : Error → String
  | block file fault => file ++ ": " ++ fault.message
  | clash name first second =>
    "fragment " ++ quote name ++ " defined in both " ++ first ++ " and " ++ second

end Folder

end FragmentRoutes
