/-
  Fragments: named pieces of template text.

  A fragment comes from a file or is registered by the program itself.  The base name
  of the file is its group; the routes of one group are registered together.
-/

namespace FragmentRoutes

/-- A named piece of template text, with the file it came from. -/
structure Fragment where
  name : String
  source : String
  filename : Option String
  deriving DecidableEq, Repr, Inhabited

namespace Fragment

/-- The part of a path after its last slash. -/
def baseName (path : String) : String :=
  String.ofList ((path.toList.reverse.takeWhile (· != '/')).reverse)

/-- The base name of the file, empty for a fragment without one. -/
def group (fragment : Fragment) : String :=
  match fragment.filename with
  | some path => baseName path
  | none => ""

/-- The file, empty for a fragment without one. -/
def file (fragment : Fragment) : String :=
  fragment.filename.getD ""

end Fragment

end FragmentRoutes
