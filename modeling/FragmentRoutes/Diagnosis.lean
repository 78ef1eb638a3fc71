/-
  What the interpreter says.

  The words of some faults end with those of the interpreter: why a text is no call or no
  pattern, why a name in a type is unknown, and why a module is not imported.  These words
  depend on the interpreter, so they are given to whatever puts the words of a fault
  together.
-/
import FragmentRoutes.Text.Quoted

namespace FragmentRoutes

/-- The words of the interpreter about texts that it cannot read and about what it cannot
find; none where they are not known. -/
structure Diagnosis where
  /-- Why a text with a null character is not looked at. -/
  nullCharacter : String
  /-- Why a text is no expression. -/
  expression : String → Option String
  /-- Why a text is no pattern. -/
  pattern : String → Option String
  /-- Why a name in a type stands for nothing. -/
  name : String → String
  /-- Why a module is not imported, given the first part of it that is missing. -/
  missing : String → String → String

namespace Diagnosis

/-- The diagnosis of an interpreter that says no more than it must: that a name is not
defined and that there is no module. -/
def brief : Diagnosis where
  nullCharacter := ""
  expression _ := none
  pattern _ := none
  name id := "name " ++ Text.quote id ++ " is not defined"
  missing _ part := "No module named " ++ Text.quote part

/-- Words with a reason after them, when there is one. -/
def explain (words : String) : Option String → String
  | some reason => words ++ ": " ++ reason
  | none => words

end Diagnosis

end FragmentRoutes
