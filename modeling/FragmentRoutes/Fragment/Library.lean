/-
  Libraries of fragments.

  A library knows fragments by name and lists the names that are looked at, in order
  and without repetition.  A listed name need not be known, and a known one need not
  be listed: a template may refer to fragments that are not looked at themselves.
-/
import FragmentRoutes.Fragment.Basic

namespace FragmentRoutes

/-- Fragments by name, and the names that are looked at. -/
structure Library where
  names : List String
  known : List Fragment
  deriving Repr, Inhabited

namespace Library

/-- Names in ascending order without repetition. -/
def sortNames (names : List String) : List String :=
  (names.mergeSort fun a b => !decide (b < a)).eraseReps

/-- The library of fragments that looks at the given names, at all names of its
fragments when none are given. -/
def ofFragments (known : List Fragment) (names : Option (List String)) : Library :=
  ⟨sortNames (names.getD (known.map Fragment.name)), known⟩

/-- The fragment known by a name. -/
def get? (library : Library) (name : String) : Option Fragment :=
  library.known.find? fun f => f.name == name

theorem name_of_get? {library : Library} {name : String} {fragment : Fragment}
    (h : library.get? name = some fragment) : fragment.name = name := by
  rw [get?] at h
  have hfound := List.find?_some h
  exact beq_iff_eq.mp hfound

theorem mem_known_of_get? {library : Library} {name : String} {fragment : Fragment}
    (h : library.get? name = some fragment) : fragment ∈ library.known :=
  List.mem_of_find?_eq_some h

/-- The known fragments among the listed names, in the order of the names. -/
def fragments (library : Library) : List Fragment :=
  library.names.filterMap library.get?

end Library

end FragmentRoutes
