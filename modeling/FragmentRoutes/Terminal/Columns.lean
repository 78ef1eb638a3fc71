/-
  Columns.

  On a terminal most characters take one column, marks over another character none, and
  wide characters two.
-/
import FragmentRoutes.Terminal.Columns.Ranges

namespace FragmentRoutes.Terminal

/-- The columns that a character takes. -/
def charColumns (c : Char) : Nat :=
  if c.toNat < 32 || c.toNat == 127 then 0
  else if c.toNat < 127 then 1
  else if markRanges.contains c then 0
  else if wideRanges.contains c then 2
  else 1

/-- The columns that a text takes. -/
def columns (s : String) : Nat :=
  s.toList.foldl (fun n c => n + charColumns c) 0

end FragmentRoutes.Terminal
