/-
  What a part of a regular expression matches, as far as it matters for the whole.

  A look-behind must match texts of one length, so the reader keeps for every part the
  least and the greatest length of what it matches, and whether the part holds a
  look-behind that breaks this rule.
-/

namespace FragmentRoutes.Regex

/-- The lengths of the texts that a part matches; `high` is `none` when they have no
bound.  `repeats` for a part with a repetition in it, `uneven` for one with a
look-behind of several lengths. -/
structure Span where
  low : Nat
  high : Option Nat
  repeats : Bool
  uneven : Bool
  deriving DecidableEq, Repr, Inhabited

namespace Span

/-- The span of a part that matches texts of one length. -/
def ofLength (n : Nat) : Span :=
  ⟨n, some n, false, false⟩

/-- The span of the empty part. -/
def empty : Span :=
  ofLength 0

/-- The span of one part after another. -/
def append (a b : Span) : Span :=
  ⟨a.low + b.low, a.high.bind fun m => b.high.map (m + ·), a.repeats || b.repeats,
    a.uneven || b.uneven⟩

/-- The span of one part or another. -/
def orElse (a b : Span) : Span :=
  ⟨min a.low b.low, a.high.bind fun m => b.high.map (max m ·), a.repeats || b.repeats,
    a.uneven || b.uneven⟩

/-- The span of a part repeated from `least` to `most` times. -/
def times (a : Span) (least : Nat) (most : Option Nat) : Span :=
  let high := match a.high, most with
    | some 0, _ => some 0
    | _, some 0 => some 0
    | some m, some n => some (m * n)
    | _, _ => none
  ⟨a.low * least, high, true, a.uneven⟩

/-- The greatest length of a look-behind. -/
def longestLookBehind : Nat := 0xffffffff

/-- The span of a part that is looked for ahead, or behind. -/
def look (a : Span) (behind : Bool) : Span :=
  let fits := a.high == some a.low && decide (a.low ≤ longestLookBehind)
  ⟨0, some 0, a.repeats, a.uneven || (behind && !fits)⟩

end Span

end FragmentRoutes.Regex
