/-
  The compatibility form of identifiers.

  Two spellings of an identifier name the same thing when their compatibility forms
  agree: every letter that stands for plainer characters is replaced by them
  (`decomposed`), marks after a letter are put in the order of their classes
  (`ordered`), and a letter and the marks after it are composed where one character
  stands for both (`composed`).  The form is only needed for identifiers, so the
  tables cover the characters of identifiers.
-/
import FragmentRoutes.Text.Compatibility.Classes
import FragmentRoutes.Text.Compatibility.Expansions
import FragmentRoutes.Text.Compatibility.Pairs
import FragmentRoutes.Text.Compatibility.Runs

namespace FragmentRoutes.Text

namespace Compatibility

/-! ### Decomposition -/

/-- The jamo of a Hangul syllable, from its place in the block of syllables. -/
def syllableParts (n : Nat) : List Nat :=
  let place := n - 0xac00
  let lead := 0x1100 + place / 588
  let vowel := 0x1161 + place % 588 / 28
  if place % 28 = 0 then [lead, vowel] else [lead, vowel, 0x11a7 + place % 28]

/-- The characters that one character stands for. -/
def parts (n : Nat) : List Nat :=
  if n < 128 then [n]
  else if 0xac00 ≤ n && n ≤ 0xd7a3 then syllableParts n
  else match runs.find? fun r => r.1 ≤ n && n < r.1 + r.2.2 with
    | some r => [r.2.1 + (n - r.1)]
    | none => match expansions.find? fun e => e.1 == n with
      | some e => e.2
      | none => [n]

/-- Every character replaced by the characters it stands for. -/
def decomposed (ns : List Nat) : List Nat :=
  ns.flatMap parts

/-! ### The order of marks -/

/-- The combining class of a character, zero for all but marks. -/
def combiningClass (n : Nat) : Nat :=
  if n < 0x300 then 0
  else match classes.find? fun r => r.1 ≤ n && n ≤ r.2.1 with
    | some r => r.2.2
    | none => 0

/-- A mark put before the first later one of greater class in a run of marks. -/
def insertMark (n : Nat) : List Nat → List Nat
  | [] => [n]
  | m :: ms => if combiningClass n < combiningClass m then n :: m :: ms else m :: insertMark n ms

/-- Every maximal run of marks put in the order of their classes, marks of one class
in the order they came; `marks` is the run being read, in order. -/
def orderedFrom (marks : List Nat) : List Nat → List Nat
  | [] => marks
  | n :: ns =>
    if combiningClass n = 0 then marks ++ n :: orderedFrom [] ns
    else orderedFrom (insertMark n marks) ns

/-- Every maximal run of marks put in the order of their classes. -/
def ordered (ns : List Nat) : List Nat :=
  orderedFrom [] ns

/-! ### Composition -/

/-- The one character that stands for two. -/
def compose? (a b : Nat) : Option Nat :=
  if 0x1100 ≤ a && a < 0x1113 && 0x1161 ≤ b && b < 0x1176 then
    some (0xac00 + ((a - 0x1100) * 21 + (b - 0x1161)) * 28)
  else if 0xac00 ≤ a && a ≤ 0xd7a3 && (a - 0xac00) % 28 = 0 && 0x11a7 < b && b < 0x11c3 then
    some (a + (b - 0x11a7))
  else (pairs.find? fun p => p.1 == a && p.2.1 == b).map fun p => p.2.2

/-- Composition after the letter `starter`: `kept` holds the characters after it that
did not compose, last first, and `last` the class of the latest of them.  A mark
composes with the letter unless a kept mark of the same or a greater class, or a
kept letter, stands between them. -/
def composedFrom (starter : Nat) (kept : List Nat) (last : Nat) : List Nat → List Nat
  | [] => starter :: kept.reverse
  | n :: ns =>
    let k := combiningClass n
    if kept.isEmpty || (last < k && last != 0) then
      match compose? starter n with
      | some whole => composedFrom whole kept last ns
      | none =>
        if k = 0 then starter :: kept.reverse ++ composedFrom n [] 0 ns
        else composedFrom starter (n :: kept) k ns
    else if k = 0 then starter :: kept.reverse ++ composedFrom n [] 0 ns
    else composedFrom starter (n :: kept) k ns

/-- Letters and the marks after them composed, where one character stands for both.
Marks before the first letter are kept. -/
def composed : List Nat → List Nat
  | [] => []
  | n :: ns => if combiningClass n = 0 then composedFrom n [] 0 ns else n :: composed ns

end Compatibility

/-- The compatibility form of an identifier. -/
def compatibilityForm (s : String) : String :=
  if s.toList.all fun c => c.toNat < 128 then s
  else
    let codes := s.toList.map Char.toNat
    let form := Compatibility.composed (Compatibility.ordered (Compatibility.decomposed codes))
    String.ofList (form.map Char.ofNat)

end FragmentRoutes.Text
