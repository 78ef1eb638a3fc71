import FragmentRoutes.Code.Token
import FragmentRoutes.Proofs.Text.Identifier
import Mathlib.Tactic.Common
import Mathlib.Tactic.IntervalCases

/-!
# Numbers among the tokens

A text that is one number is read as one token with nothing left over (`next?_toDigits`,
`next?_chars`).  A number with a point or an exponent is put together from runs of digits, its
`Parts`.
-/

namespace FragmentRoutes

namespace Code.Token

/-! ### Runs of digits -/

/-- The characters are digits of base ten, and there are some. -/
structure IsDigits (ds : List Char) : Prop where
  ne_nil : ds ≠ []
  isAsciiDigit : ∀ d ∈ ds, Text.isAsciiDigit d = true

/-- What follows does not go on with a run of digits. -/
def EndsRun (rest : List Char) : Prop :=
  ∀ c ∈ rest.head?, Text.isAsciiDigit c = false ∧ c ≠ '_'

theorem endsRun_nil : EndsRun [] := by
  rintro c ⟨⟩

theorem endsRun_cons {c : Char} {cs : List Char} (hc : Text.isAsciiDigit c = false)
    (hunderscore : c ≠ '_') : EndsRun (c :: cs) := by
  rintro d ⟨⟩
  exact ⟨hc, hunderscore⟩

/-- A run of digits is read to its end. -/
theorem digitRun_append {ds rest : List Char} (hds : ∀ d ∈ ds, Text.isAsciiDigit d = true)
    (hrest : EndsRun rest) : digitRun Text.isAsciiDigit (ds ++ rest) = some (ds, rest) := by
  induction ds with
  | nil =>
    cases rest with
    | nil => rfl
    | cons c cs =>
      obtain ⟨hc, hunderscore⟩ := hrest c rfl
      rw [List.nil_append, digitRun, hc]
      · rfl
      · rintro _ _ rfl
        exact absurd rfl hunderscore
      · rintro rfl
        exact absurd rfl hunderscore
  | cons d ds ih =>
    obtain ⟨hd, hds⟩ := List.forall_mem_cons.mp hds
    have hunderscore : d ≠ '_' := by
      rintro rfl
      exact absurd hd (by decide)
    rw [List.cons_append, digitRun, hd, if_pos rfl, ih hds]
    · rfl
    · rintro _ _ rfl
      exact absurd rfl hunderscore
    · rintro rfl
      exact absurd rfl hunderscore

theorem IsDigits.digitRun {ds : List Char} (h : IsDigits ds) :
    digitRun Text.isAsciiDigit ds = some (ds, []) := by
  have hrun := digitRun_append h.isAsciiDigit endsRun_nil
  rwa [List.append_nil] at hrun

/-! ### Whole numbers -/

theorem isDigits_toDigits (n : Nat) : IsDigits (Nat.toDigits 10 n) where
  ne_nil := Nat.toDigits_ne_nil
  isAsciiDigit d hd := by
    rw [Text.isAsciiDigit_eq_isDigit]
    exact Nat.isDigit_of_mem_toDigits (by decide) le_rfl hd

/-- A positive number does not start with a zero. -/
theorem head?_toDigits {n : Nat} (hn : 0 < n) : (Nat.toDigits 10 n).head? ≠ some '0' := by
  induction n using Nat.strong_induction_on with
  | _ n ih =>
    by_cases hlt : n < 10
    · rw [Nat.toDigits_of_lt_base hlt]
      interval_cases n <;> decide
    · rw [Nat.toDigits_of_base_le (by omega) (by omega),
        List.head?_append, Option.or_of_isSome (List.isSome_head?.mpr Nat.toDigits_ne_nil)]
      exact ih (n / 10) (by omega) (by omega)

theorem ofDigits_eq_ofDigitChars (ds : List Char) :
    Numeral.ofDigits ds = Nat.ofDigitChars 10 ds 0 := by
  rw [Nat.ofDigitChars_eq_foldl]
  rfl

/-- What starts with digits and is in base ten is read as a decimal. -/
theorem next?_eq_decimalNumber {ds : List Char} (rest : List Char) (h : IsDigits ds)
    (hrest : ∀ b ∈ rest.head?, b ∉ ['x', 'X', 'o', 'O', 'b', 'B']) :
    next? (ds ++ rest) = decimalNumber (ds ++ rest) := by
  obtain ⟨d, ds, rfl⟩ := List.exists_cons_of_ne_nil h.ne_nil
  obtain ⟨hd, hds⟩ := List.forall_mem_cons.mp h.isAsciiDigit
  have hsecond : ∀ b ∈ (ds ++ rest).head?, b ∉ ['x', 'X', 'o', 'O', 'b', 'B'] := by
    cases ds with
    | nil => exact hrest
    | cons c cs =>
      rintro _ ⟨⟩ hb
      -- no letter of a base is a digit
      have hletters : ['x', 'X', 'o', 'O', 'b', 'B'].any Text.isAsciiDigit = false := by decide
      exact absurd (hds c (List.mem_cons_self ..)) (List.any_eq_false.mp hletters c hb)
  rw [List.cons_append, next?, if_pos hd]
  unfold number
  split
  · rename_i b cs heq
    obtain ⟨rfl, hcs⟩ := List.cons.inj heq
    rw [hcs] at hsecond
    have hb := hsecond b rfl
    simp only [List.mem_cons, List.not_mem_nil, or_false, not_or] at hb
    obtain ⟨hx, hX, ho, hO, hb, hB⟩ := hb
    simp [*]
  · rfl

/-- **A whole number** is read as itself, if it has no more digits than numbers may have. -/
theorem next?_toDigits {n : Nat} (hn : n < 10 ^ Numeral.maxDigits) :
    next? (Nat.toDigits 10 n) = some (.whole n, []) := by
  have hdigits := isDigits_toDigits n
  have hnext := next?_eq_decimalNumber [] hdigits (by simp)
  rw [List.append_nil] at hnext
  have hlength : (Nat.toDigits 10 n).length ≤ Numeral.maxDigits :=
    (Nat.length_toDigits_le_iff (by omega) (by decide)).mpr hn
  have hzero : ((Nat.toDigits 10 n).head? == some '0' && (Nat.toDigits 10 n).any (· != '0')) =
      false := by
    rcases Nat.eq_zero_or_pos n with rfl | hpos
    · decide
    · rw [beq_false_of_ne (head?_toDigits hpos), Bool.false_and]
  rw [hnext, decimalNumber, hdigits.digitRun]
  simp only [Option.bind_eq_bind, Option.bind_some, exponentPart, endsNumber, Option.isNone_none,
    Bool.and_self, Bool.not_true, Bool.false_eq_true, if_false, if_true, hzero, Bool.false_or,
    decide_eq_true_eq, Nat.not_lt.mpr hlength]
  rw [ofDigits_eq_ofDigitChars, Nat.ofDigitChars_ten_toDigits]

/-! ### Numbers with a point or an exponent -/

/-- The parts of a number: the digits in front of the point, those after it, when there is a point,
and the sign and the digits of the exponent, when there is one. -/
structure Parts where
  front : List Char
  fraction : Option (List Char)
  power : Option (Char × List Char)

/-- The exponent as it is written. -/
def powerChars : Option (Char × List Char) → List Char
  | none => []
  | some (sign, ds) => 'e' :: sign :: ds

/-- The number as it is written. -/
def Parts.chars (p : Parts) : List Char :=
  match p.fraction with
  | none => p.front ++ powerChars p.power
  | some ds => p.front ++ '.' :: (ds ++ powerChars p.power)

/-- The exponent has a sign and digits. -/
def IsPower (power : Option (Char × List Char)) : Prop :=
  ∀ p ∈ power, p.1 ∈ ['+', '-'] ∧ IsDigits p.2

/-- The parts are made of digits, and they are more than those of a whole number. -/
structure Parts.IsReal (p : Parts) : Prop where
  front : IsDigits p.front
  fraction : ∀ ds ∈ p.fraction, IsDigits ds
  power : IsPower p.power
  not_whole : p.fraction = none → p.power ≠ none

theorem isPower_none : IsPower none := by
  simp [IsPower]

/-- A number with a point has digits on both sides of it. -/
theorem Parts.isReal_of_point {front ds : List Char} {power : Option (Char × List Char)}
    (hfront : IsDigits front) (hds : IsDigits ds) (hpower : IsPower power) :
    Parts.IsReal ⟨front, some ds, power⟩ where
  front := hfront
  fraction := by
    rintro _ ⟨⟩
    exact hds
  power := hpower
  not_whole h := absurd h (Option.some_ne_none ds)

/-- A number without a point has an exponent. -/
theorem Parts.isReal_of_power {front : List Char} {power : Char × List Char}
    (hfront : IsDigits front) (hpower : IsPower (some power)) :
    Parts.IsReal ⟨front, none, some power⟩ where
  front := hfront
  fraction := by simp
  power := hpower
  not_whole _ := Option.some_ne_none power

theorem endsRun_powerChars (power : Option (Char × List Char)) : EndsRun (powerChars power) := by
  cases power with
  | none => exact endsRun_nil
  | some p => exact endsRun_cons (by decide) (by decide)

/-- The exponent is read to its end. -/
theorem exponentPart_powerChars {power : Option (Char × List Char)} (h : IsPower power) :
    ∃ found, exponentPart (powerChars power) = some (found, []) ∧
      (found = none → power = none) := by
  cases power with
  | none => exact ⟨none, rfl, fun _ => rfl⟩
  | some p =>
    obtain ⟨sign, ds⟩ := p
    obtain ⟨hsign, hds⟩ := h _ rfl
    obtain ⟨d, ds, rfl⟩ := List.exists_cons_of_ne_nil hds.ne_nil
    have hd := hds.isAsciiDigit d (List.mem_cons_self ..)
    simp only [List.mem_cons, List.not_mem_nil, or_false] at hsign
    rcases hsign with rfl | rfl
    · refine ⟨some ('+' :: d :: ds), ?_, fun h => absurd h (Option.some_ne_none _)⟩
      simp [powerChars, exponentPart, hd, hds.digitRun]
    · refine ⟨some ('-' :: d :: ds), ?_, fun h => absurd h (Option.some_ne_none _)⟩
      simp [powerChars, exponentPart, hd, hds.digitRun]

/-- **A number with a point or an exponent** is read to its end. -/
theorem Parts.IsReal.next?_chars {p : Parts} (h : p.IsReal) :
    ∃ x, next? p.chars = some (.real x, []) := by
  obtain ⟨front, fraction, power⟩ := p
  obtain ⟨hfront, hfraction, hpower, hwhole⟩ := h
  dsimp only at hfront hfraction hpower hwhole
  obtain ⟨found, hfound, hnone⟩ := exponentPart_powerChars hpower
  cases fraction with
  | none =>
    obtain ⟨⟨sign, digits⟩, rfl⟩ := Option.ne_none_iff_exists'.mp (hwhole rfl)
    obtain ⟨exponent, rfl⟩ : ∃ exponent, found = some exponent :=
      Option.ne_none_iff_exists'.mp fun h => absurd (hnone h) (by simp)
    have hnext := next?_eq_decimalNumber (powerChars (some (sign, digits))) hfront
      (by simp [powerChars])
    rw [chars, hnext, decimalNumber, digitRun_append hfront.isAsciiDigit (endsRun_powerChars _)]
    simp only [powerChars] at hfound ⊢
    simp only [Option.bind_eq_bind, Option.bind_some, hfound]
    exact ⟨_, rfl⟩
  | some ds =>
    obtain ⟨d, ds, rfl⟩ := List.exists_cons_of_ne_nil (hfraction ds rfl).ne_nil
    have hd := (hfraction _ rfl).isAsciiDigit d (List.mem_cons_self ..)
    have hrun := digitRun_append (hfraction _ rfl).isAsciiDigit (endsRun_powerChars power)
    have hnext := next?_eq_decimalNumber ('.' :: (d :: ds ++ powerChars power)) hfront (by simp)
    rw [chars, hnext, decimalNumber,
      digitRun_append hfront.isAsciiDigit (endsRun_cons (by decide) (by decide))]
    rw [List.cons_append] at hrun ⊢
    simp only [Option.bind_eq_bind, Option.bind_some, hd, if_true, hrun, Option.map_some, hfound]
    exact ⟨_, rfl⟩

/-! ### Literals -/

/-- The token is a number. -/
inductive IsNumber : Token → Prop where
  | whole (n : Nat) : IsNumber (.whole n)
  | real (x : Numeral.Double) : IsNumber (.real x)
  | imaginary (x : Numeral.Double) : IsNumber (.imaginary x)

/-- The characters are **one number** and nothing else. -/
def IsLiteral (cs : List Char) : Prop :=
  ∃ token, IsNumber token ∧ next? cs = some (token, [])

/-- The characters are one number, with a sign in front of it or without one. -/
inductive IsSignedLiteral : List Char → Prop where
  | plain {cs : List Char} (h : IsLiteral cs) : IsSignedLiteral cs
  | signed {sign : Char} {cs : List Char} (hsign : sign ∈ ['+', '-']) (h : IsLiteral cs) :
    IsSignedLiteral (sign :: cs)

theorem isLiteral_toDigits {n : Nat} (hn : n < 10 ^ Numeral.maxDigits) :
    IsLiteral (Nat.toDigits 10 n) :=
  ⟨_, .whole n, next?_toDigits hn⟩

theorem Parts.IsReal.isLiteral {p : Parts} (h : p.IsReal) : IsLiteral p.chars := by
  obtain ⟨x, hx⟩ := h.next?_chars
  exact ⟨_, .real x, hx⟩

end Code.Token

end FragmentRoutes
