import FragmentRoutes.Proofs.Text.IdentifierForm
import FragmentRoutes.Text.Blank
import FragmentRoutes.Text.Digit

/-!
# Characters that are not blank

The blank characters are few (`blankPoints`), so what they are not is read off the list: no
blank goes on an identifier (`not_blank_of_continuesIdentifier`), is a decimal digit
(`not_blank_of_isDecimal`) or is one of the printed ASCII characters (`not_blank_of_printed`).
-/

namespace FragmentRoutes.Text

/-- The code points of the blank characters. -/
def blankPoints : List Nat := [
  9, 10, 11, 12, 13, 28, 29, 30, 31, 32, 0x85, 0xa0, 0x1680, 0x2000, 0x2001, 0x2002, 0x2003,
  0x2004, 0x2005, 0x2006, 0x2007, 0x2008, 0x2009, 0x200a, 0x2028, 0x2029, 0x202f, 0x205f, 0x3000]

theorem toNat_mem_blankPoints {c : Char} (h : isBlank c = true) : c.toNat ∈ blankPoints := by
  have hruns : blankPoints = List.range' 9 5 ++ (List.range' 28 5 ++ ([0x85, 0xa0, 0x1680] ++
      (List.range' 0x2000 11 ++ [0x2028, 0x2029, 0x202f, 0x205f, 0x3000]))) := rfl
  simp only [isBlank, Bool.or_eq_true, Bool.and_eq_true, decide_eq_true_eq, beq_iff_eq] at h
  simp only [hruns, List.mem_append, List.mem_range'_1, List.mem_cons, List.not_mem_nil]
  omega

/-- A class of characters to which no blank belongs. -/
theorem not_blank_of {p : Char → Bool} (hp : ∀ n ∈ blankPoints, p (Char.ofNat n) = false) {c : Char}
    (h : p c = true) : isBlank c = false := by
  refine Bool.eq_false_iff.mpr fun hblank => ?_
  have hc := hp _ (toNat_mem_blankPoints hblank)
  rw [Char.ofNat_toNat, h] at hc
  cases hc

theorem not_blank_of_continuesIdentifier {c : Char} (h : continuesIdentifier c = true) :
    isBlank c = false := by
  have hpoints : ∀ n ∈ blankPoints,
      (Char.ofNat n).toNat = n ∧ namePoints.mask.testBit n = false := by
    decide +kernel
  refine not_blank_of (fun n hn => ?_) h
  rw [continuesIdentifier_eq_holds, (hpoints n hn).1, ← Ranges.testBit_mask, (hpoints n hn).2]

theorem not_blank_of_isDecimal {c : Char} (h : isDecimal c = true) : isBlank c = false :=
  not_blank_of (by decide +kernel) h

theorem not_blank_of_printed {c : Char} (h : 33 ≤ c.toNat ∧ c.toNat ≤ 126) :
    isBlank c = false := by
  simp only [isBlank, Bool.or_eq_false_iff, Bool.and_eq_false_iff, decide_eq_false_iff_not,
    beq_eq_false_iff_ne]
  omega

end FragmentRoutes.Text
