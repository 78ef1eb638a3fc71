import FragmentRoutes.Numeral.Shortest
import FragmentRoutes.Proofs.Code.Number
import Mathlib.Data.List.TakeWhile

/-!
# Texts of numbers

The shortest decimal of a number that is not zero has digits other than zeros
(`isDigits_shortestDigits`), so its text has a digit in front of the point, and a point or an
exponent (`isReal_placePoint`).  The text of a finite number is therefore a number with a sign or
without one (`exists_render_finite`).  A whole number that is read is not too long to be read again
(`natAbs_lt_of_readWhole?`).
-/

namespace FragmentRoutes.Numeral

open Code.Token

namespace Double

/-! ### Digits -/

theorem le_of_between {low x high : Nat} {closed : Bool} (h : between low x high closed = true) :
    low ≤ x := by
  rw [between] at h
  split at h
  · exact (decide_eq_true_eq.mp (Bool.and_eq_true_iff.mp h).1)
  · exact (decide_eq_true_eq.mp (Bool.and_eq_true_iff.mp h).1).le

/-- The decimal of a number that is not zero is not zero: the interval of reals that round to the
number ends above zero. -/
theorem digits_ne_zero_of_decimalOfCount {m count : Nat} {e top : Int} {d : Decimal} (hm : m ≠ 0)
    (h : decimalOfCount m e top count = some d) : d.digits ≠ 0 := by
  unfold decimalOfCount at h
  extract_lets k den unit x low high step q r closed below above pick at h
  have hunit : 0 < unit := Nat.mul_pos (Nat.pow_pos (by omega)) (Nat.pow_pos (by omega))
  have hx : 4 * unit ≤ x := by
    have hmul : 4 * unit ≤ 4 * m * unit := Nat.mul_le_mul_right unit (by omega)
    exact hmul
  have hlow : 0 < low := by
    show 0 < if (m = hidden && leastExponent < e) = true then x - unit else x - 2 * unit
    split
    · omega
    · omega
  -- the decimal above the number is not zero anyway, so the one below it is left
  have hbelow : below = true → q ≠ 0 := by
    intro hbetween hq
    have hle : low ≤ q * step := le_of_between hbetween
    rw [hq] at hle
    omega
  obtain ⟨n, hpick, rfl⟩ := Option.map_eq_some_iff.mp h
  show n ≠ 0
  clear_value below above q
  simp only [pick] at hpick
  split_ifs at hpick with hboth <;> obtain rfl := Option.some.inj hpick
  · exact hbelow (Bool.and_eq_true_iff.mp hboth).1
  · exact Nat.succ_ne_zero _
  · exact hbelow (Bool.and_eq_true_iff.mp hboth).1
  · exact Nat.succ_ne_zero _
  · exact hbelow ‹_›
  · exact Nat.succ_ne_zero _

/-- The search ends with a decimal that is not zero. -/
theorem digits_searchDecimal_ne_zero {m : Nat} (e top : Int) (count tries : Nat) (hm : m ≠ 0) :
    (searchDecimal m e top count tries).digits ≠ 0 := by
  induction tries generalizing count with
  | zero => exact hm
  | succ tries ih =>
    rw [searchDecimal]
    cases h : decimalOfCount m e top count with
    | none => exact ih (count + 1)
    | some d => exact digits_ne_zero_of_decimalOfCount hm h

/-- A number that is not zero has digits other than the zeros at its end. -/
theorem isDigits_shortestDigits {m : Nat} (e : Int) (hm : m ≠ 0) :
    IsDigits (shortestDigits m e).1 := by
  unfold shortestDigits
  extract_lets d ds point trimmed
  have hpos : 0 < d.digits :=
    Nat.pos_of_ne_zero (digits_searchDecimal_ne_zero e (leadingExponent m e) 1 17 hm)
  have hds : IsDigits ds := isDigits_toDigits d.digits
  constructor
  · show (ds.reverse.dropWhile (· == '0')).reverse ≠ []
    rw [Ne, List.reverse_eq_nil_iff, List.dropWhile_eq_nil_iff]
    -- were all digits zeros, the first one would be, but no number starts with a zero
    intro hzeros
    obtain ⟨c, cs, hcons⟩ := List.exists_cons_of_ne_nil hds.ne_nil
    have hc : c = '0' := by
      have hmem : c ∈ ds.reverse := by simp [hcons]
      simpa using hzeros c hmem
    have hhead : ds.head? ≠ some '0' := head?_toDigits hpos
    rw [hcons, hc] at hhead
    exact hhead rfl
  · intro c hc
    have hmem : c ∈ ds.reverse := (List.dropWhile_sublist _).mem (List.mem_reverse.mp hc)
    exact hds.isAsciiDigit c (List.mem_reverse.mp hmem)

/-! ### Points -/

/-- Zeros go on with a number in both directions. -/
theorem isDigits_zeros_append {ds : List Char} (h : IsDigits ds) (n k : Nat) :
    IsDigits (List.replicate n '0' ++ ds ++ List.replicate k '0') where
  ne_nil := List.append_ne_nil_of_left_ne_nil (List.append_ne_nil_of_right_ne_nil _ h.ne_nil) _
  isAsciiDigit d hd := by
    rw [List.mem_append, List.mem_append] at hd
    rcases hd with (hd | hd) | hd
    · obtain rfl := List.eq_of_mem_replicate hd
      decide
    · exact h.isAsciiDigit d hd
    · obtain rfl := List.eq_of_mem_replicate hd
      decide

/-- Some of the digits are digits. -/
theorem isDigits_of_subset {ds es : List Char} (h : IsDigits ds) (hne : es ≠ []) (hsub : es ⊆ ds) :
    IsDigits es :=
  ⟨hne, fun d hd => h.isAsciiDigit d (hsub hd)⟩

theorem isDigits_zero : IsDigits ['0'] :=
  ⟨by simp, List.forall_mem_singleton.mpr (by decide)⟩

/-- The exponent is written with two digits at least. -/
theorem isPower_toDigits (power : Int) :
    IsPower (some (if power < 0 then '-' else '+',
      List.replicate (2 - (Nat.toDigits 10 power.natAbs).length) '0' ++
        Nat.toDigits 10 power.natAbs)) := by
  rintro _ ⟨⟩
  constructor
  · dsimp only
    split <;> decide
  · simpa using isDigits_zeros_append (isDigits_toDigits power.natAbs) _ 0

/-- **A point among digits** makes a number with a point or an exponent. -/
theorem isReal_placePoint {ds : List Char} (h : IsDigits ds) (point : Int) :
    ∃ p : Parts, p.IsReal ∧ placePoint true ds point = p.chars := by
  unfold placePoint
  split_ifs with hplace hzero hlength htrue
  · -- zeros after the point come before the digits
    have hds : IsDigits (List.replicate (-point).toNat '0' ++ ds) := by
      simpa using isDigits_zeros_append h (-point).toNat 0
    exact ⟨_, Parts.isReal_of_point isDigits_zero hds isPower_none,
      by simp [Parts.chars, powerChars]⟩
  · -- all digits stand in front of the point
    have hfront : IsDigits (ds ++ List.replicate (point.toNat - ds.length) '0') := by
      simpa using isDigits_zeros_append h 0 (point.toNat - ds.length)
    exact ⟨_, Parts.isReal_of_point hfront isDigits_zero isPower_none,
      by simp [Parts.chars, powerChars]⟩
  · exact absurd rfl htrue
  · -- the point stands between two digits
    have hfront : IsDigits (ds.take point.toNat) := by
      refine isDigits_of_subset h ?_ (List.take_subset _ _)
      rw [Ne, List.take_eq_nil_iff]
      rintro (hpoint | hnil)
      · omega
      · exact h.ne_nil hnil
    have hds : IsDigits (ds.drop point.toNat) := by
      refine isDigits_of_subset h ?_ (List.drop_subset _ _)
      rw [Ne, List.drop_eq_nil_iff]
      omega
    exact ⟨_, Parts.isReal_of_point hfront hds isPower_none, by simp [Parts.chars, powerChars]⟩
  · -- one digit in front of the point, and an exponent
    extract_lets power mantissa digits
    obtain ⟨d, ds, rfl⟩ := List.exists_cons_of_ne_nil h.ne_nil
    have hfront : IsDigits [d] := isDigits_of_subset h (by simp) (by simp)
    cases ds with
    | nil =>
      exact ⟨_, Parts.isReal_of_power hfront (isPower_toDigits power), by
        simp [Parts.chars, powerChars, mantissa, digits]⟩
    | cons c ds =>
      have hds : IsDigits (c :: ds) := isDigits_of_subset h (by simp) (by simp)
      exact ⟨_, Parts.isReal_of_point hfront hds (isPower_toDigits power), by
        simp [Parts.chars, powerChars, mantissa, digits]⟩

/-! ### Texts -/

/-- **The text of a finite number** is a number with a sign or without one. -/
theorem exists_render_finite (negative : Bool) (m : Nat) (e : Int) :
    ∃ p : Parts, p.IsReal ∧ (Double.render true (.finite negative m e)).toList =
      if negative then '-' :: p.chars else p.chars := by
  have hbody : ∃ p : Parts, p.IsReal ∧
      (if m = 0 then ['0', '.', '0'] else
        placePoint true (shortestDigits m e).1 (shortestDigits m e).2) = p.chars := by
    split_ifs with hm
    · exact ⟨_, Parts.isReal_of_point isDigits_zero isDigits_zero isPower_none, rfl⟩
    · exact isReal_placePoint (isDigits_shortestDigits e hm) _
  obtain ⟨p, hreal, hchars⟩ := hbody
  refine ⟨p, hreal, ?_⟩
  rw [← hchars, render, String.toList_ofList]
  rfl

end Double

/-! ### Whole numbers -/

/-- A run that is read consists of digits. -/
theorem isAsciiDigit_of_ungroupDigits {cs ds : List Char} (h : ungroupDigits cs = some ds) :
    ∀ d ∈ ds, Text.isAsciiDigit d = true := by
  induction cs using ungroupDigits.induct generalizing ds with
  | case1 => cases h
  | case2 c hc =>
    rw [ungroupDigits, if_pos hc] at h
    obtain rfl := Option.some.inj h
    exact List.forall_mem_singleton.mpr hc
  | case3 c hc =>
    rw [ungroupDigits, if_neg hc] at h
    cases h
  | case4 c cs hc ih =>
    rw [ungroupDigits, if_pos hc, Option.map_eq_some_iff] at h
    obtain ⟨es, hes, rfl⟩ := h
    exact List.forall_mem_cons.mpr ⟨hc, ih hes⟩
  | case5 c cs hc =>
    rw [ungroupDigits, if_neg hc] at h
    cases h
  | case6 c cs hnil hunderscore hc ih =>
    rw [ungroupDigits, if_pos hc, Option.map_eq_some_iff] at h
    · obtain ⟨es, hes, rfl⟩ := h
      exact List.forall_mem_cons.mpr ⟨hc, ih hes⟩
    · exact hnil
    · exact hunderscore
  | case7 c cs hnil hunderscore hc =>
    rw [ungroupDigits, if_neg hc] at h
    · cases h
    · exact hnil
    · exact hunderscore

/-- Digits spell a number below the power of ten of their count. -/
theorem ofDigits_lt {ds : List Char} (h : ∀ d ∈ ds, Text.isAsciiDigit d = true) :
    ofDigits ds < 10 ^ ds.length := by
  rw [ofDigits_eq_ofDigitChars]
  induction ds with
  | nil => decide
  | cons d ds ih =>
    obtain ⟨hd, hds⟩ := List.forall_mem_cons.mp h
    have hvalue : d.toNat - 48 ≤ 9 := by
      have hle : d.toNat ≤ 57 := by
        have hnine := (Bool.and_eq_true_iff.mp hd).2
        exact decide_eq_true_eq.mp hnine
      omega
    have hmul : 10 ^ ds.length * (d.toNat - 48) ≤ 10 ^ ds.length * 9 := Nat.mul_le_mul_left _ hvalue
    have hih := ih hds
    calc Nat.ofDigitChars 10 (d :: ds) 0
        = 10 ^ ds.length * (d.toNat - 48) + Nat.ofDigitChars 10 ds 0 := by
          rw [Nat.ofDigitChars_cons, Nat.ofDigitChars_eq_ofDigitChars_zero, Nat.mul_zero,
            Nat.zero_add]
          rfl
      _ < 10 ^ ds.length * 9 + 10 ^ ds.length := by omega
      _ = 10 ^ (d :: ds).length := by rw [List.length_cons, Nat.pow_succ]; omega

/-- A whole number that is read has no more digits than numbers may have. -/
theorem natAbs_lt_of_readWhole? {s : String} {n : Int} (h : readWhole? s = some n) :
    n.natAbs < 10 ^ maxDigits := by
  rw [readWhole?] at h
  cases hds : ungroupDigits (splitSign (plainChars s)).2 with
  | none => simp [hds] at h
  | some ds =>
    simp only [hds, Option.ite_none_left_eq_some, Nat.not_lt] at h
    obtain ⟨hlength, hn⟩ := h
    have hlt : ofDigits ds < 10 ^ maxDigits :=
      (ofDigits_lt (isAsciiDigit_of_ungroupDigits hds)).trans_le
        (Nat.pow_le_pow_right (by omega) hlength)
    have hnat : n.natAbs = ofDigits ds := by
      split_ifs at hn <;> obtain rfl := Option.some.inj hn <;> simp
    rwa [hnat]

end FragmentRoutes.Numeral
