import FragmentRoutes.Fragment.Folder
import FragmentRoutes.Numeral.Shortest
import FragmentRoutes.Proofs.Text.Identifier
import FragmentRoutes.Proofs.Text.SplitOn
import Mathlib.Tactic.SplitIfs

/-!
# Texts without returns

A text that is read from a file has its lines ended alike, so it is read as it was written exactly if
no return stands in it (`unifyLines_eq_self_iff`).  Quoting escapes returns (`returnFree_quote`),
and identifiers and numbers are written without any.
-/

namespace FragmentRoutes.Text

/-- No return stands in the text. -/
def ReturnFree (s : String) : Prop :=
  '\r' ∉ s.toList

/-! ### Texts put together -/

@[simp]
theorem returnFree_ofList_iff {cs : List Char} : ReturnFree (String.ofList cs) ↔ '\r' ∉ cs := by
  rw [ReturnFree, String.toList_ofList]

/-- A text that is written out is checked character by character. -/
theorem returnFree_ofList {cs : List Char} (h : (cs.all (· != '\r')) = true) :
    ReturnFree (String.ofList cs) :=
  returnFree_ofList_iff.mpr fun hmem => by simpa using List.all_eq_true.mp h _ hmem

theorem returnFree_empty : ReturnFree "" :=
  returnFree_ofList rfl

@[simp]
theorem returnFree_append_iff {s t : String} :
    ReturnFree (s ++ t) ↔ ReturnFree s ∧ ReturnFree t := by
  simp [ReturnFree, not_or]

theorem ReturnFree.append {s t : String} (hs : ReturnFree s) (ht : ReturnFree t) :
    ReturnFree (s ++ t) :=
  returnFree_append_iff.mpr ⟨hs, ht⟩

/-- No return stands in texts put together exactly if none stands in a part. -/
theorem returnFree_intercalate_iff {separator : String} (hseparator : ReturnFree separator)
    {parts : List String} :
    ReturnFree (separator.intercalate parts) ↔ ∀ part ∈ parts, ReturnFree part := by
  induction parts with
  | nil => simpa using returnFree_empty
  | cons first rest ih =>
    cases rest with
    | nil => simp
    | cons second rest =>
      rw [String.intercalate_cons_cons, returnFree_append_iff, returnFree_append_iff, ih,
        List.forall_mem_cons]
      simp [hseparator]

theorem ReturnFree.intercalate {separator : String} {parts : List String}
    (hseparator : ReturnFree separator) (hparts : ∀ part ∈ parts, ReturnFree part) :
    ReturnFree (separator.intercalate parts) :=
  (returnFree_intercalate_iff hseparator).mpr hparts

/-- No return stands in a text exactly if none stands between its separators. -/
theorem returnFree_iff_splitOn {s separator : String} {c : Char}
    (hseparator : separator.toList = [c]) (hfree : ReturnFree separator) :
    ReturnFree s ↔ ∀ part ∈ s.splitOn separator, ReturnFree part := by
  rw [← returnFree_intercalate_iff hfree, intercalate_splitOn hseparator]

/-! ### Numbers -/

theorem return_notMem_toDigits {base : Nat} (hpos : 0 < base) (hbase : base ≤ 16) (n : Nat) :
    '\r' ∉ Nat.toDigits base n := by
  have hdigit : ∀ d < 16, Nat.digitChar d ≠ '\r' := by decide
  have hcore : ∀ (fuel n : Nat) (ds : List Char), '\r' ∉ ds →
      '\r' ∉ Nat.toDigitsCore base fuel n ds := by
    intro fuel
    induction fuel with
    | zero => exact fun _ _ h => h
    | succ fuel ih =>
      intro n ds hds
      have hcons : '\r' ∉ (n % base).digitChar :: ds :=
        List.not_mem_cons_of_ne_of_not_mem
          (hdigit _ ((Nat.mod_lt n hpos).trans_le hbase)).symm hds
      rw [Nat.toDigitsCore]
      split_ifs
      · exact hcons
      · exact ih _ _ hcons
  exact hcore _ _ _ List.not_mem_nil

theorem returnFree_toString_nat (n : Nat) : ReturnFree (toString n) :=
  returnFree_ofList_iff.mpr (return_notMem_toDigits (by decide) (by decide) n)

theorem returnFree_toString_int (n : Int) : ReturnFree (toString n) := by
  cases n with
  | ofNat n => exact returnFree_toString_nat n
  | negSucc n => exact (returnFree_ofList rfl).append (returnFree_toString_nat (n + 1))

/-! ### Identifiers -/

/-- No return stands in an identifier. -/
theorem returnFree_of_isIdentifier {s : String} (h : isIdentifier s = true) : ReturnFree s := by
  intro hmem
  have hreturn : continuesIdentifier '\r' = false := by decide
  have hall := List.all_eq_true.mp (continuesIdentifier_of_isIdentifier h) _ hmem
  rw [hreturn] at hall
  cases hall

theorem returnFree_of_isName {s : String} (h : isName s = true) : ReturnFree s :=
  returnFree_of_isIdentifier (isIdentifier_of_isName h)

/-! ### Quoted texts -/

theorem return_notMem_hexDigits (width n : Nat) : '\r' ∉ hexDigits width n := by
  have hdigits : '\r' ∉ Nat.toDigits 16 n := return_notMem_toDigits (by decide) (by decide) n
  simp [hexDigits, hdigits]

theorem return_notMem_escapeCode (c : Char) : '\r' ∉ escapeCode c := by
  unfold escapeCode
  dsimp only
  split_ifs <;> simp [return_notMem_hexDigits]

/-- Quoting leaves no return, given the quote is none. -/
theorem return_notMem_quoteChar {mark : Char} (hmark : mark ≠ '\r') (c : Char) :
    '\r' ∉ quoteChar mark c := by
  unfold quoteChar
  split_ifs with hself _ hreturn
  · rcases Bool.or_eq_true_iff.mp hself with h | h
    · simp [eq_of_beq h, hmark.symm]
    · simp [eq_of_beq h]
  · decide
  · decide
  · decide
  · exact return_notMem_escapeCode c
  · exact fun h => hreturn (beq_iff_eq.mpr (List.mem_singleton.mp h).symm)

theorem quoteMark_ne_return (cs : List Char) : quoteMark cs ≠ '\r' := by
  unfold quoteMark
  split_ifs <;> decide

theorem return_notMem_quoteChars (cs : List Char) : '\r' ∉ quoteChars cs := by
  have hmark := quoteMark_ne_return cs
  simp [quoteChars, return_notMem_quoteChar hmark, hmark.symm]

/-- **Quoting escapes returns.** -/
theorem returnFree_quote (s : String) : ReturnFree (quote s) :=
  returnFree_ofList_iff.mpr (return_notMem_quoteChars s.toList)

theorem returnFree_quoteBytes (bs : List UInt8) : ReturnFree (quoteBytes bs) := by
  have hmark := quoteMark_ne_return (bs.map fun b => Char.ofNat b.toNat)
  have hbyte : ∀ {mark : Char}, mark ≠ '\r' → ∀ b, '\r' ∉ quoteByte mark b := by
    intro mark hmark b
    unfold quoteByte
    dsimp only
    split_ifs with hself _ hreturn
    · rcases Bool.or_eq_true_iff.mp hself with h | h
      · simp [eq_of_beq h, hmark.symm]
      · simp [eq_of_beq h]
    · decide
    · decide
    · decide
    · simp [return_notMem_hexDigits]
    · exact fun h => hreturn (beq_iff_eq.mpr (List.mem_singleton.mp h).symm)
  refine returnFree_ofList_iff.mpr ?_
  simp [hbyte hmark, hmark.symm]

/-! ### Reading back -/

theorem return_notMem_unifyLines (cs : List Char) : '\r' ∉ TextFile.unifyLines cs := by
  fun_induction TextFile.unifyLines cs with
  | case1 cs ih => simpa using ih
  | case2 cs _ ih => simpa using ih
  | case3 c cs _ hne ih => simp_all [eq_comm]
  | case4 => exact List.not_mem_nil

/-- **A text is read as it was written** exactly if no return stands in it. -/
theorem unifyLines_eq_self_iff {cs : List Char} : TextFile.unifyLines cs = cs ↔ '\r' ∉ cs := by
  refine ⟨fun h => h ▸ return_notMem_unifyLines cs, fun h => ?_⟩
  induction cs with
  | nil => rw [TextFile.unifyLines]
  | cons c cs ih =>
    obtain ⟨hc, hcs⟩ := List.ne_and_not_mem_of_not_mem_cons h
    rw [TextFile.unifyLines, ih hcs]
    · rintro _ rfl
      exact absurd rfl hc
    · rintro rfl
      exact absurd rfl hc

end FragmentRoutes.Text

namespace FragmentRoutes.Numeral.Double

open Text

theorem return_notMem_placePoint (fraction : Bool) {ds : List Char} (hds : '\r' ∉ ds)
    (point : Int) : '\r' ∉ placePoint fraction ds point := by
  have htake : '\r' ∉ ds.take point.toNat := fun h => hds (List.mem_of_mem_take h)
  have hdrop : '\r' ∉ ds.drop point.toNat := fun h => hds (List.mem_of_mem_drop h)
  unfold placePoint
  split_ifs
  · simp [hds]
  · simp [hds]
  · simp [hds]
  · simp [htake, hdrop]
  all_goals
    have hdigits := @return_notMem_toDigits 10 (by decide) (by decide) (point - 1).natAbs
    have hsign : '\r' ≠ (if point - 1 < 0 then '-' else '+') := by split_ifs <;> decide
    dsimp only
    split <;> simp_all

/-- **A number is written without returns.** -/
theorem returnFree_render (fraction : Bool) (x : Double) : ReturnFree (x.render fraction) := by
  cases x with
  | nan => exact returnFree_ofList rfl
  | infinite negative =>
    rw [render]
    split_ifs
    · exact returnFree_ofList rfl
    · exact returnFree_ofList rfl
  | finite negative m e =>
    have hdigits : '\r' ∉ (shortestDigits m e).1 := by
      intro h
      rw [shortestDigits] at h
      have hmem := List.mem_reverse.mp ((List.dropWhile_sublist _).subset (List.mem_reverse.mp h))
      exact return_notMem_toDigits (by decide) (by decide) _ hmem
    have hbody : '\r' ∉ (if m = 0 then (if fraction then ['0', '.', '0'] else ['0'])
        else placePoint fraction (shortestDigits m e).1 (shortestDigits m e).2) := by
      split_ifs
      · decide
      · decide
      · exact return_notMem_placePoint fraction hdigits _
    rw [render, returnFree_ofList_iff]
    dsimp only
    cases negative with
    | true => exact List.not_mem_cons_of_ne_of_not_mem (by decide) hbody
    | false => exact hbody

end FragmentRoutes.Numeral.Double
