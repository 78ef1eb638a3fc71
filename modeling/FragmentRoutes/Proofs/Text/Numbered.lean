import Mathlib.Data.List.Nodup
import Mathlib.Data.String.Basic
import Mathlib.Tactic.Push

/-!
# Numbered names

A name that is taken gets a number.  Names with different numbers are different
(`append_toString_injective`), so of more of them than are taken one is not
(`exists_numbered_not_mem`).
-/

namespace FragmentRoutes.Text

theorem append_toString_injective (base : String) :
    Function.Injective fun n : Nat => base ++ toString n := by
  intro m n h
  have htext : toString m = toString n := (String.append_right_inj base).mp h
  rw [Nat.toString_eq_ofList_toDigits, Nat.toString_eq_ofList_toDigits, String.ofList_inj] at htext
  calc m = Nat.ofDigitChars 10 (Nat.toDigits 10 m) 0 := Nat.ofDigitChars_ten_toDigits.symm
    _ = Nat.ofDigitChars 10 (Nat.toDigits 10 n) 0 := by rw [htext]
    _ = n := Nat.ofDigitChars_ten_toDigits

/-- **One of the numbered names is not taken**, at the latest after as many as are taken. -/
theorem exists_numbered_not_mem (taken : List String) (base : String) (n : Nat) :
    ∃ k, n ≤ k ∧ k ≤ n + taken.length ∧ base ++ toString k ∉ taken := by
  by_contra hnone
  push Not at hnone
  -- otherwise the list had one name more than it has
  have hnames : ((List.range (taken.length + 1)).map fun i => base ++ toString (n + i)) ⊆
      taken := by
    intro name hname
    obtain ⟨i, hi, rfl⟩ := List.mem_map.mp hname
    have hi' : i < taken.length + 1 := List.mem_range.mp hi
    exact hnone (n + i) (by omega) (by omega)
  have hnodup : ((List.range (taken.length + 1)).map fun i => base ++ toString (n + i)).Nodup :=
    List.nodup_range.map fun i j h => by
      have hsum := append_toString_injective base h
      omega
  have hlength := hnodup.length_le_of_subset hnames
  rw [List.length_map, List.length_range] at hlength
  omega

end FragmentRoutes.Text
