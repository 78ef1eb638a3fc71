import FragmentRoutes.Proofs.Imports
import FragmentRoutes.Proofs.Text.Numbered
import Mathlib.Data.List.Nodup
import Mathlib.Data.Nat.Find
import Mathlib.Order.Nat
import Mathlib.Tactic.Push

/-!
# The search for a local name

A symbol that gets a local name is given the first of its candidates that is free: its own name,
the name with that of its module in front, and then the latter with the numbers from two on
(`choose_eq_candidate`).  The search ends, because only as many names are taken as there are
owners (`exists_isFree_numbered`), and what it ends with is free (`isFree_choose`).
-/

namespace FragmentRoutes.Imports

/-! ### Free names -/

/-- A name is free for an owner exactly if nothing else owns it. -/
theorem isFree_iff {s : Imports} {name : String} {owner : Owner} :
    s.isFree name owner = true ↔ ∀ other, s.owners.lookup name = some other → other = owner := by
  unfold isFree
  cases s.owners.lookup name with
  | none => simp
  | some other => simp

theorem isFree_eq_false_iff {s : Imports} {name : String} {owner : Owner} :
    s.isFree name owner = false ↔ ∃ other, s.owners.lookup name = some other ∧ other ≠ owner := by
  rw [← Bool.not_eq_true, isFree_iff]
  push Not
  rfl

/-- A name that is not free is the name of an entry of the table. -/
theorem mem_map_owners_of_not_isFree {s : Imports} {name : String} {owner : Owner}
    (h : s.isFree name owner = false) : name ∈ s.owners.map (·.1) := by
  obtain ⟨other, hother, -⟩ := isFree_eq_false_iff.mp h
  obtain ⟨front, back, heq, -⟩ := List.lookup_eq_some_iff.mp hother
  rw [heq]
  simp

/-! ### Numbered names -/

/-- **One of the numbered names is free**, at the latest after all names that have owners. -/
theorem exists_isFree_numbered (s : Imports) (owner : Owner) (base : String) (n : Nat) :
    ∃ k, n ≤ k ∧ k ≤ n + s.owners.length ∧ s.isFree (base ++ toString k) owner = true := by
  obtain ⟨k, hle, hbound, hnotMem⟩ :=
    Text.exists_numbered_not_mem (s.owners.map (·.1)) base n
  rw [List.length_map] at hbound
  refine ⟨k, hle, hbound, ?_⟩
  by_contra htaken
  exact hnotMem (mem_map_owners_of_not_isFree (by simpa using htaken))

/-- The search finds the least number from `n` on with which the name is free. -/
theorem numberedWithin_eq {s : Imports} {owner : Owner} {base : String} {fuel n k : Nat}
    (hle : n ≤ k) (hfuel : k ≤ n + fuel) (hfree : s.isFree (base ++ toString k) owner = true)
    (hleast : ∀ i, n ≤ i → i < k → s.isFree (base ++ toString i) owner = false) :
    s.numberedWithin owner base fuel n = base ++ toString k := by
  induction fuel generalizing n with
  | zero =>
    have heq : n = k := by omega
    rw [numberedWithin, heq]
  | succ fuel ih =>
    unfold numberedWithin
    by_cases heq : n = k
    · rw [heq, if_pos hfree]
    · have hlt : n < k := by omega
      rw [if_neg (by rw [hleast n le_rfl hlt]; simp)]
      exact ih hlt (by omega) fun i hi hik => hleast i (by omega) hik

/-! ### Candidates -/

/-- The names that a symbol may be given, in the order in which they are tried. -/
def candidate (owner : Owner) : Nat → String
  | 0 => owner.symbol
  | 1 => aliasOf owner
  | n => aliasOf owner ++ toString n

theorem candidate_of_two_le (owner : Owner) {n : Nat} (h : 2 ≤ n) :
    candidate owner n = aliasOf owner ++ toString n := by
  obtain ⟨k, rfl⟩ : ∃ k, n = k + 2 := ⟨n - 2, by omega⟩
  rfl

/-- **A symbol is given the first of its candidates that is free**, and there is one. -/
theorem choose_eq_candidate (s : Imports) (owner : Owner) :
    ∃ n, s.choose owner = candidate owner n ∧ s.isFree (candidate owner n) owner = true ∧
      ∀ m < n, s.isFree (candidate owner m) owner = false := by
  unfold choose
  split_ifs with hsymbol halias
  · exact ⟨0, rfl, hsymbol, by simp⟩
  · refine ⟨1, rfl, halias, fun m hm => ?_⟩
    obtain rfl : m = 0 := by omega
    simpa [candidate] using hsymbol
  · -- the least number that is free
    have hexists : ∃ k, 2 ≤ k ∧ s.isFree (aliasOf owner ++ toString k) owner = true := by
      obtain ⟨k, hk, -, hfree⟩ := exists_isFree_numbered s owner (aliasOf owner) 2
      exact ⟨k, hk, hfree⟩
    classical
    obtain ⟨htwo, hfree⟩ := Nat.find_spec hexists
    have hleast : ∀ i, 2 ≤ i → i < Nat.find hexists →
        s.isFree (aliasOf owner ++ toString i) owner = false := by
      intro i hi hlt
      have hnot := Nat.find_min hexists hlt
      simpa [hi] using hnot
    have hbound : Nat.find hexists ≤ 2 + s.owners.length := by
      obtain ⟨k, hk, hle, hkfree⟩ := exists_isFree_numbered s owner (aliasOf owner) 2
      exact (Nat.find_le ⟨hk, hkfree⟩).trans hle
    refine ⟨Nat.find hexists, ?_, ?_, fun m hm => ?_⟩
    · rw [candidate_of_two_le owner htwo]
      exact numberedWithin_eq htwo hbound hfree hleast
    · rw [candidate_of_two_le owner htwo]
      exact hfree
    · match m with
      | 0 => simpa [candidate] using hsymbol
      | 1 => simpa [candidate] using halias
      | m + 2 => exact hleast (m + 2) (by omega) hm

theorem isFree_choose (s : Imports) (owner : Owner) : s.isFree (s.choose owner) owner = true := by
  obtain ⟨n, hchoose, hfree, -⟩ := choose_eq_candidate s owner
  rw [hchoose]
  exact hfree

end FragmentRoutes.Imports
