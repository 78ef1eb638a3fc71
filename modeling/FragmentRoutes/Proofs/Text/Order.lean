import Mathlib.Data.List.Pairwise
import Mathlib.Data.Nat.Init
import Mathlib.Tactic.SplitIfs

/-!
# Texts in order

Lists that are sorted by a text, and the ways in which repeated texts are left out of them.
-/

namespace FragmentRoutes.Text

variable {α : Type}

/-- Items that were sorted by a text are in the order of their texts. -/
theorem pairwise_mergeSort (key : α → String) (items : List α) :
    (items.mergeSort fun a b => !decide (key b < key a)).Pairwise fun a b => key a ≤ key b := by
  have hsorted := @List.pairwise_mergeSort _ (fun a b => !decide (key b < key a))
    (by
      intro a b c hab hbc
      simp only [Bool.not_eq_true', decide_eq_false_iff_not, String.not_lt] at hab hbc ⊢
      exact String.le_trans hab hbc)
    (by
      intro a b
      simp only [Bool.or_eq_true, Bool.not_eq_true', decide_eq_false_iff_not, String.not_lt]
      exact String.le_total _ _)
    items
  refine hsorted.imp fun h => ?_
  rwa [Bool.not_eq_true', decide_eq_false_iff_not, String.not_lt] at h

/-- Items that were sorted by a list of texts are in the order of these lists. -/
theorem pairwise_mergeSort_texts (key : α → List String) (items : List α) :
    (items.mergeSort fun a b => !decide (key b < key a)).Pairwise fun a b => ¬key b < key a := by
  have hsorted := @List.pairwise_mergeSort _ (fun a b => !decide (key b < key a))
    (by
      intro a b c hab hbc
      simp only [Bool.not_eq_true', decide_eq_false_iff_not] at hab hbc ⊢
      exact List.not_lt.mpr (List.le_trans (List.not_lt.mp hab) (List.not_lt.mp hbc)))
    (by
      intro a b
      simp only [Bool.or_eq_true, Bool.not_eq_true', decide_eq_false_iff_not]
      exact (List.le_total (key a) (key b)).imp List.not_lt.mpr List.not_lt.mpr)
    items
  refine hsorted.imp fun h => ?_
  rwa [Bool.not_eq_true', decide_eq_false_iff_not] at h

/-- The order in which the items are given does not show in the sorted keys: items that sorting
does not tell apart have the same key. -/
theorem map_mergeSort_eq_of_perm (key : α → List String) {items items' : List α}
    (h : items.Perm items') :
    (items.mergeSort fun a b => !decide (key b < key a)).map key =
      (items'.mergeSort fun a b => !decide (key b < key a)).map key := by
  have hperm : (items.mergeSort fun a b => !decide (key b < key a)).Perm
      (items'.mergeSort fun a b => !decide (key b < key a)) :=
    ((List.mergeSort_perm items _).trans h).trans (List.mergeSort_perm items' _).symm
  have hsorted : ∀ items : List α,
      ((items.mergeSort fun a b => !decide (key b < key a)).map key).Pairwise fun k k' =>
        ¬k' < k := fun items => List.pairwise_map.mpr (pairwise_mergeSort_texts key items)
  refine List.Perm.eq_of_pairwise (fun a b _ _ hab hba => ?_) (hsorted items) (hsorted items')
    (hperm.map key)
  exact List.le_antisymm (List.not_lt.mp hab) (List.not_lt.mp hba)

theorem lt_of_le_of_ne {a b : String} (hle : a ≤ b) (hne : a ≠ b) : a < b := by
  rw [← String.not_le]
  exact fun h => hne (String.le_antisymm hle h)

/-- If the texts differ, no two of them are the same in the order. -/
theorem pairwise_mergeSort_lt {key : α → String} {items : List α} (h : (items.map key).Nodup) :
    (items.mergeSort fun a b => !decide (key b < key a)).Pairwise fun a b => key a < key b := by
  have hperm := List.mergeSort_perm items fun a b => !decide (key b < key a)
  have hnodup := List.pairwise_map.mp ((hperm.map key).nodup_iff.mpr h)
  exact (pairwise_mergeSort key items).imp₂ (fun a b hle hne => lt_of_le_of_ne hle hne) hnodup

/-- Texts in strict order are different ones. -/
theorem nodup_of_pairwise_lt {texts : List String} (h : texts.Pairwise (· < ·)) : texts.Nodup := by
  refine List.Pairwise.imp (fun {a b} hlt heq => ?_) h
  rw [heq] at hlt
  exact String.lt_irrefl b hlt

/-! ### Leaving out repetitions -/

theorem nodup_eraseDups [BEq α] [LawfulBEq α] (items : List α) : items.eraseDups.Nodup := by
  induction hlength : items.length using Nat.strongRecOn generalizing items with
  | ind n ih =>
    cases items with
    | nil => simp
    | cons a items =>
      rw [List.eraseDups_cons, List.nodup_cons, List.mem_eraseDups]
      refine ⟨by simp, ih _ ?_ _ rfl⟩
      have hle := List.length_filter_le (fun b => !b == a) items
      rw [List.length_cons] at hlength
      omega

theorem eraseRepsBy_loop (r : α → α → Bool) (a : α) (items front : List α) :
    List.eraseRepsBy.loop r a items front =
      front.reverse ++ List.eraseRepsBy.loop r a items [] := by
  induction items generalizing a front with
  | nil => simp [List.eraseRepsBy.loop]
  | cons b items ih =>
    unfold List.eraseRepsBy.loop
    split
    · exact ih a front
    · rw [ih b (a :: front), ih b [a]]
      simp

/-- An item that is the same as the one before is left out. -/
theorem eraseReps_cons_cons (a b : String) (items : List String) :
    (a :: b :: items).eraseReps =
      if a = b then (a :: items).eraseReps else a :: (b :: items).eraseReps := by
  show List.eraseRepsBy.loop _ a (b :: items) [] = _
  unfold List.eraseRepsBy.loop
  by_cases h : a = b
  · rw [if_pos h, beq_iff_eq.mpr h]
    rfl
  · rw [if_neg h, beq_eq_false_iff_ne.mpr h]
    exact eraseRepsBy_loop _ b items [a]

theorem mem_eraseReps {texts : List String} {text : String} :
    text ∈ texts.eraseReps ↔ text ∈ texts := by
  cases texts with
  | nil => rfl
  | cons a texts =>
    induction texts generalizing a with
    | nil => rfl
    | cons b texts ih =>
      rw [eraseReps_cons_cons]
      split_ifs with h
      · rw [ih, h]
        simp
      · rw [List.mem_cons, ih b, ← List.mem_cons]

/-- Of distinct texts, none is left out. -/
theorem eraseReps_eq_self {texts : List String} (h : texts.Nodup) : texts.eraseReps = texts := by
  cases texts with
  | nil => rfl
  | cons a texts =>
    induction texts generalizing a with
    | nil => rfl
    | cons b texts ih =>
      rw [List.nodup_cons] at h
      have hne : a ≠ b := List.ne_of_not_mem_cons h.1
      rw [eraseReps_cons_cons, if_neg hne, ih b h.2]

/-- Of texts in order, each is left once. -/
theorem pairwise_eraseReps {texts : List String} (h : texts.Pairwise (· ≤ ·)) :
    texts.eraseReps.Pairwise (· < ·) := by
  cases texts with
  | nil => exact .nil
  | cons a texts =>
    induction texts generalizing a with
    | nil => exact List.pairwise_singleton _ _
    | cons b texts ih =>
      obtain ⟨hfirst, hrest⟩ := List.pairwise_cons.mp h
      have hsecond := (List.pairwise_cons.mp hrest).1
      rw [eraseReps_cons_cons]
      split_ifs with heq
      · exact ih a (heq ▸ hrest)
      · refine List.pairwise_cons.mpr ⟨fun c hc => ?_, ih b hrest⟩
        have hab : a < b := lt_of_le_of_ne (hfirst b List.mem_cons_self) heq
        rcases List.mem_cons.mp (mem_eraseReps.mp hc) with rfl | hc
        · exact hab
        · exact String.not_le.mp fun hca =>
            String.not_le.mpr hab (String.le_trans (hsecond c hc) hca)

end FragmentRoutes.Text
