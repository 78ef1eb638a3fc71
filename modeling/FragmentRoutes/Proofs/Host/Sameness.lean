import FragmentRoutes.Host.Basic
import Mathlib.Tactic.Common

/-!
# Sameness of types

Every value and every type is the same as itself (`Value.same_refl`, `HostType.same_refl`).
-/

namespace FragmentRoutes

namespace Host.Value

mutual

/-- **Every value is the same as itself.** -/
theorem same_refl : ∀ v : Value, v.same v = true
  | .none => by rw [same]
  | .flag _ => by rw [same, beq_self_eq_true]
  | .whole _ => by rw [same, beq_self_eq_true]
  | .real _ => by rw [same, beq_self_eq_true]
  | .text _ => by rw [same, beq_self_eq_true]
  | .list items => by rw [same, sameItems_refl items]
  | .table entries => by rw [same, sameEntries_refl entries]

theorem sameItems_refl : ∀ vs : List Value, sameItems vs vs = true
  | [] => by rw [sameItems]
  | v :: vs => by rw [sameItems, same_refl v, sameItems_refl vs, Bool.and_self]

theorem sameEntries_refl : ∀ es : List (String × Value), sameEntries es es = true
  | [] => by rw [sameEntries]
  | (k, v) :: es => by
    rw [sameEntries, beq_self_eq_true, same_refl v, sameEntries_refl es, Bool.and_self,
      Bool.and_self]

end

instance : ReflBEq Value := ⟨same_refl _⟩

end Host.Value

namespace HostType

open Host

/-! ### Unions -/

theorem allAmong_iff {ts us : List HostType} :
    allAmong ts us = true ↔ ∀ t ∈ ts, ∃ u ∈ us, t.same u = true := by
  induction ts with
  | nil => simp [allAmong]
  | cons t ts ih => rw [allAmong, Bool.and_eq_true, ih, List.any_eq_true, List.forall_mem_cons]

theorem isAmong_iff {ts : List HostType} {u : HostType} :
    isAmong ts u = true ↔ ∃ t ∈ ts, t.same u = true := by
  induction ts with
  | nil => simp [isAmong]
  | cons t ts ih => simp only [isAmong, Bool.or_eq_true, ih, List.mem_cons, exists_eq_or_imp]

theorem sameList_of_forall {ts : List HostType} (h : ∀ t ∈ ts, t.same t = true) :
    sameList ts ts = true := by
  induction ts with
  | nil => rw [sameList]
  | cons t ts ih =>
    rw [List.forall_mem_cons] at h
    rw [sameList, h.1, ih h.2, Bool.and_self]

theorem same_union_of_forall {ts : List HostType} (barred : Bool)
    (h : ∀ t ∈ ts, t.same t = true) : (HostType.union barred ts).same (.union barred ts) = true := by
  rw [same, Bool.and_eq_true, allAmong_iff, List.all_eq_true]
  exact ⟨fun t ht => ⟨t, ht, h t ht⟩, fun t ht => isAmong_iff.mpr ⟨t, ht, h t ht⟩⟩

/-! ### All types -/

mutual

/-- **Every type is the same as itself.** -/
theorem same_refl : ∀ t : HostType, t.same t = true
  | .any => by rw [same]
  | .nothing => by rw [same]
  | .ellipsis => by rw [same]
  | .var _ => by rw [same, beq_self_eq_true]
  | .generated _ => by rw [same, beq_self_eq_true]
  | .cls _ => by rw [same, beq_self_eq_true]
  | .synonym _ _ => by rw [same, beq_self_eq_true]
  | .applied _ _ ts => by
    rw [same, beq_self_eq_true, beq_self_eq_true, sameList_of_forall (forall_same_refl ts)]
    rfl
  | .union barred ts => same_union_of_forall barred (forall_same_refl ts)
  | .literal vs => by
    have hall : vs.all vs.contains = true := by
      rw [List.all_eq_true]
      exact fun v hv => List.contains_iff_exists_mem_beq.mpr ⟨v, hv, BEq.rfl⟩
    rw [same, hall, Bool.and_self]
  | .annotated base _ => by rw [same, same_refl base, beq_self_eq_true, Bool.and_self]
  | .special _ ts => by
    rw [same, beq_self_eq_true, sameList_of_forall (forall_same_refl ts), Bool.and_self]
  | .params ts => by rw [same, sameList_of_forall (forall_same_refl ts)]
  | .newType _ _ _ => by
    rw [same, beq_self_eq_true, beq_self_eq_true, beq_self_eq_true]
    rfl
  | .value _ => by rw [same, beq_self_eq_true]
  | .forward _ => by rw [same, beq_self_eq_true]

theorem forall_same_refl : ∀ ts : List HostType, ∀ t ∈ ts, t.same t = true
  | [] => fun _ ht => absurd ht List.not_mem_nil
  | t :: ts => List.forall_mem_cons.mpr ⟨same_refl t, forall_same_refl ts⟩

end

end HostType

end FragmentRoutes
