import FragmentRoutes.Registration
import Mathlib.Data.List.Nodup
import Mathlib.Data.List.Perm.Subperm
import Mathlib.Data.String.Basic

/-!
# The order of registration

`precedence` compares one key after the other (`precedence_eq_compareLex`), so it is an order and
`order` lists the definitions in it (`pairwise_order`).  A definition is registered before another
(`Precedes`) if its rank is less, and that is so exactly if it comes first in `precedence`
(`precedes_iff`).

Of two routes of one host the keys that are left are computed: the texts of the paths for routes
of fixed depth (`precedence_of_not_catchAll`), first their lengths for the others
(`precedence_of_catchAll`).
-/

namespace FragmentRoutes.Registration

/-! ### The keys -/

/-- The key by which the longer of two routes that match everything below a path comes first. -/
def lengthKey (d : Definition) : Int :=
  if isCatchAll d then -(d.label.path.length : Int) else 0

theorem trueFirst_not (a b : Bool) : trueFirst (!a) (!b) = compare a b := by
  cases a <;> cases b <;> rfl

/-- The length decides only between routes that both match everything below a path, and there
the longer path comes first. -/
theorem compare_lengthKey {a b : Definition} (h : isCatchAll a = isCatchAll b) :
    compare (lengthKey a) (lengthKey b) =
      if isCatchAll a && isCatchAll b then compare b.label.path.length a.label.path.length
      else .eq := by
  rw [lengthKey, lengthKey, h]
  cases isCatchAll b with
  | false => rfl
  | true =>
    show compare (-(a.label.path.length : Int)) (-(b.label.path.length : Int)) =
      compare b.label.path.length a.label.path.length
    rcases Nat.lt_trichotomy b.label.path.length a.label.path.length with hlt | heq | hgt
    · rw [compare_lt_iff_lt.mpr hlt, compare_lt_iff_lt]
      omega
    · rw [heq, compare_eq_iff_eq.mpr rfl, compare_eq_iff_eq.mpr rfl]
    · rw [compare_gt_iff_gt.mpr hgt, compare_gt_iff_gt]
      omega

/-- **Definitions are ordered by keys**: no host, host, matching everything below, length, path,
no method, method, name. -/
theorem precedence_eq_compareLex : precedence =
    compareLex (compareOn fun d : Definition => d.label.host.isEmpty) (
    compareLex (compareOn fun d => d.label.host) (
    compareLex (compareOn isCatchAll) (
    compareLex (compareOn lengthKey) (
    compareLex (compareOn fun d => d.label.path) (
    compareLex (compareOn fun d => !d.label.method.isSome) (
    compareLex (compareOn fun d => d.label.methodText)
      (compareOn fun d => d.label.name))))))) := by
  funext a b
  simp only [precedence, compareLex, compareOn, trueFirst_not]
  by_cases h : isCatchAll a = isCatchAll b
  · rw [compare_lengthKey h]
    congr 6
    cases a.label.method.isSome <;> cases b.label.method.isSome <;> rfl
  · -- the keys before the length are not the same, so the length is not looked at
    have hne : compare (isCatchAll a) (isCatchAll b) ≠ .eq := fun heq =>
      h (compare_eq_iff_eq.mp heq)
    cases hcompare : compare (isCatchAll a) (isCatchAll b) with
    | lt => rfl
    | eq => exact absurd hcompare hne
    | gt => rfl

instance : Std.TransCmp precedence := by
  rw [precedence_eq_compareLex]
  infer_instance

theorem precedence_swap (a b : Definition) : precedence a b = (precedence b a).swap :=
  Std.OrientedCmp.eq_swap

theorem precedence_self (a : Definition) : precedence a a = .eq :=
  Std.ReflCmp.compare_self

/-! ### Listing in order -/

theorem precedence_le_iff {a b : Definition × Nat} :
    (precedence a.1 b.1 != .gt) = true ↔ (precedence a.1 b.1).isLE = true := by
  cases precedence a.1 b.1 <;> decide

/-- **The definitions are listed in order.** -/
theorem pairwise_order (definitions : List Definition) :
    (order definitions).Pairwise fun a b => (precedence a.1 b.1).isLE = true := by
  have hsorted := @List.pairwise_mergeSort _ (fun a b : Definition × Nat =>
    precedence a.1 b.1 != .gt) ?_ ?_ definitions.zipIdx
  · exact hsorted.imp precedence_le_iff.mp
  · intro a b c hab hbc
    rw [precedence_le_iff] at hab hbc ⊢
    exact Std.TransCmp.isLE_trans hab hbc
  · intro a b
    rw [Bool.or_eq_true, precedence_le_iff, precedence_le_iff, precedence_swap b.1]
    cases precedence a.1 b.1 <;> decide

theorem perm_order (definitions : List Definition) :
    (order definitions).Perm definitions.zipIdx :=
  List.mergeSort_perm _ _

/-- The positions of the definitions in order. -/
def positions (definitions : List Definition) : List Nat :=
  (order definitions).map (·.2)

theorem perm_positions (definitions : List Definition) :
    (positions definitions).Perm (List.range definitions.length) := by
  have hperm := (perm_order definitions).map Prod.snd
  rwa [List.zipIdx_map_snd, ← List.range_eq_range'] at hperm

/-- A definition stands in the order at the place that its rank tells. -/
theorem order_idxOf {definitions : List Definition} {i : Nat} {d : Definition}
    (hd : definitions[i]? = some d) :
    ∃ h : (positions definitions).idxOf i < (order definitions).length,
      (order definitions)[(positions definitions).idxOf i] = (d, i) := by
  obtain ⟨hi, -⟩ := List.getElem?_eq_some_iff.mp hd
  have hmem : i ∈ positions definitions :=
    (perm_positions definitions).mem_iff.mpr (List.mem_range.mpr hi)
  have hlt := List.idxOf_lt_length_iff.mpr hmem
  have hlt' : (positions definitions).idxOf i < (order definitions).length := by
    simpa [positions] using hlt
  refine ⟨hlt', ?_⟩
  have hsnd : ((order definitions)[(positions definitions).idxOf i]).2 = i := by
    have h := List.getElem_idxOf hlt
    simpa only [positions, List.getElem_map] using h
  -- the definition at a position of the list is the one it is listed with
  have hzip := (perm_order definitions).mem_iff.mp (List.getElem_mem hlt')
  rw [List.mem_zipIdx_iff_getElem?, hsnd, hd] at hzip
  exact Prod.ext (Option.some.inj hzip).symm hsnd

/-! ### Ranks -/

/-- The definition at the first place is registered **before** the one at the second. -/
def Precedes (definitions : List Definition) (i j : Nat) : Prop :=
  ∃ r s, (ranks definitions)[i]? = some r ∧ (ranks definitions)[j]? = some s ∧ r < s

theorem Precedes.asymm {definitions : List Definition} {i j : Nat}
    (h : Precedes definitions i j) : ¬Precedes definitions j i := by
  obtain ⟨r, s, hr, hs, hlt⟩ := h
  rintro ⟨s', r', hs', hr', hlt'⟩
  rw [hr, Option.some.injEq] at hr'
  rw [hs, Option.some.injEq] at hs'
  omega

theorem getElem?_ranks {definitions : List Definition} {i : Nat} {d : Definition}
    (hd : definitions[i]? = some d) :
    (ranks definitions)[i]? = some ((positions definitions).idxOf i) := by
  obtain ⟨hi, -⟩ := List.getElem?_eq_some_iff.mp hd
  rw [ranks, List.getElem?_map, List.getElem?_range hi]
  rfl

/-- **The definitions have the ranks from zero on**, each of them once. -/
theorem perm_ranks (definitions : List Definition) :
    (ranks definitions).Perm (List.range definitions.length) := by
  have hperm := perm_positions definitions
  have hmem : ∀ i ∈ List.range definitions.length, i ∈ positions definitions :=
    fun i hi => hperm.mem_iff.mpr hi
  have hnodup : (ranks definitions).Nodup :=
    List.nodup_range.map_on fun i hi j _ h => (List.idxOf_inj (hmem i hi)).mp h
  refine (List.subperm_of_subset hnodup fun r hr => ?_).perm_of_length_le ?_
  · obtain ⟨i, hi, rfl⟩ := List.mem_map.mp hr
    have hlt := List.idxOf_lt_length_iff.mpr (hmem i hi)
    rwa [hperm.length_eq, List.length_range, ← List.mem_range] at hlt
  · rw [ranks, List.length_map]

variable {definitions : List Definition} {i j : Nat} {a b : Definition}
  (ha : definitions[i]? = some a) (hb : definitions[j]? = some b)

include ha hb

/-- What comes first is registered first. -/
theorem precedes_of_lt (h : precedence a b = .lt) : Precedes definitions i j := by
  refine ⟨_, _, getElem?_ranks ha, getElem?_ranks hb, ?_⟩
  obtain ⟨hi, hia⟩ := order_idxOf ha
  obtain ⟨hj, hjb⟩ := order_idxOf hb
  by_contra hle
  rcases Nat.lt_or_eq_of_le (Nat.le_of_not_lt hle) with hlt | heq
  · -- listed the other way round, the definitions would be out of order
    have hpair := List.pairwise_iff_getElem.mp (pairwise_order definitions) _ _ hj hi hlt
    rw [hia, hjb, precedence_swap, h] at hpair
    exact absurd hpair (by decide)
  · -- at one place there is one definition, which does not come before itself
    have hsame : (b, j) = (a, i) := by
      rw [← hia, ← hjb]
      congr 1
    obtain rfl := congrArg Prod.fst hsame
    rw [precedence_self] at h
    cases h

/-- **The ranks follow the order**: of two definitions that it tells apart, the first has the
smaller rank. -/
theorem precedes_iff (hne : precedence a b ≠ .eq) :
    Precedes definitions i j ↔ precedence a b = .lt := by
  refine ⟨fun h => ?_, precedes_of_lt ha hb⟩
  cases hab : precedence a b with
  | lt => rfl
  | eq => exact absurd hab hne
  | gt =>
    have hba : precedence b a = .lt := Std.OrientedCmp.gt_iff_lt.mp hab
    exact absurd (precedes_of_lt hb ha hba) h.asymm

omit ha hb

/-! ### Routes of one host -/

variable (hhost : a.label.host = b.label.host)

include hhost

/-- Routes of one host and fixed depth are ordered by their paths, then by their methods. -/
theorem precedence_of_not_catchAll (ha : a.label.catchAll = false) (hb : b.label.catchAll = false) :
    precedence a b = (compare a.label.path b.label.path).then
      ((trueFirst a.label.method.isSome b.label.method.isSome).then
        ((compare a.label.methodText b.label.methodText).then
          (compare a.label.name b.label.name))) := by
  have hself : ∀ s : String, compare s s = .eq := fun s => compare_eq_iff_eq.mpr rfl
  have htrue : ∀ c : Bool, trueFirst c c = .eq := fun c => by cases c <;> rfl
  rw [precedence, isCatchAll, isCatchAll, hhost, ha, hb, hself, htrue, htrue]
  rfl

/-- Routes of one host that match everything below a path are ordered by the lengths of their
paths, the longer first, then by the paths. -/
theorem precedence_of_catchAll (ha : a.label.catchAll = true) (hb : b.label.catchAll = true) :
    precedence a b = (compare b.label.path.length a.label.path.length).then
      ((compare a.label.path b.label.path).then
        ((trueFirst a.label.method.isSome b.label.method.isSome).then
          ((compare a.label.methodText b.label.methodText).then
            (compare a.label.name b.label.name)))) := by
  have hself : ∀ s : String, compare s s = .eq := fun s => compare_eq_iff_eq.mpr rfl
  have htrue : ∀ c : Bool, trueFirst c c = .eq := fun c => by cases c <;> rfl
  rw [precedence, isCatchAll, isCatchAll, hhost, ha, hb, hself, htrue, htrue]
  rfl

end FragmentRoutes.Registration
