import FragmentRoutes.Text.Compatibility
import Mathlib.Data.List.Basic

/-!
# Compatibility forms of compound identifiers

ASCII characters stand for themselves, compose with no ASCII character, and an underscore composes
with nothing.  So what stands after an ASCII text and an underscore is put into its form on its own
(`compatibilityForm_append_underscore`).
-/

namespace FragmentRoutes.Text

namespace Compatibility

/-! ### The tables, piece by piece

A table is a sum of its pieces that associates to the left, so a computation over the whole table
takes every entry through the sums that follow it.  Over the list of the pieces there is one. -/

/-- The pieces of `runs`. -/
def runPieces : List (List (Nat × Nat × Nat)) := [
  runs1, runs2, runs3, runs4, runs5, runs6, runs7, runs8, runs9, runs10, runs11, runs12, runs13,
  runs14, runs15, runs16, runs17, runs18]

/-- The pieces of `expansions`. -/
def expansionPieces : List (List (Nat × List Nat)) := [
  expansions1, expansions2, expansions3, expansions4, expansions5, expansions6, expansions7,
  expansions8, expansions9, expansions10, expansions11, expansions12, expansions13, expansions14,
  expansions15, expansions16]

/-- The pieces of `pairs`. -/
def pairPieces : List (List (Nat × Nat × Nat)) := [
  pairs1, pairs2, pairs3, pairs4, pairs5, pairs6, pairs7, pairs8, pairs9]

theorem runs_eq_flatten : runs = runPieces.flatten := by
  unfold runs runPieces
  simp only [List.append_assoc, List.flatten_cons, List.flatten_nil, List.append_nil]

theorem expansions_eq_flatten : expansions = expansionPieces.flatten := by
  unfold expansions expansionPieces
  simp only [List.append_assoc, List.flatten_cons, List.flatten_nil, List.append_nil]

theorem pairs_eq_flatten : pairs = pairPieces.flatten := by
  unfold pairs pairPieces
  simp only [List.append_assoc, List.flatten_cons, List.flatten_nil, List.append_nil]

/-! ### ASCII characters -/

/-- Nothing composes with an ASCII character after it. -/
theorem compose?_of_lt {a b : Nat} (h : b < 128) : compose? a b = none := by
  have hpairs : (pairs.all fun p => decide (128 ≤ p.2.1)) = true := by decide +kernel
  have hvowel : (decide (0x1161 ≤ b)) = false := by
    rw [decide_eq_false_iff_not]
    omega
  have htail : (decide (0x11a7 < b)) = false := by
    rw [decide_eq_false_iff_not]
    omega
  unfold compose?
  rw [hvowel, htail, Option.map_eq_none_iff.mpr]
  · simp
  · rw [List.find?_eq_none]
    intro p hp
    have hsecond := of_decide_eq_true (List.all_eq_true.mp hpairs p hp)
    simp only [Bool.and_eq_true, beq_iff_eq, not_and]
    omega

/-- An underscore composes with nothing after it. -/
theorem compose?_underscore (b : Nat) : compose? 95 b = none := by
  have hpairs : (pairs.all fun p => p.1 != 95) = true := by decide +kernel
  unfold compose?
  rw [if_neg (by simp), if_neg (by simp), Option.map_eq_none_iff, List.find?_eq_none]
  intro p hp
  have hfirst := List.all_eq_true.mp hpairs p hp
  simp only [bne_iff_ne] at hfirst
  simp [hfirst]

theorem combiningClass_of_lt {n : Nat} (h : n < 128) : combiningClass n = 0 := by
  rw [combiningClass, if_pos (by omega)]

theorem decomposed_append_of_lt {ns : List Nat} (h : ∀ n ∈ ns, n < 128) (ms : List Nat) :
    decomposed (ns ++ ms) = ns ++ decomposed ms := by
  have hparts : ns.flatMap parts = ns := by
    induction ns with
    | nil => rfl
    | cons n ns ih =>
      rw [List.flatMap_cons, ih fun m hm => h m (List.mem_cons_of_mem _ hm), parts,
        if_pos (h n List.mem_cons_self)]
      rfl
  rw [decomposed, List.flatMap_append, hparts]
  rfl

theorem ordered_append_of_lt {ns : List Nat} (h : ∀ n ∈ ns, n < 128) (ms : List Nat) :
    ordered (ns ++ ms) = ns ++ ordered ms := by
  unfold ordered
  induction ns with
  | nil => rfl
  | cons n ns ih =>
    rw [List.cons_append, orderedFrom, if_pos (combiningClass_of_lt (h n List.mem_cons_self)),
      ih fun m hm => h m (List.mem_cons_of_mem _ hm)]
    rfl

/-- What stands after an underscore is composed on its own. -/
theorem composedFrom_underscore (kept : List Nat) (last : Nat) (ns : List Nat) :
    composedFrom 95 kept last ns = 95 :: kept.reverse ++ composed ns := by
  induction ns generalizing kept last with
  | nil => simp [composedFrom, composed]
  | cons n ns ih =>
    rw [composedFrom, composed, compose?_underscore]
    by_cases hclass : combiningClass n = 0
    · simp [hclass]
    · simp [hclass, ih]

/-- What stands after ASCII characters and an underscore is composed on its own. -/
theorem composed_append_underscore {ns : List Nat} (h : ∀ n ∈ ns, n < 128) (ms : List Nat) :
    composed (ns ++ 95 :: ms) = ns ++ 95 :: composed ms := by
  induction ns with
  | nil =>
    rw [List.nil_append, composed, if_pos (combiningClass_of_lt (by decide)),
      composedFrom_underscore]
    rfl
  | cons n ns ih =>
    obtain ⟨hn, hns⟩ := List.forall_mem_cons.mp h
    have hfollows : ∃ m rest, ns ++ 95 :: ms = m :: rest ∧ m < 128 := by
      cases ns with
      | nil => exact ⟨95, ms, rfl, by decide⟩
      | cons m ns => exact ⟨m, _, rfl, hns m List.mem_cons_self⟩
    obtain ⟨m, rest, hrest, hm⟩ := hfollows
    have htail := ih hns
    rw [hrest, composed, if_pos (combiningClass_of_lt hm)] at htail
    rw [List.cons_append, hrest, composed, if_pos (combiningClass_of_lt hn), composedFrom]
    simp [compose?_of_lt hm, combiningClass_of_lt hm, htail]

end Compatibility

open Compatibility in
/-- **What stands after an ASCII text and an underscore** has its form on its own. -/
theorem compatibilityForm_append_underscore {front : String}
    (h : ∀ c ∈ front.toList, c.toNat < 128) (s : String) :
    compatibilityForm (front ++ "_" ++ s) = front ++ "_" ++ compatibilityForm s := by
  have hfront : (front.toList.all fun c => decide (c.toNat < 128)) = true :=
    List.all_eq_true.mpr fun c hc => decide_eq_true (h c hc)
  have htext : (front ++ "_" ++ s).toList = front.toList ++ '_' :: s.toList := by
    simp
  unfold compatibilityForm
  by_cases hs : (s.toList.all fun c => decide (c.toNat < 128)) = true
  · rw [if_pos hs, if_pos]
    rw [htext, List.all_append, hfront, List.all_cons, hs]
    decide
  · have hneg : ¬((front ++ "_" ++ s).toList.all fun c => decide (c.toNat < 128)) = true := by
      rw [htext, List.all_append, hfront, List.all_cons]
      simpa using hs
    rw [if_neg hs, if_neg hneg]
    have hcodes : ∀ n ∈ front.toList.map Char.toNat, n < 128 := by
      simpa using h
    have hall : ∀ n ∈ front.toList.map Char.toNat ++ [95], n < 128 := by
      intro n hn
      rcases List.mem_append.mp hn with hn | hn
      · exact hcodes n hn
      · rw [List.mem_singleton.mp hn]
        decide
    have hsplit : (front ++ "_" ++ s).toList.map Char.toNat =
        front.toList.map Char.toNat ++ [95] ++ s.toList.map Char.toNat := by
      rw [htext]
      simp
    have hform : composed (ordered (decomposed ((front ++ "_" ++ s).toList.map Char.toNat))) =
        front.toList.map Char.toNat ++ 95 ::
          composed (ordered (decomposed (s.toList.map Char.toNat))) := by
      rw [hsplit, decomposed_append_of_lt hall, ordered_append_of_lt hall, List.append_assoc]
      exact composed_append_underscore hcodes _
    have hsame : front.toList.map (Char.ofNat ∘ Char.toNat) = front.toList := by
      simp [Function.comp_def]
    dsimp only
    rw [hform, List.map_append, List.map_map, hsame, List.map_cons, ← List.singleton_append,
      String.ofList_append, String.ofList_append, String.ofList_toList, ← String.append_assoc]

end FragmentRoutes.Text
