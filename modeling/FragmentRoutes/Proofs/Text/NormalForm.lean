import FragmentRoutes.Proofs.Text.Decomposition

/-!
# The compatibility form is a normal form

Marks that are put in order stay there, and composition moves a mark only past marks of other
classes, which does not change what they are ordered to.  So taking apart what was composed and
ordering its marks gives back what was composed (`ordered_decomposed_composed`), and the
compatibility form of an identifier is its own form (`compatibilityForm_compatibilityForm`).
-/

namespace FragmentRoutes.Text

namespace Compatibility

theorem decomposed_eq_self {ns : List Nat} (h : ∀ n ∈ ns, parts n = [n]) : decomposed ns = ns := by
  rw [decomposed, List.flatMap_congr h]
  exact List.flatMap_singleton' ns

theorem decomposed_cons (n : Nat) (ns : List Nat) :
    decomposed (n :: ns) = parts n ++ decomposed ns :=
  List.flatMap_cons

theorem decomposed_append (ns ms : List Nat) :
    decomposed (ns ++ ms) = decomposed ns ++ decomposed ms :=
  List.flatMap_append

/-! ### The order of marks -/

/-- Marks of different classes may be inserted in either order. -/
theorem insertMark_comm {a b : Nat} (h : combiningClass a ≠ combiningClass b) (ms : List Nat) :
    insertMark a (insertMark b ms) = insertMark b (insertMark a ms) := by
  induction ms with
  | nil =>
    rcases Nat.lt_or_gt_of_ne h with hlt | hlt
    · simp [insertMark, hlt, hlt.le]
    · simp [insertMark, hlt, hlt.le]
  | cons m ms ih =>
    by_cases ha : combiningClass a < combiningClass m
    · by_cases hb : combiningClass b < combiningClass m
      · rcases Nat.lt_or_gt_of_ne h with hlt | hlt
        · simp [insertMark, ha, hb, hlt, hlt.le]
        · simp [insertMark, ha, hb, hlt, hlt.le]
      · have hle : combiningClass a ≤ combiningClass b := by omega
        simp [insertMark, ha, hb, hle]
    · by_cases hb : combiningClass b < combiningClass m
      · have hle : combiningClass b ≤ combiningClass a := by omega
        simp [insertMark, ha, hb, hle]
      · simp [insertMark, ha, hb, ih]

/-- Neighbouring marks of different classes are put in order in whichever order they come. -/
theorem orderedFrom_swap {a b : Nat} (ha : combiningClass a ≠ 0) (hb : combiningClass b ≠ 0)
    (h : combiningClass a ≠ combiningClass b) (marks ns ms : List Nat) :
    orderedFrom marks (ns ++ a :: b :: ms) = orderedFrom marks (ns ++ b :: a :: ms) := by
  induction ns generalizing marks with
  | nil =>
    simp only [List.nil_append, orderedFrom, ha, hb, if_false]
    rw [insertMark_comm h]
  | cons n ns ih =>
    rw [List.cons_append, List.cons_append, orderedFrom, orderedFrom, ih, ih]

/-- A mark may move before marks of lower classes. -/
theorem ordered_move {n : Nat} {kept : List Nat}
    (h : ∀ m ∈ kept, combiningClass m ≠ 0 ∧ combiningClass m < combiningClass n)
    (ns ms : List Nat) : ordered (ns ++ n :: (kept ++ ms)) = ordered (ns ++ (kept ++ n :: ms)) := by
  induction kept generalizing ns with
  | nil => rfl
  | cons m kept ih =>
    obtain ⟨⟨hm, hlt⟩, hkept⟩ := List.forall_mem_cons.mp h
    have hswap := orderedFrom_swap (a := n) (b := m) (by omega) hm (by omega) [] ns (kept ++ ms)
    have hrest := ih hkept (ns ++ [m])
    rw [List.append_assoc, List.append_assoc] at hrest
    exact hswap.trans hrest

/-- Every mark is of the class `least` or a greater one, and so is every mark that follows one. -/
def InOrder (least : Nat) : List Nat → Prop
  | [] => True
  | n :: ns => (combiningClass n = 0 ∨ least ≤ combiningClass n) ∧ InOrder (combiningClass n) ns

theorem InOrder.of_le {least least' : Nat} {ns : List Nat} (h : InOrder least ns)
    (hle : least' ≤ least) : InOrder least' ns := by
  cases ns with
  | nil => trivial
  | cons n ns => exact ⟨h.1.imp_right hle.trans, h.2⟩

/-- A mark of a class that is not below the others is inserted behind them. -/
theorem insertMark_of_le {n : Nat} {ms : List Nat}
    (h : ∀ m ∈ ms, combiningClass m ≤ combiningClass n) : insertMark n ms = ms ++ [n] := by
  induction ms with
  | nil => rfl
  | cons m ms ih =>
    obtain ⟨hm, hms⟩ := List.forall_mem_cons.mp h
    rw [insertMark, if_neg (by omega), ih hms, List.cons_append]

/-- **Marks that are in order** stay where they are. -/
theorem orderedFrom_of_inOrder {least : Nat} {marks ns : List Nat}
    (hmarks : ∀ m ∈ marks, combiningClass m ≤ least) (h : InOrder least ns) :
    orderedFrom marks ns = marks ++ ns := by
  induction ns generalizing least marks with
  | nil => rw [orderedFrom, List.append_nil]
  | cons n ns ih =>
    rw [orderedFrom]
    split_ifs with hn
    · rw [ih (List.forall_mem_nil _) h.2, List.nil_append]
    · have hle := h.1.resolve_left hn
      have hbelow : ∀ m ∈ marks, combiningClass m ≤ combiningClass n :=
        fun m hm => (hmarks m hm).trans hle
      rw [insertMark_of_le hbelow, ih ?_ h.2, List.append_assoc, List.singleton_append]
      exact List.forall_mem_append.mpr ⟨hbelow, List.forall_mem_singleton.mpr le_rfl⟩

/-- The classes of the marks do not fall. -/
def Sorted (ms : List Nat) : Prop :=
  ms.Pairwise fun a b => combiningClass a ≤ combiningClass b

theorem sorted_insertMark {n : Nat} {ms : List Nat} (h : Sorted ms) : Sorted (insertMark n ms) := by
  induction ms with
  | nil => exact List.pairwise_singleton _ _
  | cons m ms ih =>
    obtain ⟨hm, hms⟩ := List.pairwise_cons.mp h
    rw [insertMark]
    split_ifs with hlt
    · refine List.pairwise_cons.mpr ⟨List.forall_mem_cons.mpr ⟨hlt.le, fun b hb => ?_⟩, h⟩
      exact hlt.le.trans (hm b hb)
    · refine List.pairwise_cons.mpr ⟨fun b hb => ?_, ih hms⟩
      rcases List.mem_cons.mp ((insertMark_perm n ms).mem_iff.mp hb) with rfl | hb
      · exact Nat.le_of_not_lt hlt
      · exact hm b hb

/-- Marks in order may stand before whatever is in order after any mark. -/
theorem inOrder_append {least : Nat} {ms ns : List Nat} (hms : Sorted ms)
    (hleast : ∀ m ∈ ms, least ≤ combiningClass m) (hns : ∀ least, InOrder least ns) :
    InOrder least (ms ++ ns) := by
  induction ms generalizing least with
  | nil => exact hns least
  | cons m ms ih =>
    obtain ⟨hm, hrest⟩ := List.pairwise_cons.mp hms
    exact ⟨.inr (hleast m List.mem_cons_self), ih hrest hm⟩

theorem inOrder_orderedFrom {marks : List Nat} (ns : List Nat) (hmarks : Sorted marks) :
    InOrder 0 (orderedFrom marks ns) := by
  induction ns generalizing marks with
  | nil =>
    have h : InOrder 0 (marks ++ []) :=
      inOrder_append hmarks (fun m _ => Nat.zero_le (combiningClass m)) fun _ => trivial
    rwa [List.append_nil] at h
  | cons n ns ih =>
    rw [orderedFrom]
    split_ifs with hn
    · refine inOrder_append hmarks (fun m _ => Nat.zero_le _) fun _ => ⟨.inl hn, ?_⟩
      rw [hn]
      exact ih List.Pairwise.nil
    · exact ih (sorted_insertMark hmarks)

theorem inOrder_ordered (ns : List Nat) : InOrder 0 (ordered ns) :=
  inOrder_orderedFrom ns List.Pairwise.nil

theorem ordered_of_inOrder {ns : List Nat} (h : InOrder 0 ns) : ordered ns = ns :=
  orderedFrom_of_inOrder (List.forall_mem_nil _) h

/-! ### Taking apart what is composed -/

/-- A mark that may compose with the letter is of a greater class than all that are kept. -/
theorem below_of_free {n last : Nat} {kept : List Nat}
    (hkept : ∀ m ∈ kept, parts m = [m] ∧ combiningClass m ≠ 0 ∧ combiningClass m ≤ last)
    (hlast : kept = [] → last = 0)
    (h : (kept.isEmpty || (decide (last < combiningClass n) && last != 0)) = true) :
    last ≤ combiningClass n ∧
      ∀ m ∈ kept, combiningClass m ≠ 0 ∧ combiningClass m < combiningClass n := by
  rw [Bool.or_eq_true, List.isEmpty_iff, Bool.and_eq_true, decide_eq_true_eq] at h
  rcases h with rfl | ⟨hlt, -⟩
  · rw [hlast rfl]
    exact ⟨Nat.zero_le _, List.forall_mem_nil _⟩
  · exact ⟨hlt.le, fun m hm => (hkept m hm).2.imp_right fun hle => hle.trans_lt hlt⟩

/-- Composition after a letter only puts the letter and later marks together, which moves them past
marks of lower classes. -/
theorem ordered_decomposed_composedFrom {starter last : Nat} {kept ns : List Nat}
    (hkept : ∀ m ∈ kept, parts m = [m] ∧ combiningClass m ≠ 0 ∧ combiningClass m ≤ last)
    (hlast : kept = [] → last = 0) (hplain : ∀ n ∈ ns, parts n = [n]) (hns : InOrder last ns)
    (front : List Nat) :
    ordered (front ++ decomposed (composedFrom starter kept last ns)) =
      ordered (front ++ (parts starter ++ (kept.reverse ++ ns))) := by
  have hreverse : decomposed kept.reverse = kept.reverse :=
    decomposed_eq_self fun n hn => (hkept n (List.mem_reverse.mp hn)).1
  induction ns generalizing starter kept last front with
  | nil => rw [composedFrom, List.append_nil, decomposed_cons, hreverse]
  | cons n ns ih =>
    obtain ⟨hn, hplain⟩ := List.forall_mem_cons.mp hplain
    -- the next character is a letter, which composition goes on from
    have hletter (hzero : combiningClass n = 0) :
        ordered (front ++ decomposed (starter :: kept.reverse ++ composedFrom n [] 0 ns)) =
          ordered (front ++ (parts starter ++ (kept.reverse ++ n :: ns))) := by
      have hrest := @ih n 0 [] (List.forall_mem_nil _) (fun _ => rfl) hplain (hzero ▸ hns.2)
        (front ++ (parts starter ++ kept.reverse)) rfl
      rw [hn, List.reverse_nil, List.nil_append, List.singleton_append] at hrest
      rw [List.cons_append, decomposed_cons, decomposed_append, hreverse]
      simpa only [List.append_assoc] using hrest
    -- the next character is kept after the letter
    have hmark (hclass : combiningClass n ≠ 0) :
        ordered (front ++ decomposed (composedFrom starter (n :: kept) (combiningClass n) ns)) =
          ordered (front ++ (parts starter ++ (kept.reverse ++ n :: ns))) := by
      have hle : last ≤ combiningClass n := hns.1.resolve_left hclass
      have hkept' : ∀ m ∈ n :: kept,
          parts m = [m] ∧ combiningClass m ≠ 0 ∧ combiningClass m ≤ combiningClass n :=
        List.forall_mem_cons.mpr ⟨⟨hn, hclass, le_rfl⟩, fun m hm =>
          (hkept m hm).imp_right (And.imp_right fun hbelow => hbelow.trans hle)⟩
      have hreverse' : decomposed (n :: kept).reverse = (n :: kept).reverse :=
        decomposed_eq_self fun m hm => (hkept' m (List.mem_reverse.mp hm)).1
      rw [ih hkept' (by simp) hplain hns.2 front hreverse', List.reverse_cons, List.append_assoc,
        List.singleton_append]
    rw [composedFrom]
    split
    · rename_i hfree
      split
      · rename_i whole hwhole
        obtain ⟨hle, hbelow⟩ := below_of_free hkept hlast hfree
        have hbelow' : ∀ m ∈ kept.reverse,
            combiningClass m ≠ 0 ∧ combiningClass m < combiningClass n :=
          fun m hm => hbelow m (List.mem_reverse.mp hm)
        have hmove := ordered_move hbelow' (front ++ parts starter) ns
        rw [ih hkept hlast hplain (hns.2.of_le hle) front hreverse, parts_of_compose? hwhole]
        simpa only [List.append_assoc, List.singleton_append] using hmove
      · split_ifs with hzero
        · exact hletter hzero
        · exact hmark hzero
    · split_ifs with hzero
      · exact hletter hzero
      · exact hmark hzero

theorem ordered_append_decomposed_composed {least : Nat} {ns : List Nat}
    (hplain : ∀ n ∈ ns, parts n = [n]) (hns : InOrder least ns) (front : List Nat) :
    ordered (front ++ decomposed (composed ns)) = ordered (front ++ ns) := by
  induction ns generalizing least front with
  | nil => rfl
  | cons n ns ih =>
    obtain ⟨hn, hplain⟩ := List.forall_mem_cons.mp hplain
    rw [composed]
    split_ifs with hzero
    · rw [ordered_decomposed_composedFrom (List.forall_mem_nil _) (fun _ => rfl) hplain
        (hzero ▸ hns.2), hn]
      rfl
    · -- a mark before the first letter
      have hrest := ih hplain hns.2 (front ++ [n])
      rw [List.append_assoc, List.append_assoc] at hrest
      rw [decomposed_cons, hn]
      exact hrest

/-- **Taking apart what was composed**, and ordering its marks, gives back what was composed. -/
theorem ordered_decomposed_composed {ns : List Nat} (hplain : ∀ n ∈ ns, parts n = [n])
    (hns : InOrder 0 ns) : ordered (decomposed (composed ns)) = ns :=
  (ordered_append_decomposed_composed hplain hns []).trans (ordered_of_inOrder hns)

/-- What is put in order after being taken apart stands for itself. -/
theorem parts_of_mem_ordered_decomposed {ns : List Nat} :
    ∀ n ∈ ordered (decomposed ns), parts n = [n] := by
  intro n hn
  obtain ⟨m, -, hm⟩ := List.mem_flatMap.mp ((orderedFrom_perm [] (decomposed ns)).mem_iff.mp hn)
  exact parts_of_mem_parts hm

end Compatibility

open Compatibility in
/-- **The compatibility form of an identifier** is its own form. -/
theorem compatibilityForm_compatibilityForm {s : String} (h : isIdentifier s = true) :
    compatibilityForm (compatibilityForm s) = compatibilityForm s := by
  by_cases hascii : (s.toList.all fun c => c.toNat < 128) = true
  · have hsame : compatibilityForm s = s := by rw [compatibilityForm, if_pos hascii]
    rw [hsame, hsame]
  have hspells := spellsIdentifier_composed (spellsIdentifier_ordered
    (spellsIdentifier_decomposed (spellsIdentifier_of_isIdentifierChars h)))
  set form := composed (ordered (decomposed (s.toList.map Char.toNat))) with hform
  have hs : compatibilityForm s = String.ofList (form.map Char.ofNat) := by
    rw [compatibilityForm, if_neg hascii]
  have hcodes : (form.map Char.ofNat).map Char.toNat = form := by
    rw [List.map_map]
    exact (List.map_congr_left fun n hn => toNat_ofNat_of_holds (hspells.holds n hn)).trans
      (List.map_id form)
  rw [hs]
  by_cases hascii' : ((form.map Char.ofNat).all fun c => c.toNat < 128) = true
  · rw [compatibilityForm, String.toList_ofList, if_pos hascii']
  · rw [compatibilityForm, String.toList_ofList, if_neg hascii', hcodes]
    have hback := ordered_decomposed_composed parts_of_mem_ordered_decomposed
      (inOrder_ordered (decomposed (s.toList.map Char.toNat)))
    rw [← hform] at hback
    dsimp only
    rw [hback, ← hform]

end FragmentRoutes.Text
