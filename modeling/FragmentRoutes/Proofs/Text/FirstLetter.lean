import FragmentRoutes.Proofs.Text.IdentifierForm
import FragmentRoutes.Text.Digit

/-!
# The first letter of an identifier

No identifier starts with a decimal digit of any script (`not_isDecimal_of_startsIdentifier`).

The compatibility form of an identifier starts with an underscore only if the identifier does
(`head?_compatibilityForm_ne_underscore`): what stands for an underscore may not start an
identifier, marks are put in order behind the first letter, and no two characters compose to an
underscore.
-/

namespace FragmentRoutes.Text

/-! ### Digits -/

theorem misses_decimalZeros :
    (decimalZeros.all fun first => Ranges.misses startPoints.mask first 10) = true := by
  decide +kernel

/-- A decimal digit is one of ten from the zero of its run on. -/
theorem exists_decimalZero {c : Char} (h : isDecimal c = true) :
    ∃ first ∈ decimalZeros, first ≤ c.toNat ∧ c.toNat ≤ first + 9 := by
  rw [isDecimal, decimalValue?] at h
  split_ifs at h with hascii
  · simp only [isAsciiDigit, Bool.and_eq_true, decide_eq_true_eq, le_iff_toNat_le] at hascii
    exact ⟨0x30, by decide, hascii⟩
  · cases h
  · rw [Option.isSome_map] at h
    obtain ⟨first, hfound⟩ := Option.isSome_iff_exists.mp h
    have hbounds := List.find?_some hfound
    simp only [Bool.and_eq_true, decide_eq_true_eq] at hbounds
    exact ⟨first, List.mem_of_find?_eq_some hfound, hbounds⟩

/-- **No decimal digit** may start an identifier. -/
theorem not_isDecimal_of_startsIdentifier {c : Char} (h : startsIdentifier c = true) :
    isDecimal c = false := by
  rw [← Bool.not_eq_true]
  intro hdecimal
  obtain ⟨first, hfirst, hle, hge⟩ := exists_decimalZero hdecimal
  have hmisses := List.all_eq_true.mp misses_decimalZeros first hfirst
  have hout := Ranges.holds_of_misses hmisses hle (by omega)
  rw [← startsIdentifier_eq_holds, h] at hout
  cases hout

/-! ### Underscores -/

/-- The letter in front may start an identifier. -/
theorem SpellsIdentifier.exists_eq_cons {ns : List Nat} (h : SpellsIdentifier ns) :
    ∃ m ms, ns = m :: ms ∧ startPoints.holds m = true := by
  cases h with
  | intro hn => exact ⟨_, _, rfl, hn⟩

namespace Compatibility

/-- The tables have no underscore for the start of an identifier: a run that comes to an underscore
is that of one character, which may not start an identifier, and no characters expand to a text that
starts with an underscore, or compose to an underscore. -/
def avoidUnderscore : Bool :=
  (runs.all fun r => decide (95 < r.2.1) || decide (r.2.1 + r.2.2 ≤ 95) ||
    (r.2.2 == 1 && !startPoints.holds r.1)) &&
  (expansions.all fun e => e.2.head? != some 95) &&
  (pairs.all fun p => p.2.2 != 95)

theorem avoidUnderscore_eq_true : avoidUnderscore = true := by
  unfold avoidUnderscore
  rw [runs_eq_flatten, expansions_eq_flatten, pairs_eq_flatten]
  decide +kernel

/-- What a character that may start an identifier stands for does not start with an underscore. -/
theorem head?_parts_ne_underscore {n : Nat} (hn : startPoints.holds n = true) (hne : n ≠ 95) :
    (parts n).head? ≠ some 95 := by
  have htables := avoidUnderscore_eq_true
  simp only [avoidUnderscore, Bool.and_eq_true, List.all_eq_true, bne_iff_ne] at htables
  obtain ⟨⟨hruns, hexpansions⟩, -⟩ := htables
  have hsame : [n].head? ≠ some 95 := by simpa using hne
  unfold parts
  split
  · exact hsame
  split
  · rw [syllableParts]
    split_ifs
    · simp only [List.head?_cons, ne_eq, Option.some.injEq]
      omega
    · simp only [List.head?_cons, ne_eq, Option.some.injEq]
      omega
  split
  · rename_i r hfound
    have hbounds : (decide (r.1 ≤ n) && decide (n < r.1 + r.2.2)) = true := by
      simpa using List.find?_some hfound
    have hrun := hruns r (List.mem_of_find?_eq_some hfound)
    simp only [Bool.and_eq_true, Bool.or_eq_true, decide_eq_true_eq, beq_iff_eq, Bool.not_eq_true']
      at hbounds hrun
    intro heq
    have heq := Option.some.inj heq
    rcases hrun with (hbelow | habove) | ⟨hone, hstart⟩
    · omega
    · omega
    · -- the one character of the run may not start an identifier
      obtain rfl : n = r.1 := by omega
      rw [hn] at hstart
      cases hstart
  split
  · rename_i e hfound
    exact hexpansions e (List.mem_of_find?_eq_some hfound)
  · exact hsame

theorem compose?_ne_underscore {a b whole : Nat} (h : compose? a b = some whole) : whole ≠ 95 := by
  have htables := avoidUnderscore_eq_true
  simp only [avoidUnderscore, Bool.and_eq_true, List.all_eq_true, bne_iff_ne] at htables
  unfold compose? at h
  split at h
  · obtain rfl := Option.some.inj h
    omega
  split at h
  · rename_i hsyllable
    simp only [Bool.and_eq_true, decide_eq_true_eq] at hsyllable
    obtain rfl := Option.some.inj h
    omega
  · obtain ⟨p, hp, rfl⟩ := Option.map_eq_some_iff.mp h
    exact htables.2 p (List.mem_of_find?_eq_some hp)

/-- Composition makes no underscore of a letter in front. -/
theorem head?_composedFrom_ne_underscore {starter : Nat} (hstarter : starter ≠ 95)
    (kept : List Nat) (last : Nat) (ns : List Nat) :
    (composedFrom starter kept last ns).head? ≠ some 95 := by
  have hfirst : ∀ {starter : Nat} (rest : List Nat), starter ≠ 95 →
      (starter :: rest).head? ≠ some 95 := by
    intro starter rest hne
    simpa using hne
  induction ns generalizing starter kept last with
  | nil => exact hfirst _ hstarter
  | cons n ns ih =>
    rw [composedFrom]
    split
    · split
      · rename_i whole hwhole
        exact ih (compose?_ne_underscore hwhole) kept last
      · split_ifs
        · exact hfirst _ hstarter
        · exact ih hstarter _ _
    · split_ifs
      · exact hfirst _ hstarter
      · exact ih hstarter _ _

/-- What an identifier is decomposed, ordered and composed to starts with an underscore only if the
identifier does. -/
theorem head?_composed_ne_underscore {n : Nat} {ns : List Nat} (h : SpellsIdentifier (n :: ns))
    (hne : n ≠ 95) : (composed (ordered (decomposed (n :: ns)))).head? ≠ some 95 := by
  obtain ⟨hn, -⟩ := h
  obtain ⟨m, ms, hparts, hm⟩ :=
    ((holds_parts (holds_namePoints_of_startPoints hn)).2 hn).exists_eq_cons
  have hmne : m ≠ 95 := by
    have hhead := head?_parts_ne_underscore hn hne
    rw [hparts] at hhead
    simpa using hhead
  rw [decomposed, List.flatMap_cons, hparts, List.cons_append, ordered, orderedFrom,
    if_pos (combiningClass_of_holds hm), List.nil_append, composed,
    if_pos (combiningClass_of_holds hm)]
  exact head?_composedFrom_ne_underscore hmne [] 0 _

end Compatibility

open Compatibility in
/-- **The compatibility form of an identifier** starts with an underscore only if the identifier
does. -/
theorem head?_compatibilityForm_ne_underscore {s : String} (h : isIdentifier s = true)
    (hs : s.toList.head? ≠ some '_') : (compatibilityForm s).toList.head? ≠ some '_' := by
  rw [compatibilityForm]
  split_ifs
  · exact hs
  · have hspells := spellsIdentifier_of_isIdentifierChars h
    have hform := spellsIdentifier_composed (spellsIdentifier_ordered
      (spellsIdentifier_decomposed hspells))
    cases hchars : s.toList with
    | nil =>
      rw [hchars] at hspells
      cases hspells
    | cons c cs =>
      rw [hchars, List.map_cons] at hspells hform
      have hc : c.toNat ≠ 95 := by
        intro hc
        rw [hchars] at hs
        exact hs (congrArg some (Char.ofNat_toNat c ▸ hc ▸ rfl))
      have hhead := head?_composed_ne_underscore hspells hc
      rw [String.toList_ofList, List.map_cons, List.head?_map]
      intro heq
      obtain ⟨m, hm, hunderscore⟩ := Option.map_eq_some_iff.mp heq
      have hholds := hform.holds m (List.mem_of_head? hm)
      rw [hm] at hhead
      refine hhead (congrArg some ?_)
      rw [← toNat_ofNat_of_holds hholds, hunderscore]
      rfl

end FragmentRoutes.Text
