import FragmentRoutes.Proofs.Text.Compatibility
import FragmentRoutes.Proofs.Text.Identifier
import Mathlib.Data.Nat.Bitwise

/-!
# Identifiers keep their shape in compatibility form

The tables of the compatibility form and those of identifiers agree: what a character of identifiers
stands for, and what such characters compose to, may stand in an identifier again, and at its start
if the character may.  So the compatibility form of an identifier is an identifier
(`isIdentifier_compatibilityForm`).

The tables are compared as numbers, with one bit for each code point (`Ranges.mask`); range by range
they would have to be searched for every entry.
-/

namespace FragmentRoutes.Text

/-! ### Sets of code points as numbers -/

namespace Ranges

/-- Some range holds the code point. -/
def holds (rs : Ranges) (n : Nat) : Bool :=
  rs.any fun r => r.1 ≤ n && n ≤ r.2

theorem holds_append (rs rs' : Ranges) (n : Nat) :
    holds (rs ++ rs') n = (rs.holds n || rs'.holds n) :=
  List.any_append

theorem contains_eq_holds (rs : Ranges) (c : Char) : rs.contains c = rs.holds c.toNat :=
  rfl

/-- The number whose bits are a run of neighbours. -/
def bits (first count : Nat) : Nat :=
  (2 ^ count - 1) <<< first

theorem testBit_bits (first count n : Nat) :
    (bits first count).testBit n = (decide (first ≤ n) && decide (n < first + count)) := by
  rw [bits, Nat.testBit_shiftLeft, Nat.testBit_two_pow_sub_one]
  by_cases hle : first ≤ n
  · simp only [ge_iff_le, hle, decide_true, Bool.true_and, decide_eq_decide]
    omega
  · simp [hle]

/-- The number whose bits are the code points that the ranges hold. -/
def mask (rs : Ranges) : Nat :=
  rs.foldl (fun m r => m ||| bits r.1 (r.2 + 1 - r.1)) 0

theorem testBit_mask (rs : Ranges) (n : Nat) : rs.mask.testBit n = rs.holds n := by
  suffices h : ∀ m, (rs.foldl (fun m r => m ||| bits r.1 (r.2 + 1 - r.1)) m).testBit n =
      (m.testBit n || rs.holds n) by
    rw [mask, h, Nat.zero_testBit, Bool.false_or]
  induction rs with
  | nil => simp [holds]
  | cons r rs ih =>
    intro m
    have hrange : (bits r.1 (r.2 + 1 - r.1)).testBit n = (decide (r.1 ≤ n) && decide (n ≤ r.2)) := by
      rw [testBit_bits, Bool.eq_iff_iff]
      simp only [Bool.and_eq_true, decide_eq_true_eq]
      omega
    rw [List.foldl_cons, ih, Nat.testBit_or, hrange, Bool.or_assoc]
    rfl

/-- All bits of the run are in the number. -/
def covers (m first count : Nat) : Bool :=
  m &&& bits first count == bits first count

/-- No bit of the run is in the number. -/
def misses (m first count : Nat) : Bool :=
  m &&& bits first count == 0

section

variable {rs : Ranges} {first count n : Nat}

theorem holds_of_covers (h : covers rs.mask first count = true) (hle : first ≤ n)
    (hlt : n < first + count) : rs.holds n = true := by
  have hbit := congrArg (Nat.testBit · n) (beq_iff_eq.mp h)
  simpa [Nat.testBit_and, testBit_bits, testBit_mask, hle, hlt] using hbit

theorem holds_of_misses (h : misses rs.mask first count = true) (hle : first ≤ n)
    (hlt : n < first + count) : rs.holds n = false := by
  have hbit := congrArg (Nat.testBit · n) (beq_iff_eq.mp h)
  simpa [Nat.testBit_and, testBit_bits, testBit_mask, hle, hlt] using hbit

end

end Ranges

/-! ### The characters of identifiers -/

/-- The code points that may start an identifier. -/
def startPoints : Ranges :=
  [(65, 90), (95, 95), (97, 122)] ++ Identifier.startRanges

/-- The code points that may stand in an identifier. -/
def namePoints : Ranges :=
  startPoints ++ ([(48, 57)] ++ Identifier.followRanges)

theorem holds_namePoints_of_startPoints {n : Nat} (h : startPoints.holds n = true) :
    namePoints.holds n = true := by
  rw [namePoints, Ranges.holds_append, h, Bool.true_or]

/-- The tables list no ASCII characters, and only code points of characters. -/
theorem bounds_of_mem {r : Nat × Nat}
    (h : r ∈ Identifier.startRanges ++ Identifier.followRanges) :
    128 ≤ r.1 ∧ (r.2 < 0xd800 ∨ 0xdfff < r.1 ∧ r.2 < 0x110000) := by
  have htables : ((Identifier.startRanges ++ Identifier.followRanges).all fun r =>
      decide (128 ≤ r.1) &&
        (decide (r.2 < 0xd800) || (decide (0xdfff < r.1) && decide (r.2 < 0x110000)))) = true := by
    decide +kernel
  simpa using List.all_eq_true.mp htables r h

theorem le_of_holds {n : Nat}
    (h : Ranges.holds (Identifier.startRanges ++ Identifier.followRanges) n = true) : 128 ≤ n := by
  obtain ⟨r, hr, hn⟩ := List.any_eq_true.mp h
  rw [Bool.and_eq_true, decide_eq_true_eq] at hn
  exact (bounds_of_mem hr).1.trans hn.1

theorem le_iff_toNat_le (c d : Char) : c ≤ d ↔ c.toNat ≤ d.toNat := by
  rw [Char.le_def, UInt32.le_iff_toNat_le]
  rfl

theorem startsIdentifier_eq_holds (c : Char) :
    startsIdentifier c = startPoints.holds c.toNat := by
  have htable : (decide (128 ≤ c.toNat) && Identifier.startRanges.contains c) =
      Ranges.holds Identifier.startRanges c.toNat := by
    rw [Ranges.contains_eq_holds, Bool.and_eq_right_iff_imp]
    intro h
    exact decide_eq_true (le_of_holds (by rw [Ranges.holds_append, h, Bool.true_or]))
  have hascii : (isAsciiLetter c || c == '_') =
      Ranges.holds [(65, 90), (95, 95), (97, 122)] c.toNat := by
    rw [Bool.eq_iff_iff]
    have hunderscore : c = '_' ↔ c.toNat = 95 := by
      rw [← Char.toNat_inj]
      rfl
    simp only [isAsciiLetter, Ranges.holds, Bool.or_eq_true, Bool.and_eq_true, decide_eq_true_eq,
      beq_iff_eq, hunderscore, le_iff_toNat_le, Char.reduceToNat, List.any_cons, List.any_nil,
      Bool.or_false]
    omega
  rw [startsIdentifier, htable, hascii, startPoints, Ranges.holds_append]

theorem continuesIdentifier_eq_holds (c : Char) :
    continuesIdentifier c = namePoints.holds c.toNat := by
  have htable : (decide (128 ≤ c.toNat) && Identifier.followRanges.contains c) =
      Ranges.holds Identifier.followRanges c.toNat := by
    rw [Ranges.contains_eq_holds, Bool.and_eq_right_iff_imp]
    intro h
    exact decide_eq_true (le_of_holds (by rw [Ranges.holds_append, h, Bool.or_true]))
  have hdigit : isAsciiDigit c = Ranges.holds [(48, 57)] c.toNat := by
    rw [Bool.eq_iff_iff]
    simp only [isAsciiDigit, Ranges.holds, Bool.and_eq_true, decide_eq_true_eq, le_iff_toNat_le,
      Char.reduceToNat, List.any_cons, List.any_nil, Bool.or_false]
  rw [continuesIdentifier, htable, hdigit, startsIdentifier_eq_holds, namePoints,
    Ranges.holds_append, Ranges.holds_append, Bool.or_assoc]

/-- A code point of identifiers is that of a character. -/
theorem toNat_ofNat_of_holds {n : Nat} (h : namePoints.holds n = true) :
    (Char.ofNat n).toNat = n := by
  obtain ⟨r, hr, hn⟩ := List.any_eq_true.mp h
  simp only [Bool.and_eq_true, decide_eq_true_eq] at hn
  have hbounds : r.2 < 0xd800 ∨ 0xdfff < r.1 ∧ r.2 < 0x110000 := by
    by_cases htable : r ∈ Identifier.startRanges ++ Identifier.followRanges
    · exact (bounds_of_mem htable).2
    · have hascii : r ∈ [(65, 90), (95, 95), (97, 122), (48, 57)] := by
        simp only [namePoints, startPoints, List.mem_append, not_or] at hr htable
        simpa [htable, or_assoc] using hr
      simp only [List.mem_cons, List.not_mem_nil, or_false] at hascii
      rcases hascii with rfl | rfl | rfl | rfl <;> decide
  have hvalid : n.isValidChar := by
    rw [Nat.isValidChar]
    omega
  rw [Char.ofNat, dif_pos hvalid]
  rfl

/-! ### Code points that spell an identifier -/

/-- The code points are those of an identifier. -/
inductive SpellsIdentifier : List Nat → Prop where
  | intro {n : Nat} {ns : List Nat} (hn : startPoints.holds n = true)
    (hns : ∀ m ∈ ns, namePoints.holds m = true) : SpellsIdentifier (n :: ns)

theorem spellsIdentifier_of_isIdentifierChars {cs : List Char} (h : isIdentifierChars cs = true) :
    SpellsIdentifier (cs.map Char.toNat) := by
  cases cs with
  | nil => cases h
  | cons c cs =>
    rw [isIdentifierChars, Bool.and_eq_true, List.all_eq_true] at h
    refine .intro (startsIdentifier_eq_holds c ▸ h.1) fun m hm => ?_
    obtain ⟨d, hd, rfl⟩ := List.mem_map.mp hm
    exact continuesIdentifier_eq_holds d ▸ h.2 d hd

theorem SpellsIdentifier.isIdentifierChars {ns : List Nat} (h : SpellsIdentifier ns) :
    isIdentifierChars (ns.map Char.ofNat) = true := by
  cases h with
  | @intro n ns hn hns =>
    rw [List.map_cons, Text.isIdentifierChars, Bool.and_eq_true, List.all_eq_true]
    constructor
    · rw [startsIdentifier_eq_holds, toNat_ofNat_of_holds (holds_namePoints_of_startPoints hn)]
      exact hn
    · intro c hc
      obtain ⟨m, hm, rfl⟩ := List.mem_map.mp hc
      rw [continuesIdentifier_eq_holds, toNat_ofNat_of_holds (hns m hm)]
      exact hns m hm

theorem SpellsIdentifier.holds {ns : List Nat} (h : SpellsIdentifier ns) :
    ∀ n ∈ ns, namePoints.holds n = true := by
  cases h with
  | intro hn hns => exact List.forall_mem_cons.mpr ⟨holds_namePoints_of_startPoints hn, hns⟩

theorem SpellsIdentifier.append {ns ms : List Nat} (h : SpellsIdentifier ns)
    (hms : ∀ m ∈ ms, namePoints.holds m = true) : SpellsIdentifier (ns ++ ms) := by
  cases h with
  | intro hn hns => exact .intro hn (List.forall_mem_append.mpr ⟨hns, hms⟩)

/-! ### Characters and what they stand for -/

namespace Compatibility

open Ranges in
/-- The tables agree with the points that may start an identifier and those that may stand in one:
what letters stand for and compose to may stand in identifiers, and may start one if the letters
may; no letter that may start one is a mark; and the letters of Hangul may. -/
def agree (starts names : Nat) : Bool :=
  (runs.all fun r => covers names r.2.1 r.2.2 &&
    (misses starts r.1 r.2.2 || covers starts r.2.1 r.2.2)) &&
  (expansions.all fun e => (e.2.all fun n => covers names n 1) &&
    (misses starts e.1 1 || e.2.head?.any fun n => covers starts n 1)) &&
  (pairs.all fun p => covers names p.2.2 1 &&
    (misses starts p.1 1 || covers starts p.2.2 1)) &&
  (classes.all fun r => misses starts r.1 (r.2.1 + 1 - r.1)) &&
  covers starts 0x1100 0x149 && covers starts 0xac00 0x2ba4

-- all tables are compared in one go, so that the masks are computed once
theorem agree_mask : agree startPoints.mask namePoints.mask = true := by
  unfold agree
  rw [runs_eq_flatten, expansions_eq_flatten, pairs_eq_flatten]
  decide +kernel

theorem holds_of_covers_one {rs : Ranges} {n : Nat} (h : Ranges.covers rs.mask n 1 = true) :
    rs.holds n = true :=
  Ranges.holds_of_covers h le_rfl n.lt_succ_self

/-- A run of letters stands for a run of characters of identifiers, letters for letters. -/
theorem holds_image_of_mem_runs {r : Nat × Nat × Nat} (hr : r ∈ runs) {i : Nat} (hi : i < r.2.2) :
    namePoints.holds (r.2.1 + i) = true ∧
      (startPoints.holds (r.1 + i) = true → startPoints.holds (r.2.1 + i) = true) := by
  have htables := agree_mask
  simp only [agree, Bool.and_eq_true, List.all_eq_true, Bool.or_eq_true] at htables
  obtain ⟨hname, hstart⟩ := htables.1.1.1.1.1 r hr
  refine ⟨Ranges.holds_of_covers hname (by omega) (by omega), fun h => ?_⟩
  rcases hstart with hmisses | hcovers
  · rw [Ranges.holds_of_misses hmisses (by omega) (by omega)] at h
    cases h
  · exact Ranges.holds_of_covers hcovers (by omega) (by omega)

/-- A letter that stands for several characters stands for characters of identifiers, with a letter
in front if it may start an identifier. -/
theorem holds_of_mem_expansions {e : Nat × List Nat} (he : e ∈ expansions) :
    (∀ m ∈ e.2, namePoints.holds m = true) ∧
      (startPoints.holds e.1 = true → ∃ m ∈ e.2.head?, startPoints.holds m = true) := by
  have htables := agree_mask
  simp only [agree, Bool.and_eq_true, List.all_eq_true, Bool.or_eq_true] at htables
  obtain ⟨hnames, hstart⟩ := htables.1.1.1.1.2 e he
  refine ⟨fun m hm => holds_of_covers_one (hnames m hm), fun h => ?_⟩
  rcases hstart with hmisses | hhead
  · rw [Ranges.holds_of_misses hmisses le_rfl (by omega)] at h
    cases h
  · rw [Option.any_eq_true] at hhead
    obtain ⟨m, hm, hcovers⟩ := hhead
    exact ⟨m, hm, holds_of_covers_one hcovers⟩

/-- What two characters compose to may stand in an identifier, and may start one if the first of
them may. -/
theorem holds_of_mem_pairs {p : Nat × Nat × Nat} (hp : p ∈ pairs) :
    namePoints.holds p.2.2 = true ∧
      (startPoints.holds p.1 = true → startPoints.holds p.2.2 = true) := by
  have htables := agree_mask
  simp only [agree, Bool.and_eq_true, List.all_eq_true, Bool.or_eq_true] at htables
  obtain ⟨hname, hstart⟩ := htables.1.1.1.2 p hp
  refine ⟨holds_of_covers_one hname, fun h => ?_⟩
  rcases hstart with hmisses | hcovers
  · rw [Ranges.holds_of_misses hmisses le_rfl (by omega)] at h
    cases h
  · exact holds_of_covers_one hcovers

/-- A letter that may start an identifier is no mark. -/
theorem combiningClass_of_holds {n : Nat} (h : startPoints.holds n = true) :
    combiningClass n = 0 := by
  have htables := agree_mask
  simp only [agree, Bool.and_eq_true, List.all_eq_true] at htables
  have hnone : (classes.find? fun r => decide (r.1 ≤ n) && decide (n ≤ r.2.1)) = none := by
    rw [List.find?_eq_none]
    intro r hr hheld
    simp only [Bool.and_eq_true, decide_eq_true_eq] at hheld
    have hmiss := Ranges.holds_of_misses (htables.1.1.2 r hr) hheld.1 (by omega)
    rw [h] at hmiss
    cases hmiss
  rw [combiningClass, hnone]
  exact ite_self 0

/-- The letters of Hangul may all start an identifier. -/
theorem holds_hangul {n : Nat} (h : 0x1100 ≤ n ∧ n ≤ 0x1248 ∨ 0xac00 ≤ n ∧ n ≤ 0xd7a3) :
    startPoints.holds n = true := by
  have htables := agree_mask
  simp only [agree, Bool.and_eq_true] at htables
  rcases h with ⟨hle, hge⟩ | ⟨hle, hge⟩
  · exact Ranges.holds_of_covers htables.1.2 hle (by omega)
  · exact Ranges.holds_of_covers htables.2 hle (by omega)

theorem spellsIdentifier_syllableParts {n : Nat} (hle : 0xac00 ≤ n) (hge : n ≤ 0xd7a3) :
    SpellsIdentifier (syllableParts n) := by
  have hlead : startPoints.holds (0x1100 + (n - 0xac00) / 588) = true := holds_hangul (by omega)
  have hvowel : startPoints.holds (0x1161 + (n - 0xac00) % 588 / 28) = true :=
    holds_hangul (by omega)
  have htail : startPoints.holds (0x11a7 + (n - 0xac00) % 28) = true := holds_hangul (by omega)
  rw [syllableParts]
  by_cases hopen : (n - 0xac00) % 28 = 0
  · rw [if_pos hopen]
    exact .intro hlead (by simpa using holds_namePoints_of_startPoints hvowel)
  · rw [if_neg hopen]
    exact .intro hlead (by simpa using ⟨holds_namePoints_of_startPoints hvowel,
      holds_namePoints_of_startPoints htail⟩)

/-- What a character of identifiers stands for consists of such characters, and spells an identifier
if the character may start one. -/
theorem holds_parts {n : Nat} (h : namePoints.holds n = true) :
    (∀ m ∈ parts n, namePoints.holds m = true) ∧
      (startPoints.holds n = true → SpellsIdentifier (parts n)) := by
  have hsame : (∀ m ∈ [n], namePoints.holds m = true) ∧
      (startPoints.holds n = true → SpellsIdentifier [n]) :=
    ⟨by simpa using h, fun hstart => .intro hstart (by simp)⟩
  unfold parts
  split
  · exact hsame
  split
  · rename_i hsyllable
    simp only [Bool.and_eq_true, decide_eq_true_eq] at hsyllable
    have hspells := spellsIdentifier_syllableParts hsyllable.1 hsyllable.2
    exact ⟨hspells.holds, fun _ => hspells⟩
  split
  · rename_i r hfound
    have hmem : r ∈ runs := List.mem_of_find?_eq_some hfound
    have hbounds : (decide (r.1 ≤ n) && decide (n < r.1 + r.2.2)) = true := by
      simpa using List.find?_some hfound
    simp only [Bool.and_eq_true, decide_eq_true_eq] at hbounds
    have hplace : n - r.1 < r.2.2 := by omega
    obtain ⟨hname, hstart⟩ := holds_image_of_mem_runs hmem hplace
    rw [Nat.add_sub_cancel' hbounds.1] at hstart
    exact ⟨by simpa using hname, fun h => .intro (hstart h) (by simp)⟩
  split
  · rename_i e hfound
    have hmem : e ∈ expansions := List.mem_of_find?_eq_some hfound
    have hkey : (e.1 == n) = true := by simpa using List.find?_some hfound
    obtain rfl := beq_iff_eq.mp hkey
    obtain ⟨hnames, hstart⟩ := holds_of_mem_expansions hmem
    refine ⟨hnames, fun h => ?_⟩
    obtain ⟨m, hm, hholds⟩ := hstart h
    obtain ⟨ms, hms⟩ := List.head?_eq_some_iff.mp hm
    rw [hms] at hnames ⊢
    exact .intro hholds fun m' hm' => hnames m' (List.mem_cons_of_mem _ hm')
  · exact hsame

/-! ### Decomposing, ordering and composing identifiers -/

theorem spellsIdentifier_decomposed {ns : List Nat} (h : SpellsIdentifier ns) :
    SpellsIdentifier (decomposed ns) := by
  cases h with
  | @intro n ns hn hns =>
    have hfirst := (holds_parts (holds_namePoints_of_startPoints hn)).2 hn
    refine hfirst.append fun m hm => ?_
    obtain ⟨k, hk, hm⟩ := List.mem_flatMap.mp hm
    exact (holds_parts (hns k hk)).1 m hm

theorem insertMark_perm (n : Nat) (ms : List Nat) : (insertMark n ms).Perm (n :: ms) := by
  induction ms with
  | nil => exact .refl _
  | cons m ms ih =>
    rw [insertMark]
    split_ifs
    · exact .refl _
    · exact (ih.cons m).trans (.swap n m ms)

theorem orderedFrom_perm (marks ns : List Nat) : (orderedFrom marks ns).Perm (marks ++ ns) := by
  induction ns generalizing marks with
  | nil => simp [orderedFrom]
  | cons n ns ih =>
    rw [orderedFrom]
    split_ifs
    · exact ((ih []).cons n).append_left marks
    · exact (ih _).trans (((insertMark_perm n marks).append_right ns).trans List.perm_middle.symm)

/-- The letter in front stays there, and everything else is only put in order. -/
theorem spellsIdentifier_ordered {ns : List Nat} (h : SpellsIdentifier ns) :
    SpellsIdentifier (ordered ns) := by
  cases h with
  | @intro n ns hn hns =>
    rw [ordered, orderedFrom, if_pos (combiningClass_of_holds hn)]
    refine .intro hn fun m hm => hns m ?_
    exact (orderedFrom_perm [] ns).mem_iff.mp hm

theorem holds_compose? {a b whole : Nat} (h : compose? a b = some whole) :
    namePoints.holds whole = true ∧
      (startPoints.holds a = true → startPoints.holds whole = true) := by
  unfold compose? at h
  split at h
  · rename_i hjamo
    simp only [Bool.and_eq_true, decide_eq_true_eq] at hjamo
    obtain rfl := Option.some.inj h
    have hsyllable : startPoints.holds
        (0xac00 + ((a - 0x1100) * 21 + (b - 0x1161)) * 28) = true := holds_hangul (by omega)
    exact ⟨holds_namePoints_of_startPoints hsyllable, fun _ => hsyllable⟩
  split at h
  · rename_i hsyllable
    simp only [Bool.and_eq_true, decide_eq_true_eq] at hsyllable
    obtain rfl := Option.some.inj h
    have hwhole : startPoints.holds (a + (b - 0x11a7)) = true := holds_hangul (by omega)
    exact ⟨holds_namePoints_of_startPoints hwhole, fun _ => hwhole⟩
  · obtain ⟨p, hp, rfl⟩ := Option.map_eq_some_iff.mp h
    have hkey := List.find?_some hp
    simp only [Bool.and_eq_true, beq_iff_eq] at hkey
    obtain ⟨rfl, -⟩ := hkey
    exact holds_of_mem_pairs (List.mem_of_find?_eq_some hp)

/-- Composition goes on with characters of identifiers, and keeps a letter in front. -/
theorem holds_composedFrom {starter : Nat} {kept ns : List Nat} (last : Nat)
    (hstarter : namePoints.holds starter = true) (hkept : ∀ m ∈ kept, namePoints.holds m = true)
    (hns : ∀ m ∈ ns, namePoints.holds m = true) :
    (∀ m ∈ composedFrom starter kept last ns, namePoints.holds m = true) ∧
      (startPoints.holds starter = true →
        SpellsIdentifier (composedFrom starter kept last ns)) := by
  induction ns generalizing starter kept last with
  | nil =>
    have hreverse : ∀ m ∈ kept.reverse, namePoints.holds m = true := by simpa using hkept
    exact ⟨List.forall_mem_cons.mpr ⟨hstarter, hreverse⟩, fun hstart => .intro hstart hreverse⟩
  | cons n ns ih =>
    obtain ⟨hn, hns⟩ := List.forall_mem_cons.mp hns
    -- the next character is a letter, which composition goes on from
    have hletter : (∀ m ∈ starter :: kept.reverse ++ composedFrom n [] 0 ns,
          namePoints.holds m = true) ∧
        (startPoints.holds starter = true →
          SpellsIdentifier (starter :: kept.reverse ++ composedFrom n [] 0 ns)) := by
      have hrest : ∀ m ∈ kept.reverse ++ composedFrom n [] 0 ns, namePoints.holds m = true :=
        List.forall_mem_append.mpr ⟨by simpa using hkept, (ih 0 hn (by simp) hns).1⟩
      exact ⟨List.forall_mem_cons.mpr ⟨hstarter, hrest⟩, fun hstart => .intro hstart hrest⟩
    -- the next character is kept after the letter
    have hmark := ih (combiningClass n) hstarter (List.forall_mem_cons.mpr ⟨hn, hkept⟩) hns
    rw [composedFrom]
    split
    · split
      · rename_i whole hwhole
        obtain ⟨hname, hstart⟩ := holds_compose? hwhole
        obtain ⟨hall, hspells⟩ := ih last hname hkept hns
        exact ⟨hall, fun h => hspells (hstart h)⟩
      · split_ifs
        · exact hletter
        · exact hmark
    · split_ifs
      · exact hletter
      · exact hmark

theorem spellsIdentifier_composed {ns : List Nat} (h : SpellsIdentifier ns) :
    SpellsIdentifier (composed ns) := by
  cases h with
  | @intro n ns hn hns =>
    rw [composed, if_pos (combiningClass_of_holds hn)]
    exact (holds_composedFrom 0 (holds_namePoints_of_startPoints hn) (by simp) hns).2 hn

end Compatibility

open Compatibility in
/-- **The compatibility form of an identifier** is an identifier. -/
theorem isIdentifier_compatibilityForm {s : String} (h : isIdentifier s = true) :
    isIdentifier (compatibilityForm s) = true := by
  rw [compatibilityForm]
  split_ifs
  · exact h
  · rw [isIdentifier, String.toList_ofList]
    have hspells := spellsIdentifier_of_isIdentifierChars h
    exact (spellsIdentifier_composed (spellsIdentifier_ordered
      (spellsIdentifier_decomposed hspells))).isIdentifierChars

end FragmentRoutes.Text
