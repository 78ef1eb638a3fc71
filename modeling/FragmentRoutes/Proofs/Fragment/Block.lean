import FragmentRoutes.Proofs.Except
import FragmentRoutes.Proofs.Fragment.Marker

/-!
# Cutting files into blocks

A file with blocks is a row of passages, each a gap, the marker that opens a block, the text of the
block and the marker that closes it, and a last gap (`assemble`).  Cutting such a file gives the
blocks in order if no gap and no text of a block holds the start of a comment and the names are
distinct and do not hold their quotes (`splitWithin_assemble`).  Whatever file is cut, it is put
together like this from the blocks that are cut out of it, whose texts hold no markers
(`exists_assemble_of_splitWithin`): nothing is lost and nothing goes from one block to another
(`split_assembles`).
-/

namespace FragmentRoutes.Block

/-! ### The first marker -/

section

variable {α : Type} {marker : List Char → Option α} {before : List Char} {found : α}

/-- **The first marker**: it stands where it is found, and nowhere before. -/
theorem find?_eq_some {cs : List Char} (h : find? marker cs = some (before, found)) :
    ∃ rest, cs = before ++ rest ∧ marker rest = some found ∧
      ∀ front back, before = front ++ back → back ≠ [] → marker (back ++ rest) = none := by
  induction cs generalizing before with
  | nil => cases h
  | cons c cs ih =>
    rw [find?] at h
    split at h
    · rename_i hhere
      simp only [Option.some.injEq, Prod.mk.injEq] at h
      obtain ⟨rfl, rfl⟩ := h
      refine ⟨c :: cs, rfl, hhere, fun front back hback hne => ?_⟩
      exact absurd (List.append_eq_nil_iff.mp hback.symm).2 hne
    · rename_i hnone
      obtain ⟨⟨before, x⟩, hfind, heq⟩ := Option.map_eq_some_iff.mp h
      simp only [Prod.mk.injEq] at heq
      obtain ⟨rfl, rfl⟩ := heq
      obtain ⟨rest, rfl, hrest, hfirst⟩ := ih hfind
      refine ⟨rest, rfl, hrest, fun front back hback hne => ?_⟩
      cases front with
      | nil =>
        rw [List.nil_append] at hback
        rw [← hback]
        exact hnone
      | cons d front => exact hfirst front back (List.cons.inj hback).2 hne

/-- Where no marker is found none stands. -/
theorem eq_none_of_find?_eq_none {cs : List Char} (h : find? marker cs = none)
    (front : List Char) {back : List Char} (hcs : cs = front ++ back) (hne : back ≠ []) :
    marker back = none := by
  induction front generalizing cs with
  | nil =>
    obtain ⟨c, back, rfl⟩ := List.exists_cons_of_ne_nil hne
    rw [hcs, List.nil_append, find?] at h
    split at h
    · cases h
    · assumption
  | cons c front ih =>
    rw [hcs, List.cons_append, find?] at h
    split at h
    · cases h
    · exact ih (Option.map_eq_none_iff.mp h) rfl

/-- The start of a comment does not stand in the characters. -/
def HasNoComment (cs : List Char) : Prop :=
  ¬['\x7b', '#'] <:+: cs

/-- The marker is a comment. -/
def IsComment (marker : List Char → Option α) : Prop :=
  ∀ cs, (marker cs).isSome = true → ['\x7b', '#'] <+: cs

theorem HasNoComment.tail {c : Char} {cs : List Char} (h : HasNoComment (c :: cs)) :
    HasNoComment cs :=
  fun hcs => h (hcs.trans (List.suffix_cons c cs).isInfix)

/-- Nothing is found in a text without comments. -/
theorem find?_eq_none (hmarker : IsComment marker) {cs : List Char} (h : HasNoComment cs) :
    find? marker cs = none := by
  induction cs with
  | nil => rfl
  | cons c cs ih =>
    have hhere : marker (c :: cs) = none := by
      rw [← Option.not_isSome_iff_eq_none]
      exact fun hsome => h (hmarker _ hsome).isInfix
    rw [find?, hhere, ih h.tail]
    rfl

/-- **A marker after a text without comments is found** with the text before it. -/
theorem find?_append (hmarker : IsComment marker) {gap tail : List Char} (hgap : HasNoComment gap)
    (hhere : marker ('\x7b' :: tail) = some found) :
    find? marker (gap ++ '\x7b' :: tail) = some (gap, found) := by
  induction gap with
  | nil => rw [List.nil_append, find?, hhere]
  | cons c gap ih =>
    -- no comment starts in the gap, nor with its last character and the brace after it
    have hnone : marker (c :: (gap ++ '\x7b' :: tail)) = none := by
      rw [← Option.not_isSome_iff_eq_none]
      intro hsome
      have hstart := hmarker _ hsome
      cases gap with
      | nil =>
        rw [List.nil_append, List.cons_prefix_cons, List.cons_prefix_cons] at hstart
        exact absurd hstart.2.1 (by decide)
      | cons d gap =>
        rw [List.cons_append, List.cons_prefix_cons, List.cons_prefix_cons] at hstart
        refine hgap ⟨[], gap, ?_⟩
        rw [hstart.1, hstart.2.1]
        rfl
    rw [List.cons_append, find?, hnone, ih hgap.tail]
    rfl

end

theorem isComment_openMarker? : IsComment openMarker? := by
  intro cs h
  obtain ⟨⟨name, rest⟩, hsome⟩ := Option.isSome_iff_exists.mp h
  obtain ⟨quote, marker, ⟨-, -, -, frame, blanks, -, -, rfl⟩, rfl⟩ := openMarker?_eq_some hsome
  exact ⟨_, rfl⟩

theorem isComment_closeMarker? : IsComment closeMarker? := by
  intro cs h
  obtain ⟨rest, hsome⟩ := Option.isSome_iff_exists.mp h
  obtain ⟨marker, ⟨frame, rfl⟩, rfl⟩ := closeMarker?_eq_some hsome
  exact ⟨_, rfl⟩

/-- Where no marker that opens a block is found there is none. -/
theorem hasNoOpening_of_find? {cs : List Char} (h : find? openMarker? cs = none) :
    HasNoOpening cs := by
  rintro quote name marker hmarker ⟨front, back, rfl⟩
  have hassoc : front ++ marker ++ back = front ++ (marker ++ back) := List.append_assoc _ _ _
  have hnone := eq_none_of_find?_eq_none h front hassoc
    (by obtain ⟨tail, rfl⟩ := hmarker.eq_cons; simp)
  have hsome := isSome_openMarker? hmarker back
  rw [hnone] at hsome
  cases hsome

/-- There is no marker that opens a block before the first that is found. -/
theorem hasNoOpening_before {cs before : List Char} {found : String × List Char}
    (h : find? openMarker? cs = some (before, found)) : HasNoOpening before := by
  rintro quote name marker hmarker ⟨front, back, rfl⟩
  obtain ⟨rest, -, -, hfirst⟩ := find?_eq_some h
  have hnone := hfirst front (marker ++ back) (List.append_assoc _ _ _)
    (by obtain ⟨tail, rfl⟩ := hmarker.eq_cons; simp)
  have hsome := isSome_openMarker? hmarker (back ++ rest)
  rw [← List.append_assoc, hnone] at hsome
  cases hsome

/-- There is no marker that closes a block before the first that is found. -/
theorem hasNoClosing_before {cs before rest : List Char}
    (h : find? closeMarker? cs = some (before, rest)) : HasNoClosing before := by
  rintro marker hmarker ⟨front, back, rfl⟩
  obtain ⟨rest, -, -, hfirst⟩ := find?_eq_some h
  have hnone := hfirst front (marker ++ back) (List.append_assoc _ _ _)
    (by obtain ⟨tail, rfl⟩ := hmarker.eq_cons; simp)
  have hsome := closeMarker?_append hmarker (back ++ rest)
  rw [← List.append_assoc, hnone] at hsome
  cases hsome

/-! ### Files with blocks -/

/-- A block of a file with the markers around it and the gap before it. -/
structure Passage where
  gap : List Char
  opening : List Char
  block : Block
  closing : List Char

/-- The characters of a passage. -/
def Passage.text (p : Passage) : List Char :=
  p.gap ++ p.opening ++ p.block.body.toList ++ p.closing

/-- The characters of a file: its passages, and the gap after them. -/
def assemble (passages : List Passage) (last : List Char) : List Char :=
  passages.flatMap Passage.text ++ last

/-- The markers of a passage, of which the first has the name of the block. -/
structure Passage.IsMarked (p : Passage) : Prop where
  opening : ∃ quote, IsOpening quote p.block.name p.opening
  closing : IsClosing p.closing

/-- A passage as it is **written**: the name does not hold its quote, and neither the gap nor the
text of the block holds the start of a comment. -/
structure Passage.IsPlain (p : Passage) : Prop where
  opening : ∃ quote, IsOpening quote p.block.name p.opening ∧ quote ∉ p.block.name.toList
  closing : IsClosing p.closing
  gap : HasNoComment p.gap
  body : HasNoComment p.block.body.toList

/-- A passage as it is **cut out**: it has its markers, and there are no others in it. -/
structure Passage.IsTight (p : Passage) : Prop extends p.IsMarked where
  gap : HasNoOpening p.gap
  noOpening : HasNoOpening p.block.body.toList
  noClosing : HasNoClosing p.block.body.toList

theorem assemble_cons (p : Passage) (passages : List Passage) (last : List Char) :
    assemble (p :: passages) last = p.text ++ assemble passages last := by
  rw [assemble, List.flatMap_cons, List.append_assoc, assemble]

theorem length_assemble_cons (p : Passage) (h : IsClosing p.closing) (passages : List Passage)
    (last : List Char) :
    (assemble passages last).length + 1 ≤ (assemble (p :: passages) last).length := by
  obtain ⟨tail, htail⟩ := h.eq_cons
  rw [assemble_cons, Passage.text, htail]
  simp only [List.length_append, List.length_cons]
  omega

/-! ### One block -/

/-- The first block of a file that begins with a plain passage is that of the passage. -/
theorem find?_of_isPlain {p : Passage} (h : p.IsPlain) (rest : List Char) :
    ∃ afterOpen, find? openMarker? (p.text ++ rest) = some (p.gap, p.block.name, afterOpen) ∧
      find? closeMarker? afterOpen = some (p.block.body.toList, rest) ∧
        find? openMarker? p.block.body.toList = none := by
  obtain ⟨quote, hopening, hquote⟩ := h.opening
  refine ⟨p.block.body.toList ++ p.closing ++ rest, ?_, ?_,
    find?_eq_none isComment_openMarker? h.body⟩
  · obtain ⟨tail, htail⟩ := hopening.eq_cons
    have hread := openMarker?_append hopening hquote (p.block.body.toList ++ p.closing ++ rest)
    have htext : p.text ++ rest = p.gap ++ (p.opening ++
        (p.block.body.toList ++ p.closing ++ rest)) := by
      simp only [Passage.text, List.append_assoc]
    rw [htail, List.cons_append] at hread
    rw [htext, htail, List.cons_append]
    exact find?_append isComment_openMarker? h.gap hread
  · obtain ⟨tail, htail⟩ := h.closing.eq_cons
    have hread := closeMarker?_append h.closing rest
    rw [htail, List.cons_append] at hread
    rw [htail, List.append_assoc, List.cons_append]
    exact find?_append isComment_closeMarker? h.body hread

/-- What is cut out first is a tight passage. -/
theorem isTight_of_find? {cs gap afterOpen body rest : List Char} {name : String}
    (hopen : find? openMarker? cs = some (gap, name, afterOpen))
    (hclose : find? closeMarker? afterOpen = some (body, rest))
    (hnested : find? openMarker? body = none) :
    ∃ p : Passage, p.IsTight ∧ p.block = ⟨name, String.ofList body⟩ ∧ cs = p.text ++ rest := by
  obtain ⟨fromOpen, rfl, hfromOpen, -⟩ := find?_eq_some hopen
  obtain ⟨quote, opening, hopening, rfl⟩ := openMarker?_eq_some hfromOpen
  obtain ⟨fromClose, rfl, hfromClose, -⟩ := find?_eq_some hclose
  obtain ⟨closing, hclosing, rfl⟩ := closeMarker?_eq_some hfromClose
  refine ⟨⟨gap, opening, ⟨name, String.ofList body⟩, closing⟩, ⟨⟨⟨quote, hopening⟩, hclosing⟩,
    hasNoOpening_before hopen, ?_, ?_⟩, rfl, ?_⟩
  · rw [String.toList_ofList]
    exact hasNoOpening_of_find? hnested
  · rw [String.toList_ofList]
    exact hasNoClosing_before hclose
  · simp only [Passage.text, String.toList_ofList, List.append_assoc]

/-! ### All blocks -/

/-- **Cutting undoes assembling**, after blocks of other names. -/
theorem splitWithin_assemble {passages : List Passage} {last : List Char} {seen : List String}
    {fuel : Nat} (hplain : ∀ p ∈ passages, p.IsPlain)
    (hnodup : (passages.map (·.block.name)).Nodup)
    (hseen : ∀ p ∈ passages, p.block.name ∉ seen) (hlast : HasNoComment last)
    (hfuel : (assemble passages last).length ≤ fuel) :
    splitWithin seen fuel (assemble passages last) = .ok (passages.map (·.block)) := by
  induction passages generalizing seen fuel with
  | nil =>
    cases fuel with
    | zero => rfl
    | succ fuel =>
      have hnone : find? openMarker? (assemble [] last) = none :=
        find?_eq_none isComment_openMarker? hlast
      rw [splitWithin, hnone]
      rfl
  | cons p passages ih =>
    rw [List.forall_mem_cons] at hplain hseen
    rw [List.map_cons, List.nodup_cons] at hnodup
    have hlength := length_assemble_cons p hplain.1.closing passages last
    obtain ⟨fuel, rfl⟩ : ∃ n, fuel = n + 1 := ⟨fuel - 1, by omega⟩
    obtain ⟨afterOpen, hopen, hclose, hnested⟩ :=
      find?_of_isPlain hplain.1 (assemble passages last)
    have hnew : ¬seen.contains p.block.name = true := by simpa using hseen.1
    have hrest : splitWithin (p.block.name :: seen) fuel (assemble passages last) =
        .ok (passages.map (·.block)) := by
      refine ih hplain.2 hnodup.2 (fun q hq => ?_) (by omega)
      rw [List.mem_cons, not_or]
      exact ⟨fun heq => hnodup.1 (heq ▸ List.mem_map_of_mem hq), hseen.2 q hq⟩
    rw [assemble_cons, splitWithin, hopen]
    dsimp only
    rw [hclose]
    dsimp only
    rw [hnested]
    dsimp only
    rw [if_neg hnew, hrest, String.ofList_toList]
    rfl

/-- **A file that is cut is put together** of the blocks that are cut out of it. -/
theorem exists_assemble_of_splitWithin {cs : List Char} {seen : List String} {fuel : Nat}
    {blocks : List Block} (hfuel : cs.length ≤ fuel) (h : splitWithin seen fuel cs = .ok blocks) :
    ∃ passages last, cs = assemble passages last ∧ passages.map (·.block) = blocks ∧
      (∀ p ∈ passages, p.IsTight) ∧ HasNoOpening last := by
  induction fuel generalizing cs seen blocks with
  | zero =>
    cases h
    obtain rfl := List.length_eq_zero_iff.mp (Nat.le_zero.mp hfuel)
    refine ⟨[], [], rfl, rfl, by simp, ?_⟩
    exact hasNoOpening_of_find? rfl
  | succ fuel ih =>
    rw [splitWithin] at h
    split at h
    · rename_i hnone
      cases h
      exact ⟨[], cs, rfl, rfl, by simp, hasNoOpening_of_find? hnone⟩
    · rename_i gap name afterOpen hopen
      split at h
      · cases h
      · rename_i body rest hclose
        split at h
        · cases h
        · rename_i hnested
          split_ifs at h
          obtain ⟨p, hp, hblock, rfl⟩ := isTight_of_find? hopen hclose hnested
          obtain ⟨blocks, hblocks, heq⟩ := Except.bind_eq_ok.mp h
          cases heq
          have hlength : rest.length ≤ fuel := by
            obtain ⟨tail, htail⟩ := hp.closing.eq_cons
            rw [Passage.text, htail] at hfuel
            simp only [List.length_append, List.length_cons] at hfuel
            omega
          obtain ⟨passages, last, rfl, rfl, hpassages, hlast⟩ := ih hlength hblocks
          refine ⟨p :: passages, last, (assemble_cons _ _ _).symm, ?_,
            List.forall_mem_cons.mpr ⟨hp, hpassages⟩, hlast⟩
          rw [List.map_cons, hblock]

/-! ### Files -/

/-- **Cutting a file into blocks undoes putting it together, and loses no text.**  A file put
together of plain passages with distinct names gives their blocks in order.  And every file that is
cut without a fault is put together of passages with the blocks that are cut out of it: no text of a
block holds a marker, and no gap one that opens a block. -/
theorem split_assembles :
    (∀ passages last, (∀ p ∈ passages, p.IsPlain) → (passages.map (·.block.name)).Nodup →
      HasNoComment last →
      split (String.ofList (assemble passages last)) = .ok (passages.map (·.block))) ∧
    ∀ source blocks, split source = .ok blocks →
      ∃ passages last, source.toList = assemble passages last ∧ passages.map (·.block) = blocks ∧
        (∀ p ∈ passages, p.IsTight) ∧ HasNoOpening last := by
  constructor
  · intro passages last hplain hnodup hlast
    rw [split, String.toList_ofList]
    exact splitWithin_assemble hplain hnodup (fun _ _ => List.not_mem_nil) hlast (Nat.le_refl _)
  · intro source blocks h
    rw [split] at h
    exact exists_assemble_of_splitWithin (Nat.le_refl _) h

/-- A passage with a gap, a name in single quotes and a hyphen at either end of its markers. -/
def menuPassage : Passage :=
  ⟨"Menu:\n".toList, "\x7b#- define 'GET /menu' -#\x7d".toList, ⟨"GET /menu", "<nav> "⟩,
    "\x7b#- end -#\x7d".toList⟩

/-- A passage without a gap, with a name in double quotes that holds a single one. -/
def hintPassage : Passage :=
  ⟨[], "\x7b#define\n\"it's\"#\x7d".toList, ⟨"it's", "\x7b \x7d"⟩, "\x7b#end#\x7d".toList⟩

/-- A file with two passages is cut into their blocks, and it is put together of passages with
these blocks. -/
theorem split_assembles_menu :
    split (String.ofList (assemble [menuPassage, hintPassage] ['\n'])) =
        .ok [menuPassage.block, hintPassage.block] ∧
      ∃ passages last, assemble [menuPassage, hintPassage] ['\n'] = assemble passages last ∧
        passages.map (·.block) = [menuPassage.block, hintPassage.block] ∧
          (∀ p ∈ passages, p.IsTight) ∧ HasNoOpening last := by
  have hspace : ∀ c ∈ [' '], Text.isBlank c = true := List.forall_mem_singleton.mpr rfl
  have hmenu : menuPassage.IsPlain :=
    ⟨⟨'\'', ⟨.inr rfl, by decide, by decide,
      ⟨true, [' '], [' '], true, hspace, hspace⟩, [' '], by decide, hspace, rfl⟩, by decide⟩,
      ⟨⟨true, [' '], [' '], true, hspace, hspace⟩, rfl⟩,
      by unfold HasNoComment; decide, by unfold HasNoComment; decide⟩
  have hhint : hintPassage.IsPlain :=
    ⟨⟨'"', ⟨.inl rfl, by decide, by decide,
      ⟨false, [], [], false, List.forall_mem_nil _, List.forall_mem_nil _⟩, ['\n'], by decide,
        List.forall_mem_singleton.mpr rfl, rfl⟩, by decide⟩,
      ⟨⟨false, [], [], false, List.forall_mem_nil _, List.forall_mem_nil _⟩, rfl⟩,
      by unfold HasNoComment; decide, by unfold HasNoComment; decide⟩
  have hsplit := split_assembles.1 [menuPassage, hintPassage] ['\n']
    (by simp [hmenu, hhint]) (by decide) (by unfold HasNoComment; decide)
  refine ⟨hsplit, ?_⟩
  have hback := split_assembles.2 _ _ hsplit
  rwa [String.toList_ofList] at hback

end FragmentRoutes.Block
