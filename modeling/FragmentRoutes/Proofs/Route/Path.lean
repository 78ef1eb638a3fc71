import FragmentRoutes.Route.Path
import FragmentRoutes.Proofs.Except
import Mathlib.Data.List.Basic

/-!
# The form of a path

`Path.parse` accepts a text exactly in one form: the written segments, each after a slash, and
perhaps one more slash (`Path.Normal`, `normal_of_parse`).  The segments are plain: a literal
has neither slash nor brace, and a parameter has a name that may name a parameter
(`checkNames_eq_ok_iff`).  Only the last segment may be a wildcard or the end mark, and no
segment is one if a slash follows.

Paths are texts of parts, each after a slash (`slashed`).  The parts are read back from the
text (`splitSlashes_slashed`), on which the injectivity of all texts of paths rests.
-/

namespace FragmentRoutes.Route

namespace Segment

/-- Further segments may follow the segment. -/
def IsOpen : Segment → Prop
  | literal _ => True
  | param _ => True
  | wildcard _ => False
  | finish => False

end Segment

namespace Path

/-! ### Parts between slashes -/

/-- The text of parts, each after a slash. -/
def slashed (parts : List (List Char)) : List Char :=
  parts.flatMap ('/' :: ·)

theorem slashed_append (parts parts' : List (List Char)) :
    slashed (parts ++ parts') = slashed parts ++ slashed parts' :=
  List.flatMap_append

theorem slashed_eq_nil_iff {parts : List (List Char)} : slashed parts = [] ↔ parts = [] := by
  cases parts <;> simp [slashed]

/-- Parts with slashes between them, after one more slash. -/
theorem slashed_eq_intercalate {parts : List (List Char)} (hne : parts ≠ []) :
    slashed parts = '/' :: ['/'].intercalate parts := by
  induction parts with
  | nil => exact absurd rfl hne
  | cons part parts ih =>
    cases parts with
    | nil => rw [slashed, List.flatMap_singleton, List.intercalate_singleton]
    | cons next parts =>
      have ih := ih (List.cons_ne_nil _ _)
      rw [slashed] at ih ⊢
      rw [List.flatMap_cons, ih, List.intercalate_cons_cons, List.append_assoc]
      rfl

theorem splitSlashes_ne_nil (cs : List Char) : splitSlashes cs ≠ [] := by
  cases cs with
  | nil => simp [splitSlashes]
  | cons c cs =>
    rw [splitSlashes]
    split_ifs
    · simp
    · split <;> simp

/-- The parts of a text give the text back. -/
theorem slashed_splitSlashes (cs : List Char) : slashed (splitSlashes cs) = '/' :: cs := by
  induction cs with
  | nil => rfl
  | cons c cs ih =>
    rw [splitSlashes]
    split_ifs with hc
    · rw [hc, ← ih]
      rfl
    · split
      · exact absurd ‹_› (splitSlashes_ne_nil cs)
      · rename_i part parts hparts
        rw [hparts] at ih
        simp only [slashed, List.flatMap_cons, List.cons_append, List.cons.injEq, true_and] at ih ⊢
        exact ih

/-- No part holds a slash. -/
theorem slash_notMem_of_mem_splitSlashes {cs part : List Char} (h : part ∈ splitSlashes cs) :
    '/' ∉ part := by
  induction cs generalizing part with
  | nil =>
    obtain rfl := List.mem_singleton.mp h
    exact List.not_mem_nil
  | cons c cs ih =>
    rw [splitSlashes] at h
    split_ifs at h with hc
    · rcases List.mem_cons.mp h with rfl | h
      · exact List.not_mem_nil
      · exact ih h
    · split at h
      · exact absurd ‹_› (splitSlashes_ne_nil cs)
      · rename_i first parts hparts
        rw [hparts] at ih
        rcases List.mem_cons.mp h with rfl | h
        · intro hmem
          rcases List.mem_cons.mp hmem with hslash | hmem
          · exact hc hslash.symm
          · exact ih List.mem_cons_self hmem
        · exact ih (List.mem_cons_of_mem _ h)

/-- The parts hold characters of the text only. -/
theorem mem_of_mem_splitSlashes {cs part : List Char} (h : part ∈ splitSlashes cs) {c : Char}
    (hc : c ∈ part) : c ∈ cs := by
  have hmem : c ∈ slashed (splitSlashes cs) :=
    List.mem_flatMap.mpr ⟨part, h, List.mem_cons_of_mem _ hc⟩
  rw [slashed_splitSlashes] at hmem
  rcases List.mem_cons.mp hmem with rfl | hmem
  · exact absurd hc (slash_notMem_of_mem_splitSlashes h)
  · exact hmem

/-- A part without a slash is cut off before the next slash. -/
theorem splitSlashes_append_slash {part : List Char} (hpart : '/' ∉ part) (cs : List Char) :
    splitSlashes (part ++ '/' :: cs) = part :: splitSlashes cs := by
  induction part with
  | nil => rfl
  | cons c part ih =>
    have hc : c ≠ '/' := fun hc => hpart (hc ▸ List.mem_cons_self)
    have hpart' : '/' ∉ part := fun hmem => hpart (List.mem_cons_of_mem _ hmem)
    rw [List.cons_append, splitSlashes, if_neg hc, ih hpart']

theorem splitSlashes_of_slash_notMem {part : List Char} (hpart : '/' ∉ part) :
    splitSlashes part = [part] := by
  induction part with
  | nil => rfl
  | cons c part ih =>
    have hc : c ≠ '/' := fun hc => hpart (hc ▸ List.mem_cons_self)
    have hpart' : '/' ∉ part := fun hmem => hpart (List.mem_cons_of_mem _ hmem)
    rw [splitSlashes, if_neg hc, ih hpart']

/-- **The parts of a text of parts are those parts**, after the empty part in front. -/
theorem splitSlashes_slashed {parts : List (List Char)} (h : ∀ part ∈ parts, '/' ∉ part) :
    splitSlashes (slashed parts) = [] :: parts := by
  -- with a part in front, the induction starts at any part
  suffices key : ∀ first, '/' ∉ first →
      splitSlashes (first ++ slashed parts) = first :: parts from key [] List.not_mem_nil
  induction parts with
  | nil =>
    intro first hfirst
    rw [slashed, List.flatMap_nil, List.append_nil, splitSlashes_of_slash_notMem hfirst]
  | cons part parts ih =>
    intro first hfirst
    rw [slashed, List.flatMap_cons, List.cons_append, splitSlashes_append_slash hfirst]
    exact congrArg (first :: ·)
      (ih (fun p hp => h p (List.mem_cons_of_mem _ hp)) part (h part List.mem_cons_self))

/-- Texts of parts are the same only if the parts are. -/
theorem slashed_injective {parts parts' : List (List Char)} (h : ∀ part ∈ parts, '/' ∉ part)
    (h' : ∀ part ∈ parts', '/' ∉ part) (heq : slashed parts = slashed parts') :
    parts = parts' := by
  have hsplit := congrArg splitSlashes heq
  rw [splitSlashes_slashed h, splitSlashes_slashed h'] at hsplit
  exact (List.cons.inj hsplit).2

/-- Text after a slash that ends in a part without slashes ends in a slash only if the part is
empty. -/
theorem getLast?_slashed_append_singleton (parts : List (List Char)) {part : List Char}
    (hpart : '/' ∉ part) :
    (slashed (parts ++ [part])).getLast? = some '/' ↔ part = [] := by
  rw [slashed, List.flatMap_append, List.flatMap_singleton, List.getLast?_append_of_ne_nil _
    (List.cons_ne_nil _ _)]
  constructor
  · intro h
    cases part with
    | nil => rfl
    | cons c cs =>
      rw [List.getLast?_cons_cons] at h
      exact absurd (List.mem_of_getLast? h) hpart
  · rintro rfl
    rfl

/-- Text of parts that are not empty and hold no slash does not end in a slash. -/
theorem getLast?_slashed_ne_slash {parts : List (List Char)}
    (h : ∀ part ∈ parts, '/' ∉ part ∧ part ≠ []) : (slashed parts).getLast? ≠ some '/' := by
  rcases List.eq_nil_or_concat parts with rfl | ⟨init, part, rfl⟩
  · simp [slashed]
  · obtain ⟨hslash, hne⟩ := h part (by simp)
    rw [List.concat_eq_append, ne_eq, getLast?_slashed_append_singleton init hslash]
    exact hne

/-! ### Names of parameters -/

/-- A name that a parameter may have: a name of the generated code that nothing else in it
takes. -/
structure IsParamName (name : String) : Prop where
  isName : Text.isName name = true
  not_underscore : name.toList.head? ≠ some '_'
  ne_self : name ≠ "self"
  notMem_argumentNames : name ∉ argumentNames
  notMem_generatedNames : name ∉ generatedNames

theorem checkNamesFrom_eq_ok_iff {seen names : List String} :
    checkNamesFrom seen names = .ok () ↔
      (∀ name ∈ names, IsParamName name ∧ name ∉ seen) ∧ names.Nodup := by
  induction names generalizing seen with
  | nil => simp [checkNamesFrom]
  | cons name names ih =>
    rw [checkNamesFrom]
    split_ifs with hname hunder hself htaken hseen
    -- each check that fails contradicts one of the conditions on the first name
    · exact iff_of_false (by simp) fun h => by
        simp [(h.1 name List.mem_cons_self).1.isName] at hname
    · exact iff_of_false (by simp) fun h =>
        (h.1 name List.mem_cons_self).1.not_underscore hunder
    · exact iff_of_false (by simp) fun h => (h.1 name List.mem_cons_self).1.ne_self hself
    · refine iff_of_false (by simp) fun h => ?_
      have hok := (h.1 name List.mem_cons_self).1
      rcases Bool.or_eq_true_iff.mp htaken with hmem | hmem
      · exact hok.notMem_argumentNames (List.contains_iff_mem.mp hmem)
      · exact hok.notMem_generatedNames (List.contains_iff_mem.mp hmem)
    · exact iff_of_false (by simp) fun h =>
        (h.1 name List.mem_cons_self).2 (List.contains_iff_mem.mp hseen)
    · have hok : IsParamName name := by
        simp only [Bool.or_eq_true, List.contains_iff_mem, not_or] at htaken
        exact ⟨by simpa using hname, hunder, hself, htaken.1, htaken.2⟩
      rw [ih, List.nodup_cons]
      constructor
      · rintro ⟨hall, hnodup⟩
        refine ⟨fun n hn => ?_, fun hmem => (hall name hmem).2 List.mem_cons_self, hnodup⟩
        rcases List.mem_cons.mp hn with rfl | hn
        · exact ⟨hok, fun hmem => hseen (List.contains_iff_mem.mpr hmem)⟩
        · exact ⟨(hall n hn).1, fun hmem => (hall n hn).2 (List.mem_cons_of_mem _ hmem)⟩
      · rintro ⟨hall, hname', hnodup⟩
        refine ⟨fun n hn => ⟨(hall n (List.mem_cons_of_mem _ hn)).1, fun hmem => ?_⟩, hnodup⟩
        rcases List.mem_cons.mp hmem with rfl | hmem
        · exact hname' hn
        · exact (hall n (List.mem_cons_of_mem _ hn)).2 hmem

/-- Names pass the check exactly if each may name a parameter and no two are equal. -/
theorem checkNames_eq_ok_iff {names : List String} :
    checkNames names = .ok () ↔ (∀ name ∈ names, IsParamName name) ∧ names.Nodup := by
  rw [checkNames, checkNamesFrom_eq_ok_iff]
  simp

/-- The characters of a parameter's name go on an identifier. -/
theorem IsParamName.continuesIdentifier {name : String} (h : IsParamName name) {c : Char}
    (hc : c ∈ name.toList) : Text.continuesIdentifier c = true := by
  have hid : Text.isIdentifierChars name.toList = true := by
    have := h.isName
    rw [Text.isName, Bool.and_eq_true] at this
    exact this.1
  cases hcs : name.toList with
  | nil => simp [hcs] at hc
  | cons d ds =>
    rw [hcs] at hid hc
    rw [Text.isIdentifierChars, Bool.and_eq_true, List.all_eq_true] at hid
    rcases List.mem_cons.mp hc with rfl | hc
    · rw [Text.continuesIdentifier, hid.1]
      simp
    · exact hid.2 c hc

end Path

namespace Segment

/-- A segment that a path may hold. -/
def IsPlain : Segment → Prop
  | literal text => text.toList ≠ [] ∧ ∀ c ∈ text.toList, c ≠ '/' ∧ c ≠ '\x7b' ∧ c ≠ '\x7d'
  | param name => Path.IsParamName name
  | wildcard name => Path.IsParamName name
  | finish => True

/-- A written segment is not empty. -/
theorem IsPlain.render_ne_nil {s : Segment} (h : s.IsPlain) : s.render.toList ≠ [] := by
  cases s with
  | literal text => exact h.1
  | param name => simp [render]
  | wildcard name => simp [render]
  | finish => simp [render]

/-- A written segment holds no slash. -/
theorem IsPlain.slash_notMem_render {s : Segment} (h : s.IsPlain) : '/' ∉ s.render.toList := by
  have hname : ∀ {name : String}, Path.IsParamName name → '/' ∉ name.toList :=
    fun hn hmem => absurd (hn.continuesIdentifier hmem) (by decide)
  cases s with
  | literal text => exact fun hmem => (h.2 '/' hmem).1 rfl
  | param name => simpa [render] using hname h
  | wildcard name => simpa [render] using hname h
  | finish => decide

end Segment

namespace Path

/-! ### Reading a part -/

theorem braced?_eq_some {part inner : List Char} (hline : '\n' ∉ part)
    (h : braced? part = some inner) :
    part = '\x7b' :: inner ++ ['\x7d'] ∧ ∀ c ∈ inner, c ≠ '\x7b' ∧ c ≠ '\x7d' := by
  have hlast : part.getLast? ≠ some '\n' := fun hlast =>
    hline (List.mem_of_getLast? hlast)
  rw [braced?, if_neg hlast] at h
  split at h
  · rename_i rest
    dsimp only at h
    split_ifs at h with hok
    obtain rfl := Option.some.inj h
    simp only [Bool.and_eq_true, decide_eq_true_eq, Bool.not_eq_true', List.contains_eq_mem,
      decide_eq_false_iff_not] at hok
    obtain ⟨⟨hend, hopen⟩, hclose⟩ := hok
    refine ⟨?_, fun c hc => ⟨fun heq => hopen (heq ▸ hc), fun heq => hclose (heq ▸ hc)⟩⟩
    rw [List.cons_append, List.dropLast_append_getLast? _ hend]
  · cases h

theorem eq_splitDots_append (inner : List Char) :
    inner = (splitDots inner).1 ++ if (splitDots inner).2 then ['.', '.', '.'] else [] := by
  rw [splitDots]
  split
  · rename_i rest hrest
    rw [← List.reverse_reverse inner, hrest]
    simp
  · simp

/-- What a part between braces spells is the written segment. -/
theorem parsePart_braced_eq_some {part inner : List Char} {last : Bool} {s : Segment}
    (hline : '\n' ∉ part) (hinner : braced? part = some inner)
    (hpart : ¬(!part.contains '\x7b' && !part.contains '\x7d') = true)
    (h : parsePart part last = .ok (some s)) :
    part = s.render.toList ∧ (last = false → s.IsOpen) ∧ ∀ text, s ≠ .literal text := by
  obtain ⟨htext, -⟩ := braced?_eq_some hline hinner
  have hempty : ¬part.isEmpty = true := by rw [htext]; simp
  rw [parsePart, if_neg hempty, if_neg hpart, hinner] at h
  dsimp only at h
  have hsplit := eq_splitDots_append inner
  generalize splitDots inner = split at h hsplit
  obtain ⟨name, dots⟩ := split
  dsimp only at h hsplit
  -- with dots it is a wildcard, without them the end mark or a parameter
  cases dots with
  | false =>
    rw [if_neg Bool.false_ne_true, List.append_nil] at hsplit
    simp only [Bool.not_false, Bool.and_true, Bool.false_eq_true, if_false] at h
    split_ifs at h with hdollar hlast
    · obtain rfl := Option.some.inj (Except.ok.inj h)
      refine ⟨by rw [htext, hsplit, hdollar]; rfl, fun hlast' => ?_, fun text heq => by cases heq⟩
      simp [hlast'] at hlast
    · obtain rfl := Option.some.inj (Except.ok.inj h)
      refine ⟨?_, fun _ => trivial, fun text heq => by cases heq⟩
      rw [htext, hsplit]
      simp [Segment.render]
  | true =>
    rw [if_pos rfl] at hsplit
    simp only [Bool.not_true, Bool.and_false, Bool.false_eq_true, if_false, if_true] at h
    split_ifs at h with hdollar hlast
    obtain rfl := Option.some.inj (Except.ok.inj h)
    refine ⟨?_, fun hlast' => by simp [hlast'] at hlast, fun text heq => by cases heq⟩
    rw [htext, hsplit]
    simp [Segment.render]

/-- **What a part spells**: nothing if it is the empty part after a final slash, else the
segment that is written so.  A literal has no braces, and only the last part may spell a
segment that nothing follows. -/
theorem parsePart_eq_ok {part : List Char} {last : Bool} {s? : Option Segment}
    (hline : '\n' ∉ part) (h : parsePart part last = .ok s?) :
    (s? = none ∧ part = [] ∧ last = true) ∨
      ∃ s, s? = some s ∧ part = s.render.toList ∧ (last = false → s.IsOpen) ∧
        ∀ text, s = .literal text →
          text.toList ≠ [] ∧ ∀ c ∈ text.toList, c ≠ '\x7b' ∧ c ≠ '\x7d' := by
  by_cases hempty : part.isEmpty = true
  · rw [parsePart, if_pos hempty] at h
    split_ifs at h with hlast
    exact Or.inl ⟨(Except.ok.inj h).symm, List.isEmpty_iff.mp hempty, hlast⟩
  by_cases hplain : (!part.contains '\x7b' && !part.contains '\x7d') = true
  · rw [parsePart, if_neg hempty, if_pos hplain] at h
    obtain rfl := Except.ok.inj h
    simp only [Bool.and_eq_true, Bool.not_eq_true', List.contains_eq_mem,
      decide_eq_false_iff_not] at hplain
    refine Or.inr ⟨_, rfl, by simp [Segment.render], fun _ => trivial, fun text htext => ?_⟩
    obtain rfl := Segment.literal.inj htext
    rw [String.toList_ofList]
    exact ⟨fun hnil => hempty (by simp [hnil]),
      fun c hc => ⟨fun heq => hplain.1 (heq ▸ hc), fun heq => hplain.2 (heq ▸ hc)⟩⟩
  · cases hinner : braced? part with
    | none =>
      rw [parsePart, if_neg hempty, if_neg hplain, hinner] at h
      cases h
    | some inner =>
      cases s? with
      | none =>
        rw [parsePart, if_neg hempty, if_neg hplain, hinner] at h
        dsimp only at h
        split_ifs at h <;> cases h
      | some s =>
        obtain ⟨htext, hopen, hlit⟩ := parsePart_braced_eq_some hline hinner hplain h
        exact Or.inr ⟨s, rfl, htext, hopen, fun text heq => absurd heq (hlit text)⟩

/-! ### Reading a path -/

/-- A literal that was read is not empty and has no braces. -/
def LiteralsPlain (segments : List Segment) : Prop :=
  ∀ text, .literal text ∈ segments →
    text.toList ≠ [] ∧ ∀ c ∈ text.toList, c ≠ '\x7b' ∧ c ≠ '\x7d'

/-- Parts spell the segments that are written so, and perhaps an empty part is left over at
the end, if a segment may follow each. -/
theorem parseParts_eq_ok {parts : List (List Char)} {segments : List Segment} (hne : parts ≠ [])
    (hline : ∀ part ∈ parts, '\n' ∉ part) (h : parseParts parts = .ok segments) :
    LiteralsPlain segments ∧ (∀ s ∈ segments.dropLast, s.IsOpen) ∧
      (parts = segments.map (·.render.toList) ∨
        parts = segments.map (·.render.toList) ++ [[]] ∧ ∀ s ∈ segments, s.IsOpen) := by
  induction parts generalizing segments with
  | nil => exact absurd rfl hne
  | cons part parts ih =>
    rw [parseParts, Except.bind_eq_ok] at h
    obtain ⟨s?, hpart, h⟩ := h
    rw [Except.bind_eq_ok] at h
    obtain ⟨rest, hrest, h⟩ := h
    obtain rfl := Except.ok.inj h
    have hcases := parsePart_eq_ok (hline part List.mem_cons_self) hpart
    cases parts with
    | nil =>
      -- the last part, the only one that may be empty or spell what nothing follows
      obtain rfl := Except.ok.inj hrest
      rcases hcases with ⟨rfl, rfl, -⟩ | ⟨s, rfl, rfl, -, hlit⟩
      · exact ⟨by simp [LiteralsPlain], by simp, Or.inr ⟨rfl, by simp⟩⟩
      · refine ⟨fun text htext => hlit text ?_, by simp, Or.inl rfl⟩
        simpa [eq_comm] using htext
    | cons next parts =>
      rcases hcases with ⟨-, -, hlast⟩ | ⟨s, rfl, rfl, hopen, hlit⟩
      · simp at hlast
      · -- further parts follow, so the segment is open and goes in front of theirs
        have hs : s.IsOpen := hopen rfl
        obtain ⟨hlits, hdrop, htext⟩ :=
          ih (List.cons_ne_nil _ _) (fun p hp => hline p (List.mem_cons_of_mem _ hp)) hrest
        rw [Option.toList_some, List.singleton_append]
        refine ⟨fun text hmem => ?_, fun t ht => ?_, ?_⟩
        · rcases List.mem_cons.mp hmem with heq | hmem
          · exact hlit text heq.symm
          · exact hlits text hmem
        · cases rest with
          | nil => simp at ht
          | cons r rest =>
            rw [List.dropLast_cons_cons] at ht
            rcases List.mem_cons.mp ht with rfl | ht
            · exact hs
            · exact hdrop t ht
        · rcases htext with heq | ⟨heq, hall⟩
          · exact Or.inl (by rw [heq, List.map_cons])
          · refine Or.inr ⟨by rw [heq, List.map_cons, List.cons_append], fun t ht => ?_⟩
            rcases List.mem_cons.mp ht with rfl | ht
            · exact hs
            · exact hall t ht

/-- The **form of a path** with the given segments: the written segments, each after a slash,
and one more slash for a subtree.  Nothing follows a wildcard or the end mark. -/
structure Normal (path : List Char) (segments : List Segment) : Prop where
  plain : ∀ s ∈ segments, s.IsPlain
  params_nodup : (params segments).Nodup
  open_of_mem_dropLast : ∀ s ∈ segments.dropLast, s.IsOpen
  open_of_subtree : path.getLast? = some '/' → ∀ s ∈ segments, s.IsOpen
  text : path = slashed (segments.map (·.render.toList) ++
    if path.getLast? = some '/' then [[]] else [])

/-- **Every path that is read has the form of a path.** -/
theorem normal_of_parse {cs : List Char} {segments : List Segment} (hline : '\n' ∉ cs)
    (h : Path.parse ('/' :: cs) = .ok segments) : Normal ('/' :: cs) segments := by
  rw [Path.parse, Except.bind_eq_ok] at h
  obtain ⟨segs, hparts, h⟩ := h
  rw [Except.bind_eq_ok] at h
  obtain ⟨_, hcheck, h⟩ := h
  obtain rfl := Except.ok.inj h
  obtain ⟨hnames, hnodup⟩ := checkNames_eq_ok_iff.mp hcheck
  rw [splitSlashes, if_pos rfl, List.tail_cons] at hparts
  have hlines : ∀ part ∈ splitSlashes cs, '\n' ∉ part := fun part hpart hmem =>
    hline (mem_of_mem_splitSlashes hpart hmem)
  obtain ⟨hlits, hdrop, htext⟩ := parseParts_eq_ok (splitSlashes_ne_nil cs) hlines hparts
  -- written segments are parts of the text
  have hrender : ∀ s ∈ segs, '/' ∉ s.render.toList := by
    intro s hs
    refine @slash_notMem_of_mem_splitSlashes cs _ ?_
    have hmem : s.render.toList ∈ segs.map (·.render.toList) := List.mem_map_of_mem hs
    rcases htext with heq | ⟨heq, -⟩
    · exact heq ▸ hmem
    · exact heq ▸ List.mem_append_left _ hmem
  have hplain : ∀ s ∈ segs, s.IsPlain := by
    intro s hs
    cases s with
    | literal text =>
      obtain ⟨hne, hbraces⟩ := hlits text hs
      refine ⟨hne, fun c hc => ⟨fun heq => hrender _ hs (heq ▸ hc), hbraces c hc⟩⟩
    | param name => exact hnames name (List.mem_filterMap.mpr ⟨_, hs, rfl⟩)
    | wildcard name => exact hnames name (List.mem_filterMap.mpr ⟨_, hs, rfl⟩)
    | finish => trivial
  rcases htext with heq | ⟨heq, hall⟩
  · -- no slash at the end
    have hpath : '/' :: cs = slashed (segs.map (·.render.toList)) := by
      rw [← heq, slashed_splitSlashes]
    have hend : ('/' :: cs).getLast? ≠ some '/' := by
      rw [hpath]
      refine getLast?_slashed_ne_slash fun part hpart => ?_
      obtain ⟨s, hs, rfl⟩ := List.mem_map.mp hpart
      exact ⟨hrender s hs, (hplain s hs).render_ne_nil⟩
    exact ⟨hplain, hnodup, hdrop, fun h => absurd h hend, by
      rw [if_neg hend, List.append_nil, hpath]⟩
  · -- a slash at the end
    have hpath : '/' :: cs = slashed (segs.map (·.render.toList) ++ [[]]) := by
      rw [← heq, slashed_splitSlashes]
    have hend : ('/' :: cs).getLast? = some '/' := by
      rw [hpath, getLast?_slashed_append_singleton _ List.not_mem_nil]
    exact ⟨hplain, hnodup, hdrop, fun _ => hall, by rw [if_pos hend, hpath]⟩

end Path

end FragmentRoutes.Route
