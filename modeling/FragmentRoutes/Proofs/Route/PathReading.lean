import FragmentRoutes.Proofs.Route.Path
import FragmentRoutes.Proofs.Text.Blank

/-!
# Reading a written path

`Path.normal_of_parse` says that only texts in the form of a path are read.  Here is the other
direction: every list of segments in which each may stand at its place (`Path.WellFormed`) is
read back from the path that is written for it (`parse_written`).

A part between slashes is recognised by its braces and its dots, and the name of a parameter
holds neither (`IsParamName.ne_of_not_continues`), so what is written for a segment is read as
that segment (`parsePart_render`).
-/

namespace FragmentRoutes.Route

namespace Path

/-- A character that does not go on an identifier is not in the name of a parameter. -/
theorem IsParamName.ne_of_not_continues {name : String} (h : IsParamName name) {c d : Char}
    (hd : Text.continuesIdentifier d = false) (hc : c ∈ name.toList) : c ≠ d := by
  rintro rfl
  rw [h.continuesIdentifier hc] at hd
  cases hd

end Path

/-- A written segment holds its text, or its name and the marks around it. -/
theorem Segment.IsPlain.mem_render {s : Segment} (h : s.IsPlain) {c : Char}
    (hc : c ∈ s.render.toList) :
    (∃ text, s = .literal text ∧ c ∈ text.toList) ∨ c ∈ ['\x7b', '\x7d', '.', '$'] ∨
      Text.continuesIdentifier c = true := by
  have hname : ∀ {name : String}, Path.IsParamName name → c ∈ name.toList →
      Text.continuesIdentifier c = true := fun hn => hn.continuesIdentifier
  cases s with
  | literal text => exact Or.inl ⟨text, rfl, hc⟩
  | param name =>
    have hc : c = '\x7b' ∨ c ∈ name.toList ∨ c = '\x7d' := by simpa [Segment.render] using hc
    rcases hc with rfl | hc | rfl
    · exact Or.inr (Or.inl (by simp))
    · exact Or.inr (Or.inr (hname h hc))
    · exact Or.inr (Or.inl (by simp))
  | wildcard name =>
    have hc : c = '\x7b' ∨ c ∈ name.toList ∨ c = '.' ∨ c = '\x7d' := by
      simpa [Segment.render] using hc
    rcases hc with rfl | hc | rfl | rfl
    · exact Or.inr (Or.inl (by simp))
    · exact Or.inr (Or.inr (hname h hc))
    · exact Or.inr (Or.inl (by simp))
    · exact Or.inr (Or.inl (by simp))
  | finish =>
    have hc : c = '\x7b' ∨ c = '$' ∨ c = '\x7d' := by simpa [Segment.render] using hc
    rcases hc with rfl | rfl | rfl <;> exact Or.inr (Or.inl (by simp))

namespace Path

/-! ### Reading a written segment -/

/-- A text without braces is read from between one pair of them. -/
theorem braced?_braces {inner : List Char} (h : ∀ c ∈ inner, c ≠ '\x7b' ∧ c ≠ '\x7d') :
    braced? ('\x7b' :: (inner ++ ['\x7d'])) = some inner := by
  have hlast : ('\x7b' :: (inner ++ ['\x7d'])).getLast? ≠ some '\n' := by
    rw [← List.cons_append, List.getLast?_concat]
    decide
  have hopen : '\x7b' ∉ inner := fun hmem => (h _ hmem).1 rfl
  have hclose : '\x7d' ∉ inner := fun hmem => (h _ hmem).2 rfl
  rw [braced?, if_neg hlast]
  simp [hopen, hclose]

/-- A name without dots has none behind it. -/
theorem splitDots_of_dot_notMem {name : List Char} (h : '.' ∉ name) :
    splitDots name = (name, false) := by
  rw [splitDots]
  split
  · rename_i rest hrest
    refine absurd ?_ h
    rw [← List.mem_reverse, hrest]
    exact List.mem_cons_self
  · rfl

theorem splitDots_append_dots (name : List Char) :
    splitDots (name ++ ['.', '.', '.']) = (name, true) := by
  have hreverse : (name ++ ['.', '.', '.']).reverse = '.' :: '.' :: '.' :: name.reverse := by simp
  rw [splitDots, hreverse]
  exact congrArg (·, true) (List.reverse_reverse name)

/-- A part in braces is read by what is between them. -/
theorem parsePart_braces {inner : List Char} (h : ∀ c ∈ inner, c ≠ '\x7b' ∧ c ≠ '\x7d')
    (last : Bool) :
    parsePart ('\x7b' :: (inner ++ ['\x7d'])) last =
      if (splitDots inner).1 = ['$'] then
        if last && !(splitDots inner).2 then .ok (some .finish) else .error .endNotLast
      else if (splitDots inner).2 then
        if last then .ok (some (.wildcard (String.ofList (splitDots inner).1)))
        else .error (.wildcardNotLast (String.ofList (splitDots inner).1))
      else .ok (some (.param (String.ofList (splitDots inner).1))) := by
  rw [parsePart, if_neg (by simp), if_neg (by simp), braced?_braces h]

/-- **A written segment is read as that segment**, in last place or, if segments may follow it,
in any place. -/
theorem parsePart_render {s : Segment} (h : s.IsPlain) {last : Bool}
    (hopen : last = false → s.IsOpen) : parsePart s.render.toList last = .ok (some s) := by
  -- the name of a parameter is neither a dollar nor cut at a dot, and has no braces
  have hbraces : ∀ {name : String}, IsParamName name →
      ∀ c ∈ name.toList, c ≠ '\x7b' ∧ c ≠ '\x7d' := fun hname c hc =>
    ⟨hname.ne_of_not_continues (by decide) hc, hname.ne_of_not_continues (by decide) hc⟩
  have hdollar : ∀ {name : String}, IsParamName name → name.toList ≠ ['$'] :=
    fun hname heq => hname.ne_of_not_continues (d := '$') (by decide)
      (heq ▸ List.mem_singleton_self '$') rfl
  cases s with
  | literal text =>
    have hopen : '\x7b' ∉ text.toList := fun hmem => (h.2 _ hmem).2.1 rfl
    have hclose : '\x7d' ∉ text.toList := fun hmem => (h.2 _ hmem).2.2 rfl
    rw [Segment.render, parsePart, if_neg (by simpa using h.1), if_pos (by simp [hopen, hclose]),
      String.ofList_toList]
  | param name =>
    have hname : IsParamName name := h
    have hdot : '.' ∉ name.toList := fun hmem => hname.ne_of_not_continues (by decide) hmem rfl
    have hrender : (Segment.param name).render.toList =
        '\x7b' :: (name.toList ++ ['\x7d']) := by
      simp [Segment.render]
    rw [hrender, parsePart_braces (hbraces hname), splitDots_of_dot_notMem hdot]
    dsimp only
    rw [if_neg (hdollar hname), if_neg Bool.false_ne_true, String.ofList_toList]
  | wildcard name =>
    have hname : IsParamName name := h
    have hlast : last = true := by
      rw [← Bool.not_eq_false]
      exact fun hlast => hopen hlast
    have hrender : (Segment.wildcard name).render.toList =
        '\x7b' :: ((name.toList ++ ['.', '.', '.']) ++ ['\x7d']) := by
      simp [Segment.render]
    have hdots : ∀ c ∈ ['.', '.', '.'], c ≠ '\x7b' ∧ c ≠ '\x7d' := by simp
    have hinner : ∀ c ∈ name.toList ++ ['.', '.', '.'], c ≠ '\x7b' ∧ c ≠ '\x7d' := fun c hc =>
      (List.mem_append.mp hc).elim (hbraces hname c) (hdots c)
    rw [hrender, parsePart_braces hinner, splitDots_append_dots]
    dsimp only
    rw [if_neg (hdollar hname), if_pos rfl, if_pos hlast, String.ofList_toList]
  | finish =>
    have hlast : last = true := by
      rw [← Bool.not_eq_false]
      exact fun hlast => hopen hlast
    rw [hlast]
    rfl

/-! ### Reading a written path -/

/-- The names of plain segments may name parameters. -/
theorem isParamName_of_mem_params {segments : List Segment} (h : ∀ s ∈ segments, s.IsPlain)
    {name : String} (hname : name ∈ params segments) : IsParamName name := by
  obtain ⟨s, hs, hbound⟩ := List.mem_filterMap.mp hname
  have hplain := h s hs
  cases s <;> cases hbound <;> exact hplain

/-- Plain segments with different names pass the check of the names. -/
theorem parse_of_parseParts {path : List Char} {segments : List Segment}
    (hparts : parseParts (splitSlashes path).tail = .ok segments)
    (hplain : ∀ s ∈ segments, s.IsPlain) (hnodup : (params segments).Nodup) :
    Path.parse path = .ok segments := by
  have hnames : checkNames (params segments) = .ok () :=
    checkNames_eq_ok_iff.mpr ⟨fun _ => isParamName_of_mem_params hplain, hnodup⟩
  rw [Path.parse, hparts, Except.ok_bind, hnames]
  rfl

/-- Segments that may stand in one path at their places; `subtree` tells whether a slash follows
the last one, as it does when there is none.  A literal of a label holds no blank. -/
structure WellFormed (segments : List Segment) (subtree : Bool) : Prop where
  plain : ∀ s ∈ segments, s.IsPlain
  literal_not_blank : ∀ text, .literal text ∈ segments →
    ∀ c ∈ text.toList, Text.isBlank c = false
  params_nodup : (params segments).Nodup
  open_of_mem_dropLast : ∀ s ∈ segments.dropLast, s.IsOpen
  open_of_subtree : subtree = true → ∀ s ∈ segments, s.IsOpen
  subtree_of_nil : segments = [] → subtree = true

/-- The path of segments: each after a slash, and one more slash for a subtree. -/
def written (segments : List Segment) (subtree : Bool) : String :=
  "/" ++ "/".intercalate (segments.map Segment.render) ++
    if subtree && !segments.isEmpty then "/" else ""

namespace WellFormed

variable {segments : List Segment} {subtree : Bool} (h : WellFormed segments subtree)

include h

theorem toList_written :
    (written segments subtree).toList = slashed (segments.map (·.render.toList) ++
      if subtree then [[]] else []) := by
  rw [written]
  cases hsegs : segments with
  | nil =>
    -- the one slash is that of the subtree
    rw [if_pos (h.subtree_of_nil hsegs)]
    simp [slashed]
  | cons s segments =>
    have hne : (s :: segments).map (·.render.toList) ≠ [] := by simp
    rw [slashed_append, slashed_eq_intercalate hne, String.toList_append, String.toList_append,
      String.toList_intercalate, List.map_map]
    cases subtree <;> simp [slashed, Function.comp_def]

/-- The parts of the path are the written segments, and an empty part for a subtree. -/
theorem splitSlashes_written :
    (splitSlashes (written segments subtree).toList).tail =
      segments.map (·.render.toList) ++ if subtree then [[]] else [] := by
  rw [h.toList_written, splitSlashes_slashed, List.tail_cons]
  intro part hpart
  rcases List.mem_append.mp hpart with hpart | hpart
  · obtain ⟨s, hs, rfl⟩ := List.mem_map.mp hpart
    exact (h.plain s hs).slash_notMem_render
  · split_ifs at hpart
    · obtain rfl := List.mem_singleton.mp hpart
      exact List.not_mem_nil
    · cases hpart

omit h in
/-- Written segments are read in order, whether or not an empty part follows. -/
theorem parseParts_render {segments : List Segment} {subtree : Bool}
    (hplain : ∀ s ∈ segments, s.IsPlain) (hdrop : ∀ s ∈ segments.dropLast, s.IsOpen)
    (hsub : subtree = true → ∀ s ∈ segments, s.IsOpen) :
    parseParts (segments.map (·.render.toList) ++ if subtree then [[]] else []) =
      .ok segments := by
  induction segments with
  | nil => cases subtree <;> rfl
  | cons s segments ih =>
    -- only a segment that nothing follows is read in last place
    have hopen : (segments.map (fun t : Segment => t.render.toList) ++
        if subtree then [[]] else []).isEmpty = false → s.IsOpen := by
      intro hne
      cases segments with
      | nil => exact hsub (by cases subtree <;> simp_all) s List.mem_cons_self
      | cons t segments => exact hdrop s (by simp)
    have hrest := ih (fun t ht => hplain t (List.mem_cons_of_mem _ ht))
      (fun t ht => hdrop t ?_) (fun h t ht => hsub h t (List.mem_cons_of_mem _ ht))
    · rw [List.map_cons, List.cons_append, parseParts,
        parsePart_render (hplain s List.mem_cons_self) hopen, hrest]
      rfl
    · cases segments with
      | nil => simp at ht
      | cons r segments =>
        rw [List.dropLast_cons_cons]
        exact List.mem_cons_of_mem _ ht

/-- **A written path is read as its segments.** -/
theorem parse_written : Path.parse (written segments subtree).toList = .ok segments := by
  refine parse_of_parseParts ?_ h.plain h.params_nodup
  rw [h.splitSlashes_written]
  exact parseParts_render h.plain h.open_of_mem_dropLast h.open_of_subtree

/-- A written path holds no blank. -/
theorem written_not_blank : ∀ c ∈ (written segments subtree).toList, Text.isBlank c = false := by
  intro c hc
  rw [h.toList_written, slashed, List.mem_flatMap] at hc
  obtain ⟨part, hpart, hc⟩ := hc
  rcases List.mem_cons.mp hc with rfl | hc
  · decide
  rcases List.mem_append.mp hpart with hpart | hpart
  · obtain ⟨s, hs, rfl⟩ := List.mem_map.mp hpart
    rcases (h.plain s hs).mem_render hc with ⟨text, rfl, htext⟩ | hmark | hname
    · exact h.literal_not_blank text hs c htext
    · have hmarks : ∀ d ∈ ['\x7b', '\x7d', '.', '$'], Text.isBlank d = false := by
        simp only [List.forall_mem_cons]
        exact ⟨rfl, rfl, rfl, rfl, List.forall_mem_nil _⟩
      exact hmarks c hmark
    · exact Text.not_blank_of_continuesIdentifier hname
  · split_ifs at hpart
    · obtain rfl := List.mem_singleton.mp hpart
      cases hc
    · cases hpart

omit h in
/-- A written path starts with a slash. -/
theorem exists_written_eq_cons (segments : List Segment) (subtree : Bool) :
    ∃ cs, (written segments subtree).toList = '/' :: cs := by
  rw [written, String.toList_append, String.toList_append]
  exact ⟨_, rfl⟩

end WellFormed

end Path

end FragmentRoutes.Route
