import FragmentRoutes.Proofs.Route.PathReading
import FragmentRoutes.Proofs.Text.SplitOn

/-!
# The grammar of paths

A path is in the grammar (`Path.InGrammar`) if every part between its slashes spells a segment
where it stands: a literal or a parameter anywhere, a wildcard or the end mark where the path ends
with it.  One empty part may stand behind the last slash, and the parameters have different names
that parameters may have.

`Path.parse` reads a text exactly as the segments that it has in the grammar
(`parse_eq_ok_iff_inGrammar`), so it refuses exactly the texts that are not in the grammar.  What is
read has the form of a path (`normal_of_parse`), what has the form is read (`Normal.parse_eq_ok`),
and the form says of the whole text what the grammar says of each part (`normal_iff_inGrammar`).
-/

namespace FragmentRoutes.Route.Path

/-! ### The grammar -/

/-- What a part between slashes **spells**; `ends` tells whether the path ends with the part. -/
inductive Spells : List Char → Bool → Segment → Prop where
  | literal {text : String} (ends : Bool) (hne : text.toList ≠ [])
    (hbraces : ∀ c ∈ text.toList, c ≠ '\x7b' ∧ c ≠ '\x7d') :
    Spells text.toList ends (.literal text)
  | param {name : String} (ends : Bool) (hname : IsParamName name) :
    Spells ('\x7b' :: (name.toList ++ ['\x7d'])) ends (.param name)
  | wildcard {name : String} (hname : IsParamName name) :
    Spells ('\x7b' :: (name.toList ++ ['.', '.', '.', '\x7d'])) true (.wildcard name)
  | finish : Spells ['\x7b', '$', '\x7d'] true .finish

/-- The parts between slashes, without an empty one behind the last slash. -/
def partsOf (cs : List Char) : List (List Char) :=
  if (cs.splitOn '/').getLast? = some [] then (cs.splitOn '/').dropLast else cs.splitOn '/'

/-- What follows the first slash of a path is **in the grammar**: its parts spell the segments one
by one, and no two parameters have one name.  The path ends with a part if neither a part nor a
slash follows it. -/
structure InGrammar (cs : List Char) (segments : List Segment) : Prop where
  length_eq : segments.length = (partsOf cs).length
  spells : ∀ {i : Nat} {part : List Char} {s : Segment}, (partsOf cs)[i]? = some part →
    segments[i]? = some s → Spells part (i + 1 = (cs.splitOn '/').length) s
  names_nodup : (params segments).Nodup

/-- A part without slashes spells the segment that is written so, where the segment may stand. -/
theorem spells_iff {part : List Char} {ends : Bool} {s : Segment} (hslash : '/' ∉ part) :
    Spells part ends s ↔ part = s.render.toList ∧ s.IsPlain ∧ (ends = false → s.IsOpen) := by
  constructor
  · intro h
    cases h with
    | literal _ hne hbraces =>
      exact ⟨rfl, ⟨hne, fun c hc => ⟨fun heq => hslash (heq ▸ hc), hbraces c hc⟩⟩, fun _ => trivial⟩
    | param _ hname => exact ⟨by simp [Segment.render], hname, fun _ => trivial⟩
    | wildcard hname => exact ⟨by simp [Segment.render], hname, fun hends => by cases hends⟩
    | finish => exact ⟨rfl, trivial, fun hends => by cases hends⟩
  · rintro ⟨rfl, hplain, hopen⟩
    cases s with
    | literal text => exact .literal ends hplain.1 fun c hc => (hplain.2 c hc).2
    | param name =>
      have hrender : (Segment.param name).render.toList = '\x7b' :: (name.toList ++ ['\x7d']) := by
        simp [Segment.render]
      rw [hrender]
      exact .param ends hplain
    | wildcard name =>
      have hrender : (Segment.wildcard name).render.toList =
          '\x7b' :: (name.toList ++ ['.', '.', '.', '\x7d']) := by
        simp [Segment.render]
      obtain rfl : ends = true := by
        rw [← Bool.not_eq_false]
        exact hopen
      rw [hrender]
      exact .wildcard hplain
    | finish =>
      obtain rfl : ends = true := by
        rw [← Bool.not_eq_false]
        exact hopen
      exact .finish

/-! ### The form of a path and its parts -/

theorem splitOn_eq_splitSlashes (cs : List Char) : cs.splitOn '/' = splitSlashes cs := by
  have hne : cs.splitOn '/' ≠ [] := List.splitOn_ne_nil '/' cs
  have hparts : ∀ part ∈ cs.splitOn '/', '/' ∉ part := fun _ => Text.notMem_of_mem_splitOn
  refine slashed_injective hparts (fun _ => slash_notMem_of_mem_splitSlashes) ?_
  rw [slashed_eq_intercalate hne, List.intercalate_splitOn, slashed_splitSlashes]

/-- A text ends in a slash exactly if the last of its parts is empty. -/
theorem getLast?_eq_slash_iff (cs : List Char) :
    ('/' :: cs).getLast? = some '/' ↔ (splitSlashes cs).getLast? = some [] := by
  rcases List.eq_nil_or_concat (splitSlashes cs) with hnil | ⟨init, part, hparts⟩
  · exact absurd hnil (splitSlashes_ne_nil cs)
  · have hmem : part ∈ splitSlashes cs := by
      rw [hparts]
      simp
    have hpart : '/' ∉ part := slash_notMem_of_mem_splitSlashes hmem
    rw [← slashed_splitSlashes, hparts, List.concat_eq_append,
      getLast?_slashed_append_singleton init hpart]
    simp

section

variable {cs : List Char} {segments : List Segment}

/-- The parts of a path are the written segments, before an empty part if it ends in a slash. -/
theorem Normal.splitSlashes_eq (h : Normal ('/' :: cs) segments) :
    splitSlashes cs = segments.map (·.render.toList) ++
      if ('/' :: cs).getLast? = some '/' then [[]] else [] := by
  refine slashed_injective (fun _ => slash_notMem_of_mem_splitSlashes) ?_ ?_
  · intro part hpart
    rcases List.mem_append.mp hpart with hpart | hpart
    · obtain ⟨s, hs, rfl⟩ := List.mem_map.mp hpart
      exact (h.plain s hs).slash_notMem_render
    · split_ifs at hpart
      · obtain rfl := List.mem_singleton.mp hpart
        exact List.not_mem_nil
      · cases hpart
  · rw [slashed_splitSlashes]
    exact h.text

/-- **What has the form of a path is read** as its segments. -/
theorem Normal.parse_eq_ok (h : Normal ('/' :: cs) segments) :
    Path.parse ('/' :: cs) = .ok segments := by
  have hparts : parseParts (splitSlashes ('/' :: cs)).tail = .ok segments := by
    have hopen : decide (('/' :: cs).getLast? = some '/') = true → ∀ s ∈ segments, s.IsOpen :=
      fun hslash => h.open_of_subtree (of_decide_eq_true hslash)
    have hread := WellFormed.parseParts_render h.plain h.open_of_mem_dropLast hopen
    simp only [decide_eq_true_eq] at hread
    rwa [splitSlashes, if_pos rfl, List.tail_cons, h.splitSlashes_eq]
  exact parse_of_parseParts hparts h.plain h.params_nodup

/-- Without the empty part behind the last slash, the parts are the written segments. -/
theorem Normal.partsOf_eq (h : Normal ('/' :: cs) segments) :
    partsOf cs = segments.map (·.render.toList) := by
  rw [partsOf, splitOn_eq_splitSlashes]
  simp only [← getLast?_eq_slash_iff]
  rw [h.splitSlashes_eq]
  split_ifs with hslash
  · exact List.dropLast_concat
  · exact List.append_nil _

/-- The parts of a text are those that spell segments, before an empty part if it ends in a
slash. -/
theorem splitSlashes_eq_partsOf_append (cs : List Char) :
    splitSlashes cs = partsOf cs ++ if ('/' :: cs).getLast? = some '/' then [[]] else [] := by
  rw [partsOf, splitOn_eq_splitSlashes]
  simp only [getLast?_eq_slash_iff]
  split_ifs with hlast
  · exact (List.dropLast_append_getLast? _ hlast).symm
  · exact (List.append_nil _).symm

/-- Each segment of a path in the grammar is written as its part, and may stand there. -/
theorem InGrammar.getElem?_partsOf (h : InGrammar cs segments) {i : Nat} {s : Segment}
    (hs : segments[i]? = some s) :
    (partsOf cs)[i]? = some s.render.toList ∧ s.IsPlain ∧
      (i + 1 ≠ (splitSlashes cs).length → s.IsOpen) := by
  have hi : i < (partsOf cs).length := h.length_eq ▸ (List.getElem?_eq_some_iff.mp hs).1
  have hpart := List.getElem?_eq_getElem hi
  have hmem : (partsOf cs)[i] ∈ splitSlashes cs := by
    rw [splitSlashes_eq_partsOf_append]
    exact List.mem_append_left _ (List.getElem_mem hi)
  have hslash : '/' ∉ (partsOf cs)[i] := slash_notMem_of_mem_splitSlashes hmem
  obtain ⟨htext, hplain, hopen⟩ := (spells_iff hslash).mp (h.spells hpart hs)
  rw [splitOn_eq_splitSlashes, decide_eq_false_iff_not] at hopen
  exact ⟨by rw [hpart, htext], hplain, hopen⟩

theorem InGrammar.partsOf_eq (h : InGrammar cs segments) :
    partsOf cs = segments.map (·.render.toList) := by
  refine List.ext_getElem? fun i => ?_
  rw [List.getElem?_map]
  cases hs : segments[i]? with
  | none =>
    rw [List.getElem?_eq_none_iff, h.length_eq, ← List.getElem?_eq_none_iff] at hs
    exact hs
  | some s => exact (h.getElem?_partsOf hs).1

/-- **The form of a path** says that each part spells its segment where it stands. -/
theorem normal_iff_inGrammar : Normal ('/' :: cs) segments ↔ InGrammar cs segments := by
  constructor
  · intro h
    refine ⟨by rw [h.partsOf_eq, List.length_map], fun {i part s} hpart hs => ?_, h.params_nodup⟩
    rw [h.partsOf_eq, List.getElem?_map, hs] at hpart
    obtain rfl := Option.some.inj hpart
    have hmem : s ∈ segments := List.mem_of_getElem? hs
    have hplain := h.plain s hmem
    rw [spells_iff hplain.slash_notMem_render]
    refine ⟨rfl, hplain, fun hends => ?_⟩
    rw [decide_eq_false_iff_not, splitOn_eq_splitSlashes, h.splitSlashes_eq, List.length_append,
      List.length_map] at hends
    by_cases hslash : ('/' :: cs).getLast? = some '/'
    · exact h.open_of_subtree hslash s hmem
    · -- no part follows the last segment, so this one stands before it
      rw [if_neg hslash, List.length_nil, Nat.add_zero] at hends
      have hlt : i < segments.dropLast.length := by
        have hi := (List.getElem?_eq_some_iff.mp hs).1
        rw [List.length_dropLast]
        omega
      refine h.open_of_mem_dropLast s (List.mem_of_getElem? (i := i) ?_)
      rw [List.getElem?_dropLast, if_pos (by simpa using hlt), hs]
  · intro h
    have hsplit := splitSlashes_eq_partsOf_append cs
    rw [h.partsOf_eq] at hsplit
    have hlength := congrArg List.length hsplit
    rw [List.length_append, List.length_map] at hlength
    refine ⟨fun s hs => ?_, h.names_nodup, fun s hs => ?_, fun hslash s hs => ?_, ?_⟩
    · obtain ⟨i, hi⟩ := List.getElem?_of_mem hs
      exact (h.getElem?_partsOf hi).2.1
    · obtain ⟨i, hi⟩ := List.getElem?_of_mem hs
      rw [List.getElem?_dropLast] at hi
      split_ifs at hi with hlt
      exact (h.getElem?_partsOf hi).2.2 (by omega)
    · obtain ⟨i, hi⟩ := List.getElem?_of_mem hs
      have hlt := (List.getElem?_eq_some_iff.mp hi).1
      rw [if_pos hslash, List.length_singleton] at hlength
      exact (h.getElem?_partsOf hi).2.2 (by omega)
    · rw [← hsplit, slashed_splitSlashes]

end

/-! ### Reading a path -/

/-- **A text is read as a path exactly if it is one.**  For every text on one line behind a first
slash, so for all without blanks: the segments that are read are those that it has in the grammar,
and a fault is found exactly if it has none. -/
theorem parse_eq_ok_iff_inGrammar {cs : List Char} (hline : '\n' ∉ cs) :
    (∀ segments, Path.parse ('/' :: cs) = .ok segments ↔ InGrammar cs segments) ∧
      ((∃ fault, Path.parse ('/' :: cs) = .error fault) ↔ ¬∃ segments, InGrammar cs segments) := by
  have hread : ∀ segments, Path.parse ('/' :: cs) = .ok segments ↔ InGrammar cs segments :=
    fun segments => ⟨fun h => normal_iff_inGrammar.mp (normal_of_parse hline h),
      fun h => (normal_iff_inGrammar.mpr h).parse_eq_ok⟩
  refine ⟨hread, ?_⟩
  simp only [← hread]
  cases Path.parse ('/' :: cs) with
  | ok segments => simp
  | error fault => simp

/-- A wildcard ends a path, and nothing may follow it, be it only a slash. -/
theorem parse_eq_ok_iff_inGrammar_wildcard :
    '\n' ∉ "a/\x7bid\x7d/\x7brest...\x7d".toList ∧
      InGrammar "a/\x7bid\x7d/\x7brest...\x7d".toList
        [.literal "a", .param "id", .wildcard "rest"] ∧
      '\n' ∉ "a/\x7brest...\x7d/".toList ∧
      ¬∃ segments, InGrammar "a/\x7brest...\x7d/".toList segments := by
  have hline : '\n' ∉ "a/\x7bid\x7d/\x7brest...\x7d".toList := by decide
  have hline' : '\n' ∉ "a/\x7brest...\x7d/".toList := by decide
  refine ⟨hline, ((parse_eq_ok_iff_inGrammar hline).1 _).mp (by rfl), hline', ?_⟩
  exact (parse_eq_ok_iff_inGrammar hline').2.mp ⟨.wildcardNotLast "rest", by rfl⟩

end FragmentRoutes.Route.Path
