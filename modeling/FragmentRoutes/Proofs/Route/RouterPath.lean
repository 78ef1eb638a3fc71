import FragmentRoutes.Proofs.Route.Label

/-!
# Paths of the router

The router path is a text of parts, one for each segment (`Normal.toList_routerPath`).  To the
router a subtree is a wildcard under a name that no parameter may have, and the end mark is an
empty part.  So every segment has a text of its own (`routerText_injective`): no literal, which
has no brace, looks like a parameter, and no parameter, whose name has no colon, like a wildcard.

Hence labels of different paths have different router paths
(`Normal.path_eq_of_routerPath_eq`).
-/

namespace FragmentRoutes.Route

namespace Segment

/-- The segment as it stands in a router path, empty for the end mark. -/
def routerText : Segment → List Char
  | literal text => text.toList
  | param name => '\x7b' :: (name.toList ++ ['\x7d'])
  | wildcard name => '\x7b' :: (name.toList ++ ":path\x7d".toList)
  | finish => []

/-- A segment that a router path may hold: names are identifiers, literals have no brace. -/
def IsRouted : Segment → Prop
  | literal text => text.toList ≠ [] ∧ ∀ c ∈ text.toList, c ≠ '/' ∧ c ≠ '\x7b' ∧ c ≠ '\x7d'
  | param name => ∀ c ∈ name.toList, Text.continuesIdentifier c = true
  | wildcard name => ∀ c ∈ name.toList, Text.continuesIdentifier c = true
  | finish => True

theorem IsPlain.isRouted {s : Segment} (h : s.IsPlain) : s.IsRouted := by
  cases s with
  | literal text => exact h
  | param name => exact fun c hc => h.continuesIdentifier hc
  | wildcard name => exact fun c hc => h.continuesIdentifier hc
  | finish => trivial

theorem IsRouted.slash_notMem_routerText {s : Segment} (h : s.IsRouted) : '/' ∉ s.routerText := by
  have hname : ∀ {name : String}, (∀ c ∈ name.toList, Text.continuesIdentifier c = true) →
      '/' ∉ name.toList := fun hn hmem => absurd (hn _ hmem) (by decide)
  cases s with
  | literal text => exact fun hmem => (h.2 '/' hmem).1 rfl
  | param name => simpa [routerText] using hname h
  | wildcard name => simpa [routerText] using hname h
  | finish => exact List.not_mem_nil

/-- Only the end mark has no text. -/
theorem IsRouted.routerText_ne_nil {s : Segment} (h : s.IsRouted) (hs : s ≠ .finish) :
    s.routerText ≠ [] := by
  cases s with
  | literal text => exact h.1
  | param name => exact List.cons_ne_nil _ _
  | wildcard name => exact List.cons_ne_nil _ _
  | finish => exact absurd rfl hs

/-- A name before a colon and a brace is not a name before a brace. -/
theorem param_ne_wildcard {n n' : List Char} (h : ∀ c ∈ n, Text.continuesIdentifier c = true) :
    n ++ ['\x7d'] ≠ n' ++ ":path\x7d".toList := by
  intro heq
  have hinit : n = n' ++ ":path".toList := by
    have htail : n' ++ ":path\x7d".toList = (n' ++ ":path".toList) ++ ['\x7d'] := by simp
    exact List.append_cancel_right (heq.trans htail)
  have hcolon : ':' ∈ n := by rw [hinit]; simp
  exact absurd (h ':' hcolon) (by decide)

/-- **Segments of one router text are the same.** -/
theorem routerText_injective {s s' : Segment} (h : s.IsRouted) (h' : s'.IsRouted)
    (heq : s.routerText = s'.routerText) : s = s' := by
  -- a literal neither is empty nor starts with a brace
  have hbrace : ∀ {text : String} {cs : List Char}, (literal text).IsRouted →
      text.toList ≠ '\x7b' :: cs := fun hlit heq =>
    (hlit.2 '\x7b' (heq ▸ List.mem_cons_self)).2.1 rfl
  cases s with
  | literal text =>
    cases s' with
    | literal text' => rw [String.ext heq]
    | param name' => exact absurd heq (hbrace h)
    | wildcard name' => exact absurd heq (hbrace h)
    | finish => exact absurd heq h.1
  | param name =>
    cases s' with
    | literal text' => exact absurd heq.symm (hbrace h')
    | param name' =>
      rw [String.ext (List.append_cancel_right (List.cons.inj heq).2)]
    | wildcard name' => exact absurd (List.cons.inj heq).2 (param_ne_wildcard h)
    | finish => cases heq
  | wildcard name =>
    cases s' with
    | literal text' => exact absurd heq.symm (hbrace h')
    | param name' => exact absurd (List.cons.inj heq).2.symm (param_ne_wildcard h')
    | wildcard name' =>
      rw [String.ext (List.append_cancel_right (List.cons.inj heq).2)]
    | finish => cases heq
  | finish =>
    cases s' with
    | literal text' => exact absurd heq.symm h'.1
    | param name' => cases heq
    | wildcard name' => cases heq
    | finish => rfl

theorem map_routerText_injective {ss ss' : List Segment} (h : ∀ s ∈ ss, s.IsRouted)
    (h' : ∀ s ∈ ss', s.IsRouted) (heq : ss.map routerText = ss'.map routerText) : ss = ss' := by
  induction ss generalizing ss' with
  | nil => exact (List.map_eq_nil_iff.mp heq.symm).symm
  | cons s ss ih =>
    cases ss' with
    | nil => cases heq
    | cons s' ss' =>
      obtain ⟨hhead, htail⟩ := List.cons.inj heq
      rw [routerText_injective (h s List.mem_cons_self) (h' s' List.mem_cons_self) hhead,
        ih (fun t ht => h t (List.mem_cons_of_mem _ ht))
          (fun t ht => h' t (List.mem_cons_of_mem _ ht)) htail]

end Segment

namespace Label

/-- The segments as the router takes them: a subtree is a wildcard under a reserved name. -/
def routerSegments (label : Label) : List Segment :=
  label.segments ++ if label.subtree then [.wildcard "_subtree"] else []

/-! ### The text of a router path -/

/-- The segments other than the end mark are written one by one. -/
theorem map_toList_filterMap_routerSegment? (segments : List Segment) :
    (segments.filterMap routerSegment?).map String.toList =
      (segments.filter (· ≠ .finish)).map Segment.routerText := by
  induction segments with
  | nil => rfl
  | cons s segments ih =>
    cases s with
    | literal text => simpa [routerSegment?, Segment.routerText] using ih
    | param name => simpa [routerSegment?, Segment.routerText] using ih
    | wildcard name => simpa [routerSegment?, Segment.routerText] using ih
    | finish => exact ih

/-- Segments that may be followed by others are not the end mark. -/
theorem ne_finish_of_isOpen {s : Segment} (h : s.IsOpen) : s ≠ .finish := by
  rintro rfl
  exact h

/-- Text that does not end in a slash keeps its slashes. -/
theorem dropLastSlashes_of_getLast?_ne {cs : List Char} (h : cs.getLast? ≠ some '/') :
    dropLastSlashes cs = cs := by
  rcases List.eq_nil_or_concat cs with rfl | ⟨init, c, rfl⟩
  · rfl
  · have hc : (c == '/') = false := by
      rw [beq_eq_false_iff_ne]
      rintro rfl
      exact h (by simp)
    simp [dropLastSlashes, hc]

/-- A slash and written parts with slashes between them. -/
theorem toList_slash_intercalate (parts : List String) :
    ("/" ++ "/".intercalate parts).toList =
      if parts = [] then ['/'] else Path.slashed (parts.map String.toList) := by
  split_ifs with hnil
  · rw [hnil]
    rfl
  · rw [Path.slashed_eq_intercalate (by simpa using hnil), String.toList_append,
      String.toList_intercalate]
    rfl

namespace Normal

variable {label : Label} (h : label.Normal)

include h

/-- A path that ends in the end mark is no subtree. -/
theorem subtree_eq_false_of_exact (hexact : label.exact = true) : label.subtree = false :=
  Bool.eq_false_iff.mpr fun hsub => h.not_exact_and_subtree ⟨hexact, hsub⟩

/-- Only the last segment may be the end mark. -/
theorem filter_ne_finish_append :
    label.segments.filter (· ≠ .finish) ++ (if label.exact then [.finish] else []) =
      label.segments := by
  rcases List.eq_nil_or_concat label.segments with hnil | ⟨init, last, hsegs⟩
  · rw [exact, hnil]
    rfl
  · have hopen := h.path_normal.open_of_mem_dropLast
    rw [hsegs, List.concat_eq_append, List.dropLast_concat] at hopen
    have hinit : init.filter (· ≠ .finish) = init :=
      List.filter_eq_self.mpr fun s hs => decide_eq_true (ne_finish_of_isOpen (hopen s hs))
    rw [exact, hsegs, List.concat_eq_append, List.filter_append, hinit, List.getLast?_concat]
    by_cases hlast : last = .finish
    · simp [hlast]
    · simp [hlast]

/-- A path that does not end in the end mark has none. -/
theorem filter_ne_finish_eq (hexact : ¬label.exact = true) :
    label.segments.filter (· ≠ .finish) = label.segments := by
  have hsegments := h.filter_ne_finish_append
  rwa [if_neg hexact, List.append_nil] at hsegments

/-- **The router path is the texts of the router's segments**, each after a slash. -/
theorem toList_routerPath :
    label.routerPath.toList = Path.slashed (label.routerSegments.map Segment.routerText) := by
  have hparts := map_toList_filterMap_routerSegment? label.segments
  rw [routerPath, routerSegments]
  by_cases hexact : label.exact = true
  · -- the end mark is the last segment and makes an empty part
    have hsegments := h.filter_ne_finish_append
    rw [if_pos hexact] at hsegments
    rw [if_pos hexact, h.subtree_eq_false_of_exact hexact, if_neg Bool.false_ne_true,
      List.append_nil]
    conv_rhs => rw [← hsegments, List.map_append, ← hparts]
    split_ifs with hnil
    · rw [List.isEmpty_iff.mp hnil]
      rfl
    · rw [String.toList_append, toList_slash_intercalate, if_neg (by simpa using hnil),
        Path.slashed_append]
      rfl
  rw [h.filter_ne_finish_eq hexact] at hparts
  by_cases hsub : label.subtree = true
  · -- the slash at the end becomes a wildcard
    have hplain : ∀ part ∈ label.segments.map Segment.routerText, '/' ∉ part ∧ part ≠ [] := by
      intro part hpart
      obtain ⟨s, hs, rfl⟩ := List.mem_map.mp hpart
      have hrouted := (h.path_normal.plain s hs).isRouted
      rw [← h.filter_ne_finish_eq hexact] at hs
      exact ⟨hrouted.slash_notMem_routerText,
        hrouted.routerText_ne_nil (of_decide_eq_true (List.mem_filter.mp hs).2)⟩
    have hdrop : dropLastSlashes
        ("/" ++ "/".intercalate (label.segments.filterMap routerSegment?)).toList =
          Path.slashed (label.segments.map Segment.routerText) := by
      rw [toList_slash_intercalate, ← hparts]
      split_ifs with hnil
      · rw [hnil]
        rfl
      · rw [hparts]
        exact dropLastSlashes_of_getLast?_ne (Path.getLast?_slashed_ne_slash hplain)
    rw [if_neg hexact, if_pos hsub, if_pos hsub, String.toList_append, hdrop,
      String.toList_ofList, List.map_append, Path.slashed_append]
    rfl
  · -- neither mark nor slash at the end, so there is a segment
    have hne : label.segments ≠ [] := fun hnil => hsub (h.subtree_of_segments_eq_nil hnil)
    have hparts_ne : label.segments.filterMap routerSegment? ≠ [] := by
      rw [ne_eq, ← List.map_eq_nil_iff (f := String.toList), hparts, List.map_eq_nil_iff]
      exact hne
    rw [if_neg hexact, if_neg hsub, if_neg hsub, List.append_nil, toList_slash_intercalate,
      if_neg hparts_ne, hparts]

/-- The router's segments may stand in a router path. -/
theorem isRouted_of_mem_routerSegments : ∀ s ∈ label.routerSegments, s.IsRouted := by
  intro s hs
  rcases List.mem_append.mp hs with hs | hs
  · exact (h.path_normal.plain s hs).isRouted
  · split_ifs at hs with hsub
    · obtain rfl := List.mem_singleton.mp hs
      have hletters : "_subtree".toList.all Text.continuesIdentifier = true := by decide
      exact List.all_eq_true.mp hletters
    · cases hs

/-- No wildcard of a path has the name that a subtree gets. -/
theorem wildcard_subtree_notMem_segments : Segment.wildcard "_subtree" ∉ label.segments :=
  fun hmem => (h.path_normal.plain _ hmem).not_underscore (by decide)

end Normal

/-! ### Injectivity -/

variable {label label' : Label}

/-- The router's segments tell segments and subtree. -/
theorem routerSegments_injective (h : label.Normal) (h' : label'.Normal)
    (heq : label.routerSegments = label'.routerSegments) :
    label.segments = label'.segments ∧ label.subtree = label'.subtree := by
  rw [routerSegments, routerSegments] at heq
  cases hsub : label.subtree with
  | true =>
    cases hsub' : label'.subtree with
    | true =>
      rw [hsub, hsub', if_pos rfl] at heq
      exact ⟨List.append_cancel_right heq, rfl⟩
    | false =>
      rw [hsub, hsub', if_pos rfl, if_neg Bool.false_ne_true, List.append_nil] at heq
      -- the subtree's wildcard would be a segment of the other path
      exact absurd (heq ▸ by simp) h'.wildcard_subtree_notMem_segments
  | false =>
    cases hsub' : label'.subtree with
    | true =>
      rw [hsub, hsub', if_pos rfl, if_neg Bool.false_ne_true, List.append_nil] at heq
      exact absurd (heq ▸ by simp) h.wildcard_subtree_notMem_segments
    | false =>
      rw [hsub, hsub', if_neg Bool.false_ne_true, List.append_nil, List.append_nil] at heq
      exact ⟨heq, rfl⟩

/-- **Labels of one router path have one path.** -/
theorem Normal.path_eq_of_routerPath_eq (h : label.Normal) (h' : label'.Normal)
    (heq : label.routerPath = label'.routerPath) : label.path = label'.path := by
  have hslashed : Path.slashed (label.routerSegments.map Segment.routerText) =
      Path.slashed (label'.routerSegments.map Segment.routerText) := by
    rw [← h.toList_routerPath, ← h'.toList_routerPath, heq]
  have hnoSlash : ∀ {l : Label}, l.Normal →
      ∀ part ∈ l.routerSegments.map Segment.routerText, '/' ∉ part := by
    intro l hl part hpart
    obtain ⟨s, hs, rfl⟩ := List.mem_map.mp hpart
    exact (hl.isRouted_of_mem_routerSegments s hs).slash_notMem_routerText
  -- parts without slashes are told from the text, segments from their parts
  have htexts := Path.slashed_injective (hnoSlash h) (hnoSlash h') hslashed
  have hsegments := Segment.map_routerText_injective h.isRouted_of_mem_routerSegments
    h'.isRouted_of_mem_routerSegments htexts
  obtain ⟨hsegs, hsub⟩ := routerSegments_injective h h' hsegments
  apply String.ext
  rw [h.toList_path, h'.toList_path, hsegs, hsub]

end Label

end FragmentRoutes.Route
