import FragmentRoutes.Proofs.Definition
import FragmentRoutes.Proofs.Text.Order
import Mathlib.Data.List.Perm.Subperm

/-!
# The definitions of a collection

The definitions of a collection of fragments are those that the names of the fragments spell
(`routes`), sorted.  They are returned if and only if every name can be read and no two patterns
are the same; two definitions of one pattern are reported otherwise (`collect_eq_ok_iff`,
`exists_duplicate_of_collect`).

A definition is parsed from the file and the name of its fragment, and these are also the key by
which fragments are sorted.  So fragments that the sorting does not tell apart define the same
(`parsed_congr`), and neither the definitions nor an error depend on the order in which the
fragments are given (`ofFragments_of_perm`).
-/

namespace FragmentRoutes

namespace Definition

/-! ### What a fragment defines -/

/-- The file and the name of a fragment. -/
def fileKey (f : Fragment) : List String :=
  [f.file, f.name]

/-- The definition that the name of a fragment is, `none` when it is no label. -/
def parsed (f : Fragment) : Except Grammar.Error (Option Definition) :=
  parse f.name f.file f.group

/-- The definitions that fragments spell, in the order of the fragments. -/
def routes (fragments : List Fragment) : List Definition :=
  fragments.filterMap fun f => (parsed f).toOption.join

/-- The group of a fragment is the base name of its file. -/
theorem group_eq (f : Fragment) : f.group = Fragment.baseName f.file := by
  rw [Fragment.group, Fragment.file]
  cases f.filename with
  | none => rfl
  | some path => rfl

/-- **Fragments of one file and name define the same.** -/
theorem parsed_congr {f g : Fragment} (h : fileKey f = fileKey g) : parsed f = parsed g := by
  simp only [fileKey, List.cons.injEq, and_true] at h
  rw [parsed, parsed, group_eq, group_eq, h.1, h.2]

@[simp]
theorem routes_nil : routes [] = [] :=
  rfl

theorem routes_cons_of_none {f : Fragment} {rest : List Fragment} (h : parsed f = .ok none) :
    routes (f :: rest) = routes rest :=
  List.filterMap_cons_none (by rw [h]; rfl)

theorem routes_cons_of_some {f : Fragment} {rest : List Fragment} {d : Definition}
    (h : parsed f = .ok (some d)) : routes (f :: rest) = d :: routes rest :=
  List.filterMap_cons_some (by rw [h]; rfl)

/-! ### Collecting -/

/-- Collecting looks at no more of the fragments than their files and names. -/
theorem collect_congr {fragments fragments' : List Fragment} (seen : List Definition)
    (h : fragments.map fileKey = fragments'.map fileKey) :
    collect seen fragments = collect seen fragments' := by
  induction fragments generalizing seen fragments' with
  | nil =>
    obtain rfl : fragments' = [] := by simpa using h.symm
    rfl
  | cons f rest ih =>
    obtain ⟨g, rest', rfl⟩ : ∃ g rest', fragments' = g :: rest' :=
      List.exists_cons_of_ne_nil (by rintro rfl; simp at h)
    rw [List.map_cons, List.map_cons, List.cons.injEq] at h
    have hparse : parse f.name f.file f.group = parse g.name g.file g.group := parsed_congr h.1
    rw [collect, collect, hparse]
    simp only [ih _ h.2]

/-- **What collecting returns**: it ends well exactly if every name can be read and no pattern
occurs twice, and then with the definitions that the names spell. -/
theorem collect_eq_ok_iff {fragments : List Fragment} {seen definitions : List Definition}
    (hseen : (seen.map pattern).Nodup) :
    collect seen fragments = .ok definitions ↔
      (∀ f ∈ fragments, ∃ d?, parsed f = .ok d?) ∧
        ((seen.reverse ++ routes fragments).map pattern).Nodup ∧
          definitions = seen.reverse ++ routes fragments := by
  induction fragments generalizing seen with
  | nil =>
    rw [routes_nil, List.append_nil, List.map_reverse, List.nodup_reverse]
    simp [collect, hseen, eq_comm]
  | cons f rest ih =>
    rw [collect, List.forall_mem_cons, parsed]
    split
    · rename_i error herror
      simp [herror]
    · rename_i hnone
      rw [ih hseen, routes_cons_of_none hnone]
      simp [hnone]
    · rename_i d hd
      rw [routes_cons_of_some hd]
      split
      · -- the pattern was seen, so it occurs twice
        rename_i first hfirst
        have hmem : first ∈ seen := List.mem_of_find?_eq_some hfirst
        have hsame : first.pattern = d.pattern := by simpa using List.find?_some hfirst
        refine iff_of_false (by simp) ?_
        rintro ⟨-, hnodup, -⟩
        rw [List.map_append, List.nodup_append] at hnodup
        exact hnodup.2.2 _ (List.mem_map_of_mem (List.mem_reverse.mpr hmem)) _
          (List.mem_map_of_mem List.mem_cons_self) hsame
      · rename_i hnew
        have hseen' : ((d :: seen).map pattern).Nodup := by
          rw [List.map_cons, List.nodup_cons]
          refine ⟨fun hmem => ?_, hseen⟩
          obtain ⟨e, he, heq⟩ := List.mem_map.mp hmem
          exact List.find?_eq_none.mp hnew e he (beq_iff_eq.mpr heq)
        rw [ih hseen', List.reverse_cons, List.append_assoc, List.singleton_append]
        simp [hd]

/-- If every name can be read, collecting ends well or **reports two definitions of one
pattern**, in the order in which they are found. -/
theorem exists_duplicate_of_collect {fragments : List Fragment} {seen : List Definition}
    (hread : ∀ f ∈ fragments, ∃ d?, parsed f = .ok d?) :
    (∃ definitions, collect seen fragments = .ok definitions) ∨
      ∃ d e, [d, e].Sublist (seen.reverse ++ routes fragments) ∧ d.pattern = e.pattern ∧
        collect seen fragments = .error (.duplicate e.pattern d.location e.location) := by
  induction fragments generalizing seen with
  | nil => exact .inl ⟨_, rfl⟩
  | cons f rest ih =>
    obtain ⟨⟨d?, hd?⟩, hrest⟩ := List.forall_mem_cons.mp hread
    rw [parsed] at hd?
    rw [collect, hd?]
    cases d? with
    | none =>
      rw [routes_cons_of_none hd?]
      exact ih hrest
    | some d =>
      rw [routes_cons_of_some hd?]
      dsimp only
      split
      · rename_i first hfirst
        have hmem : first ∈ seen.reverse :=
          List.mem_reverse.mpr (List.mem_of_find?_eq_some hfirst)
        refine .inr ⟨first, d, ?_, by simpa using List.find?_some hfirst, rfl⟩
        exact (List.singleton_sublist.mpr hmem).append
          (List.singleton_sublist.mpr List.mem_cons_self)
      · have hlater := @ih (d :: seen) hrest
        rwa [List.reverse_cons, List.append_assoc, List.singleton_append] at hlater

/-! ### Sorting -/

/-- Fragments in another order have the same files and names once they are sorted. -/
theorem map_fileKey_mergeSort_of_perm {fragments fragments' : List Fragment}
    (h : fragments.Perm fragments') :
    (fragments.mergeSort byFile).map fileKey = (fragments'.mergeSort byFile).map fileKey :=
  Text.map_mergeSort_eq_of_perm fileKey h

/-- **The order of the fragments does not matter**, neither for the definitions nor for an
error. -/
theorem ofFragments_of_perm {fragments fragments' : List Fragment}
    (h : fragments.Perm fragments') : ofFragments fragments = ofFragments fragments' := by
  rw [ofFragments, ofFragments, collect_congr [] (map_fileKey_mergeSort_of_perm h)]

theorem perm_routes_mergeSort (fragments : List Fragment) :
    (routes (fragments.mergeSort byFile)).Perm (routes fragments) :=
  (List.mergeSort_perm fragments byFile).filterMap _

/-- **The definitions of a collection** are those that its names spell, sorted, if every name can
be read and no pattern occurs twice. -/
theorem ofFragments_eq_ok_iff {fragments : List Fragment} {definitions : List Definition} :
    ofFragments fragments = .ok definitions ↔
      (∀ f ∈ fragments, ∃ d?, parsed f = .ok d?) ∧ ((routes fragments).map pattern).Nodup ∧
        definitions = (routes (fragments.mergeSort byFile)).mergeSort bySortKey := by
  have hperm := perm_routes_mergeSort fragments
  have hread : (∀ f ∈ fragments.mergeSort byFile, ∃ d?, parsed f = .ok d?) ↔
      ∀ f ∈ fragments, ∃ d?, parsed f = .ok d? := by
    simp only [(List.mergeSort_perm fragments byFile).mem_iff]
  rw [ofFragments, Except.bind_eq_ok, ← hread, ← (hperm.map pattern).nodup_iff]
  constructor
  · rintro ⟨collected, hcollect, h⟩
    obtain ⟨hall, hnodup, rfl⟩ := (collect_eq_ok_iff (by simp)).mp hcollect
    exact ⟨hall, hnodup, (Except.ok.inj h).symm⟩
  · rintro ⟨hall, hnodup, rfl⟩
    exact ⟨_, (collect_eq_ok_iff (by simp)).mpr ⟨hall, hnodup, rfl⟩, rfl⟩

/-- One fragment whose name spells a definition makes it. -/
theorem ofFragments_singleton {f : Fragment} {d : Definition} (h : parsed f = .ok (some d)) :
    ofFragments [f] = .ok [d] := by
  have hroutes : routes [f] = [d] := by rw [routes_cons_of_some h, routes_nil]
  refine ofFragments_eq_ok_iff.mpr ⟨?_, ?_, ?_⟩
  · exact List.forall_mem_singleton.mpr ⟨_, h⟩
  · simp [hroutes]
  · rw [List.mergeSort_singleton, hroutes, List.mergeSort_singleton]

/-- There is one definition for each name that spells one. -/
theorem perm_routes_of_ofFragments {fragments : List Fragment} {definitions : List Definition}
    (h : ofFragments fragments = .ok definitions) : definitions.Perm (routes fragments) := by
  obtain ⟨-, -, rfl⟩ := ofFragments_eq_ok_iff.mp h
  exact (List.mergeSort_perm _ bySortKey).trans (perm_routes_mergeSort fragments)

/-- If every name can be read, there are definitions or two of them have one pattern. -/
theorem exists_duplicate_of_ofFragments {fragments : List Fragment}
    (hread : ∀ f ∈ fragments, ∃ d?, parsed f = .ok d?) :
    (∃ definitions, ofFragments fragments = .ok definitions) ∨
      ∃ d e, [d, e].Subperm (routes fragments) ∧ d.pattern = e.pattern ∧
        ofFragments fragments = .error (.duplicate e.pattern d.location e.location) := by
  have hsorted : ∀ f ∈ fragments.mergeSort byFile, ∃ d?, parsed f = .ok d? := fun f hf =>
    hread f ((List.mergeSort_perm fragments byFile).mem_iff.mp hf)
  rcases @exists_duplicate_of_collect _ [] hsorted with
    ⟨definitions, h⟩ | ⟨d, e, hsub, hpattern, h⟩
  · exact .inl ⟨_, by rw [ofFragments, h]; rfl⟩
  · refine .inr ⟨d, e, ?_, hpattern, by rw [ofFragments, h]; rfl⟩
    exact hsub.subperm.trans (perm_routes_mergeSort fragments).subperm

/-! ### Patterns -/

/-- **The pattern tells method, host and path.** -/
theorem pattern_eq_iff {d e : Definition} (hd : d.label.Normal) (he : e.label.Normal) :
    d.pattern = e.pattern ↔ d.label.methodText = e.label.methodText ∧
      d.label.host = e.label.host ∧ d.label.path = e.label.path := by
  constructor
  · intro h
    -- both labels are what is read from the pattern
    have hparse := hd.parse_pattern.symm.trans ((congrArg Route.Label.parse h).trans
      he.parse_pattern)
    rw [Except.ok.injEq, Option.some.injEq, Route.Label.mk.injEq] at hparse
    obtain ⟨-, hmethod, hhost, hpath, -⟩ := hparse
    exact ⟨by rw [Route.Label.methodText, Route.Label.methodText, hmethod], hhost, hpath⟩
  · rintro ⟨hmethod, hhost, hpath⟩
    exact Route.Label.pattern_congr hmethod hhost hpath

/-- Path, method and host of a definition, by which definitions are listed. -/
def listingKey (d : Definition) : List String :=
  [d.label.path, d.label.methodText, d.label.host]

/-- Definitions of different patterns that are in order are in strict order of path, method and
host. -/
theorem listingKey_lt {d e : Definition} (h : ¬e.sortKey < d.sortKey)
    (hne : d.pattern ≠ e.pattern) : d.listingKey < e.listingKey := by
  have hkey : d.listingKey ≠ e.listingKey := by
    intro heq
    simp only [listingKey, List.cons.injEq, and_true] at heq
    obtain ⟨hpath, hmethod, hhost⟩ := heq
    exact hne (Route.Label.pattern_congr hmethod hhost hpath)
  by_contra hlt
  -- otherwise the keys are the other way round, and then so are the longer ones
  have hgt : e.listingKey < d.listingKey := by
    by_contra hle
    exact hkey (List.le_antisymm (List.not_lt.mp hle) (List.not_lt.mp hlt))
  refine h ?_
  simp only [listingKey, sortKey, List.cons_lt_cons_iff, List.not_lt_nil, and_false,
    or_false] at hgt ⊢
  rcases hgt with hpath | ⟨hpath, hmethod | ⟨hmethod, hhost⟩⟩
  · exact .inl hpath
  · exact .inr ⟨hpath, .inl hmethod⟩
  · exact .inr ⟨hpath, .inr ⟨hmethod, .inl hhost⟩⟩

/-- **Definitions do not depend on the order of the fragments, and none is lost or there twice.**

Any permutation of a collection has the same definitions or the same error.  There are definitions
exactly if every name is no label or spells a definition, and no two of these have one pattern,
that is one method, host and path.  They are then those that the names spell, each once, in strict
order of path, method and host.  If every name can be read but two definitions have one pattern,
two such definitions are reported. -/
theorem ofFragments_complete (fragments : List Fragment) :
    (∀ fragments', fragments'.Perm fragments → ofFragments fragments' = ofFragments fragments) ∧
    (∀ d ∈ routes fragments, ∀ e ∈ routes fragments,
      (d.pattern = e.pattern ↔ d.label.methodText = e.label.methodText ∧
        d.label.host = e.label.host ∧ d.label.path = e.label.path)) ∧
    ((∃ definitions, ofFragments fragments = .ok definitions) ↔
      (∀ f ∈ fragments, parsed f = .ok none ∨ ∃ d, parsed f = .ok (some d)) ∧
        ((routes fragments).map pattern).Nodup) ∧
    (∀ definitions, ofFragments fragments = .ok definitions →
      definitions.Perm (routes fragments) ∧
        definitions.Pairwise fun d e => d.listingKey < e.listingKey) ∧
    ((∀ f ∈ fragments, parsed f = .ok none ∨ ∃ d, parsed f = .ok (some d)) →
      ¬((routes fragments).map pattern).Nodup →
      ∃ d e, [d, e].Subperm (routes fragments) ∧ d.pattern = e.pattern ∧
        ofFragments fragments = .error (.duplicate e.pattern d.location e.location)) := by
  have hcases : ∀ f, (parsed f = .ok none ∨ ∃ d, parsed f = .ok (some d)) ↔
      ∃ d?, parsed f = .ok d? := fun f => by
    rw [Option.exists]
  simp only [hcases]
  refine ⟨fun _ h => ofFragments_of_perm h, ?_, ?_, ?_, ?_⟩
  · have hnormal : ∀ d ∈ routes fragments, d.label.Normal := by
      intro d hd
      obtain ⟨f, -, hf⟩ := List.mem_filterMap.mp hd
      have hparsed : parsed f = .ok (some d) :=
        Except.toOption_eq_some.mp (Option.join_eq_some_iff.mp hf)
      exact Route.Label.normal_of_parse (parse_eq_ok_some hparsed).1
    exact fun d hd e he => pattern_eq_iff (hnormal d hd) (hnormal e he)
  · simp only [ofFragments_eq_ok_iff, exists_and_left, exists_eq, and_true]
  · intro definitions h
    have hperm := perm_routes_of_ofFragments h
    obtain ⟨-, hnodup, rfl⟩ := ofFragments_eq_ok_iff.mp h
    refine ⟨hperm, ?_⟩
    have hpatterns := List.pairwise_map.mp ((hperm.map pattern).nodup_iff.mpr hnodup)
    exact (Text.pairwise_mergeSort_texts sortKey _).imp₂ (fun _ _ => listingKey_lt) hpatterns
  · intro hread hdup
    rcases exists_duplicate_of_ofFragments hread with ⟨definitions, h⟩ | h
    · exact absurd (ofFragments_eq_ok_iff.mp h).2.1 hdup
    · exact h

/-- A fragment with a label. -/
def plainRoute : Fragment :=
  ⟨"GET h.x/a", "", none⟩

/-- A fragment of a file, with the same label in other letters and a status. -/
def filedRoute : Fragment :=
  ⟨"get H.X/a 201", "", some "b.html"⟩

/-- A fragment whose name is no label. -/
def layout : Fragment :=
  ⟨"nav.html", "", none⟩

/-- A label next to a name that is no label defines one route in either order of the two, and
two labels of one pattern are reported. -/
theorem ofFragments_complete_two_files :
    (∃ d, ofFragments [filedRoute, layout] = .ok [d] ∧
      ofFragments [layout, filedRoute] = .ok [d] ∧ d.pattern = "GET h.x/a") ∧
    ∃ d e, [d, e].Subperm (routes [filedRoute, layout, plainRoute]) ∧ d.pattern = e.pattern ∧
      ofFragments [filedRoute, layout, plainRoute] =
        .error (.duplicate e.pattern d.location e.location) := by
  have hplain : parsed plainRoute = .ok (some
      ⟨⟨"GET h.x/a", some .get, "h.x", "/a", [.literal "a"], 200, false, ""⟩, none, "", ""⟩) := by
    rfl
  have hfiled : parsed filedRoute = .ok (some
      ⟨⟨"get H.X/a 201", some .get, "h.x", "/a", [.literal "a"], 201, true, ""⟩, none, "b.html",
        "b.html"⟩) := by rfl
  have hlayout : parsed layout = .ok none := by rfl
  have hone := @routes_cons_of_some _ [layout] _ hfiled
  have htwo := @routes_cons_of_some _ [layout, plainRoute] _ hfiled
  rw [routes_cons_of_none hlayout, routes_nil] at hone
  rw [routes_cons_of_none hlayout, routes_cons_of_some hplain, routes_nil] at htwo
  obtain ⟨hperm, -, hexists, hlist, -⟩ := ofFragments_complete [filedRoute, layout]
  obtain ⟨-, -, -, -, hreport⟩ := ofFragments_complete [filedRoute, layout, plainRoute]
  constructor
  · obtain ⟨definitions, hok⟩ := hexists.mpr ⟨by simp [hfiled, hlayout], by simp [hone]⟩
    have hroutes := (hlist definitions hok).1
    rw [hone, List.perm_singleton] at hroutes
    rw [hroutes] at hok
    exact ⟨_, hok, (hperm _ (List.Perm.swap _ _ _)).trans hok, by decide⟩
  · refine hreport (by simp [hplain, hfiled, hlayout]) ?_
    rw [htwo]
    decide

end Definition

end FragmentRoutes
