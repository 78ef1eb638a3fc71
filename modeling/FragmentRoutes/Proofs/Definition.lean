import FragmentRoutes.Definition
import FragmentRoutes.Proofs.Call
import FragmentRoutes.Proofs.Route.RouterPath
import Mathlib.Data.List.Nodup

/-!
# Definitions of many fragments

`ofFragments` returns definitions that were parsed from its fragments (`exists_parse_of_mem`),
no two of one pattern (`nodup_patterns`).  Patterns are made of method, host and path, and the
router path tells the path, so no two definitions are registered for the same method, host and
router path (`routes_nodup`).
-/

namespace FragmentRoutes

namespace Definition

/-- The label of a definition was read from the name of its fragment. -/
theorem parse_eq_ok_some {name source group : String} {d : Definition}
    (h : parse name source group = .ok (some d)) :
    Route.Label.parse name = .ok (some d.label) ∧ d.source = source ∧ d.group = group := by
  rw [parse] at h
  split at h
  · cases h
  · cases h
  rename_i label hlabel
  split at h
  · cases h
  dsimp only at h
  split_ifs at h
  obtain rfl := Option.some.inj (Except.ok.inj h)
  exact ⟨hlabel, rfl, rfl⟩

/-- The call of a definition was read from its label. -/
theorem parseCall_of_parse {name source group : String} {d : Definition}
    (h : parse name source group = .ok (some d)) : parseCall d.label = .ok d.call := by
  rw [parse] at h
  split at h
  · cases h
  · cases h
  split at h
  · cases h
  rename_i hcall
  dsimp only at h
  split_ifs at h
  obtain rfl := Option.some.inj (Except.ok.inj h)
  exact hcall

/-- A call of a label is spelled there, and its identifiers are in scope. -/
theorem parse_of_parseCall {label : Route.Label} {call : Call}
    (h : parseCall label = .ok (some call)) :
    Call.parse label.callText = .ok call ∧ call.checkScope (scope label) = .ok () := by
  rw [parseCall] at h
  split_ifs at h
  · cases h
  · rw [Except.bind_eq_ok] at h
    obtain ⟨read, hread, h⟩ := h
    rw [Except.bind_eq_ok] at h
    obtain ⟨_, hscope, h⟩ := h
    obtain rfl := Option.some.inj (Except.ok.inj h)
    exact ⟨hread, hscope⟩

/-- **The identifiers of the call of a definition are in its scope.** -/
theorem mem_scope_of_parse {name source group : String} {d : Definition} {call : Call}
    (h : parse name source group = .ok (some d)) (hcall : d.call = some call) :
    ∀ id ∈ call.identifiers, id ∈ scope d.label := by
  have hparsed := parseCall_of_parse h
  rw [hcall] at hparsed
  exact Call.checkScope_eq_ok_iff.mp (parse_of_parseCall hparsed).2

/-! ### Collecting definitions -/

/-- What is collected are the definitions seen before and definitions parsed from the
fragments. -/
theorem exists_parse_of_mem_collect {seen definitions : List Definition}
    {fragments : List Fragment} (h : collect seen fragments = .ok definitions) :
    ∀ d ∈ definitions, d ∈ seen ∨
      ∃ f ∈ fragments, parse f.name f.file f.group = .ok (some d) := by
  induction fragments generalizing seen with
  | nil =>
    obtain rfl := Except.ok.inj h
    exact fun d hd => Or.inl (List.mem_reverse.mp hd)
  | cons f rest ih =>
    have hlater : ∀ {d : Definition}, (∃ g ∈ rest, parse g.name g.file g.group = .ok (some d)) →
        ∃ g ∈ f :: rest, parse g.name g.file g.group = .ok (some d) :=
      fun ⟨g, hg, hparse⟩ => ⟨g, List.mem_cons_of_mem _ hg, hparse⟩
    intro d hd
    rw [collect] at h
    split at h
    · cases h
    · exact (ih h d hd).imp_right hlater
    · rename_i e he
      split at h
      · cases h
      · -- the definition of this fragment is among those seen by the next
        rcases ih h d hd with hseen | hrest
        · rcases List.mem_cons.mp hseen with rfl | hseen
          · exact Or.inr ⟨f, List.mem_cons_self, he⟩
          · exact Or.inl hseen
        · exact Or.inr (hlater hrest)

/-- Collecting keeps the patterns distinct: a definition is added only if its pattern was not
seen. -/
theorem nodup_patterns_collect {seen definitions : List Definition} {fragments : List Fragment}
    (hseen : (seen.map pattern).Nodup) (h : collect seen fragments = .ok definitions) :
    (definitions.map pattern).Nodup := by
  induction fragments generalizing seen with
  | nil =>
    obtain rfl := Except.ok.inj h
    rw [List.map_reverse, List.nodup_reverse]
    exact hseen
  | cons f rest ih =>
    rw [collect] at h
    split at h
    · cases h
    · exact ih hseen h
    · rename_i d hd
      split at h
      · cases h
      · rename_i hnew
        refine ih ?_ h
        rw [List.map_cons, List.nodup_cons]
        refine ⟨fun hmem => ?_, hseen⟩
        obtain ⟨e, he, heq⟩ := List.mem_map.mp hmem
        exact List.find?_eq_none.mp hnew e he (beq_iff_eq.mpr heq)

/-! ### Definitions of a collection -/

/-- The definitions are those collected, in another order. -/
theorem perm_collect_of_ofFragments {fragments : List Fragment} {definitions : List Definition}
    (h : ofFragments fragments = .ok definitions) :
    ∃ collected, collect [] (fragments.mergeSort byFile) = .ok collected ∧
      definitions.Perm collected := by
  rw [ofFragments, Except.bind_eq_ok] at h
  obtain ⟨collected, hcollect, h⟩ := h
  obtain rfl := Except.ok.inj h
  exact ⟨collected, hcollect, List.mergeSort_perm collected bySortKey⟩

/-- Fragments and definitions that are in order already stay as they are. -/
theorem ofFragments_of_pairwise {fragments : List Fragment} {definitions : List Definition}
    (hfiles : fragments.Pairwise fun a b => byFile a b = true)
    (hcollect : collect [] fragments = .ok definitions)
    (hkeys : definitions.Pairwise fun a b => bySortKey a b = true) :
    ofFragments fragments = .ok definitions := by
  rw [ofFragments, List.mergeSort_of_pairwise hfiles, hcollect]
  exact congrArg Except.ok (List.mergeSort_of_pairwise hkeys)

/-- **Every definition was parsed from one of the fragments.** -/
theorem exists_parse_of_mem {fragments : List Fragment} {definitions : List Definition}
    (h : ofFragments fragments = .ok definitions) {d : Definition} (hd : d ∈ definitions) :
    ∃ f ∈ fragments, parse f.name f.file f.group = .ok (some d) := by
  obtain ⟨collected, hcollect, hperm⟩ := perm_collect_of_ofFragments h
  rcases exists_parse_of_mem_collect hcollect d (hperm.mem_iff.mp hd) with hnil | ⟨f, hf, hparse⟩
  · cases hnil
  · exact ⟨f, (List.mergeSort_perm fragments byFile).mem_iff.mp hf, hparse⟩

/-- The label of every definition has the form of a label. -/
theorem normal_of_mem {fragments : List Fragment} {definitions : List Definition}
    (h : ofFragments fragments = .ok definitions) {d : Definition} (hd : d ∈ definitions) :
    d.label.Normal := by
  obtain ⟨f, -, hparse⟩ := exists_parse_of_mem h hd
  exact Route.Label.normal_of_parse (parse_eq_ok_some hparse).1

/-- **No two definitions have one pattern.** -/
theorem nodup_patterns {fragments : List Fragment} {definitions : List Definition}
    (h : ofFragments fragments = .ok definitions) : (definitions.map pattern).Nodup := by
  obtain ⟨collected, hcollect, hperm⟩ := perm_collect_of_ofFragments h
  exact (hperm.map pattern).nodup_iff.mpr (nodup_patterns_collect (by simp) hcollect)

end Definition

/-! ### Routes of the router -/

namespace Route

/-- The text of the method tells the method. -/
theorem Label.method_eq_of_methodText_eq {l l' : Label} (h : l.methodText = l'.methodText) :
    l.method = l'.method := by
  rw [methodText, methodText] at h
  cases hm : l.method with
  | none =>
    cases hm' : l'.method with
    | none => rfl
    | some m' => rw [hm, hm'] at h; cases m' <;> simp [Method.render] at h
  | some m =>
    cases hm' : l'.method with
    | none => rw [hm, hm'] at h; cases m <;> simp [Method.render] at h
    | some m' => rw [hm, hm'] at h; cases m <;> cases m' <;> simp [Method.render] at h ⊢

/-- Method, host and path make the pattern. -/
theorem Label.pattern_congr {l l' : Label} (hmethod : l.methodText = l'.methodText)
    (hhost : l.host = l'.host) (hpath : l.path = l'.path) : l.pattern = l'.pattern := by
  rw [pattern, pattern, method_eq_of_methodText_eq hmethod, hhost, hpath]

/-- **No two routes match the same text.**  Labels of different paths have different router
paths; and for every collection of fragments that defines routes, the method, host and router
path of no two definitions are the same. -/
theorem routes_nodup :
    (∀ {text text' : String} {label label' : Label},
      Label.parse text = .ok (some label) → Label.parse text' = .ok (some label') →
      label.path ≠ label'.path → label.routerPath ≠ label'.routerPath) ∧
    ∀ {fragments : List Fragment} {definitions : List Definition},
      Definition.ofFragments fragments = .ok definitions →
      (definitions.map fun d => (d.label.methodText, d.label.host, d.label.routerPath)).Nodup := by
  constructor
  · intro text text' label label' h h' hne heq
    exact hne ((Label.normal_of_parse h).path_eq_of_routerPath_eq (Label.normal_of_parse h') heq)
  · intro fragments definitions h
    -- equal triples would give equal patterns, and those are distinct
    have hpatterns := Definition.nodup_patterns h
    refine List.Nodup.map_on (fun d hd e he heq => ?_) hpatterns.of_map
    simp only [Prod.mk.injEq] at heq
    obtain ⟨hmethod, hhost, hrouter⟩ := heq
    have hpath := (Definition.normal_of_mem h hd).path_eq_of_routerPath_eq
      (Definition.normal_of_mem h he) hrouter
    exact List.inj_on_of_nodup_map hpatterns hd he (Label.pattern_congr hmethod hhost hpath)

/-- An exact path and the subtree of the same segments are two routes of the router. -/
theorem routes_nodup_exact_subtree :
    (∃ label label', Label.parse "GET /a/" = .ok (some label) ∧
      Label.parse "GET /a/\x7b$\x7d" = .ok (some label') ∧
      label.routerPath ≠ label'.routerPath) ∧
    ∃ definitions,
      Definition.ofFragments [⟨"GET /a/", "", none⟩, ⟨"GET /a/\x7b$\x7d", "", none⟩,
        ⟨"nav.html", "", none⟩] = .ok definitions ∧
      definitions.map (·.label.routerPath) = ["/a/\x7b_subtree:path\x7d", "/a/"] ∧
      (definitions.map fun d => (d.label.methodText, d.label.host, d.label.routerPath)).Nodup := by
  have hsubtree : Label.parse "GET /a/" = .ok (some
      ⟨"GET /a/", some .get, "", "/a/", [.literal "a"], 200, false, ""⟩) := by rfl
  have hexact : Label.parse "GET /a/\x7b$\x7d" = .ok (some
      ⟨"GET /a/\x7b$\x7d", some .get, "", "/a/\x7b$\x7d", [.literal "a", .finish], 200, false,
        ""⟩) := by rfl
  have hdefinitions : Definition.ofFragments [⟨"GET /a/", "", none⟩,
      ⟨"GET /a/\x7b$\x7d", "", none⟩, ⟨"nav.html", "", none⟩] = .ok _ :=
    Definition.ofFragments_of_pairwise (by decide +kernel) rfl (by decide +kernel)
  exact ⟨⟨_, _, hsubtree, hexact, routes_nodup.1 hsubtree hexact (by decide)⟩,
    _, hdefinitions, by decide +kernel, routes_nodup.2 hdefinitions⟩

end Route

end FragmentRoutes
