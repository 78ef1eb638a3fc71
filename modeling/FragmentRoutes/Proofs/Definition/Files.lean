import FragmentRoutes.Proofs.Definition.Collection
import FragmentRoutes.Proofs.Fragment.Folder
import FragmentRoutes.Proofs.Route.Front

/-!
# Files that are routes

The files of a folder are listed by their paths next to the blocks in them, and the names of both
are read as labels.  The path of a file is a label exactly if the folder that it starts with reads
like the front of one (`parse_listedPath_iff`), as `v1.2` does, which is a host.  So files define
routes, or are malformed labels, in such folders only, and the definitions of a folder without them
are those of its blocks (`definitions_ofBlock_iff`).
-/

namespace FragmentRoutes

/-- The label that is read bears the name that it was read from. -/
theorem Route.Label.name_of_parse {name : String} {label : Label}
    (h : Label.parse name = .ok (some label)) : label.name = name := by
  rw [Label.parse] at h
  split at h
  · cases h
  · rw [Except.map_eq_ok] at h
    obtain ⟨read, h, hsome⟩ := h
    obtain rfl := Option.some.inj hsome
    rw [ofParts, Except.bind_eq_ok] at h
    obtain ⟨method, -, h⟩ := h
    rw [Except.bind_eq_ok] at h
    obtain ⟨segments, -, h⟩ := h
    rw [Except.bind_eq_ok] at h
    obtain ⟨⟨status, explicitStatus⟩, -, h⟩ := h
    obtain rfl := Except.ok.inj h
    rfl

namespace Definition

/-- A name defines nothing exactly if it is no label. -/
theorem parse_eq_ok_none_iff {name source group : String} :
    parse name source group = .ok none ↔ Route.Label.parse name = .ok none := by
  rw [parse]
  split
  · rename_i fault hlabel
    simp [hlabel]
  · rename_i hlabel
    simp [hlabel]
  · rename_i label hlabel
    rw [hlabel]
    refine iff_of_false (fun h => ?_) (by simp)
    split at h
    · cases h
    · dsimp only at h
      split_ifs at h
      cases h

theorem mem_routes_iff {fragments : List Fragment} {d : Definition} :
    d ∈ routes fragments ↔ ∃ f ∈ fragments, parsed f = .ok (some d) := by
  rw [routes, List.mem_filterMap]
  simp only [Option.join_eq_some_iff, Except.toOption_eq_some]

/-- One fragment that is a route makes the one definition. -/
theorem ofFragments_eq_singleton {fragments : List Fragment} {d : Definition}
    (hread : ∀ f ∈ fragments, ∃ d?, parsed f = .ok d?) (hroutes : routes fragments = [d]) :
    ofFragments fragments = .ok [d] := by
  refine ofFragments_eq_ok_iff.mpr ⟨hread, by simp [hroutes], ?_⟩
  have hperm := (List.mergeSort_perm (routes (fragments.mergeSort byFile)) bySortKey).trans
    (perm_routes_mergeSort fragments)
  rw [hroutes, List.perm_singleton] at hperm
  exact hperm.symm

end Definition

/-- A library that looks at all its names has the fragments that it knows, if these have distinct
names. -/
theorem Library.fragments_perm {known : List Fragment} (h : (known.map Fragment.name).Nodup) :
    (ofFragments known none).fragments.Perm known := by
  have hsorted := List.mergeSort_perm (known.map Fragment.name) fun a b => !decide (b < a)
  have hnames : (ofFragments known none).names =
      (known.map Fragment.name).mergeSort fun a b => !decide (b < a) :=
    Text.eraseReps_eq_self (hsorted.nodup_iff.mpr h)
  have hfound : known.filterMap ((ofFragments known none).get? ∘ Fragment.name) = known := by
    refine (List.filterMap_congr fun f hf => ?_).trans List.filterMap_some
    exact (Folder.lookup_eq_some_iff h).mpr ⟨hf, rfl⟩
  have hperm := hsorted.filterMap (ofFragments known none).get?
  rwa [List.filterMap_map, hfound, ← hnames] at hperm

namespace TextFile

/-- The first folder of the path of a file reads like the front of a label. -/
def InRouteFolder (file : TextFile) : Prop :=
  ∃ folder inner, components file.path = folder :: inner ∧ inner ≠ [] ∧
    Route.Label.IsFront folder.toList

/-- The path of a file in a folder starts with the folder and a slash. -/
theorem exists_listedPath_eq {file : TextFile} {folder : String} {inner : List String}
    (h : components file.path = folder :: inner) (hinner : inner ≠ []) :
    ∃ rest, file.listedPath.toList = folder.toList ++ '/' :: rest := by
  obtain ⟨next, inner, rfl⟩ := List.exists_cons_of_ne_nil hinner
  refine ⟨['/'].intercalate ((next :: inner).map String.toList), ?_⟩
  rw [listedPath, String.toList_intercalate, h, List.map_cons, List.map_cons,
    List.intercalate_cons_cons, List.append_assoc]
  rfl

/-- **The path of a file is an ordinary name** unless its first folder reads like the front of a
label. -/
theorem parse_listedPath_iff (file : TextFile) :
    Route.Label.parse file.listedPath = .ok none ↔ ¬file.InRouteFolder := by
  rw [Route.Label.parse_eq_ok_none_iff]
  by_cases hfolder : ∃ folder inner, components file.path = folder :: inner ∧ inner ≠ []
  · obtain ⟨folder, inner, hcomponents, hinner⟩ := hfolder
    obtain ⟨rest, hpath⟩ := exists_listedPath_eq hcomponents hinner
    have hslash : '/' ∉ folder.toList :=
      (plain_of_mem_components (hcomponents ▸ List.mem_cons_self)).2
    rw [Route.Label.parts?_eq_none_iff hpath fun c hc hcslash => hslash (hcslash ▸ hc)]
    refine not_congr ⟨fun hfront => ⟨folder, inner, hcomponents, hinner, hfront⟩, ?_⟩
    rintro ⟨folder', inner', hcomponents', -, hfront⟩
    rw [hcomponents, List.cons.injEq] at hcomponents'
    exact hcomponents'.1 ▸ hfront
  · -- the path is a single name, in which there is no slash
    refine iff_of_true (Route.Label.parts?_eq_none_of_notMem ?_) ?_
    · cases hcomponents : components file.path with
      | nil =>
        rw [listedPath, hcomponents]
        decide
      | cons name inner =>
        obtain rfl : inner = [] := by
          by_contra hinner
          exact hfolder ⟨name, inner, hcomponents, hinner⟩
        rw [listedPath, hcomponents, String.intercalate_singleton]
        exact (plain_of_mem_components (hcomponents ▸ List.mem_cons_self)).2
    · rintro ⟨folder, inner, hcomponents, hinner, -⟩
      exact hfolder ⟨folder, inner, hcomponents, hinner⟩

end TextFile

namespace Folder

variable {root : String} {order : List TextFile} {index : List Fragment}

/-- The definition is that of a listed block. -/
def OfBlock (root : String) (order : List TextFile) (index : List Fragment) (d : Definition) :
    Prop :=
  ∃ file ∈ order, ∃ block ∈ file.blocks, ofBlock root file block ∈ index ∧
    Definition.parsed (ofBlock root file block) = .ok (some d)

/-- The definition is that of a whole file. -/
def OfFile (root : String) (file : TextFile) (d : Definition) : Prop :=
  Definition.parsed (whole root file) = .ok (some d)

theorem parsed_whole_iff (root : String) (file : TextFile) :
    Definition.parsed (whole root file) = .ok none ↔ ¬file.InRouteFolder := by
  rw [Definition.parsed, Definition.parse_eq_ok_none_iff]
  exact file.parse_listedPath_iff

/-- The definitions of a library of files are those of what was loaded. -/
theorem ofFragments_library (hpaths : (paths order).Nodup)
    (hload : loadInOrder root order = .ok index) :
    Definition.ofFragments (Library.ofFragments index none).fragments =
      Definition.ofFragments (listed root order) := by
  obtain ⟨-, hperm, hnodup⟩ := perm_listed_of_loadInOrder hpaths hload
  exact Definition.ofFragments_of_perm ((Library.fragments_perm hnodup).trans hperm)

/-- A fragment that is loaded is a whole file or a block. -/
theorem whole_or_ofBlock_of_mem_listed {fragment : Fragment} (h : fragment ∈ listed root order) :
    (∃ file ∈ order, fragment = whole root file) ∨
      ∃ file ∈ order, ∃ block ∈ file.blocks, fragment = ofBlock root file block := by
  rw [listed, List.mem_append, List.mem_flatMap] at h
  rcases h with h | ⟨file, hfile, h⟩
  · obtain ⟨file, hfile, rfl⟩ := List.mem_map.mp h
    exact .inl ⟨file, hfile, rfl⟩
  · obtain ⟨block, hblock, rfl⟩ := List.mem_map.mp h
    rw [keptBlocks, List.mem_filter] at hblock
    exact .inr ⟨file, hfile, block, hblock.1, rfl⟩

/-- The definition of a whole file is not that of a block, as no block bears the path of its own
file. -/
theorem OfFile.not_ofBlock {file : TextFile} {d : Definition}
    (hown : ∀ file ∈ order, file.listedPath ∉ file.blockNames) (h : OfFile root file d) :
    ¬OfBlock root order index d := by
  rintro ⟨other, hother, block, hblock, -, hparsed⟩
  obtain ⟨hlabel, hsource, -⟩ := Definition.parse_eq_ok_some h
  obtain ⟨hlabel', hsource', -⟩ := Definition.parse_eq_ok_some hparsed
  have hname : file.listedPath = block.name :=
    (Route.Label.name_of_parse hlabel).symm.trans (Route.Label.name_of_parse hlabel')
  have hplace : place root file = place root other := hsource.symm.trans hsource'
  rw [place, place, String.append_right_inj, hname] at hplace
  exact hown other hother (hplace ▸ List.mem_map_of_mem hblock)

/-- **The definitions of files that were loaded** are those of blocks and of files in route
folders. -/
theorem ofBlock_or_ofFile (hperm : index.Perm (listed root order)) {definitions : List Definition}
    (hdefinitions : Definition.ofFragments index = .ok definitions) {d : Definition}
    (hd : d ∈ definitions) : OfBlock root order index d ∨
      ∃ file ∈ order, file.InRouteFolder ∧ OfFile root file d := by
  have hroute := (Definition.perm_routes_of_ofFragments hdefinitions).mem_iff.mp hd
  obtain ⟨f, hf, hparsed⟩ := Definition.mem_routes_iff.mp hroute
  rcases whole_or_ofBlock_of_mem_listed (hperm.mem_iff.mp hf) with
    ⟨file, hfile, rfl⟩ | ⟨file, hfile, block, hblock, rfl⟩
  · refine .inr ⟨file, hfile, ?_, hparsed⟩
    by_contra hfolder
    rw [(parsed_whole_iff root file).mpr hfolder] at hparsed
    cases hparsed
  · exact .inl ⟨file, hfile, block, hblock, hf, hparsed⟩

/-- A file in a route folder defines a route, if there are definitions at all. -/
theorem exists_ofFile (hperm : index.Perm (listed root order)) {definitions : List Definition}
    (hdefinitions : Definition.ofFragments index = .ok definitions) {file : TextFile}
    (hfile : file ∈ order) (hfolder : file.InRouteFolder) :
    ∃ d ∈ definitions, OfFile root file d := by
  have hmem : whole root file ∈ index :=
    hperm.mem_iff.mpr (List.mem_append_left _ (List.mem_map_of_mem hfile))
  obtain ⟨d?, hparsed⟩ := (Definition.ofFragments_eq_ok_iff.mp hdefinitions).1 _ hmem
  cases d? with
  | none => exact absurd hfolder ((parsed_whole_iff root file).mp hparsed)
  | some d =>
    refine ⟨d, ?_, hparsed⟩
    rw [(Definition.perm_routes_of_ofFragments hdefinitions).mem_iff]
    exact Definition.mem_routes_iff.mpr ⟨_, hmem, hparsed⟩

/-- **Files are routes in route folders only.**  The path of a file is no label and no error
exactly if its first folder does not read like the front of a label.  For every folder that is
loaded and has definitions, each definition is that of a block or of a file in such a folder, and
all are those of blocks exactly if there is no such file. -/
theorem definitions_ofBlock_iff (root : String) (patterns : List String) {files : List TextFile}
    (hfiles : (files.map fun file => TextFile.components file.path).Nodup) :
    (∀ (file : TextFile) (source group : String),
      (Route.Label.parse file.listedPath = .ok none ↔ ¬file.InRouteFolder) ∧
      (Definition.parse file.listedPath source group = .ok none ↔ ¬file.InRouteFolder)) ∧
    ∀ index definitions, load root patterns files = .ok index →
      Definition.ofFragments (Library.ofFragments index none).fragments = .ok definitions →
      (∀ d ∈ definitions, OfBlock root (visited patterns files) index d ∨
        ∃ file ∈ visited patterns files, file.InRouteFolder ∧ OfFile root file d) ∧
      ((∀ d ∈ definitions, OfBlock root (visited patterns files) index d) ↔
        ∀ file ∈ visited patterns files, ¬file.InRouteFolder) := by
  refine ⟨fun file source group => ⟨file.parse_listedPath_iff, ?_⟩, fun index definitions hload
    hdefinitions => ?_⟩
  · rw [Definition.parse_eq_ok_none_iff]
    exact file.parse_listedPath_iff
  · rw [load_eq] at hload
    obtain ⟨hfree, hperm, hnodup⟩ :=
      perm_listed_of_loadInOrder (nodup_paths_of_perm hfiles (.refl _)) hload
    rw [Definition.ofFragments_of_perm (Library.fragments_perm hnodup)] at hdefinitions
    have hcases : ∀ d ∈ definitions, OfBlock root (visited patterns files) index d ∨
        ∃ file ∈ visited patterns files, file.InRouteFolder ∧ OfFile root file d :=
      fun d hd => ofBlock_or_ofFile hperm hdefinitions hd
    refine ⟨hcases, fun hblocks file hfile hfolder => ?_, fun hnone d hd => ?_⟩
    · obtain ⟨d, hd, hofFile⟩ := exists_ofFile hperm hdefinitions hfile hfolder
      exact hofFile.not_ofBlock hfree.own (hblocks d hd)
    · refine (hcases d hd).resolve_right ?_
      rintro ⟨file, hfile, hfolder, -⟩
      exact hnone file hfile hfolder

/-- The block of the file `pageFile`. -/
def pageBlock : Block :=
  ⟨"GET /", "hi"⟩

theorem listed_page : listed "templates" [menuFile, pageFile] = [whole "templates" menuFile,
    whole "templates" pageFile, ofBlock "templates" pageFile pageBlock] := by
  have hmenu : menuFile.blocks = [] := rfl
  have hpage : pageFile.blocks = [pageBlock] := rfl
  have hkept : keptBlocks (paths [menuFile, pageFile]) pageFile = [pageBlock] := by
    rw [keptBlocks, hpage, paths, List.map_cons, List.map_singleton, listedPath_menuFile,
      listedPath_pageFile]
    decide
  rw [listed, List.flatMap_cons, List.flatMap_singleton, hkept, keptBlocks, hmenu]
  rfl

/-- The files `b.html` and `p/a.html` are no routes, and the block of the second is one. -/
theorem definitions_ofBlock_iff_page :
    ([menuFile, pageFile].map fun file => TextFile.components file.path).Nodup ∧
    ∃ index definitions, load "templates" defaultPatterns [menuFile, pageFile] = .ok index ∧
      Definition.ofFragments (Library.ofFragments index none).fragments = .ok definitions ∧
      definitions.map Definition.name = ["GET /"] ∧ ∀ d ∈ definitions,
        OfBlock "templates" (visited defaultPatterns [menuFile, pageFile]) index d := by
  have hpaths : (paths [menuFile, pageFile]).Nodup := by
    rw [paths, List.map_cons, List.map_singleton, listedPath_menuFile, listedPath_pageFile]
    decide
  have hfree : BlocksFree [menuFile, pageFile] := by
    refine ⟨?_, ?_⟩
    · rw [List.forall_mem_cons, List.forall_mem_singleton, listedPath_menuFile,
        listedPath_pageFile]
      decide
    · rw [List.pairwise_pair, TextFile.names, listedPath_menuFile]
      decide
  obtain ⟨index, hindex, hperm⟩ := perm_listed_of_blocksFree "templates" hpaths splits_page hfree
  have hload : load "templates" defaultPatterns [menuFile, pageFile] = .ok index := by
    rw [load_eq, visited_page, hindex]
  -- the paths are no labels
  have hmenu : Route.Label.parse menuFile.listedPath = .ok none := by
    rw [listedPath_menuFile]
    rfl
  have hpage : Route.Label.parse pageFile.listedPath = .ok none := by
    rw [listedPath_pageFile]
    rfl
  obtain ⟨d, hparsed⟩ :
      ∃ d, Definition.parsed (ofBlock "templates" pageFile pageBlock) = .ok (some d) := ⟨_, rfl⟩
  have hwhole : ∀ file ∈ [menuFile, pageFile],
      Definition.parsed (whole "templates" file) = .ok none := by
    rw [List.forall_mem_cons, List.forall_mem_singleton]
    exact ⟨Definition.parse_eq_ok_none_iff.mpr hmenu, Definition.parse_eq_ok_none_iff.mpr hpage⟩
  have hdefinitions :
      Definition.ofFragments (Library.ofFragments index none).fragments = .ok [d] := by
    rw [ofFragments_library hpaths hindex, listed_page]
    refine Definition.ofFragments_eq_singleton ?_ ?_
    · simp [hwhole, hparsed]
    · rw [Definition.routes_cons_of_none (hwhole _ (by simp)),
        Definition.routes_cons_of_none (hwhole _ (by simp)),
        Definition.routes_cons_of_some hparsed, Definition.routes_nil]
  obtain ⟨hname, hfolder⟩ :=
    definitions_ofBlock_iff "templates" defaultPatterns nodup_components_page
  refine ⟨nodup_components_page, index, [d], hload, hdefinitions, ?_,
    (hfolder index [d] hload hdefinitions).2.mpr ?_⟩
  · exact congrArg (fun name => [name])
      (Route.Label.name_of_parse (Definition.parse_eq_ok_some hparsed).1)
  · rw [visited_page, List.forall_mem_cons, List.forall_mem_singleton]
    exact ⟨(hname menuFile "" "").1.mp hmenu, (hname pageFile "" "").1.mp hpage⟩

/-- A file in a folder that is named for a version. -/
def navigationFile : TextFile :=
  ⟨"v1.2/nav.html", "<nav></nav>"⟩

theorem components_navigationFile :
    TextFile.components navigationFile.path = ["v1.2"] ++ ["nav" ++ ".html"] := by
  rw [TextFile.components_eq]
  decide +kernel

/-- **A file whose folder reads like a host** is a route without any block. -/
theorem exists_definition_not_ofBlock :
    ∃ index definitions, load "templates" defaultPatterns [navigationFile] = .ok index ∧
      Definition.ofFragments (Library.ofFragments index none).fragments = .ok definitions ∧
      ∃ d ∈ definitions, d.name = navigationFile.listedPath ∧
        ¬OfBlock "templates" (visited defaultPatterns [navigationFile]) index d := by
  have hpath : navigationFile.listedPath = "v1.2/nav.html" := by
    rw [TextFile.listedPath, components_navigationFile]
    decide
  have hvisited : visited defaultPatterns [navigationFile] = [navigationFile] :=
    visited_eq_self (List.forall_mem_singleton.mpr ⟨_, _, components_navigationFile⟩)
      (List.pairwise_singleton _ _)
  have hblocks : navigationFile.blocks = [] := rfl
  have hsplits : navigationFile.Splits := rfl
  have hload : load "templates" defaultPatterns [navigationFile] =
      .ok [whole "templates" navigationFile] := by
    rw [load_eq, hvisited, loadInOrder, List.foldlM_cons, putFile_eq hsplits, hblocks]
    rfl
  obtain ⟨d, hparsed⟩ :
      ∃ d, Definition.parsed (whole "templates" navigationFile) = .ok (some d) := by
    rw [Definition.parsed, whole, hpath]
    exact ⟨_, rfl⟩
  have hnodup : ([whole "templates" navigationFile].map Fragment.name).Nodup :=
    List.nodup_singleton _
  have hdefinitions : Definition.ofFragments
      (Library.ofFragments [whole "templates" navigationFile] none).fragments = .ok [d] := by
    rw [Definition.ofFragments_of_perm (Library.fragments_perm hnodup)]
    refine Definition.ofFragments_eq_singleton (by simp [hparsed]) ?_
    rw [Definition.routes_cons_of_some hparsed, Definition.routes_nil]
  refine ⟨_, [d], hload, hdefinitions, d, List.mem_singleton_self d, ?_, ?_⟩
  · exact Route.Label.name_of_parse (Definition.parse_eq_ok_some hparsed).1
  · rw [hvisited]
    rintro ⟨file, hfile, block, hblock, -⟩
    rw [List.mem_singleton.mp hfile, hblocks] at hblock
    cases hblock

end Folder

end FragmentRoutes
