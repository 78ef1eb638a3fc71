import FragmentRoutes.Fragment.Folder
import FragmentRoutes.Proofs.Except
import FragmentRoutes.Proofs.Text.SplitOn
import Mathlib.Data.List.Count
import Mathlib.Data.List.Induction
import Mathlib.Data.List.Nodup
import Mathlib.Data.List.Pairwise

/-!
# The fragments of a folder

Files are listed by their paths and blocks by their names, all in one index.  A block is checked
against the names that are taken when its file is visited, a file is not: it takes the place of an
earlier block that bears its path.  So loading fails exactly if a block bears a name that its own
or an earlier file has taken (`BlocksFree`), and else the index holds every file and every block
but those that bear the path of a file (`perm_listed_of_blocksFree`), whatever the order of the
files.  Equal names are reported and nothing is lost if no block bears the path of a later file
(`load_faithful_iff`).
-/

namespace FragmentRoutes

/-! ### Files -/

namespace Block

/-- The blocks that are cut out have distinct names, none of them seen before. -/
theorem nodup_names_of_splitWithin {seen : List String} {fuel : Nat} {cs : List Char}
    {blocks : List Block} (h : splitWithin seen fuel cs = .ok blocks) :
    (blocks.map name).Nodup ∧ ∀ block ∈ blocks, block.name ∉ seen := by
  induction fuel generalizing seen cs blocks with
  | zero =>
    obtain rfl := Except.ok.inj h
    simp
  | succ fuel ih =>
    rw [splitWithin] at h
    split at h
    · obtain rfl := Except.ok.inj h
      simp
    · rename_i before name afterOpen hopen
      split at h
      · cases h
      · split at h
        · cases h
        · split_ifs at h with hseen
          obtain ⟨more, hmore, h⟩ := Except.bind_eq_ok.mp h
          obtain rfl := Except.ok.inj h
          obtain ⟨hnodup, hnew⟩ := ih hmore
          refine ⟨?_, List.forall_mem_cons.mpr ⟨by simpa using hseen, fun block hblock => ?_⟩⟩
          · rw [List.map_cons, List.nodup_cons]
            refine ⟨fun hmem => ?_, hnodup⟩
            obtain ⟨block, hblock, hname⟩ := List.mem_map.mp hmem
            exact hnew block hblock (hname ▸ List.mem_cons_self)
          · exact fun hmem => hnew block hblock (List.mem_cons_of_mem _ hmem)

end Block

namespace TextFile

/-- The path of a file from the folder, under which the file is listed. -/
def listedPath (file : TextFile) : String :=
  "/".intercalate (components file.path)

/-- The text of a file as it is read. -/
def readText (file : TextFile) : String :=
  String.ofList (unifyLines file.text.toList)

/-- The blocks of a file, none if it cannot be cut. -/
def blocks (file : TextFile) : List Block :=
  (Block.split file.readText).toOption.getD []

/-- The names of the blocks of a file. -/
def blockNames (file : TextFile) : List String :=
  file.blocks.map Block.name

/-- The names under which a file and its blocks are to be found. -/
def names (file : TextFile) : List String :=
  file.listedPath :: file.blockNames

/-- The file can be cut into blocks. -/
def Splits (file : TextFile) : Prop :=
  Block.split file.readText = .ok file.blocks

theorem splits_of_split {file : TextFile} {blocks : List Block}
    (h : Block.split file.readText = .ok blocks) : file.Splits := by
  rw [Splits, TextFile.blocks, h]
  rfl

theorem Splits.nodup_blockNames {file : TextFile} (h : file.Splits) : file.blockNames.Nodup :=
  (Block.nodup_names_of_splitWithin h).1

theorem components_eq (path : String) : components path =
    ((path.toList.splitOn '/').map String.ofList).filter fun part => part != "" && part != "." := by
  have hslash : "/".toList = ['/'] := rfl
  rw [components, Text.splitOn_eq hslash]

/-- The components of a path are not empty and hold no slash. -/
theorem plain_of_mem_components {path part : String} (h : part ∈ components path) :
    part.toList ≠ [] ∧ '/' ∉ part.toList := by
  rw [components_eq, List.mem_filter] at h
  obtain ⟨hmem, hkept⟩ := h
  obtain ⟨cs, hcs, rfl⟩ := List.mem_map.mp hmem
  rw [String.toList_ofList]
  constructor
  · rintro rfl
    simp at hkept
  · exact Text.notMem_of_mem_splitOn hcs

/-- Files of different components are listed under different paths. -/
theorem components_eq_of_listedPath_eq {file file' : TextFile}
    (h : file.listedPath = file'.listedPath) : components file.path = components file'.path := by
  have hchars := congrArg String.toList h
  rw [listedPath, listedPath, String.toList_intercalate, String.toList_intercalate] at hchars
  -- a path with components is not empty, and its characters are cut at the slashes again
  have hback : ∀ path : String,
      (['/'].intercalate ((components path).map String.toList)).splitOn '/' =
        if components path = [] then [[]] else (components path).map String.toList := by
    intro path
    split_ifs with hnil
    · rw [hnil]
      rfl
    · refine List.splitOn_intercalate '/' (fun cs hcs => ?_) (by simpa using hnil)
      obtain ⟨part, hpart, rfl⟩ := List.mem_map.mp hcs
      exact (plain_of_mem_components hpart).2
  have hne : ∀ path : String, components path ≠ [] →
      (components path).map String.toList ≠ [[]] := by
    intro path hparts heq
    obtain ⟨first, rest, hcons⟩ := List.exists_cons_of_ne_nil hparts
    have hfirst : first ∈ components path := by simp [hcons]
    have hplain := plain_of_mem_components hfirst
    rw [hcons, List.map_cons, List.cons.injEq] at heq
    exact hplain.1 heq.1
  have hsplit := (hback file.path).symm.trans ((congrArg (List.splitOn '/') hchars).trans
    (hback file'.path))
  have hinj : Function.Injective (List.map String.toList) :=
    List.map_injective_iff.mpr fun _ _ => String.toList_inj.mp
  split_ifs at hsplit with hnil hnil' hnil'
  · rw [hnil, hnil']
  · exact absurd hsplit.symm (hne _ hnil')
  · exact absurd hsplit (hne _ hnil)
  · exact hinj hsplit

end TextFile

namespace Folder

/-! ### Files that are visited -/

/-- A star stands for any characters in front. -/
theorem admits_star_append {gs : List Text.Glob} {ds : List Char}
    (h : Text.Glob.admits gs ds = true) (cs : List Char) :
    Text.Glob.admits (.star :: gs) (cs ++ ds) = true := by
  induction cs with
  | nil =>
    cases ds with
    | nil => rw [List.nil_append, Text.Glob.admits, h]
    | cons d ds => rw [List.nil_append, Text.Glob.admits, h, Bool.true_or]
  | cons c cs ih => rw [List.cons_append, Text.Glob.admits, ih, Bool.or_true]

/-- A name that ends in `.html` is one of those that the default patterns stand for. -/
theorem isMatch_html (stem : String) : Text.Glob.isMatch "*.html" (stem ++ ".html") = true := by
  have hpieces : Text.Glob.pieces "*.html".toList =
      [.star, .char '.', .char 'h', .char 't', .char 'm', .char 'l'] := by decide +kernel
  rw [Text.Glob.isMatch, hpieces, String.toList_append]
  refine admits_star_append ?_ stem.toList
  simp [Text.Glob.admits, Text.Glob.accepts]

/-- Two stars stand for any components in front. -/
theorem admits_stars_append {parts : List String} {component : String}
    (h : admits parts [component] = true) (front : List String) :
    admits ("**" :: parts) (front ++ [component]) = true := by
  induction front with
  | nil => rw [List.nil_append, admits, if_pos (beq_self_eq_true _), h, Bool.true_or]
  | cons c front ih => rw [List.cons_append, admits, if_pos (beq_self_eq_true _), ih, Bool.or_true]

/-- The file has a name that ends in `.html`. -/
def IsPage (file : TextFile) : Prop :=
  ∃ front stem, TextFile.components file.path = front ++ [stem ++ ".html"]

/-- The default patterns name every page. -/
theorem IsPage.named {file : TextFile} (h : IsPage file) :
    (defaultPatterns.any fun pattern => names pattern file) = true := by
  obtain ⟨front, stem, hcomponents⟩ := h
  have hpattern : TextFile.components "*.html" = ["*.html"] := by
    rw [TextFile.components_eq]
    decide +kernel
  have hadmits : admits ["*.html"] [stem ++ ".html"] = true := by
    rw [admits, if_neg (by decide), isMatch_html, admits]
    rfl
  have hnames : names "*.html" file = true := by
    rw [names, hpattern, hcomponents, admits_stars_append hadmits]
    rfl
  rw [defaultPatterns, List.any_cons, hnames, Bool.true_or]

/-- Pages in the order of their components are visited as they are. -/
theorem visited_eq_self {files : List TextFile} (hpages : ∀ file ∈ files, IsPage file)
    (hsorted : files.Pairwise fun file later =>
      ¬TextFile.components later.path < TextFile.components file.path) :
    visited defaultPatterns files = files := by
  rw [visited, List.filter_eq_self.mpr fun file hfile => (hpages file hfile).named]
  exact List.mergeSort_of_pairwise (hsorted.imp fun h => by simpa using h)

/-! ### Listing one file -/

/-- Where a file of the folder stands. -/
def place (root : String) (file : TextFile) : String :=
  root ++ "/" ++ file.listedPath

/-- The fragment of a whole file. -/
def whole (root : String) (file : TextFile) : Fragment :=
  ⟨file.listedPath, file.readText, some (place root file)⟩

/-- The fragment of a block of a file. -/
def ofBlock (root : String) (file : TextFile) (block : Block) : Fragment :=
  ⟨block.name, block.body, some (place root file)⟩

section

variable {root : String} {index : List Fragment} {file : TextFile} {fragment : Fragment}

theorem put_cons_of_eq {first : Fragment} (h : first.name = fragment.name)
    (hnew : fragment.name ∉ index.map Fragment.name) :
    put (first :: index) fragment = fragment :: index := by
  have hsame : (index.map fun f => if f.name == fragment.name then fragment else f) = index := by
    refine (List.map_congr_left fun f hf => if_neg fun heq => hnew ?_).trans (List.map_id index)
    exact beq_iff_eq.mp heq ▸ List.mem_map_of_mem hf
  rw [put, if_pos (by simp [h]), List.map_cons, if_pos (by simp [h]), hsame]

theorem put_cons_of_ne {first : Fragment} (h : first.name ≠ fragment.name) :
    put (first :: index) fragment = first :: put index fragment := by
  have hfirst : (first.name == fragment.name) = false := by simpa using h
  rw [put, put, List.any_cons, hfirst, Bool.false_or, List.map_cons, hfirst,
    if_neg Bool.false_ne_true]
  split_ifs <;> rfl

/-- A fragment takes the place of the one of its name. -/
theorem put_perm (h : (index.map Fragment.name).Nodup) :
    (put index fragment).Perm (index.filter (·.name != fragment.name) ++ [fragment]) := by
  induction index with
  | nil => exact .refl _
  | cons first rest ih =>
    rw [List.map_cons, List.nodup_cons] at h
    by_cases hfirst : first.name = fragment.name
    · have hnew : fragment.name ∉ rest.map Fragment.name := hfirst ▸ h.1
      have hkept : rest.filter (·.name != fragment.name) = rest := by
        rw [List.filter_eq_self]
        intro f hf
        rw [bne_iff_ne]
        exact fun heq => hnew (heq ▸ List.mem_map_of_mem hf)
      rw [put_cons_of_eq hfirst hnew, List.filter_cons_of_neg (by simp [hfirst]), hkept]
      exact @List.perm_append_comm _ [fragment] _
    · rw [put_cons_of_ne hfirst, List.filter_cons_of_pos (by simpa using hfirst)]
      exact (ih h.2).cons first

theorem mem_names_put_iff (h : (index.map Fragment.name).Nodup) {name : String} :
    name ∈ (put index fragment).map Fragment.name ↔
      name = fragment.name ∨ name ∈ index.map Fragment.name := by
  rw [((put_perm h).map _).mem_iff, List.map_append, List.map_singleton, List.mem_append,
    List.mem_singleton]
  constructor
  · rintro (hmem | rfl)
    · exact .inr ((List.filter_sublist.map _).subset hmem)
    · exact .inl rfl
  · rintro (rfl | hmem)
    · exact .inr rfl
    · refine or_iff_not_imp_right.mpr fun hne => ?_
      obtain ⟨f, hf, rfl⟩ := List.mem_map.mp hmem
      exact List.mem_map_of_mem (List.mem_filter.mpr ⟨hf, bne_iff_ne.mpr hne⟩)

/-- Blocks with free names are listed. -/
theorem putBlocks_of_free {blocks : List Block} (hnodup : (blocks.map Block.name).Nodup)
    (hfree : ∀ block ∈ blocks, block.name ∉ index.map Fragment.name) :
    putBlocks (place root file) index blocks = .ok (index ++ blocks.map (ofBlock root file)) := by
  induction blocks generalizing index with
  | nil => rw [putBlocks, List.map_nil, List.append_nil]
  | cons block blocks ih =>
    rw [List.map_cons, List.nodup_cons] at hnodup
    obtain ⟨hfirst, hrest⟩ := List.forall_mem_cons.mp hfree
    have hnone : index.find? (·.name == block.name) = none := by
      rw [List.find?_eq_none]
      intro f hf heq
      exact hfirst (beq_iff_eq.mp heq ▸ List.mem_map_of_mem hf)
    rw [putBlocks, hnone]
    dsimp only
    rw [ih hnodup.2 fun b hb => ?_, List.map_cons, List.append_assoc]
    · rfl
    · rw [List.map_append, List.mem_append, not_or]
      refine ⟨hrest b hb, fun hmem => hnodup.1 ?_⟩
      exact List.mem_map.mpr ⟨b, hb, List.mem_singleton.mp hmem⟩

/-- A block of a name that is taken is a fault. -/
theorem exists_clash_of_taken {path : String} {blocks : List Block} {name : String}
    (hname : name ∈ blocks.map Block.name) (htaken : name ∈ index.map Fragment.name) :
    ∃ name first second, putBlocks path index blocks = .error (.clash name first second) := by
  induction blocks generalizing index with
  | nil => cases hname
  | cons block blocks ih =>
    rw [putBlocks]
    split
    · exact ⟨_, _, _, rfl⟩
    · rename_i hnone
      refine ih ?_ (by rw [List.map_append]; exact List.mem_append_left _ htaken)
      rcases List.mem_cons.mp hname with rfl | hname
      · obtain ⟨f, hf, hsame⟩ := List.mem_map.mp htaken
        exact absurd (beq_iff_eq.mpr hsame) (List.find?_eq_none.mp hnone f hf)
      · exact hname

/-- What a file that can be cut makes. -/
theorem putFile_eq (h : file.Splits) :
    putFile root index file =
      putBlocks (place root file) (put index (whole root file)) file.blocks := by
  have hsplit : Block.split (String.ofList (TextFile.unifyLines file.text.toList)) =
      .ok file.blocks := h
  rw [putFile, hsplit]
  rfl

end

/-! ### Listing many files -/

/-- The index of files that are visited in an order. -/
def loadInOrder (root : String) (order : List TextFile) : Except Error (List Fragment) :=
  order.foldlM (putFile root) []

/-- The files of a folder are visited in the order of their components. -/
theorem load_eq (root : String) (patterns : List String) (files : List TextFile) :
    load root patterns files = loadInOrder root (visited patterns files) :=
  rfl

theorem loadInOrder_append (root : String) (order : List TextFile) (file : TextFile) :
    loadInOrder root (order ++ [file]) =
      loadInOrder root order >>= fun index => putFile root index file := by
  simp only [loadInOrder, List.foldlM_append, List.foldlM_cons, List.foldlM_nil, bind_pure]

/-- No block bears a name that is taken when the block is visited: the path of its own file, or a
name of an earlier file. -/
structure BlocksFree (order : List TextFile) : Prop where
  own : ∀ file ∈ order, file.listedPath ∉ file.blockNames
  earlier : order.Pairwise fun file later => ∀ name ∈ later.blockNames, name ∉ file.names

/-- No block bears the path of a later file. -/
def PathsFree (order : List TextFile) : Prop :=
  order.Pairwise fun file later => later.listedPath ∉ file.blockNames

/-- The paths of the files. -/
def paths (order : List TextFile) : List String :=
  order.map TextFile.listedPath

/-- The blocks of a file that do not bear one of the paths. -/
def keptBlocks (paths : List String) (file : TextFile) : List Block :=
  file.blocks.filter fun block => block.name ∉ paths

/-- What is found in the end: every file, and every block that does not bear the path of one. -/
def listed (root : String) (order : List TextFile) : List Fragment :=
  order.map (whole root) ++
    order.flatMap fun file => (keptBlocks (paths order) file).map (ofBlock root file)

section

variable {root : String} {order : List TextFile} {file : TextFile}

theorem map_name_ofBlock (root : String) (file : TextFile) (blocks : List Block) :
    (blocks.map (ofBlock root file)).map Fragment.name = blocks.map Block.name := by
  rw [List.map_map]
  rfl

theorem map_name_whole (root : String) (order : List TextFile) :
    (order.map (whole root)).map Fragment.name = paths order := by
  rw [List.map_map]
  rfl

theorem mem_map_keptBlocks_iff {paths : List String} {name : String} :
    name ∈ (keptBlocks paths file).map Block.name ↔ name ∈ file.blockNames ∧ name ∉ paths := by
  simp only [keptBlocks, TextFile.blockNames, List.mem_map, List.mem_filter, decide_eq_true_eq]
  constructor
  · rintro ⟨block, ⟨hblock, hfree⟩, rfl⟩
    exact ⟨⟨block, hblock, rfl⟩, hfree⟩
  · rintro ⟨⟨block, hblock, rfl⟩, hfree⟩
    exact ⟨block, ⟨hblock, hfree⟩, rfl⟩

/-- The names in the index are those of the files and their blocks. -/
theorem mem_names_listed_iff {name : String} :
    name ∈ (listed root order).map Fragment.name ↔ ∃ file ∈ order, name ∈ file.names := by
  rw [listed, List.map_append, map_name_whole, List.map_flatMap, List.mem_append]
  simp only [map_name_ofBlock, List.mem_flatMap, mem_map_keptBlocks_iff]
  constructor
  · rintro (hpath | ⟨file, hfile, hname, -⟩)
    · obtain ⟨file, hfile, rfl⟩ := List.mem_map.mp hpath
      exact ⟨file, hfile, List.mem_cons_self⟩
    · exact ⟨file, hfile, List.mem_cons_of_mem _ hname⟩
  · rintro ⟨file, hfile, hname⟩
    by_cases hpath : name ∈ paths order
    · exact .inl hpath
    · rcases List.mem_cons.mp hname with rfl | hname
      · exact .inl (List.mem_map_of_mem hfile)
      · exact .inr ⟨file, hfile, hname, hpath⟩

theorem blocksFree_append_iff : BlocksFree (order ++ [file]) ↔ BlocksFree order ∧
    ∀ name ∈ file.blockNames, name ≠ file.listedPath ∧ ∀ f ∈ order, name ∉ f.names := by
  constructor
  · rintro ⟨hown, hearlier⟩
    rw [List.forall_mem_append, List.forall_mem_singleton] at hown
    rw [List.pairwise_append] at hearlier
    refine ⟨⟨hown.1, hearlier.1⟩, fun name hname => ⟨?_, fun f hf => ?_⟩⟩
    · rintro rfl
      exact hown.2 hname
    · exact hearlier.2.2 f hf file List.mem_cons_self name hname
  · rintro ⟨⟨hown, hearlier⟩, hlast⟩
    refine ⟨List.forall_mem_append.mpr ⟨hown, List.forall_mem_singleton.mpr fun hpath => ?_⟩,
      List.pairwise_append.mpr ⟨hearlier, List.pairwise_singleton _ _, fun f hf g hg => ?_⟩⟩
    · exact (hlast _ hpath).1 rfl
    · obtain rfl := List.mem_singleton.mp hg
      exact fun name hname => (hlast name hname).2 f hf

/-- The blocks of the last file bear no name of the index before it. -/
theorem BlocksFree.notMem_names (root : String) (h : BlocksFree (order ++ [file]))
    {name : String} (hname : name ∈ file.blockNames) : name ≠ file.listedPath ∧
      name ∉ (listed root order).map Fragment.name := by
  obtain ⟨hown, hearlier⟩ := (blocksFree_append_iff.mp h).2 name hname
  refine ⟨hown, fun hmem => ?_⟩
  obtain ⟨f, hf, hmem⟩ := mem_names_listed_iff.mp hmem
  exact hearlier f hf hmem

/-- The names in the index are distinct. -/
theorem nodup_names_listed (hpaths : (paths order).Nodup) (hsplits : ∀ file ∈ order, file.Splits)
    (h : BlocksFree order) : ((listed root order).map Fragment.name).Nodup := by
  rw [listed, List.map_append, map_name_whole, List.map_flatMap]
  simp only [map_name_ofBlock]
  refine List.nodup_append.mpr ⟨hpaths, List.nodup_flatMap.mpr ⟨fun file hfile => ?_, ?_⟩, ?_⟩
  · exact (hsplits file hfile).nodup_blockNames.sublist (List.filter_sublist.map Block.name)
  · refine h.earlier.imp fun {f g} hfree name hf hg => ?_
    rw [mem_map_keptBlocks_iff] at hf hg
    exact hfree name hg.1 (List.mem_cons_of_mem _ hf.1)
  · rintro path hpath name hname rfl
    obtain ⟨file, -, hname⟩ := List.mem_flatMap.mp hname
    exact (mem_map_keptBlocks_iff.mp hname).2 hpath

/-- What is found after one more file: the others that do not bear its path, the file itself and
its blocks. -/
theorem listed_append_perm (hpaths : (paths (order ++ [file])).Nodup)
    (h : BlocksFree (order ++ [file])) :
    (listed root (order ++ [file])).Perm
      ((listed root order).filter (·.name != file.listedPath) ++ [whole root file] ++
        file.blocks.map (ofBlock root file)) := by
  have hpath : file.listedPath ∉ paths order := by
    rw [paths, List.map_append, List.nodup_append] at hpaths
    exact fun hmem => hpaths.2.2 _ hmem _ List.mem_cons_self rfl
  have hfiles : (order.map (whole root)).filter (·.name != file.listedPath) =
      order.map (whole root) := by
    refine List.filter_eq_self.mpr fun f hf => ?_
    rw [bne_iff_ne]
    rintro heq
    exact hpath (heq ▸ map_name_whole root order ▸ List.mem_map_of_mem hf)
  have hlast : keptBlocks (paths (order ++ [file])) file = file.blocks := by
    refine List.filter_eq_self.mpr fun block hblock => ?_
    have hname : block.name ∈ file.blockNames := List.mem_map_of_mem hblock
    obtain ⟨hown, hearlier⟩ := h.notMem_names root hname
    rw [decide_eq_true_eq, paths, List.map_append, List.mem_append, not_or]
    refine ⟨fun hmem => hearlier ?_, fun hmem => hown (List.mem_singleton.mp hmem)⟩
    rw [listed, List.map_append, map_name_whole]
    exact List.mem_append_left _ hmem
  have hblocks : ∀ f : TextFile, (keptBlocks (paths (order ++ [file])) f).map (ofBlock root f) =
      ((keptBlocks (paths order) f).map (ofBlock root f)).filter (·.name != file.listedPath) := by
    intro f
    rw [List.filter_map, keptBlocks, keptBlocks, List.filter_filter]
    refine congrArg (List.map (ofBlock root f)) (List.filter_congr fun block _ => ?_)
    rw [Bool.eq_iff_iff]
    simp [paths, ofBlock, not_or, and_comm]
  rw [listed, listed, List.map_append, List.flatMap_append, List.flatMap_singleton, hlast,
    List.filter_append, hfiles, List.filter_flatMap]
  simp only [hblocks, List.map_singleton]
  rw [List.append_assoc, ← List.append_assoc [whole root file],
    List.append_assoc (order.map (whole root)), List.append_assoc (order.map (whole root))]
  exact (List.perm_append_comm.append_right _).append_left _

/-- **Files whose blocks find their names free** are all listed, with their blocks. -/
theorem perm_listed_of_blocksFree (root : String) (hpaths : (paths order).Nodup)
    (hsplits : ∀ file ∈ order, file.Splits) (h : BlocksFree order) :
    ∃ index, loadInOrder root order = .ok index ∧ index.Perm (listed root order) := by
  induction order using List.reverseRecOn with
  | nil => exact ⟨[], rfl, .refl _⟩
  | append_singleton order file ih =>
    rw [List.forall_mem_append, List.forall_mem_singleton] at hsplits
    have hearlier : (paths order).Nodup := by
      rw [paths, List.map_append] at hpaths
      exact hpaths.of_append_left
    obtain ⟨index, hindex, hperm⟩ := ih hearlier hsplits.1 (blocksFree_append_iff.mp h).1
    have hnodup : (index.map Fragment.name).Nodup :=
      (hperm.map _).nodup_iff.mpr
        (nodup_names_listed hearlier hsplits.1 (blocksFree_append_iff.mp h).1)
    have hput : (put index (whole root file)).Perm
        ((listed root order).filter (·.name != file.listedPath) ++ [whole root file]) :=
      (put_perm hnodup).trans ((hperm.filter _).append_right _)
    -- the names that are taken now are those of the index and the path of the file
    have hfree : ∀ block ∈ file.blocks,
        block.name ∉ (put index (whole root file)).map Fragment.name := by
      intro block hblock
      obtain ⟨hown, hlisted⟩ := h.notMem_names root (List.mem_map_of_mem hblock)
      rw [mem_names_put_iff hnodup, (hperm.map _).mem_iff, not_or]
      exact ⟨hown, hlisted⟩
    refine ⟨_, ?_, (hput.append_right _).trans (listed_append_perm hpaths h).symm⟩
    rw [loadInOrder_append, hindex, Except.ok_bind, putFile_eq hsplits.2,
      putBlocks_of_free hsplits.2.nodup_blockNames hfree]

/-- **A block that finds its name taken** is reported. -/
theorem exists_clash_of_not_blocksFree (root : String) (hpaths : (paths order).Nodup)
    (hsplits : ∀ file ∈ order, file.Splits) (h : ¬BlocksFree order) :
    ∃ name first second, loadInOrder root order = .error (.clash name first second) := by
  induction order using List.reverseRecOn with
  | nil => exact absurd ⟨by simp, .nil⟩ h
  | append_singleton order file ih =>
    rw [List.forall_mem_append, List.forall_mem_singleton] at hsplits
    have hearlier : (paths order).Nodup := by
      rw [paths, List.map_append] at hpaths
      exact hpaths.of_append_left
    rw [loadInOrder_append]
    by_cases hfree : BlocksFree order
    · -- the last file has a block that bears its path or a name of an earlier file
      obtain ⟨index, hindex, hperm⟩ := perm_listed_of_blocksFree root hearlier hsplits.1 hfree
      have htaken : ∃ name ∈ file.blockNames,
          name = file.listedPath ∨ ∃ f ∈ order, name ∈ f.names := by
        by_contra hnone
        push Not at hnone
        exact h (blocksFree_append_iff.mpr ⟨hfree, hnone⟩)
      obtain ⟨name, hname, htaken⟩ := htaken
      have hnodup : (index.map Fragment.name).Nodup :=
        (hperm.map _).nodup_iff.mpr (nodup_names_listed hearlier hsplits.1 hfree)
      have hput : name ∈ (put index (whole root file)).map Fragment.name := by
        rw [mem_names_put_iff hnodup, (hperm.map _).mem_iff, mem_names_listed_iff]
        exact htaken
      rw [hindex, Except.ok_bind, putFile_eq hsplits.2]
      exact exists_clash_of_taken hname hput
    · obtain ⟨name, first, second, herror⟩ := ih hearlier hsplits.1 hfree
      exact ⟨name, first, second, by rw [herror]; rfl⟩

/-! ### What is found -/

/-- The fragment that is found under a name. -/
def lookup (index : List Fragment) (name : String) : Option Fragment :=
  (Library.ofFragments index none).get? name

theorem lookup_eq_some_iff {index : List Fragment} (h : (index.map Fragment.name).Nodup)
    {name : String} {fragment : Fragment} :
    lookup index name = some fragment ↔ fragment ∈ index ∧ fragment.name = name := by
  constructor
  · exact fun hfound => ⟨Library.mem_known_of_get? hfound, Library.name_of_get? hfound⟩
  · rintro ⟨hmem, rfl⟩
    cases hfound : lookup index fragment.name with
    | none => exact absurd (beq_self_eq_true _) (List.find?_eq_none.mp hfound fragment hmem)
    | some found =>
      rw [List.inj_on_of_nodup_map h (Library.mem_known_of_get? hfound) hmem
        (Library.name_of_get? hfound)]

/-- The block of a file is not the whole file, nor another block. -/
theorem ofBlock_mem_listed_iff (hown : file.listedPath ∉ file.blockNames) (hfile : file ∈ order)
    {block : Block} (hblock : block ∈ file.blocks) :
    ofBlock root file block ∈ listed root order ↔ block.name ∉ paths order := by
  constructor
  · intro hmem hpath
    rcases List.mem_append.mp hmem with hmem | hmem
    · obtain ⟨f, -, heq⟩ := List.mem_map.mp hmem
      simp only [whole, ofBlock, place, Fragment.mk.injEq, Option.some.injEq,
        String.append_right_inj] at heq
      exact hown (heq.2.2 ▸ heq.1 ▸ List.mem_map_of_mem hblock)
    · obtain ⟨f, -, hmem⟩ := List.mem_flatMap.mp hmem
      obtain ⟨b, hb, heq⟩ := List.mem_map.mp hmem
      have hname : b.name = block.name := congrArg Fragment.name heq
      exact (mem_map_keptBlocks_iff.mp (List.mem_map_of_mem hb)).2 (hname ▸ hpath)
  · intro hpath
    refine List.mem_append_right _ (List.mem_flatMap.mpr ⟨file, hfile, List.mem_map_of_mem ?_⟩)
    exact List.mem_filter.mpr ⟨hblock, decide_eq_true hpath⟩

theorem length_listed (root : String) (order : List TextFile) :
    (listed root order).length = order.length +
      (order.flatMap TextFile.blocks).countP fun block => block.name ∉ paths order := by
  rw [listed, List.length_append, List.length_map, List.length_flatMap, List.countP_flatMap]
  refine congrArg (order.length + List.sum ·) (List.map_congr_left fun file _ => ?_)
  rw [List.length_map, keptBlocks, Function.comp, List.countP_eq_length_filter]

/-! ### When nothing is lost -/

/-- No two names of files and blocks are equal if the blocks find their names free and no block
bears the path of a later file. -/
theorem nodup_names_iff (hpaths : (paths order).Nodup) (hsplits : ∀ file ∈ order, file.Splits) :
    (order.flatMap TextFile.names).Nodup ↔ BlocksFree order ∧ PathsFree order := by
  have hdistinct : order.Pairwise fun file later => file.listedPath ≠ later.listedPath :=
    List.pairwise_map.mp hpaths
  rw [List.nodup_flatMap]
  constructor
  · rintro ⟨hfiles, hapart⟩
    refine ⟨⟨fun file hfile => (List.nodup_cons.mp (hfiles file hfile)).1, ?_⟩, ?_⟩
    · refine hapart.imp ?_
      intro file later hdisjoint name hlater hname
      exact hdisjoint hname (List.mem_cons_of_mem _ hlater)
    · refine hapart.imp ?_
      intro file later hdisjoint hpath
      exact hdisjoint (List.mem_cons_of_mem _ hpath) List.mem_cons_self
  · rintro ⟨hblocks, hlater⟩
    refine ⟨fun file hfile => List.nodup_cons.mpr
      ⟨hblocks.own file hfile, (hsplits file hfile).nodup_blockNames⟩, ?_⟩
    refine (hblocks.earlier.and (hlater.and hdistinct)).imp ?_
    rintro file later ⟨hearlier, hpath, hne⟩ name hname hmem
    rcases List.mem_cons.mp hmem with rfl | hmem
    · rcases List.mem_cons.mp hname with heq | hname
      · exact hne heq.symm
      · exact hpath hname
    · exact hearlier name hmem hname

/-- A block bears no path if it finds its name free and no later file has its name. -/
theorem notMem_paths (hblocks : BlocksFree order) (hlater : PathsFree order) (hfile : file ∈ order)
    {name : String} (hname : name ∈ file.blockNames) : name ∉ paths order := by
  have hapart : order.Pairwise fun f g =>
      g.listedPath ∉ f.blockNames ∧ f.listedPath ∉ g.blockNames :=
    (hlater.and hblocks.earlier).imp fun ⟨hpath, hearlier⟩ =>
      ⟨hpath, fun hmem => hearlier _ hmem List.mem_cons_self⟩
  have : Std.Symm fun f g : TextFile =>
      g.listedPath ∉ f.blockNames ∧ f.listedPath ∉ g.blockNames := ⟨fun _ _ h => ⟨h.2, h.1⟩⟩
  intro hpath
  obtain ⟨f, hf, rfl⟩ := List.mem_map.mp hpath
  by_cases hsame : file = f
  · subst hsame
    exact hblocks.own file hfile hname
  · exact (hapart.forall hfile hf hsame).1 hname

/-- Every file and every block is found under its name, and nothing else is listed. -/
structure Complete (root : String) (order : List TextFile) (index : List Fragment) : Prop where
  files : ∀ file ∈ order, lookup index file.listedPath = some (whole root file)
  blocks : ∀ file ∈ order, ∀ block ∈ file.blocks,
    lookup index block.name = some (ofBlock root file block)
  length : index.length = order.length + (order.flatMap TextFile.blocks).length

/-- Loading reports a clash if two names are equal, and else loses nothing. -/
inductive Faithful (root : String) (order : List TextFile) : Except Error (List Fragment) → Prop
  | listed {index : List Fragment} (hnames : (order.flatMap TextFile.names).Nodup)
    (hindex : Complete root order index) : Faithful root order (.ok index)
  | clash {name first second : String} (hnames : ¬(order.flatMap TextFile.names).Nodup) :
    Faithful root order (.error (.clash name first second))

/-- The files that are visited have distinct paths. -/
theorem nodup_paths_of_perm {patterns : List String} {files : List TextFile}
    (hfiles : (files.map fun file => TextFile.components file.path).Nodup)
    (horder : order.Perm (visited patterns files)) : (paths order).Nodup := by
  have hfound : order.Perm
      (files.filter fun file => patterns.any fun pattern => names pattern file) :=
    horder.trans (List.mergeSort_perm _ _)
  have hcomponents : (order.map fun file => TextFile.components file.path).Nodup :=
    (hfound.map _).nodup_iff.mpr (hfiles.sublist (List.filter_sublist.map _))
  exact List.pairwise_map.mpr ((List.pairwise_map.mp hcomponents).imp fun hne heq =>
    hne (TextFile.components_eq_of_listedPath_eq heq))

/-- Files that are loaded can be cut into blocks. -/
theorem splits_of_loadInOrder {index : List Fragment} (h : loadInOrder root order = .ok index) :
    ∀ file ∈ order, file.Splits := by
  induction order using List.reverseRecOn generalizing index with
  | nil => simp
  | append_singleton order file ih =>
    rw [loadInOrder_append, Except.bind_eq_ok] at h
    obtain ⟨earlier, hearlier, h⟩ := h
    rw [List.forall_mem_append, List.forall_mem_singleton]
    refine ⟨ih hearlier, ?_⟩
    rw [putFile] at h
    split at h
    · cases h
    · rename_i blocks hsplit
      exact TextFile.splits_of_split hsplit

/-- **What was loaded** are the files and the blocks that bear no path, under distinct names. -/
theorem perm_listed_of_loadInOrder {index : List Fragment} (hpaths : (paths order).Nodup)
    (h : loadInOrder root order = .ok index) :
    BlocksFree order ∧ index.Perm (listed root order) ∧ (index.map Fragment.name).Nodup := by
  have hsplits := splits_of_loadInOrder h
  have hfree : BlocksFree order := by
    by_contra hfree
    obtain ⟨name, first, second, herror⟩ := exists_clash_of_not_blocksFree root hpaths hsplits hfree
    rw [h] at herror
    cases herror
  obtain ⟨index', hindex, hperm⟩ := perm_listed_of_blocksFree root hpaths hsplits hfree
  obtain rfl := Except.ok.inj (h.symm.trans hindex)
  exact ⟨hfree, hperm, (hperm.map _).nodup_iff.mpr (nodup_names_listed hpaths hsplits hfree)⟩

/-- **What is found** if the blocks find their names free: every file, and every block that does not
bear the path of one. -/
theorem found_of_blocksFree (root : String) (hpaths : (paths order).Nodup)
    (hsplits : ∀ file ∈ order, file.Splits) (h : BlocksFree order) :
    ∃ index, loadInOrder root order = .ok index ∧
      (∀ file ∈ order, lookup index file.listedPath = some (whole root file)) ∧
      (∀ file ∈ order, ∀ block ∈ file.blocks,
        lookup index block.name = some (ofBlock root file block) ↔ block.name ∉ paths order) ∧
      index.length = order.length +
        (order.flatMap TextFile.blocks).countP fun block => block.name ∉ paths order := by
  obtain ⟨index, hindex, hperm⟩ := perm_listed_of_blocksFree root hpaths hsplits h
  have hnodup : (index.map Fragment.name).Nodup :=
    (hperm.map _).nodup_iff.mpr (nodup_names_listed hpaths hsplits h)
  refine ⟨index, hindex, fun file hfile => ?_, fun file hfile block hblock => ?_, ?_⟩
  · rw [lookup_eq_some_iff hnodup, hperm.mem_iff]
    exact ⟨List.mem_append_left _ (List.mem_map_of_mem hfile), rfl⟩
  · rw [lookup_eq_some_iff hnodup, hperm.mem_iff,
      ofBlock_mem_listed_iff (h.own file hfile) hfile hblock]
    exact and_iff_left rfl
  · rw [hperm.length_eq, length_listed]

/-- Loading is faithful if no block bears the path of a later file, or if it fails anyway. -/
theorem faithful_iff (hpaths : (paths order).Nodup) (hsplits : ∀ file ∈ order, file.Splits) :
    Faithful root order (loadInOrder root order) ↔ (BlocksFree order → PathsFree order) := by
  constructor
  · intro hfaithful hfree
    obtain ⟨index, hindex, -⟩ := found_of_blocksFree root hpaths hsplits hfree
    rw [hindex] at hfaithful
    cases hfaithful with
    | listed hnames => exact ((nodup_names_iff hpaths hsplits).mp hnames).2
  · intro hlater
    by_cases hfree : BlocksFree order
    · obtain ⟨index, hindex, hfiles, hblocks, hlength⟩ :=
        found_of_blocksFree root hpaths hsplits hfree
      have hnone : ∀ file ∈ order, ∀ block ∈ file.blocks, block.name ∉ paths order :=
        fun file hfile block hblock =>
          notMem_paths hfree (hlater hfree) hfile (List.mem_map_of_mem hblock)
      rw [hindex]
      refine .listed ((nodup_names_iff hpaths hsplits).mpr ⟨hfree, hlater hfree⟩)
        ⟨hfiles, fun file hfile block hblock => ?_, ?_⟩
      · exact (hblocks file hfile block hblock).mpr (hnone file hfile block hblock)
      · rw [hlength, List.countP_eq_length.mpr]
        intro block hblock
        obtain ⟨file, hfile, hblock⟩ := List.mem_flatMap.mp hblock
        exact decide_eq_true (hnone file hfile block hblock)
    · obtain ⟨name, first, second, herror⟩ :=
        exists_clash_of_not_blocksFree root hpaths hsplits hfree
      rw [herror]
      exact .clash fun hnames => hfree ((nodup_names_iff hpaths hsplits).mp hnames).1

end

/-- **What loading lists and loses.**  In whatever order the files of a folder are visited, loading
fails with a clash exactly if a block bears a name that its own or an earlier file has taken.  Else
every file is found under its path; a block is found under its name unless the name is the path of a
file; and nothing else is listed.  So equal names are always reported, and nothing is lost, exactly
if no block bears the path of a later file or loading fails for another block. -/
theorem load_faithful_iff (root : String) {patterns : List String} {files : List TextFile}
    (hfiles : (files.map fun file => TextFile.components file.path).Nodup)
    (hsplits : ∀ file ∈ visited patterns files, file.Splits) :
    load root patterns files = loadInOrder root (visited patterns files) ∧
    ∀ order, order.Perm (visited patterns files) →
      ((∃ name first second, loadInOrder root order = .error (.clash name first second)) ↔
        ¬BlocksFree order) ∧
      (BlocksFree order → ∃ index, loadInOrder root order = .ok index ∧
        (∀ file ∈ order, lookup index file.listedPath = some (whole root file)) ∧
        (∀ file ∈ order, ∀ block ∈ file.blocks,
          lookup index block.name = some (ofBlock root file block) ↔ block.name ∉ paths order) ∧
        index.length = order.length +
          (order.flatMap TextFile.blocks).countP fun block => block.name ∉ paths order) ∧
      (Faithful root order (loadInOrder root order) ↔ (BlocksFree order → PathsFree order)) := by
  refine ⟨load_eq root patterns files, fun order horder => ?_⟩
  have hpaths : (paths order).Nodup := nodup_paths_of_perm hfiles horder
  replace hsplits : ∀ file ∈ order, file.Splits := fun file hfile =>
    hsplits file (horder.mem_iff.mp hfile)
  refine ⟨⟨fun ⟨name, first, second, herror⟩ hfree => ?_,
    exists_clash_of_not_blocksFree root hpaths hsplits⟩, found_of_blocksFree root hpaths hsplits,
    faithful_iff hpaths hsplits⟩
  obtain ⟨index, hindex, -⟩ := found_of_blocksFree root hpaths hsplits hfree
  rw [herror] at hindex
  cases hindex

/-- A page in a folder of its own, with a block. -/
def pageFile : TextFile :=
  ⟨"p/a.html", "\x7b# define \"GET /\" #\x7dhi\x7b# end #\x7d"⟩

/-- A file without blocks. -/
def menuFile : TextFile :=
  ⟨"b.html", "menu"⟩

theorem components_pageFile : TextFile.components pageFile.path = ["p"] ++ ["a" ++ ".html"] := by
  rw [TextFile.components_eq]
  decide +kernel

theorem components_menuFile : TextFile.components menuFile.path = [] ++ ["b" ++ ".html"] := by
  rw [TextFile.components_eq]
  decide +kernel

theorem listedPath_menuFile : menuFile.listedPath = "b.html" := by
  rw [TextFile.listedPath, components_menuFile]
  decide

theorem listedPath_pageFile : pageFile.listedPath = "p/a.html" := by
  rw [TextFile.listedPath, components_pageFile]
  decide

theorem nodup_components_page :
    ([menuFile, pageFile].map fun file => TextFile.components file.path).Nodup := by
  rw [List.map_cons, List.map_singleton, components_menuFile, components_pageFile]
  decide

theorem visited_page : visited defaultPatterns [menuFile, pageFile] = [menuFile, pageFile] := by
  refine visited_eq_self ?_ ?_
  · rw [List.forall_mem_cons, List.forall_mem_singleton]
    exact ⟨⟨_, _, components_menuFile⟩, ⟨_, _, components_pageFile⟩⟩
  · rw [List.pairwise_pair, components_menuFile, components_pageFile]
    decide

theorem splits_page : ∀ file ∈ [menuFile, pageFile], file.Splits := by
  rw [List.forall_mem_cons, List.forall_mem_singleton]
  exact ⟨rfl, rfl⟩

/-- A page and a file without blocks are listed, here not in the order of their components. -/
theorem load_faithful_iff_page :
    ([menuFile, pageFile].map fun file => TextFile.components file.path).Nodup ∧
    (∀ file ∈ visited defaultPatterns [menuFile, pageFile], file.Splits) ∧
    [pageFile, menuFile].Perm (visited defaultPatterns [menuFile, pageFile]) ∧
    Faithful "templates" [pageFile, menuFile] (loadInOrder "templates" [pageFile, menuFile]) := by
  have hsplits : ∀ file ∈ visited defaultPatterns [menuFile, pageFile], file.Splits := by
    rw [visited_page]
    exact splits_page
  have horder : [pageFile, menuFile].Perm (visited defaultPatterns [menuFile, pageFile]) := by
    rw [visited_page]
    exact .swap menuFile pageFile []
  refine ⟨nodup_components_page, hsplits, horder, ?_⟩
  have hfaithful := load_faithful_iff "templates" nodup_components_page hsplits
  refine (hfaithful.2 _ horder).2.2.mpr fun _ => ?_
  rw [PathsFree, List.pairwise_pair, listedPath_menuFile]
  decide

/-- A file with a block that bears the path of the file `menuFile`. -/
def layoutFile : TextFile :=
  ⟨"a.html", "\x7b# define \"b.html\" #\x7dtop\x7b# end #\x7d"⟩

theorem components_layoutFile : TextFile.components layoutFile.path = [] ++ ["a" ++ ".html"] := by
  rw [TextFile.components_eq]
  decide +kernel

/-- **A block that bears the path of a later file** is lost without an error. -/
theorem not_faithful_of_later_path :
    ¬Faithful "templates" (visited defaultPatterns [layoutFile, menuFile])
      (load "templates" defaultPatterns [layoutFile, menuFile]) := by
  have hvisited : visited defaultPatterns [layoutFile, menuFile] = [layoutFile, menuFile] := by
    refine visited_eq_self ?_ ?_
    · rw [List.forall_mem_cons, List.forall_mem_singleton]
      exact ⟨⟨_, _, components_layoutFile⟩, ⟨_, _, components_menuFile⟩⟩
    · rw [List.pairwise_pair, components_layoutFile, components_menuFile]
      decide
  have hlayout : layoutFile.listedPath = "a.html" := by
    rw [TextFile.listedPath, components_layoutFile]
    decide
  have hpaths : (paths [layoutFile, menuFile]).Nodup := by
    rw [paths, List.map_cons, List.map_singleton, hlayout, listedPath_menuFile]
    decide
  have hsplits : ∀ file ∈ [layoutFile, menuFile], file.Splits := by
    rw [List.forall_mem_cons, List.forall_mem_singleton]
    exact ⟨rfl, rfl⟩
  rw [load_eq, hvisited, faithful_iff hpaths hsplits]
  intro hlater
  -- the name of the block is free when the block is visited, and the path of the next file
  have hfree : BlocksFree [layoutFile, menuFile] := by
    refine ⟨?_, ?_⟩
    · rw [List.forall_mem_cons, List.forall_mem_singleton, hlayout, listedPath_menuFile]
      decide
    · rw [List.pairwise_pair]
      decide
  have hpath := List.pairwise_pair.mp (hlater hfree)
  rw [listedPath_menuFile] at hpath
  exact hpath (by decide)

end Folder

end FragmentRoutes
