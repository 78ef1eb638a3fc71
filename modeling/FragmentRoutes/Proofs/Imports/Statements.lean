import FragmentRoutes.Proofs.Imports.Requests
import FragmentRoutes.Proofs.Text.Order
import Mathlib.Data.List.Basic
import Mathlib.Data.List.Nodup

/-!
# The import statements

After its fixed first line the module imports whole modules and then symbols, both in order
(`Listing`).  Each module and each symbol that was asked for is imported once, a symbol under the
local name that it was given (`Coherent.mem_aliases_statements`).

The local names that are handed out do not collide (`localOf_unique_and_listed`).
-/

namespace FragmentRoutes

open Code

namespace Code

/-- The symbols that a statement imports, with the names that it binds to them. -/
def Stmt.aliases : Stmt → List (Imports.Owner × String)
  | .importFrom module symbols =>
    symbols.map fun (symbol, given) => (⟨module, symbol⟩, given.getD symbol)
  | _ => []

end Code

namespace Imports

/-- The line that every module starts with. -/
def firstLine : Stmt :=
  .importFrom "__future__" [("annotations", none)]

/-- Imports in order: whole modules, and the modules that symbols are imported from, each with its
symbols and the local names that differ. -/
structure Listing where
  modules : List String
  sources : List (String × List (String × Option String))
  modules_lt : modules.Pairwise (· < ·)
  sources_lt : sources.Pairwise fun source other => source.1 < other.1
  names_lt : ∀ source ∈ sources, source.2.Pairwise fun name other => name.1 < other.1

namespace Listing

/-- The statements that import what is listed. -/
def statements (l : Listing) : List Stmt :=
  firstLine :: l.modules.map .importModule ++
    l.sources.map fun (module, names) => .importFrom module names

/-- The listed symbols with their local names. -/
def aliases (l : Listing) : List (Owner × String) :=
  l.sources.flatMap fun (module, names) => (Stmt.importFrom module names).aliases

/-- **Each symbol is listed once.** -/
theorem nodup_aliases (l : Listing) : (l.aliases.map (·.1)).Nodup := by
  unfold aliases
  rw [List.map_flatMap, List.nodup_flatMap]
  constructor
  · intro source hsource
    unfold Stmt.aliases
    rw [List.map_map, List.Nodup, List.pairwise_map]
    refine (l.names_lt source hsource).imp fun {name other} hlt heq => ?_
    have hname : name.1 = other.1 := congrArg Owner.symbol heq
    rw [hname] at hlt
    exact String.lt_irrefl _ hlt
  · refine l.sources_lt.imp fun {source other} hlt => ?_
    refine List.disjoint_left.mpr fun owner howner hother => ?_
    unfold Stmt.aliases at howner hother
    dsimp only at howner hother
    rw [List.map_map, List.mem_map] at howner hother
    obtain ⟨_, -, rfl⟩ := howner
    obtain ⟨_, -, heq⟩ := hother
    have hmodule : other.1 = source.1 := congrArg Owner.module heq
    rw [hmodule] at hlt
    exact String.lt_irrefl _ hlt

end Listing

/-! ### Lists in order -/

theorem mem_inOrder {texts : List String} {text : String} : text ∈ inOrder texts ↔ text ∈ texts := by
  rw [inOrder, (List.mergeSort_perm _ _).mem_iff, List.mem_eraseDups]

theorem pairwise_inOrder (texts : List String) : (inOrder texts).Pairwise (· < ·) := by
  have hnodup : (texts.eraseDups.map id).Nodup := by
    rw [List.map_id]
    exact Text.nodup_eraseDups texts
  exact Text.pairwise_mergeSort_lt hnodup

/-- The aliases for the symbols of a module are the entries for them. -/
theorem mem_aliases_symbolsOf {s : Imports} {module : String} {owner : Owner} {name : String} :
    (owner, name) ∈ (Stmt.importFrom module (s.symbolsOf module)).aliases ↔
      owner.module = module ∧ (owner, name) ∈ s.symbols := by
  have hentry : ∀ entry : Owner × String,
      (⟨module, entry.1.symbol⟩, (if entry.2 == entry.1.symbol then none else some entry.2).getD
        entry.1.symbol) = ((⟨module, entry.1.symbol⟩ : Owner), entry.2) := by
    intro entry
    by_cases h : entry.2 = entry.1.symbol
    · rw [if_pos (beq_iff_eq.mpr h), Option.getD_none, h]
    · rw [if_neg (fun hbeq => h (beq_iff_eq.mp hbeq)), Option.getD_some]
  rw [Stmt.aliases, symbolsOf, List.map_map, List.mem_map]
  constructor
  · rintro ⟨entry, hmem, heq⟩
    rw [(List.mergeSort_perm _ _).mem_iff, List.mem_filter, beq_iff_eq] at hmem
    obtain ⟨hmem, rfl⟩ := hmem
    cases (hentry entry).symm.trans heq
    exact ⟨rfl, hmem⟩
  · rintro ⟨rfl, hmem⟩
    refine ⟨(owner, name), ?_, hentry (owner, name)⟩
    rw [(List.mergeSort_perm _ _).mem_iff, List.mem_filter, beq_iff_eq]
    exact ⟨hmem, rfl⟩

/-- The symbols of a module are imported in order, each once. -/
theorem Coherent.pairwise_symbolsOf {s : Imports} (h : s.Coherent) (module : String) :
    (s.symbolsOf module).Pairwise fun name other => name.1 < other.1 := by
  have hnodup : ((s.symbols.filter fun entry => entry.1.module == module).map
      (·.1.symbol)).Nodup := by
    rw [List.Nodup, List.pairwise_map]
    -- the symbols of one module differ in their names
    refine ((List.pairwise_map.mp h.nodup).filter _).imp_of_mem ?_
    intro entry other hentry hother hne heq
    have hmodule : entry.1.module = module := by simpa using (List.mem_filter.mp hentry).2
    have hmodule' : other.1.module = module := by simpa using (List.mem_filter.mp hother).2
    refine hne ?_
    calc entry.1 = ⟨module, entry.1.symbol⟩ := by rw [← hmodule]
      _ = ⟨module, other.1.symbol⟩ := by rw [heq]
      _ = other.1 := by rw [← hmodule']
  unfold symbolsOf
  exact List.pairwise_map.mpr (Text.pairwise_mergeSort_lt hnodup)

/-- What coherent imports list. -/
def Coherent.listing {s : Imports} (h : s.Coherent) : Listing where
  modules := inOrder s.modules
  sources := (inOrder (s.symbols.map (·.1.module))).map fun module => (module, s.symbolsOf module)
  modules_lt := pairwise_inOrder s.modules
  sources_lt := List.pairwise_map.mpr (pairwise_inOrder _)
  names_lt source hsource := by
    obtain ⟨module, -, rfl⟩ := List.mem_map.mp hsource
    exact h.pairwise_symbolsOf module

theorem Coherent.statements_listing {s : Imports} (h : s.Coherent) :
    h.listing.statements = s.statements := by
  rw [Listing.statements, Coherent.listing, statements, List.map_map]
  rfl

theorem Coherent.mem_modules_listing {s : Imports} (h : s.Coherent) {module : String} :
    module ∈ h.listing.modules ↔ module ∈ s.modules :=
  mem_inOrder

/-- **The symbols are listed under the names that they were given.** -/
theorem Coherent.mem_aliases_listing {s : Imports} (h : s.Coherent) {owner : Owner}
    {name : String} : (owner, name) ∈ h.listing.aliases ↔ (owner, name) ∈ s.symbols := by
  unfold Listing.aliases Coherent.listing
  rw [List.flatMap_map, List.mem_flatMap]
  constructor
  · rintro ⟨module, -, hmem⟩
    exact (mem_aliases_symbolsOf.mp hmem).2
  · intro hmem
    refine ⟨owner.module, mem_inOrder.mpr ?_, mem_aliases_symbolsOf.mpr ⟨rfl, hmem⟩⟩
    exact List.mem_map.mpr ⟨(owner, name), hmem, rfl⟩

/-- The import statements are those of the first line and of the symbols. -/
theorem Coherent.mem_aliases_statements {s : Imports} (h : s.Coherent) {owner : Owner}
    {name : String} : (owner, name) ∈ s.statements.flatMap Stmt.aliases ↔
      (owner, name) = (⟨"__future__", "annotations"⟩, "annotations") ∨ (owner, name) ∈ s.symbols := by
  have hmodules : ∀ modules : List String,
      (modules.map Stmt.importModule).flatMap Stmt.aliases = [] := by
    intro modules
    simp [Stmt.aliases]
  rw [← h.statements_listing, ← h.mem_aliases_listing, Listing.statements, List.flatMap_append,
    List.flatMap_cons, hmodules, List.flatMap_map, List.append_nil, List.mem_append]
  exact or_congr List.mem_singleton Iff.rfl

/-! ### Local names after requests -/

/-- The symbols with entries are those that were asked for, each under its local name. -/
theorem mem_symbols_after {requests : List Request}
    (h : ∀ owner ∈ askedBy requests, owner.module ≠ "") {owner : Owner} {name : String} :
    (owner, name) ∈ (after requests).symbols ↔
      owner ∈ askedBy requests ∧ name = (after requests).localOf owner := by
  have hrecords := records_after requests
  have hlocal : ∀ {name : String}, (owner, name) ∈ (after requests).symbols →
      (after requests).localOf owner = name := by
    intro name hmem
    refine localOf_of_hasLocal ?_
    rw [HasLocal, if_neg (hrecords.foreign hmem)]
    exact hrecords.lookup_iff.mpr hmem
  constructor
  · intro hmem
    have hasked := ((hrecords.symbols owner).mp ⟨name, hmem⟩).1
    exact ⟨symbol_mem_writes.mp hasked, (hlocal hmem).symm⟩
  · rintro ⟨hasked, rfl⟩
    obtain ⟨name, hmem⟩ :=
      (hrecords.symbols owner).mpr ⟨symbol_mem_writes.mpr hasked, h owner hasked⟩
    rw [hlocal hmem]
    exact hmem

/-- A symbol that is asked for again keeps the name that it was given. -/
theorem localOf_after_append (requests more : List Request) (owner : Owner) :
    (after (requests ++ Request.symbol owner :: more)).localOf owner =
      (after requests).localOf owner := by
  have hgrows : ((after requests).ask owner).Grows
      (after (requests ++ Request.symbol owner :: more)) := by
    have hextends := extends_after (requests ++ [Request.symbol owner]) more
    rw [List.append_assoc, List.singleton_append] at hextends
    have hrun : after (requests ++ [Request.symbol owner]) = (after requests).ask owner := by
      rw [after_append_singleton]
      rfl
    rw [hrun] at hextends
    exact hextends.toGrows
  exact localOf_of_hasLocal ((hasLocal_ask (after requests) owner).mono hgrows)

/-- A symbol that was not asked for gets a name that has no owner. -/
theorem lookup_localOf_of_new {requests : List Request} {owner : Owner}
    (hnew : owner ∉ askedBy requests) (hmodule : owner.module ≠ "") (hsymbol : owner.symbol ≠ "") :
    (after requests).owners.lookup ((after requests).localOf owner) = none := by
  have hrecords := records_after requests
  have hown : owner.module ≠ (after requests).own := hrecords.own ▸ hmodule
  have hentry : ∀ name, (owner, name) ∉ (after requests).symbols := fun name hmem =>
    hnew (symbol_mem_writes.mp ((hrecords.symbols owner).mp ⟨name, hmem⟩).1)
  rw [localOf, run_localName_new hown (hrecords.lookup_eq_none_iff.mpr hentry)]
  by_contra howned
  obtain ⟨other, hother⟩ := Option.ne_none_iff_exists'.mp howned
  -- the name would be free although it belongs to the symbol, which has no entry
  obtain rfl := isFree_iff.mp (isFree_choose _ owner) other hother
  rcases hrecords.known hother with hempty | hempty | hmem
  · exact hmodule hempty
  · exact hsymbol hempty
  · exact hentry _ hmem

/-- **Local names are unique and listed.**  After any requests for symbols of named modules, the
search for a local name ends with the first candidate that is free; a symbol that is asked for again
keeps its name, and different symbols have different names; a symbol that is new is given none of the
reserved names and no first part of the name of an imported module; and the statements, after the
first line, list each module once and each symbol once, in order, under its local name. -/
theorem localOf_unique_and_listed (requests : List Request)
    (h : ∀ owner ∈ askedBy requests, owner.module ≠ "") :
    (∀ owner, ∃ n, (after requests).choose owner = candidate owner n ∧
      (after requests).isFree (candidate owner n) owner = true ∧
      ∀ m < n, (after requests).isFree (candidate owner m) owner = false) ∧
    (∀ owner more, (after (requests ++ .symbol owner :: more)).localOf owner =
      (after requests).localOf owner) ∧
    (∀ owner ∈ askedBy requests, ∀ other ∈ askedBy requests,
      (after requests).localOf owner = (after requests).localOf other → owner = other) ∧
    (∀ owner ∉ askedBy requests, owner.module ≠ "" → owner.symbol ≠ "" →
      (after requests).localOf owner ∉ reservedBy requests ∧
      (after requests).localOf owner ∉ (modulesOf requests).map headOf) ∧
    ∃ listing : Listing, (after requests).statements = listing.statements ∧
      (∀ module, module ∈ listing.modules ↔ module ∈ modulesOf requests) ∧
      (listing.aliases.map (·.1)).Nodup ∧
      ∀ owner name, (owner, name) ∈ listing.aliases ↔
        owner ∈ askedBy requests ∧ name = (after requests).localOf owner := by
  have hrecords := records_after requests
  refine ⟨choose_eq_candidate _, fun owner more => localOf_after_append requests more owner,
    ?distinct, ?new, hrecords.listing, hrecords.statements_listing.symm, ?modules,
    hrecords.listing.nodup_aliases, ?aliases⟩
  case distinct =>
    intro owner howner other hother heq
    have hfirst := (mem_symbols_after h).mpr ⟨howner, rfl⟩
    have hsecond := (mem_symbols_after h).mpr ⟨hother, rfl⟩
    rw [heq] at hfirst
    exact hrecords.eq_of_local hfirst hsecond
  case new =>
    intro owner hnew hmodule hsymbol
    have hfree := lookup_localOf_of_new hnew hmodule hsymbol
    constructor
    · intro hmem
      have howned := hrecords.reserved _ (reserve_mem_writes.mpr hmem)
      rw [hfree] at howned
      cases howned
    · intro hmem
      obtain ⟨module, hmodule, heq⟩ := List.mem_map.mp hmem
      have howned := hrecords.heads module (module_mem_writes.mpr hmodule)
      rw [heq, hfree] at howned
      cases howned
  case modules =>
    intro module
    rw [hrecords.mem_modules_listing, hrecords.modules, module_mem_writes]
  case aliases =>
    intro owner name
    rw [hrecords.mem_aliases_listing]
    exact mem_symbols_after h

/-- Two symbols of one name, after a package of that name. -/
def clashingRequests : List Request :=
  [.module "a", .symbol ⟨"m", "a"⟩, .symbol ⟨"n", "a"⟩]

theorem after_package : after [.module "a"] = ⟨"", ["a"], [], [("a", ⟨"a", ""⟩)]⟩ := by
  change (start "").addModule "a" = _
  rw [addModule, Text.splitOn_of_notMem rfl (by decide)]
  rfl

theorem localOf_clashingRequests : (after clashingRequests).localOf ⟨"m", "a"⟩ = "m_a" := by
  have halias : aliasOf ⟨"m", "a"⟩ = "m_a" := by
    rw [aliasOf, Text.splitOn_of_notMem rfl (by decide)]
    rfl
  calc (after clashingRequests).localOf ⟨"m", "a"⟩
      = (after [.module "a"]).localOf ⟨"m", "a"⟩ :=
        localOf_after_append [.module "a"] [.symbol ⟨"n", "a"⟩] ⟨"m", "a"⟩
    _ = (after [.module "a"]).choose ⟨"m", "a"⟩ := by
        rw [after_package, localOf, run_localName_new (by decide) rfl]
    _ = "m_a" := by
        rw [after_package, choose, halias]
        rfl

theorem localOf_unique_and_listed_clashing :
    (∀ owner ∈ askedBy clashingRequests, owner.module ≠ "") ∧
    (after clashingRequests).localOf ⟨"m", "a"⟩ = "m_a" ∧
    (after clashingRequests).localOf ⟨"n", "a"⟩ ≠ "m_a" ∧
    ∃ listing : Listing, (after clashingRequests).statements = listing.statements ∧
      "a" ∈ listing.modules ∧ (⟨"m", "a"⟩, "m_a") ∈ listing.aliases := by
  have hmodules : ∀ owner ∈ askedBy clashingRequests, owner.module ≠ "" := by decide
  have hlocal : (after clashingRequests).localOf ⟨"m", "a"⟩ = "m_a" := localOf_clashingRequests
  obtain ⟨-, -, hdistinct, -, listing, hstatements, hlisted, -, haliases⟩ :=
    localOf_unique_and_listed clashingRequests hmodules
  refine ⟨hmodules, hlocal, fun heq => ?_, listing, hstatements, ?_, ?_⟩
  · have hsame := hdistinct ⟨"m", "a"⟩ (by decide) ⟨"n", "a"⟩ (by decide) (hlocal.trans heq.symm)
    exact absurd hsame (by decide)
  · exact (hlisted "a").mpr (by decide)
  · exact (haliases ⟨"m", "a"⟩ "m_a").mpr ⟨by decide, hlocal.symm⟩

/-- The symbol of the first line is listed a second time when it is asked for, and a symbol without
a name is given the first part of the name of its module when that is empty too. -/
theorem not_nodup_aliases_first_line :
    ¬(((after [.symbol ⟨"__future__", "annotations"⟩]).statements.flatMap Stmt.aliases).map
      (·.1)).Nodup ∧
    (after [.module ".x"]).localOf ⟨".x", ""⟩ = headOf ".x" := by
  have htwice : ((after [.symbol ⟨"__future__", "annotations"⟩]).statements.flatMap
      Stmt.aliases).map (·.1) = [⟨"__future__", "annotations"⟩, ⟨"__future__", "annotations"⟩] := by
    decide +kernel
  have hparts : ".x".splitOn "." = ["", "x"] := by
    rw [Text.splitOn_eq rfl]
    rfl
  constructor
  · rw [htwice]
    decide
  · change ((start "").addModule ".x").localOf ⟨".x", ""⟩ = headOf ".x"
    rw [addModule, headOf, hparts]
    rfl

end Imports

end FragmentRoutes
