import FragmentRoutes.Proofs.Imports.LocalName
import FragmentRoutes.Proofs.Text.SplitOn
import Mathlib.Data.List.Induction

/-!
# What the imports record

The imports record in single writes, each of which reserves a name, adds a module or asks for a
symbol (`Write`).  A write keeps the owners of all local names (`extends_apply`), and the symbols
that were handed out keep the names that they have (`Coherent.apply`).  By induction over the writes
it follows what a run of them has recorded (`records_foldl`).
-/

namespace FragmentRoutes.Imports

open Code Host

/-! ### Asking for a symbol -/

/-- The local name that a symbol has once it was asked for. -/
def localOf (s : Imports) (owner : Owner) : String :=
  ((localName owner.module owner.symbol).run s).1

/-- The imports after a symbol was asked for. -/
def ask (s : Imports) (owner : Owner) : Imports :=
  ((localName owner.module owner.symbol).run s).2

/-- What the module itself defines goes by its own name. -/
theorem run_localName_own {s : Imports} {owner : Owner} (h : owner.module = s.own) :
    (localName owner.module owner.symbol).run s = (owner.symbol, s) := by
  unfold localName
  simp [h]
  rfl

/-- A symbol that was asked for before keeps its local name. -/
theorem run_localName_known {s : Imports} {owner : Owner} {name : String}
    (h : owner.module ≠ s.own) (hname : s.symbols.lookup owner = some name) :
    (localName owner.module owner.symbol).run s = (name, s) := by
  unfold localName
  simp [h, hname]
  rfl

/-- A symbol that was not asked for before is recorded with a name that is free. -/
theorem run_localName_new {s : Imports} {owner : Owner} (h : owner.module ≠ s.own)
    (hnew : s.symbols.lookup owner = none) :
    (localName owner.module owner.symbol).run s =
      (s.choose owner, s.addSymbol owner (s.choose owner)) := by
  unfold localName
  simp [h, hnew]
  rfl

/-- **Asking for a symbol** records nothing if the symbol is the module's own or was asked for
before, and records it with a free name otherwise. -/
theorem ask_cases (s : Imports) (owner : Owner) :
    (s.ask owner = s ∧ (owner.module = s.own ∨ ∃ name, s.symbols.lookup owner = some name)) ∨
      (owner.module ≠ s.own ∧ s.symbols.lookup owner = none ∧
        s.ask owner = s.addSymbol owner (s.choose owner)) := by
  unfold ask
  by_cases hown : owner.module = s.own
  · rw [run_localName_own hown]
    exact .inl ⟨rfl, .inl hown⟩
  · cases hlookup : s.symbols.lookup owner with
    | some name =>
      rw [run_localName_known hown hlookup]
      exact .inl ⟨rfl, .inr ⟨name, rfl⟩⟩
    | none =>
      rw [run_localName_new hown hlookup]
      exact .inr ⟨hown, rfl, rfl⟩

theorem hasLocal_ask (s : Imports) (owner : Owner) :
    (s.ask owner).HasLocal owner.module owner.symbol (s.localOf owner) :=
  (makes_localName s owner.module owner.symbol).2

theorem grows_ask (s : Imports) (owner : Owner) : s.Grows (s.ask owner) :=
  (makes_localName s owner.module owner.symbol).1

/-- A symbol with a local name is given this name, and nothing is recorded. -/
theorem run_localName_of_hasLocal {s : Imports} {owner : Owner} {name : String}
    (h : s.HasLocal owner.module owner.symbol name) :
    (localName owner.module owner.symbol).run s = (name, s) := by
  unfold HasLocal at h
  split_ifs at h with hown
  · rw [run_localName_own hown, h]
  · exact run_localName_known hown h

theorem localOf_of_hasLocal {s : Imports} {owner : Owner} {name : String}
    (h : s.HasLocal owner.module owner.symbol name) : s.localOf owner = name := by
  rw [localOf, run_localName_of_hasLocal h]

/-! ### Owners of local names -/

/-- The first part of the name of a module, which an import of the whole module binds. -/
def headOf (module : String) : String :=
  (module.splitOn ".").headD module

/-- A module that is in no package is its own first part. -/
theorem headOf_of_notMem {module : String} (h : '.' ∉ module.toList) : headOf module = module := by
  rw [headOf, Text.splitOn_of_notMem rfl h]
  rfl

/-- The second imports have all that the first have recorded about local names. -/
structure Extends (s s' : Imports) : Prop extends Grows s s' where
  owner : ∀ {name owner}, s.owners.lookup name = some owner → s'.owners.lookup name = some owner

theorem Extends.refl (s : Imports) : s.Extends s :=
  ⟨.refl s, id⟩

theorem Extends.trans {s s' s'' : Imports} (h : s.Extends s') (h' : s'.Extends s'') :
    s.Extends s'' :=
  ⟨h.toGrows.trans h'.toGrows, fun howner => h'.owner (h.owner howner)⟩

theorem Extends.isSome {s s' : Imports} {name : String} (h : s.Extends s')
    (howned : (s.owners.lookup name).isSome) : (s'.owners.lookup name).isSome := by
  obtain ⟨owner, howner⟩ := Option.isSome_iff_exists.mp howned
  rw [h.owner howner]
  rfl

/-- A name without an owner gets the given one, and all others keep theirs. -/
theorem lookup_grant (s : Imports) (name : String) (owner : Owner) (other : String) :
    (s.grant name owner).owners.lookup other =
      (s.owners.lookup other).or (if other = name then some owner else none) := by
  unfold grant
  by_cases howned : (s.owners.lookup name).isSome
  · rw [if_pos howned]
    by_cases heq : other = name
    · obtain ⟨o, ho⟩ := Option.isSome_iff_exists.mp howned
      rw [heq, ho, Option.some_or]
    · rw [if_neg heq, Option.or_none]
  · rw [if_neg howned]
    by_cases heq : other = name
    · have hnone : s.owners.lookup name = none := Option.not_isSome_iff_eq_none.mp howned
      rw [heq, List.lookup_cons_self, hnone, if_pos rfl, Option.none_or]
    · rw [if_neg heq, Option.or_none, List.lookup_cons, beq_eq_false_iff_ne.mpr heq]

theorem lookup_filter_ne {entries : List (String × Owner)} {name other : String}
    (h : other ≠ name) : (entries.filter (·.1 != name)).lookup other = entries.lookup other := by
  induction entries with
  | nil => rfl
  | cons entry entries ih =>
    by_cases heq : entry.1 = name
    · have hne : other ≠ entry.1 := heq ▸ h
      rw [List.filter_cons_of_neg (by simp [heq]), ih, List.lookup_cons,
        beq_eq_false_iff_ne.mpr hne]
    · rw [List.filter_cons_of_pos (by simpa using heq), List.lookup_cons, List.lookup_cons, ih]

/-- The handed-out name gets the symbol as its owner, and all others keep theirs. -/
theorem lookup_addSymbol (s : Imports) (owner : Owner) (name other : String) :
    (s.addSymbol owner name).owners.lookup other =
      if other = name then some owner else s.owners.lookup other := by
  unfold addSymbol
  by_cases heq : other = name
  · rw [if_pos heq, heq, List.lookup_cons_self]
  · rw [if_neg heq, List.lookup_cons, beq_eq_false_iff_ne.mpr heq]
    exact lookup_filter_ne heq

theorem extends_grant (s : Imports) (name : String) (owner : Owner) :
    s.Extends (s.grant name owner) where
  own := by
    unfold grant
    split_ifs <;> rfl
  symbol h := by
    unfold grant
    split_ifs <;> exact h
  owner {other _} h := by
    rw [lookup_grant, h, Option.some_or]

theorem modules_grant (s : Imports) (name : String) (owner : Owner) :
    (s.grant name owner).modules = s.modules := by
  unfold grant
  split_ifs <;> rfl

/-- The module is recorded, and the first part of its name gets an owner. -/
theorem addModule_eq (s : Imports) (module : String) :
    ∃ modules, (∀ m, m ∈ modules ↔ m = module ∨ m ∈ s.modules) ∧
      s.addModule module =
        { s.grant (headOf module) ⟨module, ""⟩ with modules := modules } := by
  unfold addModule headOf
  by_cases hold : module ∈ s.modules
  · refine ⟨(s.grant ((module.splitOn ".").headD module) ⟨module, ""⟩).modules, fun m => ?_, ?_⟩
    · rw [modules_grant]
      exact ⟨.inr, fun h => h.elim (fun heq => heq ▸ hold) id⟩
    · rw [if_pos (by simpa [modules_grant] using hold)]
  · refine ⟨module :: s.modules, fun m => List.mem_cons, ?_⟩
    rw [if_neg (by simpa [modules_grant] using hold), modules_grant]

theorem extends_addModule (s : Imports) (module : String) : s.Extends (s.addModule module) := by
  obtain ⟨modules, -, heq⟩ := addModule_eq s module
  have hgrant := extends_grant s (headOf module) ⟨module, ""⟩
  rw [heq]
  exact ⟨⟨hgrant.own, hgrant.symbol⟩, hgrant.owner⟩

theorem extends_ask (s : Imports) (owner : Owner) : s.Extends (s.ask owner) where
  toGrows := grows_ask s owner
  owner {name other} h := by
    rcases s.ask_cases owner with ⟨heq, -⟩ | ⟨-, -, heq⟩
    · rw [heq]
      exact h
    · rw [heq, lookup_addSymbol]
      split_ifs with hname
      · -- a name that is handed out belonged to nothing else
        rw [hname] at h
        rw [isFree_iff.mp (isFree_choose s owner) other h]
      · exact h

/-! ### Single writes -/

/-- What is recorded in one step. -/
inductive Write where
  | reserve (name : String)
  | module (name : String)
  | symbol (owner : Owner)

/-- The imports after a write. -/
def Write.apply (s : Imports) : Write → Imports
  | .reserve name => s.grant name ⟨"", name⟩
  | .module name => s.addModule name
  | .symbol owner => s.ask owner

theorem extends_apply (s : Imports) (w : Write) : s.Extends (w.apply s) := by
  cases w with
  | reserve name => exact extends_grant s name _
  | module name => exact extends_addModule s name
  | symbol owner => exact extends_ask s owner

/-- **Writes keep the owners of all local names.** -/
theorem extends_foldl (s : Imports) (ws : List Write) : s.Extends (ws.foldl Write.apply s) := by
  induction ws generalizing s with
  | nil => exact .refl s
  | cons w ws ih => exact (extends_apply s w).trans (ih (w.apply s))

/-- The symbols that were handed out have one entry each, belong to other modules and own their
local names. -/
structure Coherent (s : Imports) : Prop where
  nodup : (s.symbols.map (·.1)).Nodup
  foreign : ∀ {owner name}, (owner, name) ∈ s.symbols → owner.module ≠ s.own
  owner : ∀ {owner name}, (owner, name) ∈ s.symbols → s.owners.lookup name = some owner

theorem coherent_start (own : String) : (start own).Coherent := by
  constructor <;> simp [start]

/-- What is recorded apart from the symbols keeps them coherent. -/
theorem Coherent.of_extends {s s' : Imports} (h : s.Coherent) (hsymbols : s'.symbols = s.symbols)
    (hextends : s.Extends s') : s'.Coherent where
  nodup := by
    rw [hsymbols]
    exact h.nodup
  foreign hmem := by
    rw [hsymbols] at hmem
    rw [hextends.own]
    exact h.foreign hmem
  owner hmem := by
    rw [hsymbols] at hmem
    exact hextends.owner (h.owner hmem)

theorem symbols_grant (s : Imports) (name : String) (owner : Owner) :
    (s.grant name owner).symbols = s.symbols := by
  unfold grant
  split_ifs <;> rfl

theorem symbols_addModule (s : Imports) (module : String) :
    (s.addModule module).symbols = s.symbols := by
  obtain ⟨modules, -, heq⟩ := addModule_eq s module
  rw [heq]
  exact symbols_grant s _ _

theorem Coherent.lookup_iff {s : Imports} (h : s.Coherent) {owner : Owner} {name : String} :
    s.symbols.lookup owner = some name ↔ (owner, name) ∈ s.symbols := by
  have hnodup := h.nodup
  revert hnodup
  generalize s.symbols = symbols
  intro hnodup
  induction symbols with
  | nil => simp
  | cons entry symbols ih =>
    rw [List.map_cons, List.nodup_cons] at hnodup
    obtain ⟨hnew, hnodup⟩ := hnodup
    by_cases heq : owner = entry.1
    · subst heq
      have hnot : ∀ name, (entry.1, name) ∉ symbols := fun name hmem =>
        hnew (List.mem_map.mpr ⟨(entry.1, name), hmem, rfl⟩)
      rw [List.lookup_cons_self, List.mem_cons, or_iff_left (hnot name), Prod.ext_iff]
      simp [eq_comm]
    · rw [List.lookup_cons, beq_eq_false_iff_ne.mpr heq, List.mem_cons]
      refine (ih hnodup).trans ⟨.inr, fun h => h.resolve_left fun h => heq (Prod.ext_iff.mp h).1⟩

theorem Coherent.lookup_eq_none_iff {s : Imports} (h : s.Coherent) {owner : Owner} :
    s.symbols.lookup owner = none ↔ ∀ name, (owner, name) ∉ s.symbols := by
  constructor
  · intro hnone name hmem
    have hsome := h.lookup_iff.mpr hmem
    rw [hnone] at hsome
    cases hsome
  · intro hnew
    by_contra hsome
    obtain ⟨name, hname⟩ := Option.ne_none_iff_exists'.mp hsome
    exact hnew name (h.lookup_iff.mp hname)

theorem Coherent.addSymbol {s : Imports} (h : s.Coherent) {owner : Owner} {name : String}
    (hown : owner.module ≠ s.own) (hnew : s.symbols.lookup owner = none)
    (hfree : s.isFree name owner = true) : (s.addSymbol owner name).Coherent := by
  constructor
  · show (owner :: s.symbols.map (·.1)).Nodup
    rw [List.nodup_cons]
    refine ⟨fun hmem => ?_, h.nodup⟩
    obtain ⟨⟨_, other⟩, hentry, rfl⟩ := List.mem_map.mp hmem
    exact h.lookup_eq_none_iff.mp hnew other hentry
  · intro other name' hmem
    rcases List.mem_cons.mp hmem with heq | hmem
    · cases heq
      exact hown
    · exact h.foreign hmem
  · intro other name' hmem
    rw [lookup_addSymbol]
    rcases List.mem_cons.mp hmem with heq | hmem
    · cases heq
      rw [if_pos rfl]
    · have hold := h.owner hmem
      split_ifs with hname
      · rw [hname] at hold
        rw [isFree_iff.mp hfree other hold]
      · exact hold

theorem Coherent.ask {s : Imports} (h : s.Coherent) (owner : Owner) : (s.ask owner).Coherent := by
  rcases s.ask_cases owner with ⟨heq, -⟩ | ⟨hown, hnew, heq⟩
  · rw [heq]
    exact h
  · rw [heq]
    exact h.addSymbol hown hnew (isFree_choose s owner)

/-- **A write keeps the symbols coherent.** -/
theorem Coherent.apply {s : Imports} (h : s.Coherent) (w : Write) : (w.apply s).Coherent := by
  cases w with
  | reserve name => exact h.of_extends (symbols_grant s name _) (extends_grant s name _)
  | module name => exact h.of_extends (symbols_addModule s name) (extends_addModule s name)
  | symbol owner => exact h.ask owner

theorem Coherent.foldl {s : Imports} (h : s.Coherent) (ws : List Write) :
    (ws.foldl Write.apply s).Coherent := by
  induction ws generalizing s with
  | nil => exact h
  | cons w ws ih => exact ih (h.apply w)

/-- Different symbols have different local names. -/
theorem Coherent.eq_of_local {s : Imports} (h : s.Coherent) {owner other : Owner} {name : String}
    (howner : (owner, name) ∈ s.symbols) (hother : (other, name) ∈ s.symbols) : owner = other :=
  Option.some.inj ((h.owner howner).symm.trans (h.owner hother))

/-! ### The record of a run -/

/-- What the imports have recorded after the writes of a run: all symbols of other modules, all
modules, and owners for the reserved names and the first parts of the names of modules.  No other
name has an owner. -/
structure Records (ws : List Write) (s : Imports) : Prop extends Coherent s where
  own : s.own = ""
  symbols : ∀ owner, (∃ name, (owner, name) ∈ s.symbols) ↔
    Write.symbol owner ∈ ws ∧ owner.module ≠ ""
  modules : ∀ name, name ∈ s.modules ↔ Write.module name ∈ ws
  reserved : ∀ name, Write.reserve name ∈ ws → (s.owners.lookup name).isSome
  heads : ∀ name, Write.module name ∈ ws → (s.owners.lookup (headOf name)).isSome
  known : ∀ {name owner}, s.owners.lookup name = some owner →
    owner.module = "" ∨ owner.symbol = "" ∨ (owner, name) ∈ s.symbols

theorem records_start : Records [] (start "") where
  toCoherent := coherent_start ""
  own := rfl
  symbols := by simp [start]
  modules := by simp [start]
  reserved := by simp
  heads := by simp
  known := by simp [start]

/-- A name is reserved. -/
theorem Records.grant {ws : List Write} {s : Imports} (h : Records ws s) (name : String) :
    Records (ws ++ [Write.reserve name]) (s.grant name ⟨"", name⟩) where
  toCoherent := h.toCoherent.apply (.reserve name)
  own := (extends_grant s name _).own.trans h.own
  symbols owner := by
    rw [symbols_grant, h.symbols owner]
    simp
  modules m := by
    rw [modules_grant, h.modules m]
    simp
  reserved other hother := by
    rcases List.mem_append.mp hother with hother | hother
    · exact (extends_grant s name _).isSome (h.reserved other hother)
    · obtain rfl : other = name := by simpa using hother
      rw [lookup_grant, if_pos rfl]
      simp
  heads m hm := by
    have hold : Write.module m ∈ ws := by simpa using hm
    exact (extends_grant s name _).isSome (h.heads m hold)
  known {other owner} howner := by
    rw [symbols_grant]
    rw [lookup_grant] at howner
    rcases Option.or_eq_some_iff.mp howner with hold | ⟨-, hnew⟩
    · exact h.known hold
    · split_ifs at hnew
      cases hnew
      exact .inl rfl

/-- A module is added. -/
theorem Records.addModule {ws : List Write} {s : Imports} (h : Records ws s) (name : String) :
    Records (ws ++ [Write.module name]) (s.addModule name) := by
  obtain ⟨modules, hmodules, heq⟩ := addModule_eq s name
  have hextends := extends_addModule s name
  have howners : (s.addModule name).owners = (s.grant (headOf name) ⟨name, ""⟩).owners := by
    rw [heq]
  constructor
  · exact h.toCoherent.apply (.module name)
  · exact hextends.own.trans h.own
  · intro owner
    rw [symbols_addModule, h.symbols owner]
    simp
  · intro m
    rw [heq]
    show m ∈ modules ↔ _
    rw [hmodules m, h.modules m]
    simp [or_comm]
  · intro other hother
    have hold : Write.reserve other ∈ ws := by simpa using hother
    exact hextends.isSome (h.reserved other hold)
  · intro m hm
    rcases List.mem_append.mp hm with hm | hm
    · exact hextends.isSome (h.heads m hm)
    · obtain rfl : m = name := by simpa using hm
      rw [howners, lookup_grant, if_pos rfl]
      simp
  · intro other owner howner
    rw [symbols_addModule]
    rw [howners, lookup_grant] at howner
    rcases Option.or_eq_some_iff.mp howner with hold | ⟨-, hnew⟩
    · exact h.known hold
    · split_ifs at hnew
      cases hnew
      exact .inr (.inl rfl)

/-- A symbol that has no name under the imports is recorded with one that is free. -/
theorem Records.addSymbol {ws : List Write} {s : Imports} (h : Records ws s) {owner : Owner}
    {name : String} (hown : owner.module ≠ s.own) (hnew : s.symbols.lookup owner = none)
    (hfree : s.isFree name owner = true) (hextends : s.Extends (s.addSymbol owner name)) :
    Records (ws ++ [Write.symbol owner]) (s.addSymbol owner name) where
  toCoherent := h.toCoherent.addSymbol hown hnew hfree
  own := h.own
  symbols other := by
    have hsymbols : (∃ local', (other, local') ∈ (owner, name) :: s.symbols) ↔
        other = owner ∨ ∃ local', (other, local') ∈ s.symbols := by
      simp only [List.mem_cons, Prod.mk.injEq, exists_or, exists_and_left, exists_eq, and_true]
    have hne : owner.module ≠ "" := h.own ▸ hown
    refine hsymbols.trans ?_
    rw [h.symbols other, List.mem_append, List.mem_singleton, Write.symbol.injEq]
    constructor
    · rintro (rfl | ⟨hmem, hother⟩)
      · exact ⟨.inr rfl, hne⟩
      · exact ⟨.inl hmem, hother⟩
    · rintro ⟨hmem | rfl, hother⟩
      · exact .inr ⟨hmem, hother⟩
      · exact .inl rfl
  modules m := (h.modules m).trans (by simp)
  reserved other hother := hextends.isSome (h.reserved other (by simpa using hother))
  heads m hm := hextends.isSome (h.heads m (by simpa using hm))
  known {other o} howner := by
    rw [lookup_addSymbol] at howner
    split_ifs at howner with heq
    · cases howner
      rw [heq]
      exact .inr (.inr List.mem_cons_self)
    · exact (h.known howner).imp_right (Or.imp_right (List.mem_cons_of_mem _))

/-- A symbol of the module itself, or one that was asked for before, is asked for. -/
theorem Records.ask_again {ws : List Write} {s : Imports} (h : Records ws s) {owner : Owner}
    (hold : owner.module = s.own ∨ ∃ name, s.symbols.lookup owner = some name) :
    Records (ws ++ [Write.symbol owner]) s where
  toCoherent := h.toCoherent
  own := h.own
  symbols other := by
    rw [h.symbols other, List.mem_append, List.mem_singleton, Write.symbol.injEq]
    refine ⟨fun ⟨hmem, hne⟩ => ⟨.inl hmem, hne⟩, fun ⟨hmem, hne⟩ => ⟨hmem.elim id ?_, hne⟩⟩
    rintro rfl
    rcases hold with hown | ⟨name, hname⟩
    · exact absurd (hown.trans h.own) hne
    · exact ((h.symbols other).mp ⟨name, h.lookup_iff.mp hname⟩).1
  modules m := (h.modules m).trans (by simp)
  reserved other hother := h.reserved other (by simpa using hother)
  heads m hm := h.heads m (by simpa using hm)
  known := h.known

/-- A symbol is asked for. -/
theorem Records.ask {ws : List Write} {s : Imports} (h : Records ws s) (owner : Owner) :
    Records (ws ++ [Write.symbol owner]) (s.ask owner) := by
  have hextends := extends_ask s owner
  rcases s.ask_cases owner with ⟨heq, hold⟩ | ⟨hown, hnew, heq⟩
  · rw [heq]
    exact h.ask_again hold
  · rw [heq] at hextends ⊢
    exact h.addSymbol hown hnew (isFree_choose s owner) hextends

/-- **A write adds what it writes to the record.** -/
theorem Records.apply {ws : List Write} {s : Imports} (h : Records ws s) (w : Write) :
    Records (ws ++ [w]) (w.apply s) := by
  cases w with
  | reserve name => exact h.grant name
  | module name => exact h.addModule name
  | symbol owner => exact h.ask owner

/-- **A run of writes has recorded all of them.** -/
theorem records_foldl (ws : List Write) : Records ws (ws.foldl Write.apply (start "")) := by
  induction ws using List.reverseRecOn with
  | nil => exact records_start
  | append_singleton ws w ih =>
    rw [List.foldl_append]
    exact ih.apply w

end FragmentRoutes.Imports
