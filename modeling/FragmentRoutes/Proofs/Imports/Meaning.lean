import FragmentRoutes.Proofs.Imports.Statements

/-!
# What names mean after the imports

The import statements bind names one after the other, and a name means what it was bound to last
(`meaning`).  An expression that was handed out keeps its meaning if its names mean what it was
handed out for.

A local name always means its symbol, since symbols are imported last and have names of their own
(`meaning_local`).  A package and what needs no import are not looked after: each means something
else as soon as a symbol has its name (`keeps_meaning_iff`).
-/

namespace FragmentRoutes

open Code

namespace Imports

/-! ### Bindings -/

/-- The names that a statement binds, with what they stand for then. -/
def bindings : Stmt → List (String × Referent)
  | .importModule module => [(headOf module, .package (headOf module))]
  | .importFrom module symbols =>
    (Stmt.importFrom module symbols).aliases.map fun (owner, name) => (name, .symbol owner)
  | _ => []

/-- What a name stands for once the statements were run: what it was bound to last, or what it
stands for without them. -/
def meaning (statements : List Stmt) (name : String) : Referent :=
  ((statements.flatMap bindings).reverse.lookup name).getD (.plain name)

/-- An item that is the only one for a key is found. -/
theorem lookup_eq_some_of_unique {α β : Type} [BEq α] [LawfulBEq α] {entries : List (α × β)}
    {a : α} {b : β} (hmem : (a, b) ∈ entries) (hunique : ∀ b', (a, b') ∈ entries → b' = b) :
    entries.lookup a = some b := by
  cases hlookup : entries.lookup a with
  | none =>
    have hne := List.lookup_eq_none_iff.mp hlookup (a, b) hmem
    simp at hne
  | some b' =>
    obtain ⟨front, back, heq, -⟩ := List.lookup_eq_some_iff.mp hlookup
    rw [hunique b' (by rw [heq]; simp)]

theorem lookup_eq_none_of_not_mem {α β : Type} [BEq α] [LawfulBEq α] {entries : List (α × β)}
    {a : α} (h : ∀ b, (a, b) ∉ entries) : entries.lookup a = none := by
  rw [List.lookup_eq_none_iff]
  intro entry hmem
  rw [bne_iff_ne]
  rintro rfl
  exact h entry.2 hmem

/-- The listed statements bind the name of the first line, then the packages, then the symbols. -/
theorem bindings_statements (l : Listing) :
    l.statements.flatMap bindings =
      ("annotations", Referent.symbol ⟨"__future__", "annotations"⟩) ::
        (l.modules.map fun module => (headOf module, Referent.package (headOf module))) ++
        l.aliases.map fun (owner, name) => (name, Referent.symbol owner) := by
  unfold Listing.statements Listing.aliases
  rw [List.flatMap_append, List.flatMap_cons, List.flatMap_map, List.flatMap_map, List.map_flatMap,
    List.map_eq_flatMap]
  rfl

/-- **What a listed name means**: a symbol before a package, and a package before what the name
stands for without the imports. -/
theorem meaning_eq (l : Listing) (name : String) :
    meaning l.statements name =
      (((l.aliases.map fun (owner, local') => (local', Referent.symbol owner)).reverse.lookup name).or
        (((l.modules.map fun module => (headOf module, Referent.package (headOf module))).reverse.lookup
          name).or
          (if name = "annotations" then some (.symbol ⟨"__future__", "annotations"⟩)
            else none))).getD (.plain name) := by
  unfold meaning
  rw [bindings_statements, List.cons_append, List.reverse_cons, List.reverse_append,
    List.append_assoc, List.lookup_append, List.lookup_append, List.lookup_cons, List.lookup_nil]
  by_cases h : name = "annotations"
  · rw [if_pos h, beq_iff_eq.mpr h]
  · rw [if_neg h, beq_eq_false_iff_ne.mpr h]

section

variable {s : Imports} (h : s.Coherent)

include h

/-- **A local name means its symbol.** -/
theorem Coherent.meaning_local {owner : Owner} {name : String}
    (hentry : (owner, name) ∈ s.symbols) : meaning s.statements name = .symbol owner := by
  have hlookup : (h.listing.aliases.map fun (owner, local') =>
      (local', Referent.symbol owner)).reverse.lookup name = some (.symbol owner) := by
    refine lookup_eq_some_of_unique ?_ ?_
    · rw [List.mem_reverse, List.mem_map]
      exact ⟨(owner, name), h.mem_aliases_listing.mpr hentry, rfl⟩
    · intro referent hmem
      obtain ⟨⟨other, local'⟩, hother, heq⟩ := List.mem_map.mp (List.mem_reverse.mp hmem)
      cases heq
      rw [h.eq_of_local (h.mem_aliases_listing.mp hother) hentry]
  rw [← h.statements_listing, meaning_eq, hlookup, Option.some_or, Option.getD_some]

theorem Coherent.lookup_aliases_eq_none {name : String}
    (hname : ∀ owner, (owner, name) ∉ s.symbols) :
    (h.listing.aliases.map fun (owner, local') =>
      (local', Referent.symbol owner)).reverse.lookup name = none := by
  refine lookup_eq_none_of_not_mem fun referent hmem => ?_
  obtain ⟨⟨owner, local'⟩, hentry, heq⟩ := List.mem_map.mp (List.mem_reverse.mp hmem)
  cases heq
  exact hname owner (h.mem_aliases_listing.mp hentry)

/-- A name that is no local name means the package that it is the first part of. -/
theorem Coherent.meaning_package {module : String} (hmodule : module ∈ s.modules)
    (hname : ∀ owner, (owner, headOf module) ∉ s.symbols) :
    meaning s.statements (headOf module) = .package (headOf module) := by
  have hlookup : (h.listing.modules.map fun module =>
      (headOf module, Referent.package (headOf module))).reverse.lookup (headOf module) =
        some (.package (headOf module)) := by
    refine lookup_eq_some_of_unique ?_ ?_
    · rw [List.mem_reverse, List.mem_map]
      exact ⟨module, h.mem_modules_listing.mpr hmodule, rfl⟩
    · intro referent hmem
      obtain ⟨other, -, heq⟩ := List.mem_map.mp (List.mem_reverse.mp hmem)
      obtain ⟨hhead, hreferent⟩ := Prod.ext_iff.mp heq
      calc referent = .package (headOf other) := hreferent.symm
        _ = .package (headOf module) := congrArg Referent.package hhead
  rw [← h.statements_listing, meaning_eq, h.lookup_aliases_eq_none hname, hlookup,
    Option.none_or, Option.some_or, Option.getD_some]

/-- A name that is bound to nothing means what it does without the imports. -/
theorem Coherent.meaning_plain {name : String} (hname : ∀ owner, (owner, name) ∉ s.symbols)
    (hmodule : ∀ module ∈ s.modules, headOf module ≠ name) :
    meaning s.statements name = if name = "annotations" then
      .symbol ⟨"__future__", "annotations"⟩ else .plain name := by
  have hlookup : (h.listing.modules.map fun module =>
      (headOf module, Referent.package (headOf module))).reverse.lookup name = none := by
    refine lookup_eq_none_of_not_mem fun referent hmem => ?_
    obtain ⟨module, hlisted, heq⟩ := List.mem_map.mp (List.mem_reverse.mp hmem)
    exact hmodule module (h.mem_modules_listing.mp hlisted) (Prod.ext_iff.mp heq).1
  rw [← h.statements_listing, meaning_eq, h.lookup_aliases_eq_none hname, hlookup,
    Option.none_or, Option.none_or]
  split_ifs <;> rfl

end

/-! ### Kept meanings -/

theorem classMentions_ne_package (c : Host.ClassId) (head : String) :
    classMentions c ≠ .package head := by
  unfold classMentions
  split_ifs <;> simp

mutual

/-- The expression for a type names no package. -/
theorem package_not_mem_typeMentions (head : String) :
    ∀ t : HostType, Referent.package head ∉ typeMentions t
  | .any | .var _ | .literal _ | .newType _ _ _ | .special _ _ | .value _ | .forward _ => by
    rw [typeMentions]
    simp
  | .nothing | .ellipsis => by
    rw [typeMentions]
    simp
  | .generated _ => by
    rw [typeMentions]
    simp
  | .params types | .union _ types => by
    rw [typeMentions]
    exact package_not_mem_typesMentions head types
  | .annotated base _ => by
    rw [typeMentions]
    exact package_not_mem_typeMentions head base
  | .applied _ c types => by
    rw [typeMentions, List.mem_cons, not_or]
    exact ⟨(classMentions_ne_package c head).symm, package_not_mem_typesMentions head types⟩
  | .synonym _ c => by
    rw [typeMentions, List.mem_singleton]
    exact (classMentions_ne_package c head).symm
  | .cls c => by
    rw [typeMentions]
    split_ifs
    · exact List.not_mem_nil
    · rw [List.mem_singleton]
      exact (classMentions_ne_package c head).symm

theorem package_not_mem_typesMentions (head : String) :
    ∀ ts : List HostType, Referent.package head ∉ typesMentions ts
  | [] => List.not_mem_nil
  | t :: ts => by
    rw [typesMentions, List.mem_append, not_or]
    exact ⟨package_not_mem_typeMentions head t, package_not_mem_typesMentions head ts⟩

end

/-- A package is mentioned by a request for a module. -/
theorem exists_module_of_mentions {requests : List Request} {head : String}
    (h : ∃ r ∈ requests, Referent.package head ∈ r.mentions) :
    ∃ module ∈ modulesOf requests, headOf module = head := by
  obtain ⟨r, hr, hmentions⟩ := h
  cases r with
  | reserve names => exact absurd hmentions List.not_mem_nil
  | symbol owner =>
    rw [Request.mentions, List.mem_singleton] at hmentions
    cases hmentions
  | type t => exact absurd hmentions (package_not_mem_typeMentions head t)
  | module name =>
    rw [Request.mentions, List.mem_singleton] at hmentions
    cases hmentions
    exact ⟨name, List.mem_flatMap.mpr ⟨_, hr, List.mem_singleton_self name⟩, rfl⟩

/-- The meaning of what is mentioned is **kept** after the requests: symbols keep theirs, a package
does if no symbol has its name, and what needs no import does if nothing that is imported has its
name. -/
def Kept (requests : List Request) : Referent → Prop
  | .symbol _ => True
  | .package head => ∀ owner ∈ askedBy requests, (after requests).localOf owner ≠ head
  | .plain name => (∀ owner ∈ askedBy requests, (after requests).localOf owner ≠ name) ∧
      (∀ module ∈ modulesOf requests, headOf module ≠ name) ∧ name ≠ "annotations"

section

variable {requests : List Request} (hmodules : ∀ owner ∈ askedBy requests, owner.module ≠ "")

include hmodules

theorem forall_ne_localOf_iff {name : String} :
    (∀ owner ∈ askedBy requests, (after requests).localOf owner ≠ name) ↔
      ∀ owner, (owner, name) ∉ (after requests).symbols := by
  constructor
  · intro h owner hentry
    obtain ⟨hasked, heq⟩ := (mem_symbols_after hmodules).mp hentry
    exact h owner hasked heq.symm
  · rintro h owner hasked rfl
    exact h owner ((mem_symbols_after hmodules).mpr ⟨hasked, rfl⟩)

/-- What the requests mention keeps its meaning exactly if the name for it means it. -/
theorem meaning_name_eq_iff {referent : Referent}
    (hmentioned : ∃ r ∈ requests, referent ∈ r.mentions) :
    meaning (after requests).statements (referent.name (after requests)) = referent ↔
      Kept requests referent := by
  have hrecords := records_after requests
  cases referent with
  | symbol owner =>
    obtain ⟨r, hr, hreferent⟩ := hmentioned
    have hasked : owner ∈ askedBy requests :=
      List.mem_flatMap.mpr ⟨r, hr, List.mem_filterMap.mpr ⟨.symbol owner, hreferent, rfl⟩⟩
    exact iff_of_true
      (hrecords.meaning_local ((mem_symbols_after hmodules).mpr ⟨hasked, rfl⟩)) trivial
  | package head =>
    obtain ⟨module, hmodule, rfl⟩ := exists_module_of_mentions hmentioned
    have hrecorded : module ∈ (after requests).modules :=
      (hrecords.modules module).mpr (module_mem_writes.mpr hmodule)
    rw [Kept, Referent.name]
    rw [forall_ne_localOf_iff hmodules]
    constructor
    · intro hmeaning owner hentry
      rw [hrecords.meaning_local hentry] at hmeaning
      cases hmeaning
    · exact hrecords.meaning_package hrecorded
  | plain name =>
    have hheads : (∀ module ∈ modulesOf requests, headOf module ≠ name) ↔
        ∀ module ∈ (after requests).modules, headOf module ≠ name :=
      forall_congr' fun module => by rw [hrecords.modules, module_mem_writes]
    rw [Kept, Referent.name]
    rw [forall_ne_localOf_iff hmodules, hheads]
    constructor
    · intro hmeaning
      have hlocal : ∀ owner, (owner, name) ∉ (after requests).symbols := by
        intro owner hentry
        rw [hrecords.meaning_local hentry] at hmeaning
        cases hmeaning
      have hpackage : ∀ module ∈ (after requests).modules, headOf module ≠ name := by
        rintro module hmodule rfl
        rw [hrecords.meaning_package hmodule hlocal] at hmeaning
        cases hmeaning
      refine ⟨hlocal, hpackage, fun heq => ?_⟩
      rw [hrecords.meaning_plain hlocal hpackage, if_pos heq] at hmeaning
      cases hmeaning
    · rintro ⟨hlocal, hpackage, hne⟩
      rw [hrecords.meaning_plain hlocal hpackage, if_neg hne]

omit hmodules in
/-- The package of a module is taken over exactly if a symbol had its name when it was asked for. -/
theorem kept_package_iff (hmodules : ∀ owner ∈ askedBy requests, owner.module ≠ "")
    (hsymbols : ∀ owner ∈ askedBy requests, owner.symbol ≠ "") {before rest : List Request}
    {module : String} (hrequests : requests = before ++ Request.module module :: rest) :
    Kept requests (.package (headOf module)) ↔
      ∀ owner ∈ askedBy before, (after before).localOf owner ≠ headOf module := by
  have hasked : ∀ owner ∈ askedBy before, owner ∈ askedBy requests := by
    intro owner howner
    rw [hrequests, askedBy, List.flatMap_append]
    exact List.mem_append_left _ howner
  have hmodulesBefore : ∀ owner ∈ askedBy before, owner.module ≠ "" := fun owner howner =>
    hmodules owner (hasked owner howner)
  have hextends : (after before).Extends (after requests) := hrequests ▸ extends_after before _
  have hrecords := records_after requests
  rw [Kept, forall_ne_localOf_iff hmodules, forall_ne_localOf_iff hmodulesBefore]
  constructor
  · intro hlater owner hentry
    have hlookup := hextends.symbol ((records_after before).lookup_iff.mpr hentry)
    exact hlater owner (hrecords.lookup_iff.mp hlookup)
  · intro hbefore owner hentry
    -- the first part of the name had an owner then, which is no symbol, and still has it
    have hmiddle := records_after (before ++ [Request.module module])
    have hadded : after (before ++ [Request.module module]) = (after before).addModule module := by
      rw [after_append_singleton]
      rfl
    have hextends' : (after (before ++ [Request.module module])).Extends (after requests) := by
      have heq : requests = (before ++ [Request.module module]) ++ rest := by rw [hrequests]; simp
      exact heq ▸ extends_after _ rest
    have hmodule : module ∈ modulesOf (before ++ [Request.module module]) := by
      rw [modulesOf, List.flatMap_append]
      exact List.mem_append_right _ (List.mem_singleton_self module)
    obtain ⟨other, hother⟩ :=
      Option.isSome_iff_exists.mp (hmiddle.heads module (module_mem_writes.mpr hmodule))
    have hsame : other = owner :=
      Option.some.inj ((hextends'.owner hother).symm.trans (hrecords.owner hentry))
    have howner := ((mem_symbols_after hmodules).mp hentry).1
    rcases hmiddle.known hother with hempty | hempty | hmem
    · exact hmodules owner howner (hsame ▸ hempty)
    · exact hsymbols owner howner (hsame ▸ hempty)
    · rw [hadded, symbols_addModule] at hmem
      exact hbefore other hmem

end

/-- **When expressions keep their meaning.**  After any requests for symbols of named modules, an
expression that was handed out for one of them means what it was handed out for exactly if all that
it mentions is kept: symbols always are; a package is if no symbol has its name; a name that needs
no import is if no symbol has it, it is no first part of the name of an imported module, and it is
not that of the first line.  A package is kept exactly if no symbol had its name when a module of
it was asked for. -/
theorem keeps_meaning_iff (requests : List Request)
    (hmodules : ∀ owner ∈ askedBy requests, owner.module ≠ "") :
    (∀ before r rest, requests = before ++ r :: rest → ∀ e ∈ (r.run.run (after before)).1,
      (e.names.map (meaning (after requests).statements) = r.mentions ↔
        ∀ referent ∈ r.mentions, Kept requests referent)) ∧
    ((∀ owner ∈ askedBy requests, owner.symbol ≠ "") →
      ∀ before module rest, requests = before ++ .module module :: rest →
        (Kept requests (.package (headOf module)) ↔
          ∀ owner ∈ askedBy before, (after before).localOf owner ≠ headOf module)) := by
  refine ⟨fun before r rest hrequests e he => ?_, fun hsymbols before module rest hrequests =>
    kept_package_iff hmodules hsymbols hrequests⟩
  have hgrows : (r.run.run (after before)).2.Grows (after requests) := by
    have heq : requests = (before ++ [r]) ++ rest := by rw [hrequests]; simp
    rw [← after_append_singleton]
    exact heq ▸ (extends_after _ rest).toGrows
  have hself : ∀ f : Referent → Referent,
      r.mentions.map f = r.mentions ↔ ∀ referent ∈ r.mentions, f referent = referent := by
    intro f
    have hmap := @List.map_eq_map_iff _ _ f r.mentions id
    rwa [List.map_id] at hmap
  rw [r.names_run hgrows e he, List.map_map, hself]
  refine forall₂_congr fun referent hreferent => meaning_name_eq_iff hmodules ⟨r, ?_, hreferent⟩
  rw [hrequests]
  simp

/-- A symbol with the name of a class that needs no import, and one with that of a package. -/
def shadowingRequests : List Request :=
  [.type (.cls (.builtin "list")), .symbol ⟨"app.models", "list"⟩, .symbol ⟨"app.models", "re"⟩,
    .module "re"]

/-- The symbols get their own names, also that of the module that is asked for last. -/
theorem symbols_shadowing : (after shadowingRequests).symbols =
    [(⟨"app.models", "re"⟩, "re"), (⟨"app.models", "list"⟩, "list")] := by
  have hmodule : after shadowingRequests = (after (shadowingRequests.take 3)).addModule "re" := rfl
  rw [hmodule, symbols_addModule]
  rfl

theorem headOf_re : headOf "re" = "re" :=
  headOf_of_notMem (by decide)

theorem keeps_meaning_iff_shadowing :
    (∀ owner ∈ askedBy shadowingRequests, owner.module ≠ "") ∧
    (∀ e ∈ ((Request.symbol ⟨"app.models", "re"⟩).run.run (after (shadowingRequests.take 2))).1,
      e.names.map (meaning (after shadowingRequests).statements) =
        [.symbol ⟨"app.models", "re"⟩]) ∧
    ∀ e ∈ ((Request.module "re").run.run (after (shadowingRequests.take 3))).1,
      e.names.map (meaning (after shadowingRequests).statements) ≠ [.package (headOf "re")] := by
  have hmodules : ∀ owner ∈ askedBy shadowingRequests, owner.module ≠ "" := by decide
  have hlocal : (after shadowingRequests).localOf ⟨"app.models", "re"⟩ = headOf "re" := by
    have hentry : (⟨"app.models", "re"⟩, "re") ∈ (after shadowingRequests).symbols := by
      rw [symbols_shadowing]
      exact List.mem_cons_self
    rw [headOf_re, ← ((mem_symbols_after hmodules).mp hentry).2]
  obtain ⟨hkept, -⟩ := keeps_meaning_iff shadowingRequests hmodules
  refine ⟨hmodules, fun e he => ?_, fun e he heq => ?_⟩
  · refine (hkept _ (.symbol ⟨"app.models", "re"⟩) _ rfl e he).mpr fun referent hreferent => ?_
    obtain rfl : referent = .symbol ⟨"app.models", "re"⟩ := List.mem_singleton.mp hreferent
    trivial
  · have hpackage := (hkept _ (.module "re") _ rfl e he).mp heq _ (List.mem_singleton_self _)
    exact hpackage ⟨"app.models", "re"⟩ (by decide) hlocal

/-- Neither the class nor the package keeps its meaning. -/
theorem not_keeps_meaning_shadowing :
    let statements := (after shadowingRequests).statements
    meaning statements "list" = .symbol ⟨"app.models", "list"⟩ ∧
      meaning statements "re" = .symbol ⟨"app.models", "re"⟩ ∧
      typeMentions (.cls (.builtin "list")) = [.plain "list"] ∧
      (Request.module "re").mentions = [.package "re"] := by
  have hmeaning : ∀ entry ∈ [(⟨"app.models", "re"⟩, "re"), (⟨"app.models", "list"⟩, "list")],
      meaning (after shadowingRequests).statements entry.2 = .symbol entry.1 := by
    intro entry hentry
    rw [← symbols_shadowing] at hentry
    exact (records_after shadowingRequests).meaning_local hentry
  refine ⟨hmeaning _ (List.mem_cons_of_mem _ List.mem_cons_self), hmeaning _ List.mem_cons_self,
    rfl, ?_⟩
  rw [Request.mentions, headOf_re]

end Imports

end FragmentRoutes
