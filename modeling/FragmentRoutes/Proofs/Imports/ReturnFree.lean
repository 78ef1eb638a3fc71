import FragmentRoutes.Proofs.Code.Layout
import FragmentRoutes.Proofs.Host.WrittenNames
import FragmentRoutes.Proofs.Imports.Requests

/-!
# Imports without returns

The imports write the names of modules and symbols, and the local names, as they are.  `Preserving`
says of a step that from imports without returns it makes imports without returns, and a result with
a property.  So does every step that asks for a name without returns: the local name that it gets has
none either (`preserving_localName`), and neither has the expression for a type that has none in its
names (`preserving_typeExpr`).
-/

namespace FragmentRoutes.Imports

open Code Host Text

/-- No return stands in a name that the imports write. -/
structure ReturnFree (s : Imports) : Prop where
  modules : ∀ module ∈ s.modules, Text.ReturnFree module
  symbols : ∀ entry ∈ s.symbols, (Text.ReturnFree entry.1.module ∧
    Text.ReturnFree entry.1.symbol) ∧ Text.ReturnFree entry.2

theorem returnFree_start (own : String) : (start own).ReturnFree :=
  ⟨by simp [start], by simp [start]⟩

/-- From imports without returns the step makes imports without returns, and a result with the
property. -/
def Preserving {α : Type} (x : Making α) (post : α → Prop) : Prop :=
  ∀ s : Imports, s.ReturnFree → (x.run s).2.ReturnFree ∧ post (x.run s).1

section

variable {α β : Type} {x : Making α} {f : α → Making β} {post : α → Prop} {post' : β → Prop}

theorem preserving_pure {a : α} (h : post a) : Preserving (pure a) post :=
  fun _ hs => ⟨hs, h⟩

theorem Preserving.bind (h : Preserving x post) (h' : ∀ a, post a → Preserving (f a) post') :
    Preserving (x >>= f) post' :=
  fun s hs => h' _ (h s hs).2 _ (h s hs).1

theorem Preserving.ite {y : Making α} {c : Prop} [Decidable c] (h : Preserving x post)
    (h' : Preserving y post) : Preserving (if c then x else y) post := by
  split_ifs
  · exact h
  · exact h'

end

/-! ### Names -/

theorem returnFree_grant {s : Imports} (hs : s.ReturnFree) (name : String) (owner : Owner) :
    (s.grant name owner).ReturnFree := by
  rw [grant]
  split_ifs
  · exact hs
  · exact ⟨hs.modules, hs.symbols⟩

theorem preserving_reserve (names : List String) :
    Preserving (modify (·.reserve names)) fun _ => True := by
  refine fun s hs => ⟨?_, trivial⟩
  exact List.foldlRecOn (motive := ReturnFree) names _ hs fun s hs name _ => returnFree_grant hs _ _

theorem returnFree_addModule {s : Imports} (hs : s.ReturnFree) {module : String}
    (hmodule : Text.ReturnFree module) : (s.addModule module).ReturnFree := by
  have hgrant := returnFree_grant hs ((module.splitOn ".").headD module) ⟨module, ""⟩
  rw [addModule]
  split_ifs
  · exact hgrant
  · exact ⟨List.forall_mem_cons.mpr ⟨hmodule, hgrant.modules⟩, hgrant.symbols⟩

theorem returnFree_parts {name : String} (h : Text.ReturnFree name) :
    ∀ part ∈ name.splitOn ".", Text.ReturnFree part :=
  (returnFree_iff_splitOn rfl (returnFree_ofList rfl)).mp h

/-- The local name of a symbol has no return if the names of the module and the symbol have none. -/
theorem returnFree_choose (s : Imports) {owner : Owner} (hmodule : Text.ReturnFree owner.module)
    (hsymbol : Text.ReturnFree owner.symbol) : Text.ReturnFree (s.choose owner) := by
  have hlast : Text.ReturnFree ((owner.module.splitOn ".").getLastD owner.module) := by
    rw [List.getLastD_eq_getLast?]
    cases hparts : (owner.module.splitOn ".").getLast? with
    | none => exact hmodule
    | some part => exact returnFree_parts hmodule part (List.mem_of_getLast? hparts)
  have halias : Text.ReturnFree (aliasOf owner) := by
    refine Text.ReturnFree.append (.append (returnFree_ofList_iff.mpr fun hmem => hlast ?_)
      (returnFree_ofList rfl)) hsymbol
    have hmem := (List.dropWhile_sublist _).subset (List.mem_reverse.mp hmem)
    exact (List.dropWhile_sublist _).subset (List.mem_reverse.mp hmem)
  have hnumbered : ∀ fuel n, Text.ReturnFree (s.numberedWithin owner (aliasOf owner) fuel n) := by
    intro fuel
    induction fuel with
    | zero => exact fun n => halias.append (returnFree_toString_nat n)
    | succ fuel ih =>
      intro n
      rw [numberedWithin]
      split_ifs
      · exact halias.append (returnFree_toString_nat n)
      · exact ih _
  rw [choose]
  split_ifs
  · exact hsymbol
  · exact halias
  · exact hnumbered _ _

/-- **A symbol gets a local name without returns.** -/
theorem preserving_localName {module symbol : String} (hmodule : Text.ReturnFree module)
    (hsymbol : Text.ReturnFree symbol) :
    Preserving (localName module symbol) Text.ReturnFree := by
  intro s hs
  obtain ⟨owner, rfl, rfl⟩ : ∃ owner : Owner, owner.module = module ∧ owner.symbol = symbol :=
    ⟨⟨module, symbol⟩, rfl, rfl⟩
  by_cases hown : owner.module = s.own
  · rw [run_localName_own hown]
    exact ⟨hs, hsymbol⟩
  cases hlookup : s.symbols.lookup owner with
  | some name =>
    obtain ⟨front, back, heq, -⟩ := List.lookup_eq_some_iff.mp hlookup
    rw [run_localName_known hown hlookup]
    exact ⟨hs, (hs.symbols (owner, name) (by simp [heq])).2⟩
  | none =>
    have hchoose := returnFree_choose s hmodule hsymbol
    rw [run_localName_new hown hlookup]
    exact ⟨⟨hs.modules, List.forall_mem_cons.mpr ⟨⟨⟨hmodule, hsymbol⟩, hchoose⟩, hs.symbols⟩⟩,
      hchoose⟩

theorem preserving_ref {module symbol : String} (hmodule : Text.ReturnFree module)
    (hsymbol : Text.ReturnFree symbol) :
    Preserving (ref module symbol) Expr.ReturnFree :=
  (preserving_localName hmodule hsymbol).bind fun _ hname =>
    preserving_pure (Expr.returnFree_name_iff.mpr hname)

theorem preserving_moduleExpr {module : String} (hmodule : Text.ReturnFree module) :
    Preserving (moduleExpr module) Expr.ReturnFree := by
  intro s hs
  refine ⟨returnFree_addModule hs hmodule, ?_⟩
  show (Expr.dotted module).ReturnFree
  have hparts := returnFree_parts hmodule
  rw [Expr.dotted]
  split
  · exact Expr.returnFree_name_iff.mpr hmodule
  · rename_i head rest heq
    rw [heq, List.forall_mem_cons] at hparts
    exact (Expr.returnFree_name_iff.mpr hparts.1).attrs hparts.2

/-! ### Types -/

theorem preserving_anyExpr : Preserving anyExpr Expr.ReturnFree :=
  preserving_ref (returnFree_ofList rfl) (returnFree_ofList rfl)

theorem preserving_classExpr {c : ClassId} (hmodule : Text.ReturnFree c.module)
    (hname : Text.ReturnFree c.qualname) : Preserving (classExpr c) Expr.ReturnFree := by
  have hparts := returnFree_parts hname
  rw [classExpr]
  refine .ite (preserving_pure (Expr.returnFree_name_iff.mpr hname)) (.ite preserving_anyExpr ?_)
  split
  · exact preserving_ref hmodule hname
  · rename_i head rest heq
    rw [heq, List.forall_mem_cons] at hparts
    exact (preserving_ref hmodule hparts.1).bind fun e he => preserving_pure (he.attrs hparts.2)

theorem returnFree_subscript {value : Expr} {items : List Expr} (hvalue : value.ReturnFree)
    (hitems : ∀ e ∈ items, e.ReturnFree) : (subscript value items).ReturnFree := by
  unfold subscript
  split
  · exact hvalue
  · exact Expr.returnFree_subscript_iff.mpr ⟨hvalue, hitems _ List.mem_cons_self⟩
  · exact Expr.returnFree_subscript_iff.mpr ⟨hvalue, Expr.returnFree_tuple_iff.mpr hitems⟩

theorem returnFree_barred {items : List Expr} (hitems : ∀ e ∈ items, e.ReturnFree) :
    (barred items).ReturnFree := by
  cases items with
  | nil => exact Expr.returnFree_absent
  | cons e es =>
    obtain ⟨he, hes⟩ := List.forall_mem_cons.mp hitems
    exact List.foldlRecOn (motive := Expr.ReturnFree) es _ he fun left hleft right hright =>
      Expr.returnFree_binary_iff.mpr ⟨hleft, hes right hright⟩

mutual

/-- **The expression for a type** is without returns if the type is. -/
theorem preserving_typeExpr : ∀ {t : HostType}, t.ReturnFree →
    Preserving (typeExpr t) Expr.ReturnFree
  | .any, _ => preserving_anyExpr
  | .var _, _ => preserving_anyExpr
  | .nothing, _ => preserving_pure Expr.returnFree_absent
  | .ellipsis, _ => preserving_pure (Expr.returnFree_constant _)
  | .generated name, h =>
    preserving_pure (Expr.returnFree_name_iff.mpr (HostType.returnFree_generated_iff.mp h))
  | .params types, h => by
    rw [typeExpr]
    exact (preserving_typeExprs (HostType.returnFree_params_iff.mp h)).bind fun items hitems =>
      preserving_pure (Expr.returnFree_list_iff.mpr hitems)
  | .union _ types, h => by
    rw [typeExpr]
    exact (preserving_typeExprs (HostType.returnFree_union_iff.mp h)).bind fun items hitems =>
      preserving_pure (returnFree_barred hitems)
  | .annotated base _, h => by
    rw [typeExpr]
    exact preserving_typeExpr (HostType.returnFree_annotated_iff.mp h)
  | .literal values, _ => by
    rw [typeExpr]
    exact (preserving_ref (returnFree_ofList rfl) (returnFree_ofList rfl)).bind fun front hfront =>
      preserving_pure (returnFree_subscript hfront
        (List.forall_mem_map.mpr fun _ _ => Expr.returnFree_constant _))
  | .applied _ c types, h => by
    rw [HostType.returnFree_applied_iff] at h
    rw [typeExpr]
    exact (preserving_classExpr h.1.1 h.1.2).bind fun front hfront =>
      (preserving_typeExprs h.2).bind fun items hitems =>
        preserving_pure (returnFree_subscript hfront hitems)
  | .synonym _ c, h => by
    rw [HostType.returnFree_synonym_iff] at h
    exact preserving_classExpr h.1 h.2
  | .cls c, h => by
    rw [HostType.returnFree_cls_iff] at h
    rw [typeExpr]
    exact .ite (preserving_pure Expr.returnFree_absent) (preserving_classExpr h.1 h.2)
  | .newType _ _ _, _ => preserving_anyExpr
  | .special _ _, _ => preserving_anyExpr
  | .value _, _ => preserving_anyExpr
  | .forward _, _ => preserving_anyExpr

theorem preserving_typeExprs : ∀ {ts : List HostType}, (∀ t ∈ ts, t.ReturnFree) →
    Preserving (typeExprs ts) fun es => ∀ e ∈ es, e.ReturnFree
  | [], _ => preserving_pure (by simp)
  | t :: ts, h => by
    rw [List.forall_mem_cons] at h
    rw [typeExprs]
    exact (preserving_typeExpr h.1).bind fun e he =>
      (preserving_typeExprs h.2).bind fun es hes =>
        preserving_pure (List.forall_mem_cons.mpr ⟨he, hes⟩)

end

/-! ### Statements -/

/-- **The import statements** are without returns if the imports are. -/
theorem ReturnFree.statements {s : Imports} (hs : s.ReturnFree) :
    ∀ stmt ∈ s.statements, stmt.ReturnFree := by
  have hinOrder : ∀ {texts : List String}, (∀ t ∈ texts, Text.ReturnFree t) →
      ∀ t ∈ inOrder texts, Text.ReturnFree t := by
    intro texts htexts t ht
    rw [inOrder, List.mem_mergeSort] at ht
    exact htexts t (List.mem_eraseDups.mp ht)
  have hsymbols : ∀ module, ∀ entry ∈ s.symbolsOf module,
      Text.ReturnFree entry.1 ∧ ∀ given ∈ entry.2, Text.ReturnFree given := by
    intro module
    rw [symbolsOf]
    refine List.forall_mem_map.mpr fun entry hentry => ?_
    rw [List.mem_mergeSort] at hentry
    obtain ⟨howner, hname⟩ := hs.symbols entry (List.mem_of_mem_filter hentry)
    refine ⟨howner.2, ?_⟩
    dsimp only
    split_ifs
    · simp
    · simpa using hname
  rw [Imports.statements, List.cons_append, List.forall_mem_cons, List.forall_mem_append,
    List.forall_mem_map, List.forall_mem_map]
  refine ⟨?_, fun module hmodule => ?_, fun module hmodule => ?_⟩
  · rw [Stmt.ReturnFree]
    refine ⟨returnFree_ofList rfl, List.forall_mem_singleton.mpr ⟨returnFree_ofList rfl, by simp⟩⟩
  · rw [Stmt.ReturnFree]
    exact hinOrder hs.modules module hmodule
  · rw [Stmt.ReturnFree]
    refine ⟨hinOrder (List.forall_mem_map.mpr fun entry hentry => ?_) module hmodule,
      hsymbols module⟩
    exact (hs.symbols entry hentry).1.1

end FragmentRoutes.Imports
