import FragmentRoutes.Imports
import Mathlib.Data.List.Basic

/-!
# Imports while code is made

Code is made while imports are recorded.  What is recorded stays (`Grows`): a symbol keeps its
local name, so an expression that was made stands for the same symbol under all later imports.

`Shows` says on its own which expression writes a class, and `makes_typeExpr_cls` that this is
the one that is made.  There is only one (`Shows.unique`), so two generators that write one class
write the same.
-/

namespace FragmentRoutes.Imports

open Code Host

/-! ### Growing imports -/

/-- The second imports have all local names of the first. -/
structure Grows (s s' : Imports) : Prop where
  own : s'.own = s.own
  symbol : ∀ {owner name}, s.symbols.lookup owner = some name → s'.symbols.lookup owner = some name

theorem Grows.refl (s : Imports) : s.Grows s :=
  ⟨rfl, id⟩

theorem Grows.trans {s s' s'' : Imports} (h : s.Grows s') (h' : s'.Grows s'') : s.Grows s'' :=
  ⟨h'.own.trans h.own, fun hsymbol => h'.symbol (h.symbol hsymbol)⟩

/-- A symbol that had no local name gets one. -/
theorem grows_addSymbol {s : Imports} {owner : Owner} (name : String)
    (h : s.symbols.lookup owner = none) : s.Grows (s.addSymbol owner name) where
  own := rfl
  symbol := by
    intro other local' hother
    have hne : (other == owner) = false := by
      rw [beq_eq_false_iff_ne]
      rintro rfl
      rw [h] at hother
      cases hother
    rw [addSymbol, List.lookup_cons, hne]
    exact hother

/-- Modules are recorded apart from the symbols. -/
theorem grows_addModule (s : Imports) (module : String) : s.Grows (s.addModule module) := by
  have hgrant : ∀ (name : String) (owner : Owner), s.Grows (s.grant name owner) := by
    intro name owner
    rw [grant]
    split_ifs
    · exact .refl s
    · exact ⟨rfl, id⟩
  rw [addModule]
  split_ifs
  · exact hgrant _ _
  · exact (hgrant _ _).trans ⟨rfl, id⟩

/-! ### Making code -/

section

variable {α β : Type}

/-- From the given imports the code is made with the given property, and they only grow. -/
def Makes (x : Making α) (s : Imports) (post : α → Imports → Prop) : Prop :=
  s.Grows (x.run s).2 ∧ post (x.run s).1 (x.run s).2

variable {x : Making α} {f : α → Making β} {s : Imports} {post : α → Imports → Prop}
  {post' : β → Imports → Prop}

theorem Makes.bind (h : Makes x s fun a s' => Makes (f a) s' post') : Makes (x >>= f) s post' :=
  ⟨h.1.trans h.2.1, h.2.2⟩

theorem Makes.mono {post' : α → Imports → Prop} (h : Makes x s post)
    (himp : ∀ a s', s.Grows s' → post a s' → post' a s') : Makes x s post' :=
  ⟨h.1, himp _ _ h.1 h.2⟩

theorem makes_pure {a : α} (h : post a s) : Makes (pure a) s post :=
  ⟨.refl s, h⟩

theorem makes_get {post : Imports → Imports → Prop} (h : post s s) : Makes get s post :=
  ⟨.refl s, h⟩

theorem makes_set {post : PUnit → Imports → Prop} {s' : Imports} (hgrows : s.Grows s')
    (h : post ⟨⟩ s') : Makes (set s') s post :=
  ⟨hgrows, h⟩

end

/-! ### Local names -/

/-- The symbol of a module goes by the name under the imports. -/
def HasLocal (s : Imports) (module symbol name : String) : Prop :=
  if module = s.own then name = symbol else s.symbols.lookup ⟨module, symbol⟩ = some name

theorem HasLocal.mono {s s' : Imports} {module symbol name : String} (hgrows : s.Grows s')
    (h : s.HasLocal module symbol name) : s'.HasLocal module symbol name := by
  rw [HasLocal] at h ⊢
  rw [hgrows.own]
  split_ifs at h ⊢
  · exact h
  · exact hgrows.symbol h

theorem HasLocal.unique {s : Imports} {module symbol name name' : String}
    (h : s.HasLocal module symbol name) (h' : s.HasLocal module symbol name') : name = name' := by
  rw [HasLocal] at h h'
  split_ifs at h h'
  · rw [h, h']
  · exact Option.some.inj (h.symm.trans h')

/-- **A symbol is made to go by the local name that is handed out.** -/
theorem makes_localName (s : Imports) (module symbol : String) :
    Makes (localName module symbol) s fun name s' => s'.HasLocal module symbol name := by
  rw [localName]
  refine .bind (makes_get ?_)
  by_cases hown : module = s.own
  · rw [if_pos (beq_iff_eq.mpr hown)]
    exact makes_pure (by rw [HasLocal, if_pos hown])
  · rw [if_neg (fun h => hown (beq_iff_eq.mp h))]
    cases hlookup : s.symbols.lookup ⟨module, symbol⟩ with
    | some name => exact makes_pure (by rw [HasLocal, if_neg hown, hlookup])
    | none =>
      refine .bind (makes_set (grows_addSymbol _ hlookup) (makes_pure ?_))
      rw [HasLocal, if_neg (show module ≠ (s.addSymbol _ _).own from hown), addSymbol,
        List.lookup_cons_self]

theorem makes_ref (s : Imports) (module symbol : String) :
    Makes (ref module symbol) s fun e s' =>
      ∃ name, e = .name name ∧ s'.HasLocal module symbol name :=
  .bind ((makes_localName s module symbol).mono fun name _ _ hname => makes_pure ⟨name, rfl, hname⟩)

theorem makes_moduleExpr (s : Imports) (module : String) :
    Makes (moduleExpr module) s fun _ _ => True :=
  ⟨grows_addModule s module, trivial⟩

/-! ### Classes -/

/-- The first part of the qualified name of a class, the only one that a module defines. -/
def outerName (c : ClassId) : String :=
  (c.qualname.splitOn ".").headD c.qualname

/-- The expression **shows** a class under the imports: a class that needs no module by its name,
one that cannot be imported as any type, and every other by its qualified name, of which the first
part is imported. -/
inductive Shows (s : Imports) (c : ClassId) : Expr → Prop where
  | absent (h : c = .builtin "NoneType") : Shows s c Expr.absent
  | builtin (h : c ≠ .builtin "NoneType") (hbuiltin : c.isBuiltin = true) :
      Shows s c (.name c.qualname)
  | hidden {name : String} (h : c ≠ .builtin "NoneType") (hbuiltin : c.isBuiltin = false)
      (hhidden : isHidden c = true) (hname : s.HasLocal "typing" "Any" name) :
      Shows s c (.name name)
  | imported {name : String} (h : c ≠ .builtin "NoneType") (hbuiltin : c.isBuiltin = false)
      (hhidden : isHidden c = false) (hname : s.HasLocal c.module (outerName c) name) :
      Shows s c ((Expr.name name).attrs (c.qualname.splitOn ".").tail)

theorem Shows.mono {s s' : Imports} {c : ClassId} {e : Expr} (hgrows : s.Grows s')
    (h : s.Shows c e) : s'.Shows c e := by
  cases h with
  | absent h => exact .absent h
  | builtin h hbuiltin => exact .builtin h hbuiltin
  | hidden h hbuiltin hhidden hname => exact .hidden h hbuiltin hhidden (hname.mono hgrows)
  | imported h hbuiltin hhidden hname =>
    exact .imported h hbuiltin hhidden (hname.mono hgrows)

/-- **One expression shows a class.** -/
theorem Shows.unique {s : Imports} {c : ClassId} {e e' : Expr} (h : s.Shows c e)
    (h' : s.Shows c e') : e = e' := by
  cases h with
  | absent hc =>
    cases h' with
    | absent => rfl
    | builtin hc' => exact absurd hc hc'
    | hidden hc' => exact absurd hc hc'
    | imported hc' => exact absurd hc hc'
  | builtin hc hbuiltin =>
    cases h' with
    | absent hc' => exact absurd hc' hc
    | builtin => rfl
    | hidden _ hbuiltin' => rw [hbuiltin] at hbuiltin'; cases hbuiltin'
    | imported _ hbuiltin' => rw [hbuiltin] at hbuiltin'; cases hbuiltin'
  | hidden hc hbuiltin hhidden hname =>
    cases h' with
    | absent hc' => exact absurd hc' hc
    | builtin _ hbuiltin' => rw [hbuiltin] at hbuiltin'; cases hbuiltin'
    | hidden _ _ _ hname' => rw [hname.unique hname']
    | imported _ _ hhidden' => rw [hhidden] at hhidden'; cases hhidden'
  | imported hc hbuiltin hhidden hname =>
    cases h' with
    | absent hc' => exact absurd hc' hc
    | builtin _ hbuiltin' => rw [hbuiltin] at hbuiltin'; cases hbuiltin'
    | hidden _ _ hhidden' => rw [hhidden] at hhidden'; cases hhidden'
    | imported _ _ _ hname' => rw [hname.unique hname']

theorem makes_classExpr (s : Imports) {c : ClassId} (h : c ≠ .builtin "NoneType") :
    Makes (classExpr c) s fun e s' => s'.Shows c e := by
  rw [classExpr]
  split_ifs with hbuiltin hhidden
  · exact makes_pure (.builtin h hbuiltin)
  · refine (makes_ref s "typing" "Any").mono ?_
    rintro _ s' - ⟨name, rfl, hname⟩
    exact .hidden h (by simpa using hbuiltin) hhidden hname
  · have hbuiltin : c.isBuiltin = false := by simpa using hbuiltin
    have hhidden : isHidden c = false := by simpa using hhidden
    have himported : ∀ {s' : Imports} {name : String}, s'.HasLocal c.module (outerName c) name →
        s'.Shows c ((Expr.name name).attrs (c.qualname.splitOn ".").tail) :=
      fun hname => .imported h hbuiltin hhidden hname
    rw [outerName] at himported
    split
    · rename_i hparts
      rw [hparts] at himported
      refine (makes_ref s c.module c.qualname).mono ?_
      rintro _ s' - ⟨name, rfl, hname⟩
      exact himported hname
    · rename_i head rest hparts
      rw [hparts] at himported
      refine .bind ((makes_ref s c.module head).mono ?_)
      rintro _ s' - ⟨name, rfl, hname⟩
      exact makes_pure (himported hname)

/-- **The expression that is made for a class shows it.** -/
theorem makes_typeExpr_cls (s : Imports) (c : ClassId) :
    Makes (typeExpr (.cls c)) s fun e s' => s'.Shows c e := by
  rw [typeExpr]
  split_ifs with h
  · exact makes_pure (.absent (beq_iff_eq.mp h))
  · exact makes_classExpr s (fun heq => h (beq_iff_eq.mpr heq))

/-! ### Types -/

/-- A class is made while the imports grow, the class of the absent value too. -/
theorem makes_classExpr_any (s : Imports) (c : ClassId) :
    Makes (classExpr c) s fun _ _ => True := by
  by_cases h : c = .builtin "NoneType"
  · rw [h]
    exact makes_pure trivial
  · exact (makes_classExpr s h).mono fun _ _ _ _ => trivial

mutual

/-- The imports only grow while an expression is made for a type. -/
theorem makes_typeExpr : ∀ (t : HostType) (s : Imports), Makes (typeExpr t) s fun _ _ => True
  | .any, s => (makes_ref s _ _).mono fun _ _ _ _ => trivial
  | .var _, s => (makes_ref s _ _).mono fun _ _ _ _ => trivial
  | .nothing, s => makes_pure trivial
  | .ellipsis, s => makes_pure trivial
  | .generated _, s => makes_pure trivial
  | .params types, s => by
    rw [typeExpr]
    exact .bind ((makes_typeExprs types s).mono fun _ _ _ _ => makes_pure trivial)
  | .union _ types, s => by
    rw [typeExpr]
    exact .bind ((makes_typeExprs types s).mono fun _ _ _ _ => makes_pure trivial)
  | .annotated base _, s => by
    rw [typeExpr]
    exact makes_typeExpr base s
  | .literal _, s => .bind ((makes_ref s _ _).mono fun _ _ _ _ => makes_pure trivial)
  | .applied _ c types, s => by
    rw [typeExpr]
    exact .bind ((makes_classExpr_any s c).mono fun _ s' _ _ =>
      .bind ((makes_typeExprs types s').mono fun _ _ _ _ => makes_pure trivial))
  | .synonym _ c, s => makes_classExpr_any s c
  | .cls c, s => (makes_typeExpr_cls s c).mono fun _ _ _ _ => trivial
  | .newType _ _ _, s => (makes_ref s _ _).mono fun _ _ _ _ => trivial
  | .special _ _, s => (makes_ref s _ _).mono fun _ _ _ _ => trivial
  | .value _, s => (makes_ref s _ _).mono fun _ _ _ _ => trivial
  | .forward _, s => (makes_ref s _ _).mono fun _ _ _ _ => trivial

theorem makes_typeExprs : ∀ (ts : List HostType) (s : Imports),
    Makes (typeExprs ts) s fun _ _ => True
  | [], s => makes_pure trivial
  | t :: ts, s => by
    rw [typeExprs]
    exact .bind ((makes_typeExpr t s).mono fun _ s' _ _ =>
      .bind ((makes_typeExprs ts s').mono fun _ _ _ _ => makes_pure trivial))

end

end FragmentRoutes.Imports
