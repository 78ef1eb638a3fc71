import FragmentRoutes.Proofs.Imports.Requests

/-!
# Names that the module keeps

A name that is reserved before any symbol is asked for stays with the module: no symbol of another
module goes by it (`Keeps.ne_of_hasLocal`).  An expression that shows a class mentions it only if
the class is written with it and not imported (`Keeps.isBare_of_shows`).

Expressions for types call nothing (`callees_typeExpr`).
-/

namespace FragmentRoutes

open Code Host

namespace Imports

/-! ### Reserved names -/

/-- The name is kept for the module itself: no symbol of another module gets it. -/
structure Keeps (s : Imports) (name : String) : Prop extends Coherent s where
  own : s.own = ""
  reserved : s.owners.lookup name = some ⟨"", name⟩

/-- A symbol of another module goes by another name. -/
theorem Keeps.ne_of_hasLocal {s : Imports} {name : String} (h : s.Keeps name)
    {module symbol local' : String} (hmodule : module ≠ "")
    (hlocal : s.HasLocal module symbol local') : local' ≠ name := by
  rintro rfl
  unfold HasLocal at hlocal
  rw [h.own, if_neg hmodule] at hlocal
  have howner := h.owner (h.lookup_iff.mp hlocal)
  rw [h.reserved] at howner
  exact hmodule (congrArg Owner.module (Option.some.inj howner)).symm

/-- The name is one that the module may keep: nothing else owns it. -/
def Spares (s : Imports) (name : String) : Prop :=
  ∀ owner, s.owners.lookup name = some owner → owner = ⟨"", name⟩

/-- The write gives the name to nothing but the module itself: it is no first part of the name of a
module and no symbol. -/
def Write.Spares (name : String) : Write → Prop
  | .reserve _ => True
  | .module path => headOf path ≠ name
  | .symbol owner => owner.symbol ≠ name

theorem Spares.grant {s : Imports} {name : String} (h : s.Spares name) {other : String}
    {owner : Owner} (howner : other = name → owner = ⟨"", name⟩) :
    (s.grant other owner).Spares name := by
  intro found hfound
  rw [lookup_grant] at hfound
  rcases Option.or_eq_some_iff.mp hfound with hold | ⟨-, hnew⟩
  · exact h found hold
  · split_ifs at hnew with heq
    rw [← Option.some.inj hnew, howner heq.symm]

/-- A local name that is made of those of the module and the symbol has an underscore. -/
theorem candidate_ne {owner : Owner} {name : String} (hsymbol : owner.symbol ≠ name)
    (hplain : '_' ∉ name.toList) (n : Nat) : candidate owner n ≠ name := by
  have halias : ∀ text, aliasOf owner ++ text ≠ name := by
    rintro text rfl
    simp [aliasOf] at hplain
  match n with
  | 0 => exact hsymbol
  | 1 => simpa [candidate] using halias ""
  | n + 2 => exact halias _

/-- **A name without underscores stays the own one of the module** if no write gives it away. -/
theorem Spares.foldl {s : Imports} {name : String} (h : s.Spares name) (hplain : '_' ∉ name.toList)
    {ws : List Write} (hws : ∀ w ∈ ws, w.Spares name) : (ws.foldl Write.apply s).Spares name := by
  induction ws generalizing s with
  | nil => exact h
  | cons w ws ih =>
    refine ih ?_ fun w' hw' => hws w' (List.mem_cons_of_mem _ hw')
    have hw := hws w List.mem_cons_self
    cases w with
    | reserve other => exact h.grant fun heq => by rw [heq]
    | module path =>
      obtain ⟨modules, -, heq⟩ := addModule_eq s path
      have hgrant : (s.grant (headOf path) ⟨path, ""⟩).Spares name :=
        h.grant fun heq => absurd heq hw
      show (s.addModule path).Spares name
      rw [heq]
      exact hgrant
    | symbol owner =>
      show (s.ask owner).Spares name
      rcases ask_cases s owner with ⟨hsame, -⟩ | ⟨-, -, hnew⟩
      · rwa [hsame]
      · obtain ⟨n, hchoose, -⟩ := choose_eq_candidate s owner
        intro found hfound
        rw [hnew, lookup_addSymbol, hchoose, if_neg (candidate_ne hw hplain n).symm] at hfound
        exact h found hfound

/-- **A name that is reserved is kept** if no write gives it away. -/
theorem keeps_foldl_start {ws : List Write} {name : String} (hreserve : Write.reserve name ∈ ws)
    (hplain : '_' ∉ name.toList) (hws : ∀ w ∈ ws, w.Spares name) :
    (ws.foldl Write.apply (start "")).Keeps name := by
  have hrecords := records_foldl ws
  have hspares : (ws.foldl Write.apply (start "")).Spares name :=
    Spares.foldl (by simp [Spares, start]) hplain hws
  obtain ⟨owner, howner⟩ := Option.isSome_iff_exists.mp (hrecords.reserved name hreserve)
  exact ⟨hrecords.toCoherent, hrecords.own, by rw [howner, hspares owner howner]⟩

/-- **A name that is kept stays so**, whatever is recorded. -/
theorem Keeps.foldl {s : Imports} {name : String} (h : s.Keeps name) (ws : List Write) :
    (ws.foldl Write.apply s).Keeps name :=
  ⟨h.toCoherent.foldl ws, (extends_foldl s ws).own.trans h.own, (extends_foldl s ws).owner h.reserved⟩

/-- The class is written without an import, and the name is the first part of what is written. -/
def IsBare (name : String) (c : ClassId) : Prop :=
  (c.isBuiltin = true ∧ c.qualname = name) ∨ (c.module = "" ∧ outerName c = name)

/-- What shows a class calls nothing. -/
theorem Shows.callees_eq_nil {s : Imports} {c : ClassId} {e : Expr} (h : s.Shows c e) :
    e.callees = [] := by
  cases h with
  | absent _ => simp
  | builtin _ _ => simp
  | hidden _ _ _ _ => simp
  | imported _ _ _ _ => simp

/-- What shows a class mentions a name that is kept only if the class is written with it bare. -/
theorem Keeps.isBare_of_shows {s : Imports} {name : String} (h : s.Keeps name) {c : ClassId}
    {e : Expr} (hshows : s.Shows c e) (hname : name ∈ e.names) : IsBare name c := by
  cases hshows with
  | absent _ => simp at hname
  | builtin _ hbuiltin =>
    obtain rfl : name = c.qualname := by simpa using hname
    exact .inl ⟨hbuiltin, rfl⟩
  | hidden _ _ _ hlocal =>
    obtain rfl := by simpa using hname
    exact absurd rfl (h.ne_of_hasLocal (by decide) hlocal)
  | @imported local' _ _ _ hlocal =>
    obtain rfl : name = local' := by simpa using hname
    by_cases hmodule : c.module = ""
    · refine .inr ⟨hmodule, ?_⟩
      unfold HasLocal at hlocal
      rw [hmodule, h.own, if_pos rfl] at hlocal
      exact hlocal.symm
    · exact absurd rfl (h.ne_of_hasLocal hmodule hlocal)

/-! ### Types -/

theorem callees_classExpr (c : ClassId) (s : Imports) : ((classExpr c).run s).1.callees = [] := by
  by_cases h : c = .builtin "NoneType"
  · rw [h]
    exact Expr.callees_name _
  · exact (makes_classExpr s h).2.callees_eq_nil

theorem callees_subscript {value : Expr} {items : List Expr} (hvalue : value.callees = [])
    (hitems : ∀ e ∈ items, e.callees = []) : (subscript value items).callees = [] := by
  have hflat : items.flatMap Expr.callees = [] := List.flatMap_eq_nil_iff.mpr hitems
  unfold subscript
  split
  · exact hvalue
  · rw [Expr.callees_subscript, hvalue, hitems _ List.mem_cons_self, List.append_nil]
  · rw [Expr.callees_subscript, Expr.callees_tuple, hvalue, hflat, List.append_nil]

theorem callees_barred {items : List Expr} (hitems : ∀ e ∈ items, e.callees = []) :
    (barred items).callees = [] := by
  have hfold : ∀ (es : List Expr) (e : Expr), e.callees = [] → (∀ e ∈ es, e.callees = []) →
      (es.foldl (fun left right => .binary left .bitOr right) e).callees = [] := by
    intro es
    induction es with
    | nil => exact fun _ he _ => he
    | cons e' es ih =>
      intro e he hes
      refine ih _ ?_ fun e'' he'' => hes e'' (List.mem_cons_of_mem _ he'')
      rw [Expr.callees_binary, he, hes e' List.mem_cons_self, List.append_nil]
  cases items with
  | nil => exact Expr.callees_absent
  | cons e es =>
    exact hfold es e (hitems e List.mem_cons_self) fun e' he' =>
      hitems e' (List.mem_cons_of_mem _ he')

mutual

/-- The expression for a type calls nothing. -/
theorem callees_typeExpr : ∀ (t : HostType) (s : Imports), ((typeExpr t).run s).1.callees = []
  | .any, _ => Expr.callees_name _
  | .var _, _ => Expr.callees_name _
  | .nothing, _ => Expr.callees_absent
  | .ellipsis, _ => Expr.callees_constant _
  | .generated _, _ => Expr.callees_name _
  | .params types, s => by
    rw [typeExpr]
    exact (Expr.callees_list _).trans (List.flatMap_eq_nil_iff.mpr (callees_typeExprs types s))
  | .union _ types, s => by
    rw [typeExpr]
    exact callees_barred (callees_typeExprs types s)
  | .annotated base _, s => by
    rw [typeExpr]
    exact callees_typeExpr base s
  | .literal values, s => by
    rw [typeExpr]
    exact callees_subscript (Expr.callees_name _) (by simp)
  | .applied _ c types, s => by
    rw [typeExpr]
    exact callees_subscript (callees_classExpr c s)
      (callees_typeExprs types ((classExpr c).run s).2)
  | .synonym _ c, s => callees_classExpr c s
  | .cls c, s => (makes_typeExpr_cls s c).2.callees_eq_nil
  | .newType _ _ _, _ => Expr.callees_name _
  | .special _ _, _ => Expr.callees_name _
  | .value _, _ => Expr.callees_name _
  | .forward _, _ => Expr.callees_name _

theorem callees_typeExprs : ∀ (ts : List HostType) (s : Imports),
    ∀ e ∈ ((typeExprs ts).run s).1, e.callees = []
  | [], _ => by
    rw [typeExprs]
    exact fun e he => absurd he List.not_mem_nil
  | t :: ts, s => by
    rw [typeExprs]
    exact List.forall_mem_cons.mpr
      ⟨callees_typeExpr t s, callees_typeExprs ts ((typeExpr t).run s).2⟩

end

theorem length_typeExprs : ∀ (ts : List HostType) (s : Imports),
    ((typeExprs ts).run s).1.length = ts.length
  | [], _ => by
    rw [typeExprs]
    rfl
  | t :: ts, s => by
    rw [typeExprs]
    exact congrArg (· + 1) (length_typeExprs ts ((typeExpr t).run s).2)

/-- A union is written with bars, so it is no name. -/
theorem name?_barred {items : List Expr} (h : 1 < items.length) : (barred items).name? = none := by
  obtain ⟨e, e', es, rfl⟩ : ∃ e e' es, items = e :: e' :: es := by
    match items, h with
    | e :: e' :: es, _ => exact ⟨e, e', es, rfl⟩
  have hfold : ∀ (es : List Expr) (left right : Expr),
      (es.foldl (fun left right => .binary left .bitOr right)
        (Expr.binary left .bitOr right)).name? = none := by
    intro es
    induction es with
    | nil => exact fun _ _ => rfl
    | cons e es ih => exact fun left right => ih _ e
  exact hfold es e e'

end Imports

end FragmentRoutes
