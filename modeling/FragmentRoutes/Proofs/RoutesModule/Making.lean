import FragmentRoutes.Proofs.Code.Subterms
import FragmentRoutes.Proofs.Except
import FragmentRoutes.Proofs.Imports
import FragmentRoutes.RoutesModule.Handler

/-!
# Making handlers

`Ensures` says of a step of the making that it ends well with a property, the imports only
growing, or with a fault of a kind.  A step is taken apart at its binds (`Ensures.bind`).

Handlers bind their arguments before they carry out calls.  What a statement sets is read off it
(`Stmt.sets`), and so is whether it carries out a call (`IsInvocation`).  Converting and checking a
value sets that value and what is done next, and never carries out a call
(`makes_bindConverted`).
-/

namespace FragmentRoutes

open Code Host

/-! ### Names that statements set -/

namespace Code

/-- The names that an assignment to the expression sets. -/
def Expr.targets : Expr → List String
  | .name id => [id]
  | .tuple items => items.filterMap Expr.name?
  | _ => []

mutual

/-- The names that a statement sets, at any depth. -/
def Stmt.sets : Stmt → List String
  | .expr _ => []
  | .assign target _ => target.targets
  | .typedAssign target _ _ => target.targets
  | .ret _ => []
  | .pass => []
  | .ifElse _ body otherwise => Stmt.setsOf body ++ Stmt.setsOf otherwise
  | .attempt body _ name handler otherwise =>
    Stmt.setsOf body ++ name.toList ++ Stmt.setsOf handler ++ Stmt.setsOf otherwise
  | .each target _ body => target.targets ++ Stmt.setsOf body
  | .function _ name _ _ _ => [name]
  | .classDef name _ _ => [name]
  | .importModule module => [(module.splitOn ".").headD module]
  | .importFrom _ symbols => symbols.map fun (symbol, given) => given.getD symbol

/-- The names that statements set, at any depth. -/
def Stmt.setsOf : List Stmt → List String
  | [] => []
  | s :: ss => s.sets ++ Stmt.setsOf ss

end

@[simp]
theorem Stmt.setsOf_nil : Stmt.setsOf [] = [] := by
  rw [Stmt.setsOf]

@[simp]
theorem Stmt.setsOf_cons (s : Stmt) (ss : List Stmt) :
    Stmt.setsOf (s :: ss) = s.sets ++ Stmt.setsOf ss := by
  rw [Stmt.setsOf]

@[simp]
theorem Stmt.setsOf_append (ss ts : List Stmt) :
    Stmt.setsOf (ss ++ ts) = Stmt.setsOf ss ++ Stmt.setsOf ts := by
  induction ss with
  | nil => simp
  | cons s ss ih => simp [ih]

/-- What a statement among them sets, the statements set. -/
theorem Stmt.mem_setsOf {ss : List Stmt} {s : Stmt} {name : String} (hs : s ∈ ss)
    (hname : name ∈ s.sets) : name ∈ Stmt.setsOf ss := by
  obtain ⟨before, after, rfl⟩ := List.append_of_mem hs
  rw [Stmt.setsOf_append, Stmt.setsOf_cons]
  exact List.mem_append_right _ (List.mem_append_left _ hname)

@[simp]
theorem Stmt.sets_expr (value : Expr) : (Stmt.expr value).sets = [] := by
  rw [Stmt.sets]

@[simp]
theorem Stmt.sets_set (name : String) (value : Expr) : (Stmt.set name value).sets = [name] := by
  rw [Stmt.set, Stmt.sets, Expr.targets]

@[simp]
theorem Stmt.sets_setAttribute (owner name : String) (value : Expr) :
    (Stmt.setAttribute owner name value).sets = [] := by
  simp [Stmt.setAttribute, Stmt.sets, Expr.targets]

@[simp]
theorem Stmt.sets_ifElse (test : Expr) (body otherwise : List Stmt) :
    (Stmt.ifElse test body otherwise).sets = Stmt.setsOf body ++ Stmt.setsOf otherwise := by
  rw [Stmt.sets]

@[simp]
theorem Stmt.sets_when (test : Expr) (body : List Stmt) :
    (Stmt.when test body).sets = Stmt.setsOf body := by
  rw [Stmt.when, Stmt.sets_ifElse, Stmt.setsOf_nil, List.append_nil]

@[simp]
theorem Stmt.sets_ret (value : Expr) : (Stmt.ret value).sets = [] := by
  rw [Stmt.sets]

end Code

namespace RoutesModule

/-- The statement carries out a call unless something failed before. -/
def IsInvocation (s : Stmt) : Prop :=
  ∃ body, s = .ifElse (.unary .not (.attribute (.name "_td") "_errors")) body []

@[simp]
theorem not_isInvocation_expr (value : Expr) : ¬IsInvocation (.expr value) := by
  rintro ⟨_, heq⟩
  cases heq

@[simp]
theorem not_isInvocation_assign (target value : Expr) : ¬IsInvocation (.assign target value) := by
  rintro ⟨_, heq⟩
  cases heq

@[simp]
theorem not_isInvocation_set (name : String) (value : Expr) : ¬IsInvocation (.set name value) :=
  not_isInvocation_assign _ _

@[simp]
theorem not_isInvocation_ret (value : Expr) : ¬IsInvocation (.ret value) := by
  rintro ⟨_, heq⟩
  cases heq

@[simp]
theorem not_isInvocation_attempt (body : List Stmt) (error : Expr) (name : Option String)
    (caught otherwise : List Stmt) : ¬IsInvocation (.attempt body error name caught otherwise) := by
  rintro ⟨_, heq⟩
  cases heq

@[simp]
theorem not_isInvocation_each (target values : Expr) (body : List Stmt) :
    ¬IsInvocation (.each target values body) := by
  rintro ⟨_, heq⟩
  cases heq

/-- What is done on a condition carries out a call only if the condition is that nothing failed. -/
@[simp]
theorem isInvocation_when_iff {test : Expr} {body : List Stmt} :
    IsInvocation (.when test body) ↔ test = noFailure := by
  constructor
  · rintro ⟨_, heq⟩
    exact (Stmt.ifElse.inj heq).1
  · rintro rfl
    exact ⟨body, rfl⟩

/-- The statements bind arguments: they set none but the given names and carry out no call. -/
structure Binds (names : List String) (body : List Stmt) : Prop where
  sets : ∀ name ∈ Stmt.setsOf body, name ∈ names
  no_invocation : ∀ s ∈ body, ¬IsInvocation s

theorem Binds.nil (names : List String) : Binds names [] :=
  ⟨by simp, by simp⟩

theorem Binds.append {names : List String} {body body' : List Stmt} (h : Binds names body)
    (h' : Binds names body') : Binds names (body ++ body') where
  sets name hname := by
    rw [Stmt.setsOf_append, List.mem_append] at hname
    exact hname.elim (h.sets name) (h'.sets name)
  no_invocation s hs := (List.mem_append.mp hs).elim (h.no_invocation s) (h'.no_invocation s)

theorem Binds.cons {names : List String} {s : Stmt} {body : List Stmt}
    (hsets : ∀ name ∈ s.sets, name ∈ names) (hs : ¬IsInvocation s) (h : Binds names body) :
    Binds names (s :: body) where
  sets name hname := by
    rw [Stmt.setsOf_cons, List.mem_append] at hname
    exact hname.elim (hsets name) (h.sets name)
  no_invocation t ht := by
    rcases List.mem_cons.mp ht with rfl | ht
    · exact hs
    · exact h.no_invocation t ht

theorem Binds.mono {names names' : List String} {body : List Stmt} (h : Binds names body)
    (hsub : names ⊆ names') : Binds names' body :=
  ⟨fun name hname => hsub (h.sets name hname), h.no_invocation⟩

/-! ### Steps of the making -/

section

variable {α β : Type}

/-- The step ends well with the given property, and then the imports only grow, or with a fault of
the given kind. -/
def Ensures (x : Making α) (s : Imports) (fails : Fault → Prop) (post : α → Imports → Prop) :
    Prop :=
  match x.run s with
  | (.ok a, s') => s.Grows s' ∧ post a s'
  | (.error fault, _) => fails fault

variable {x : Making α} {f : α → Making β} {s : Imports} {fails : Fault → Prop}
  {post : α → Imports → Prop} {post' : β → Imports → Prop}

theorem Ensures.bind (h : Ensures x s fails fun a s' => Ensures (f a) s' fails post') :
    Ensures (x >>= f) s fails post' := by
  rw [Ensures] at h ⊢
  rw [ExceptT.run_bind_apply]
  cases hx : x.run s with
  | mk r s' =>
    rw [hx] at h
    cases r with
    | error fault => exact h
    | ok a =>
      obtain ⟨hgrows, h⟩ := h
      show match (f a).run s' with
        | (.ok b, s'') => s.Grows s'' ∧ post' b s''
        | (.error fault, _) => fails fault
      rw [Ensures] at h
      cases hf : (f a).run s' with
      | mk r s'' =>
        rw [hf] at h
        cases r with
        | error fault => exact h
        | ok b => exact ⟨hgrows.trans h.1, h.2⟩

theorem Ensures.mono {post' : α → Imports → Prop} (h : Ensures x s fails post)
    (himp : ∀ a s', s.Grows s' → post a s' → post' a s') : Ensures x s fails post' := by
  rw [Ensures] at h ⊢
  split at h
  · exact ⟨h.1, himp _ _ h.1 h.2⟩
  · exact h

theorem Ensures.mono_fails {fails' : Fault → Prop} (h : Ensures x s fails post)
    (himp : ∀ fault, fails fault → fails' fault) : Ensures x s fails' post := by
  rw [Ensures] at h ⊢
  split at h
  · exact h
  · exact himp _ h

/-- What is known of the end of a step in two ways is known of it together. -/
theorem Ensures.and {fails' : Fault → Prop} {post' : α → Imports → Prop}
    (h : Ensures x s fails post) (h' : Ensures x s fails' post') :
    Ensures x s fails fun a s' => post a s' ∧ post' a s' := by
  rw [Ensures] at h h' ⊢
  split at h
  · rename_i hrun
    rw [hrun] at h'
    exact ⟨h.1, h.2, h'.2⟩
  · exact h

/-- A step that does not end with a fault ends well. -/
theorem Ensures.exists_run (h : Ensures x s fails post) (hfails : ∀ fault, ¬fails fault) :
    ∃ a s', x.run s = (.ok a, s') ∧ post a s' := by
  rw [Ensures] at h
  cases hrun : x.run s with
  | mk result s' =>
    rw [hrun] at h
    cases result with
    | error fault => exact absurd h (hfails fault)
    | ok a => exact ⟨a, s', rfl, h.2⟩

/-- What a step ends well with has the property. -/
theorem Ensures.of_run (h : Ensures x s fails post) {a : α} (hrun : (x.run.run s).1 = .ok a) :
    post a (x.run.run s).2 := by
  rw [Ensures] at h
  rw [StateT.run] at hrun ⊢
  cases hresult : x.run s with
  | mk result s' =>
    rw [hresult] at h hrun
    obtain rfl : result = .ok a := hrun
    exact h.2

theorem ensures_pure {a : α} (h : post a s) : Ensures (pure a) s fails post :=
  ⟨.refl s, h⟩

theorem ensures_throw {fault : Fault} (h : fails fault) : Ensures (throw fault) s fails post :=
  h

/-- Code that only records imports does not fail. -/
theorem ensures_lift {x : Imports.Making α} (h : Imports.Makes x s post) :
    Ensures (liftM x) s fails post :=
  h

end

-- steps are taken apart by the lemmas above, never by running what they are made of
attribute [irreducible] Ensures

/-! ### Converting and checking -/

/-- The statements record the error and that the request was bad. -/
def RecordsFailure (s : Imports) (error : Expr) (body : List Stmt) : Prop :=
  ∃ status, s.HasLocal "http" "HTTPStatus" status ∧
    body = [.expr (.apply (.attribute (data "_errors") "append") [error]),
      .setAttribute "_td" "_err_status_code" (.attribute (.name status) "BAD_REQUEST")]

theorem RecordsFailure.setsOf {s : Imports} {error : Expr} {body : List Stmt}
    (h : RecordsFailure s error body) : Stmt.setsOf body = [] := by
  obtain ⟨status, -, rfl⟩ := h
  simp

theorem makes_fail (s : Imports) (error : Expr) :
    Imports.Makes (fail error) s fun body s' => RecordsFailure s' error body := by
  rw [fail]
  refine .bind ((Imports.makes_ref s "http" "HTTPStatus").mono ?_)
  rintro _ s' - ⟨status, rfl, hstatus⟩
  exact Imports.makes_pure ⟨status, hstatus, rfl⟩

/-- The condition of a check is a comparison. -/
theorem makes_broken (s : Imports) (c : Constraint) (value : Expr) :
    Imports.Makes (broken c value) s fun e _ => ∃ first rest, e = .compare first rest := by
  rw [broken]
  cases c.kind with
  | min => exact Imports.makes_pure ⟨_, _, rfl⟩
  | max => exact Imports.makes_pure ⟨_, _, rfl⟩
  | minLength => exact Imports.makes_pure ⟨_, _, rfl⟩
  | maxLength => exact Imports.makes_pure ⟨_, _, rfl⟩
  | pattern =>
    exact .bind ((Imports.makes_moduleExpr s "re").mono fun _ _ _ _ =>
      Imports.makes_pure ⟨_, _, rfl⟩)

/-- Checks set nothing and carry out no call. -/
theorem makes_guards (s : Imports) (name : String) (cs : List Constraint) :
    Imports.Makes (guards name cs) s fun body _ => Binds [] body := by
  induction cs generalizing s with
  | nil => exact Imports.makes_pure (.nil [])
  | cons c cs ih =>
    rw [guards, guard]
    refine .bind (.bind ((makes_broken s c _).mono ?_))
    rintro _ s' - ⟨first, rest, rfl⟩
    refine .bind ((makes_fail s' _).mono fun failure s'' _ hfailure => ?_)
    refine Imports.makes_pure (.bind ((ih s'').mono fun body _ _ hbody => Imports.makes_pure ?_))
    refine .cons ?_ ?_ hbody
    · rw [Stmt.sets_when, hfailure.setsOf]
      simp
    · -- the condition of an invocation is a negation
      simp [noFailure]

theorem makes_converted (s : Imports) (kind : Conversion) (t : HostType) (text : Expr) :
    Imports.Makes (converted kind t text) s fun _ _ => True := by
  cases kind with
  | str => exact Imports.makes_pure trivial
  | int => exact Imports.makes_pure trivial
  | float => exact Imports.makes_pure trivial
  | bool => exact Imports.makes_pure trivial
  | text =>
    exact .bind ((Imports.makes_typeExpr t s).mono fun _ _ _ _ => Imports.makes_pure trivial)

/-- **Converting and checking a value** sets that value, the error, and what is set next, and
carries out no call. -/
theorem makes_bindConverted (s : Imports) {name : String} {names : List String} (kind : Conversion)
    (t : HostType) (text : Expr) (cs : List Constraint) {next : List Stmt}
    (hname : name ∈ names) (herr : "_err" ∈ names) (hnext : Binds names next) :
    Imports.Makes (bindConverted name kind t text cs next) s fun body _ => Binds names body := by
  rw [bindConverted]
  refine .bind ((makes_guards s name cs).mono fun checks s' _ hchecks => ?_)
  have hrest : Binds names (checks ++ next) := (hchecks.mono (List.nil_subset _)).append hnext
  split_ifs
  · refine Imports.makes_pure (.cons (by simpa using hname) ?_ hrest)
    simp
  · refine .bind ((makes_converted s' kind t text).mono fun value s'' _ _ => ?_)
    refine .bind ((makes_fail s'' _).mono fun failure _ _ hfailure => ?_)
    refine Imports.makes_pure (.cons ?_ ?_ (.nil names))
    · intro n hn
      rw [Stmt.sets, hfailure.setsOf] at hn
      simp only [Stmt.setsOf_cons, Stmt.sets_set, Stmt.setsOf_nil, List.append_nil,
        Option.toList_some, List.mem_append, List.mem_singleton] at hn
      rcases hn with (rfl | rfl) | hn
      · exact hname
      · exact herr
      · exact hrest.sets n (by simpa using hn)
    · simp

end RoutesModule

end FragmentRoutes
