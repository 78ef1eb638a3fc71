import FragmentRoutes.Proofs.Call
import FragmentRoutes.Proofs.RoutesModule.PathValue
import Mathlib.Data.List.Forall2

/-!
# Carrying out calls

A handler has one statement for each call that occurs in the call of its definition, in the order
of `Call.walk` (`makes_invokeCall`).  The statement passes what was bound to each identifier that
is an argument, and the result of its statement for each nested call (`CarriesOut`).  Its first part
assigns the call, and what follows depends on what the function gives (`KeepsResult`).
-/

namespace FragmentRoutes.RoutesModule

open Code

/-- What is passed for an argument: what an identifier stands for, or the result of a nested
call. -/
inductive PassedAs (bindings : Bindings) : Argument → Expr → Prop where
  | name (id : String) : PassedAs bindings (.name id) (bindings.value id)
  | call (callee : String) (args : List Argument) (n : Nat) :
    PassedAs bindings (.call callee args) (.name (resultLocal n))

/-- The expression is the function of a signature: a method of the receiver, or the function of
the application under its local name. -/
inductive IsCallee (s : Imports) (g : Signature) : Expr → Prop where
  | required (hrequired : g.isRequired = true) :
    IsCallee s g (.attribute (.name "receiver") g.name)
  | free {name : String} (hrequired : g.isRequired = false)
    (hname : s.HasLocal g.module g.name name) : IsCallee s g (.name name)

/-- The name is one that results of calls are kept under. -/
def IsResultName (name : String) : Prop :=
  name = "_result" ∨ ∃ n, name = resultLocal n

/-- The statements **keep the result** of a call under a name.  The first one assigns the call to
the name, with an error or a success beside it where its function gives one.  An error is recorded, and
without success the response is returned.  Of the outermost call the fragment gets the result and the
success. -/
inductive KeepsResult (target : String) (call : Expr) (isOuter : Bool) :
    Signature.Shape → List Stmt → Prop where
  | value : KeepsResult target call isOuter .value
      (.assign (.name target) call ::
        if isOuter then
          [.assign (.attribute (.name "_td") "_result") (.name target),
            .assign (.attribute (.name "_td") "_ok") (.constant (.bool true))]
        else [])
  | withError : KeepsResult target call isOuter .withError
      (.assign (.tuple [.name target, .name "_err"]) call ::
        (if isOuter then [.assign (.attribute (.name "_td") "_result") (.name target)] else []) ++
        [.ifElse (.compare (.name "_err") [(.isNot, .constant .none)])
          [.expr (.call (.attribute (.attribute (.name "_td") "_errors") "append")
              [.name "_err"] []),
            .assign (.attribute (.name "_td") "_err_status_code")
              (.call (.name "_error_status") [.name "_err"] [])]
          (if isOuter then [.assign (.attribute (.name "_td") "_ok") (.constant (.bool true))]
            else [])])
  | withSuccess : KeepsResult target call isOuter .withSuccess
      (.assign (.tuple [.name target, .name "_ok"]) call ::
        .ifElse (.unary .not (.name "_ok"))
          [.ret (.call (.attribute (.name "response") "to_response") [] [])] [] ::
        if isOuter then
          [.assign (.attribute (.name "_td") "_result") (.name target),
            .assign (.attribute (.name "_td") "_ok") (.constant (.bool true))]
        else [])

/-- The statement **carries out** a call unless something failed before: it passes its arguments
to the function of its callee, awaits it exactly if it is asynchronous, and keeps the result. -/
def CarriesOut (context : Context) (s : Imports) (bindings : Bindings) (c : Call) (stmt : Stmt) :
    Prop :=
  ∃ callee values target isOuter body, IsCallee s (context.signature c.callee) callee ∧
    List.Forall₂ (PassedAs bindings) c.args values ∧ IsResultName target ∧
    stmt = .ifElse (.unary .not (.attribute (.name "_td") "_errors")) body [] ∧
    KeepsResult target (if (context.signature c.callee).isAsync
      then .await (.call callee values []) else .call callee values []) isOuter
      (context.signature c.callee).shape body

section

variable {context : Context} {s s' : Imports} {bindings : Bindings} {c : Call} {stmt : Stmt}

theorem IsCallee.mono {g : Signature} {e : Expr} (hgrows : s.Grows s') (h : IsCallee s g e) :
    IsCallee s' g e := by
  cases h with
  | required hrequired => exact .required hrequired
  | free hrequired hname => exact .free hrequired (hname.mono hgrows)

theorem CarriesOut.mono (hgrows : s.Grows s') (h : CarriesOut context s bindings c stmt) :
    CarriesOut context s' bindings c stmt := by
  obtain ⟨callee, values, target, isOuter, body, hcallee, hstmt⟩ := h
  exact ⟨callee, values, target, isOuter, body, hcallee.mono hgrows, hstmt⟩

/-- **The result is kept**, whatever the function of the call gives. -/
theorem keepsResult_resultBody (g : Signature) (target : String) (call : Expr) (isOuter : Bool) :
    KeepsResult target call isOuter g.shape (resultBody g target call isOuter) := by
  unfold resultBody
  cases g.shape with
  | value => exact .value
  | withError => exact .withError
  | withSuccess => exact .withSuccess

/-! ### Names that calls set -/

theorem IsResultName.ne_pathLocal {name : String} (h : IsResultName name) (p : String) :
    name ≠ pathLocal p := by
  refine RoutesModule.ne_pathLocal ?_ p
  rcases h with rfl | ⟨n, rfl⟩
  · decide
  · rw [resultLocal, String.toList_append]
    simp

/-- A call sets its result and whether it succeeded. -/
theorem KeepsResult.mem_setsOf {target name : String} {call : Expr} {isOuter : Bool}
    {shape : Signature.Shape} {body : List Stmt} (h : KeepsResult target call isOuter shape body)
    (hname : name ∈ Stmt.setsOf body) : name = target ∨ name = "_err" ∨ name = "_ok" := by
  cases h with
  | value =>
    have hname : name = target := by
      cases isOuter <;> simpa [Stmt.sets, Expr.targets, Expr.name?] using hname
    exact Or.inl hname
  | withError =>
    have hname : name = target ∨ name = "_err" := by
      cases isOuter <;> simpa [Stmt.sets, Expr.targets, Expr.name?] using hname
    exact hname.imp_right Or.inl
  | withSuccess =>
    have hname : name = target ∨ name = "_ok" := by
      cases isOuter <;> simpa [Stmt.sets, Expr.targets, Expr.name?] using hname
    exact hname.imp_right Or.inr

theorem CarriesOut.pathLocal_notMem (h : CarriesOut context s bindings c stmt) (p : String) :
    pathLocal p ∉ stmt.sets := by
  obtain ⟨callee, values, target, isOuter, body, -, -, htarget, rfl, hkeeps⟩ := h
  intro hmem
  rw [← Stmt.when, Stmt.sets_when] at hmem
  rcases hkeeps.mem_setsOf hmem with hname | hname | hname
  · exact htarget.ne_pathLocal p hname.symm
  · exact ne_pathLocal (by decide) p hname.symm
  · exact ne_pathLocal (by decide) p hname.symm

/-- Carrying out calls sets no value of a path parameter. -/
theorem pathLocal_notMem_of_carriesOut {calls : List Call} {body : List Stmt}
    (h : List.Forall₂ (CarriesOut context s bindings) calls body) (p : String) :
    pathLocal p ∉ Stmt.setsOf body := by
  induction h with
  | nil => simp
  | cons hc _ ih =>
    rw [Stmt.setsOf_cons, List.mem_append]
    exact fun hmem => hmem.elim (hc.pathLocal_notMem p) ih

end

/-! ### Calls in arguments -/

theorem makes_invocation (s : Imports) (g : Signature) (values : List Expr) :
    Imports.Makes (invocation g values) s fun e s' => ∃ callee, IsCallee s' g callee ∧
      e = if g.isAsync then .await (callee.apply values) else callee.apply values := by
  rw [invocation]
  by_cases hrequired : g.isRequired = true
  · rw [if_pos hrequired]
    exact Imports.makes_pure ⟨_, .required hrequired, rfl⟩
  · rw [if_neg hrequired]
    refine .bind ((Imports.makes_ref s g.module g.name).mono ?_)
    rintro _ s' - ⟨name, rfl, hname⟩
    exact Imports.makes_pure ⟨_, .free (by simpa using hrequired) hname, rfl⟩

theorem makes_invoke (context : Context) (s : Imports) (bindings : Bindings) {c : Call}
    {values : List Expr} (hvalues : List.Forall₂ (PassedAs bindings) c.args values)
    {target : String} (htarget : IsResultName target) (isOuter : Bool) :
    Imports.Makes (invoke context c.callee target values isOuter) s
      fun stmt s' => CarriesOut context s' bindings c stmt := by
  rw [invoke]
  refine .bind ((makes_invocation s (context.signature c.callee) values).mono ?_)
  rintro _ s' - ⟨callee, hcallee, rfl⟩
  exact Imports.makes_pure ⟨callee, values, target, isOuter, _, hcallee, hvalues, htarget, rfl,
    keepsResult_resultBody _ _ _ _⟩

mutual

theorem makes_invokeArgument (context : Context) (bindings : Bindings) : ∀ (a : Argument) (n : Nat)
    (s : Imports), Imports.Makes (invokeArgument context bindings n a) s fun r s' =>
      PassedAs bindings a r.1 ∧
        List.Forall₂ (CarriesOut context s' bindings) (Call.walkArgument a) r.2.2
  | .name id, n, s => by
    rw [invokeArgument]
    exact Imports.makes_pure ⟨.name id, .nil⟩
  | .call callee args, n, s => by
    rw [invokeArgument]
    refine .bind ((makes_invokeArguments context bindings args n s).mono ?_)
    rintro ⟨values, m, body⟩ s' - ⟨hvalues, hbody⟩
    have hinvoke := @makes_invoke context s' bindings ⟨callee, args⟩ values hvalues
      (resultLocal (m + 1)) (Or.inr ⟨m + 1, rfl⟩) false
    refine .bind (hinvoke.mono fun block s'' hgrows hblock => ?_)
    refine Imports.makes_pure ⟨.call callee args (m + 1), ?_⟩
    rw [Call.walkArgument]
    exact List.rel_append (hbody.imp fun _ _ h => h.mono hgrows) (.cons hblock .nil)

theorem makes_invokeArguments (context : Context) (bindings : Bindings) :
    ∀ (as : List Argument) (n : Nat) (s : Imports),
      Imports.Makes (invokeArguments context bindings n as) s fun r s' =>
        List.Forall₂ (PassedAs bindings) as r.1 ∧
          List.Forall₂ (CarriesOut context s' bindings) (Call.walkArguments as) r.2.2
  | [], n, s => by
    rw [invokeArguments]
    exact Imports.makes_pure ⟨.nil, .nil⟩
  | a :: as, n, s => by
    rw [invokeArguments]
    refine .bind ((makes_invokeArgument context bindings a n s).mono ?_)
    rintro ⟨value, m, first⟩ s' - ⟨hvalue, hfirst⟩
    refine .bind ((makes_invokeArguments context bindings as m s').mono ?_)
    rintro ⟨values, k, rest⟩ s'' hgrows ⟨hvalues, hrest⟩
    refine Imports.makes_pure ⟨.cons hvalue hvalues, ?_⟩
    rw [Call.walkArguments]
    exact List.rel_append (hfirst.imp fun _ _ h => h.mono hgrows) hrest

end

/-- **Every call that occurs in a call is carried out**, nested calls before the calls that they
are arguments of. -/
theorem makes_invokeCall (context : Context) (bindings : Bindings) (call : Call) (s : Imports) :
    Imports.Makes (invokeCall context bindings call) s fun body s' =>
      List.Forall₂ (CarriesOut context s' bindings) call.walk body := by
  rw [invokeCall]
  refine .bind ((makes_invokeArguments context bindings call.args 0 s).mono ?_)
  rintro ⟨values, n, body⟩ s' - ⟨hvalues, hbody⟩
  refine .bind ((makes_invoke context s' bindings hvalues (Or.inl rfl) true).mono ?_)
  intro block s'' hgrows hblock
  refine Imports.makes_pure ?_
  rw [Call.walk]
  exact List.rel_append (hbody.imp fun _ _ h => h.mono hgrows) (.cons hblock .nil)

end FragmentRoutes.RoutesModule
