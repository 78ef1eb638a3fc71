import FragmentRoutes.Proofs.RoutesModule.Binding
import FragmentRoutes.Proofs.RoutesModule.Invocation
import FragmentRoutes.Proofs.RoutesModule.Resolved

/-!
# Handlers

The body of a handler makes the response, binds the arguments of the call, carries out the call
with all that is nested in it, and writes the response (`Handles`).  Only the binding sets the
values of path parameters, and only the part after it carries out calls.

The making of the handler of a resolved endpoint ends well, or there is no value for the form
(`ensures_handler`).
-/

namespace FragmentRoutes.RoutesModule

open Code Host Resolution

/-! ### Around the call -/

/-- The handler of an endpoint with what is done for its call. -/
def handlerOf (context : Context) (e : Endpoint) (called : List Stmt) : Stmt :=
  .function true e.handlerName [Param.typed "request" (.name "Request")] (.name "Response")
    (openingBody context e.definition ++ called ++
      renderBody context e.definition :: finishBody context e)

theorem handler_eq (context : Context) (e : Endpoint) :
    handler context e = (do
      let called ← callBody context e.definition
      return handlerOf context e called) :=
  rfl

/-- What stands before the binding makes the response and the data, and carries out no call. -/
theorem binds_openingBody (context : Context) (definition : Definition) :
    Binds ["response", "_td"] (openingBody context definition) := by
  have hlog : Binds ["response", "_td"] (if context.config.logger then
      [.expr (.call (.attribute (.name "logger") "debug") [Expr.text "handling request"]
        [logFields definition])] else []) := by
    split_ifs
    · exact .cons (by simp) (by simp) (.nil _)
    · exact .nil _
  exact .cons (by simp) (by simp) (.cons (by simp) (by simp) hlog)

/-- What stands after the call sets what is written. -/
theorem mem_setsOf_closing {context : Context} {e : Endpoint} {name : String}
    (h : name ∈ Stmt.setsOf (renderBody context e.definition :: finishBody context e)) :
    name = "_body" ∨ name = "_status" ∨ name = "_data" := by
  have hrender : (renderFragment context e.definition).sets = ["_body"] := by
    simp [renderFragment, Stmt.sets]
  have hbody : ∀ n ∈ (renderBody context e.definition).sets, n = "_body" := by
    rw [renderBody]
    split_ifs <;> simp [hrender]
  have hflush : Stmt.setsOf flushBody = ["_data"] := by
    simp [flushBody, header, response, returnResponse, Stmt.sets, Expr.targets]
  have hfinish : ∀ n ∈ Stmt.setsOf (finishBody context e), n = "_status" ∨ n = "_data" := by
    rw [finishBody]
    split_ifs <;> simp [hflush, redirectBody, response, returnResponse]
  rw [Stmt.setsOf_cons, List.mem_append] at h
  exact h.imp (hbody name) (hfinish name)

/-! ### The handler of a resolved endpoint -/

/-- **The handler of a resolved endpoint** binds the identifiers of the call and then carries out
the call with all that is nested in it, or there is no value for the form. -/
theorem ensures_handler {context : Context} {e : Endpoint} {call : Call}
    (h : context.Resolves e) (hcall : e.definition.call = some call) (s : Imports) :
    Ensures (handler context e) s
      (fun fault => fault.IsForm ∧
        FormFails context e.definition (formParams (context.uses call)))
      fun made s' => ∃ bindings bound invoked, made = handlerOf context e (bound ++ invoked) ∧
        Bound context e.definition e.pathTypes s' (context.uses call) bindings bound ∧
        List.Forall₂ (CarriesOut context s' bindings) call.walk invoked := by
  have htyped : ∀ use ∈ context.uses call, ArgumentTyped context.host context.signatures
      e.definition e.pathTypes use.1 (.name use.2) :=
    fun use huse => argumentTyped_of_mem_uses (fun c hc => h.callTyped hcall hc) huse
  rw [handler_eq, callBody, hcall]
  refine .bind (.bind ((ensures_bindArguments h.form_notMem_params (bound_nil s) htyped).mono ?_))
  rintro ⟨bindings, bound⟩ s' - hbound
  refine .bind ((ensures_lift (makes_invokeCall context bindings call s')).mono ?_)
  intro invoked s'' hgrows hinvoked
  refine ensures_pure (ensures_pure ⟨bindings, bound, invoked, rfl, ?_, hinvoked⟩)
  exact hbound.mono hgrows

/-- The handler of an endpoint without a call ends well. -/
theorem ensures_handler_of_no_call {context : Context} {e : Endpoint}
    (hcall : e.definition.call = none) (s : Imports) (fails : Fault → Prop) :
    Ensures (handler context e) s fails fun made _ => made = handlerOf context e [] := by
  rw [handler_eq, callBody, hcall]
  exact .bind (ensures_pure (ensures_pure rfl))

end FragmentRoutes.RoutesModule
