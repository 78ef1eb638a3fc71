import FragmentRoutes.Proofs.RoutesModule.Callees
import FragmentRoutes.Proofs.RoutesModule.Handler

/-!
# What handlers call on the receiver

A statement that carries out a call calls the method that its signature requires of the receiver,
or nothing on it (`CarriesOut.methodsOn`).  All else in a handler is aside of the receiver, so the
methods that a handler calls on it are those that the signatures of its calls require
(`Handles.methodsOn_receiver`).
-/

namespace FragmentRoutes.RoutesModule

open Code Host Resolution

/-! ### Carrying out calls -/

section

variable {context : Context} {s : Imports} {bindings : Bindings}

theorem Bindings.aside_value {host : Host} (h : bindings.form.Quiet host s) (id : String) :
    ∀ callee ∈ (bindings.value id).callees, Aside host s callee := by
  obtain ⟨paths, read, use⟩ := bindings
  unfold Bindings.value
  split
  · simp [request]
  · simp
  · simp
  · cases use with
    | unused => simp
    | whole => simp
    | struct type value => exact h
  · simp

/-- Keeping a result calls nothing on the receiver. -/
theorem KeepsResult.methodsOn {target : String} {call : Expr} {isOuter : Bool}
    {shape : Signature.Shape} {body : List Stmt} (h : KeepsResult target call isOuter shape body) :
    methodsOn "receiver" body = call.callees.filterMap (methodOf? "receiver") := by
  unfold RoutesModule.methodsOn
  cases h with
  | value => cases isOuter <;> simp
  | withError => cases isOuter <;> simp [methodOf?]
  | withSuccess => cases isOuter <;> simp [methodOf?]

end

section

variable {context : Context} {s : Imports}
  (hkeeps : s.Keeps "receiver")
  (hhost : ∀ c, context.host.Supplies c → ¬Imports.IsBare "receiver" c)

include hkeeps hhost

/-- What is passed calls nothing on the receiver. -/
theorem methodsOn_passed {bindings : Bindings} (hform : bindings.form.Quiet context.host s)
    {args : List Argument} {values : List Expr} (h : List.Forall₂ (PassedAs bindings) args values) :
    (values.flatMap Expr.callees).filterMap (methodOf? "receiver") = [] := by
  induction h with
  | nil => rfl
  | cons hpassed _ ih =>
    rw [List.flatMap_cons, List.filterMap_append, ih, List.append_nil,
      List.filterMap_eq_nil_iff]
    cases hpassed with
    | name id =>
      exact fun callee hcallee =>
        (bindings.aside_value hform id callee hcallee).methodOf?_eq_none hkeeps hhost
    | call callee args n => simp

/-- **Carrying out a call** calls the method that its signature requires of the receiver, and none
if the signature is that of a function of the application. -/
theorem CarriesOut.methodsOn {bindings : Bindings} (hform : bindings.form.Quiet context.host s)
    {c : Call} {stmt : Stmt} (h : CarriesOut context s bindings c stmt) :
    methodsOn "receiver" [stmt] =
      if (context.signature c.callee).isRequired then [(context.signature c.callee).name]
      else [] := by
  obtain ⟨callee, values, target, isOuter, body, hcallee, hvalues, -, rfl, hkept⟩ := h
  have hwhen : RoutesModule.methodsOn "receiver"
      [.ifElse (.unary .not (.attribute (.name "_td") "_errors")) body []] =
      RoutesModule.methodsOn "receiver" body := by
    simp [RoutesModule.methodsOn]
  have hcall : ∀ isAsync : Bool, (if isAsync then Expr.await (.call callee values [])
      else .call callee values []).callees = (callee.apply values).callees := by
    intro isAsync
    cases isAsync <;> simp [Expr.apply]
  rw [hwhen, hkept.methodsOn, hcall, Expr.callees_apply]
  have hargs := methodsOn_passed hkeeps hhost hform hvalues
  cases hcallee with
  | required hrequired =>
    rw [if_pos hrequired, List.filterMap_cons_some (methodOf?_eq_some_iff.mpr rfl),
      List.filterMap_append, hargs]
    simp
  | @free name hrequired _ =>
    have hname : methodOf? "receiver" (.name name) = none := rfl
    rw [hrequired, List.filterMap_cons_none hname, List.filterMap_append, hargs]
    simp

end

/-! ### Handlers -/

section

variable {context : Context} {s : Imports}

theorem quiet_openingBody (host : Host) (s : Imports) (definition : Definition) :
    Quiet host s (openingBody context definition) := by
  have hlog : Quiet host s (if context.config.logger then
      [.expr (.call (.attribute (.name "logger") "debug") [Expr.text "handling request"]
        [logFields definition])] else []) := by
    split_ifs
    · refine .cons (fun callee hcallee => ?_) quiet_nil
      obtain rfl : callee = .attribute (.name "logger") "debug" := by
        simpa [logFields, request] using hcallee
      exact .ofValue (by decide)
    · exact quiet_nil
  refine .cons (fun callee hcallee => ?_) (.cons (fun callee hcallee => ?_) hlog)
  · obtain rfl : callee = .name "ResponseWriter" := by simpa using hcallee
    exact .unowned rfl
  · obtain rfl : callee = .name context.config.templateDataType := by simpa using hcallee
    exact .unowned rfl

/-- Rendering the fragment calls nothing on the receiver if the templates are none of it. -/
theorem quiet_renderBody {host : Host} (htemplates : context.templates.callees = [])
    (haside : Aside host s (context.templates.attribute "get_template")) (definition : Definition) :
    Quiet host s [renderBody context definition] := by
  have hrender : Quiet host s [renderFragment context definition] := by
    refine .cons (fun callee hcallee => ?_) quiet_nil
    simp only [renderFragment, logFields, request, statusNamed] at hcallee
    simp [htemplates] at hcallee
    rcases hcallee with rfl | rfl | rfl | rfl
    · exact .unowned rfl
    · exact haside
    · exact .ofValue (by split_ifs <;> decide)
    · exact .unowned rfl
  rw [renderBody]
  split_ifs
  · exact hrender
  · refine .cons (fun callee hcallee => ?_) quiet_nil
    rw [Stmt.callees_ifElse, List.mem_append, List.mem_append] at hcallee
    rcases hcallee with (hcallee | hcallee) | hcallee
    · simp [noFailure, data] at hcallee
    · exact hrender callee hcallee
    · obtain rfl : callee = .name "_error_text" := by simpa [data] using hcallee
      exact .unowned rfl

theorem aside_statusChain (host : Host) (s : Imports) (context : Context) (e : Endpoint) :
    ∀ callee ∈ (statusChain context e).callees, Aside host s callee := by
  have hstatus : (statusExpr e.definition.label.status).callees = [] := by
    unfold statusExpr
    split
    · simp [statusNamed]
    · simp
  intro callee hcallee
  unfold statusChain at hcallee
  split at hcallee
  · rename_i told htold
    unfold resultStatus? at htold
    split at htold
    · cases htold
    · obtain rfl := Option.some.inj htold
      obtain rfl : callee = .attribute (data "_result") "status_code" := by
        simpa [data, hstatus] using hcallee
      exact .unowned rfl
    · obtain rfl := Option.some.inj htold
      simp [data, hstatus] at hcallee
  · simp [data, hstatus] at hcallee

theorem quiet_finishBody (host : Host) (s : Imports) (e : Endpoint) :
    Quiet host s (finishBody context e) := by
  have hresponse : ∀ method : String, Aside host s (.attribute (.name "response") method) :=
    fun _ => .ofValue (by decide)
  have hflush : Quiet host s flushBody := by
    intro callee hcallee
    simp [flushBody, header, response, returnResponse] at hcallee
    rcases hcallee with rfl | rfl | rfl | rfl | rfl | rfl
    · exact .ofValue (by decide)
    · exact .unowned rfl
    · exact .unowned rfl
    · exact hresponse _
    · exact hresponse _
    · exact hresponse _
  have hredirect : Quiet host s (if e.redirects then redirectBody else []) := by
    split_ifs
    · intro callee hcallee
      simp [redirectBody, response, returnResponse, data] at hcallee
      rcases hcallee with rfl | rfl
      · exact hresponse _
      · exact hresponse _
    · exact quiet_nil
  rw [finishBody]
  by_cases hwrites : e.definition.writesResponse = true
  · rw [if_pos hwrites]
    intro callee hcallee
    simp [response, returnResponse] at hcallee
    rcases hcallee with rfl | rfl
    · exact hresponse _
    · exact hresponse _
  · rw [if_neg hwrites]
    exact .cons (by simpa using aside_statusChain host s context e) (hredirect.append hflush)

/-- The statement is the **handler** of the endpoint: around the call it makes and writes the
response, before the calls it binds the arguments, and then it carries out all calls. -/
def Handles (context : Context) (s : Imports) (e : Endpoint) (made : Stmt) : Prop :=
  ∃ bindings bound invoked, made = handlerOf context e (bound ++ invoked) ∧
    bindings.form.Quiet context.host s ∧ Quiet context.host s bound ∧
    List.Forall₂ (CarriesOut context s bindings) e.definition.calls invoked

theorem Handles.mono {context : Context} {s s' : Imports} (hgrows : s.Grows s') {e : Endpoint}
    {made : Stmt} (h : Handles context s e made) : Handles context s' e made := by
  obtain ⟨bindings, bound, invoked, hmade, hform, hbound, hinvoked⟩ := h
  exact ⟨bindings, bound, invoked, hmade, hform.mono hgrows, hbound.mono hgrows,
    hinvoked.imp fun _ _ hcarries => hcarries.mono hgrows⟩

/-- **What is made for an endpoint is its handler.** -/
theorem ensures_handler_calls (context : Context) (e : Endpoint) (s : Imports) :
    Ensures (handler context e) s (fun _ => True) fun made s' => Handles context s' e made := by
  rw [handler_eq, callBody]
  cases hcall : e.definition.call with
  | none =>
    refine .bind (ensures_pure (ensures_pure
      ⟨⟨[], false, .unused⟩, [], [], rfl, trivial, quiet_nil, ?_⟩))
    rw [Definition.calls, hcall]
    exact .nil
  | some call =>
    have hunused : FormUse.Quiet context.host s .unused := trivial
    refine .bind (.bind ((ensures_bindArguments_quiet s hunused _).mono ?_))
    rintro ⟨bindings, bound⟩ s₁ - ⟨hform, hbound⟩
    refine .bind ((ensures_lift (makes_invokeCall context bindings call s₁)).mono ?_)
    intro invoked s₂ hgrows hinvoked
    refine ensures_pure (ensures_pure
      ⟨bindings, bound, invoked, rfl, hform.mono hgrows, hbound.mono hgrows, ?_⟩)
    rw [Definition.calls, hcall]
    exact hinvoked

/-- **The methods that a handler calls on the receiver** are those that the signatures of its calls
require, in the order of the calls. -/
theorem Handles.methodsOn_receiver {context : Context} {s : Imports} (hkeeps : s.Keeps "receiver")
    (hhost : ∀ c, context.host.Supplies c → ¬Imports.IsBare "receiver" c)
    (htemplates : context.templates.callees = [])
    (haside : Aside context.host s (context.templates.attribute "get_template")) {e : Endpoint}
    {made : Stmt} (h : Handles context s e made) :
    methodsOn "receiver" [made] =
      ((e.definition.calls.map fun c => context.signature c.callee).filter
        Signature.isRequired).map (·.name) := by
  obtain ⟨bindings, bound, invoked, rfl, hform, hbound, hinvoked⟩ := h
  have hinvoked : methodsOn "receiver" invoked =
      ((e.definition.calls.map fun c => context.signature c.callee).filter
        Signature.isRequired).map (·.name) := by
    generalize e.definition.calls = calls at hinvoked
    induction hinvoked with
    | nil => rfl
    | @cons c stmt calls invoked hc _ ih =>
      have hfirst := hc.methodsOn hkeeps hhost hform
      rw [← List.singleton_append, methodsOn_append, hfirst, ih, List.map_cons, List.filter_cons]
      split_ifs <;> rfl
  have haround : ∀ {body : List Stmt}, Quiet context.host s body →
      methodsOn "receiver" body = [] := fun hbody => hbody.methodsOn_eq_nil hkeeps hhost
  have hfunction : ∀ body : List Stmt, methodsOn "receiver"
      [.function true e.handlerName [Param.typed "request" (.name "Request")] (.name "Response")
        body] = methodsOn "receiver" body := by
    intro body
    simp [methodsOn, Param.typed, Expr.callee?]
  rw [handlerOf, hfunction, ← List.singleton_append, methodsOn_append, methodsOn_append,
    methodsOn_append, methodsOn_append, haround (quiet_openingBody _ _ _), haround hbound, hinvoked,
    haround (quiet_renderBody htemplates haside _), haround (quiet_finishBody _ _ _)]
  simp

end

end FragmentRoutes.RoutesModule
