import FragmentRoutes.Proofs.Call.Names
import FragmentRoutes.Proofs.Config
import FragmentRoutes.Proofs.Imports.ReturnFree
import FragmentRoutes.Proofs.Resolution.WrittenNames
import FragmentRoutes.RoutesModule.Handler

/-!
# Handlers without returns

What is made for endpoints is put together from names, and from texts that are quoted.  `Preserving`
says of a step of the making that from imports without returns it makes imports without returns, and
a result with a property if it ends well.

If no return stands in the names that a handler is made from, those of the configuration and the
application (`Context.ReturnFree`) and those of the endpoint (`Endpoint.ReturnFree`), the handler is
without returns (`preserving_handler`).  The texts of labels, templates, fields and messages are
quoted, so nothing is asked of them.
-/

namespace FragmentRoutes

open Code Host Text

/-- No return stands in the names that an endpoint is made from. -/
structure Endpoint.ReturnFree (e : Endpoint) : Prop where
  ident : Text.ReturnFree e.ident
  params : ∀ p ∈ e.definition.label.params, Text.ReturnFree p
  call : ∀ call, e.definition.call = some call → call.Named Text.ReturnFree Token.maxDepth
  pathTypes : ∀ entry ∈ e.pathTypes, entry.2.ReturnFree

theorem Host.returnFree_of_item? {t item : HostType} (ht : t.ReturnFree)
    (h : Host.item? t = some item) : item.ReturnFree := by
  have hpresent : ∀ {u : HostType}, u.ReturnFree → Host.present? u = some item →
      item.ReturnFree := by
    intro u hu heq
    unfold Host.present? at heq
    split at heq
    · cases heq
    · exact Option.some.inj heq ▸ hu
  unfold Host.item? at h
  split at h
  · cases h
  · split_ifs at h
    · refine hpresent ?_ h
      cases hargs : t.args with
      | nil => exact HostType.returnFree_str
      | cons u us => exact ht.args u (hargs ▸ List.mem_cons_self)
    · split at h
      · rename_i u rest hargs
        split_ifs at h
        exact hpresent (ht.args u (hargs ▸ List.mem_cons_self)) h
      · cases h

namespace RoutesModule

/-- From imports without returns the step makes imports without returns, and if it ends well a
result with the property. -/
def Preserving {α : Type} (x : Making α) (post : α → Prop) : Prop :=
  Imports.Preserving x.run fun r => ∀ a, r = .ok a → post a

section

variable {α β : Type} {x : Making α} {f : α → Making β} {post : α → Prop} {post' : β → Prop}

theorem preserving_pure {a : α} (h : post a) : Preserving (pure a) post :=
  Imports.preserving_pure fun _ ha => Except.ok.inj ha ▸ h

theorem preserving_throw (fault : Fault) : Preserving (throw fault : Making α) post :=
  Imports.preserving_pure fun _ ha => by cases ha

theorem preserving_lift {y : Imports.Making α} (h : Imports.Preserving y post) :
    Preserving (liftM y : Making α) post :=
  h.bind fun _ ha => Imports.preserving_pure fun _ heq => Except.ok.inj heq ▸ ha

theorem Preserving.bind (h : Preserving x post) (h' : ∀ a, post a → Preserving (f a) post') :
    Preserving (x >>= f) post' := by
  unfold Preserving
  rw [ExceptT.run_bind]
  refine Imports.Preserving.bind h fun result hresult => ?_
  cases result with
  | ok a => exact h' a (hresult a rfl)
  | error fault => exact Imports.preserving_pure fun _ ha => by cases ha

theorem Preserving.ite {y : Making α} {c : Prop} [Decidable c] (h : Preserving x post)
    (h' : Preserving y post) : Preserving (if c then x else y) post := by
  split_ifs
  · exact h
  · exact h'

end

/-! ### Names in handlers -/

@[simp]
theorem returnFree_data_iff {name : String} : (data name).ReturnFree ↔ Text.ReturnFree name := by
  have htd : Text.ReturnFree "_td" := returnFree_ofList rfl
  simp [data, htd]

@[simp]
theorem returnFree_request_iff {name : String} :
    (request name).ReturnFree ↔ Text.ReturnFree name := by
  have hrequest : Text.ReturnFree "request" := returnFree_ofList rfl
  simp [request, hrequest]

@[simp]
theorem returnFree_response_iff {method : String} {args : List Expr} :
    (response method args).ReturnFree ↔ Text.ReturnFree method ∧ ∀ e ∈ args, e.ReturnFree := by
  have hresponse : Text.ReturnFree "response" := returnFree_ofList rfl
  simp [response, hresponse]

@[simp]
theorem returnFree_statusNamed_iff {name : String} :
    (statusNamed name).ReturnFree ↔ Text.ReturnFree name := by
  have hstatus : Text.ReturnFree "HTTPStatus" := returnFree_ofList rfl
  simp [statusNamed, hstatus]

theorem returnFree_noFailure : noFailure.ReturnFree := by
  rw [noFailure, Expr.returnFree_unary_iff, returnFree_data_iff]
  exact returnFree_ofList rfl

theorem returnFree_returnResponse : returnResponse.ReturnFree := by
  rw [returnResponse, Stmt.ReturnFree, returnFree_response_iff]
  exact ⟨returnFree_ofList rfl, List.forall_mem_nil _⟩

/-! ### Checks -/

theorem preserving_fail {error : Expr} (herror : error.ReturnFree) :
    Imports.Preserving (fail error) Stmt.AllReturnFree := by
  refine (Imports.preserving_ref (returnFree_ofList rfl) (returnFree_ofList rfl)).bind
    fun status hstatus => Imports.preserving_pure ?_
  simp only [Stmt.AllReturnFree, Stmt.ReturnFree, Expr.returnFree_apply_iff,
    Expr.returnFree_attribute_iff, returnFree_data_iff, Stmt.returnFree_setAttribute_iff,
    List.forall_mem_singleton, herror, hstatus]
  and_intros <;> first | trivial | exact returnFree_ofList rfl

theorem preserving_converted (kind : Conversion) {t : HostType} (ht : t.ReturnFree) {text : Expr}
    (htext : text.ReturnFree) : Imports.Preserving (converted kind t text) Expr.ReturnFree := by
  have hnamed : ∀ {name : String} {args : List Expr}, Text.ReturnFree name →
      (∀ e ∈ args, e.ReturnFree) → (Expr.applyName name args).ReturnFree := fun hname hargs =>
    Expr.returnFree_applyName_iff.mpr ⟨hname, hargs⟩
  cases kind with
  | str => exact Imports.preserving_pure htext
  | int => exact Imports.preserving_pure (hnamed (returnFree_ofList rfl) (by simp [htext]))
  | float => exact Imports.preserving_pure (hnamed (returnFree_ofList rfl) (by simp [htext]))
  | bool => exact Imports.preserving_pure (hnamed (returnFree_ofList rfl) (by simp [htext]))
  | text =>
    refine (Imports.preserving_typeExpr ht).bind fun front hfront => Imports.preserving_pure ?_
    rw [Expr.returnFree_apply_iff, Expr.returnFree_attribute_iff]
    exact ⟨⟨hfront, returnFree_ofList rfl⟩, List.forall_mem_singleton.mpr htext⟩

theorem preserving_broken (c : Constraint) {value : Expr} (hvalue : value.ReturnFree) :
    Imports.Preserving (broken c value) Expr.ReturnFree := by
  have hlength : (Expr.applyName "len" [value]).ReturnFree :=
    Expr.returnFree_applyName_iff.mpr
      ⟨returnFree_ofList rfl, List.forall_mem_singleton.mpr hvalue⟩
  rw [broken]
  cases c.kind with
  | pattern =>
    refine (Imports.preserving_moduleExpr (returnFree_ofList rfl)).bind
      fun module hmodule => Imports.preserving_pure ?_
    have hfullmatch : Text.ReturnFree "fullmatch" := returnFree_ofList rfl
    simp [hmodule, hvalue, hfullmatch]
  | _ => exact Imports.preserving_pure (by simp [hvalue, hlength])

theorem preserving_guards {name : String} (hname : Text.ReturnFree name) (cs : List Constraint) :
    Imports.Preserving (guards name cs) Stmt.AllReturnFree := by
  induction cs with
  | nil => exact Imports.preserving_pure trivial
  | cons c cs ih =>
    have herror : (Expr.applyName "ValueError" [.text c.message]).ReturnFree :=
      Expr.returnFree_applyName_iff.mpr ⟨returnFree_ofList rfl, by simp⟩
    have hguard : Imports.Preserving (guard name c) Stmt.ReturnFree :=
      (preserving_broken c (Expr.returnFree_name_iff.mpr hname)).bind fun test htest =>
        (preserving_fail herror).bind fun failure hfailure =>
          Imports.preserving_pure (Stmt.returnFree_when_iff.mpr ⟨htest, hfailure⟩)
    exact hguard.bind fun first hfirst => ih.bind fun rest hrest =>
      Imports.preserving_pure ⟨hfirst, hrest⟩

theorem preserving_bindConverted {name : String} (hname : Text.ReturnFree name) (kind : Conversion)
    {t : HostType} (ht : t.ReturnFree) {text : Expr} (htext : text.ReturnFree)
    (cs : List Constraint) {next : List Stmt} (hnext : Stmt.AllReturnFree next) :
    Imports.Preserving (bindConverted name kind t text cs next) Stmt.AllReturnFree := by
  have herr : Text.ReturnFree "_err" := returnFree_ofList rfl
  have herror : Text.ReturnFree "ValueError" := returnFree_ofList rfl
  refine (preserving_guards hname cs).bind fun checks hchecks => .ite ?_ ?_
  · exact Imports.preserving_pure (by simp [hname, htext, hchecks, hnext])
  · refine (preserving_converted kind ht htext).bind fun value hvalue =>
      (preserving_fail (Expr.returnFree_name_iff.mpr herr)).bind fun failure hfailure =>
        Imports.preserving_pure ?_
    simp [hname, hvalue, herr, herror, hfailure, hchecks, hnext]

/-! ### What modules are made from -/

/-- No return stands in the names that a module is made from. -/
structure Context.ReturnFree (context : Context) : Prop where
  config : context.config.Named
  host : context.host.ReturnFree
  signatures : ∀ g ∈ context.signatures, g.ReturnFree
  templates : context.templates.ReturnFree


/-- The signature of a callee is without returns, whether it was recorded or not. -/
theorem Context.ReturnFree.signature {context : Context} (h : context.ReturnFree) {callee : String}
    (hcallee : Text.ReturnFree callee) : (context.signature callee).ReturnFree := by
  rw [Context.signature]
  cases hfind : context.signatures.find? fun s => s.name == callee with
  | none => exact ⟨hcallee, returnFree_empty, by simp [unknownSignature], HostType.returnFree_any,
      HostType.returnFree_any⟩
  | some g => exact h.signatures g (List.mem_of_find?_eq_some hfind)

/-! ### Arguments -/

/-- No return stands in the expression for the form. -/
def Bindings.ReturnFree (bindings : Bindings) : Prop :=
  ∀ t value, bindings.form = .struct t value → value.ReturnFree

theorem Bindings.ReturnFree.value {bindings : Bindings} (h : bindings.ReturnFree) {id : String}
    (hid : Text.ReturnFree id) : (bindings.value id).ReturnFree := by
  unfold Bindings.value
  split
  · exact returnFree_request_iff.mpr (returnFree_ofList rfl)
  · exact Expr.returnFree_name_iff.mpr (returnFree_ofList rfl)
  · exact Expr.returnFree_name_iff.mpr (returnFree_ofList rfl)
  · split
    · rename_i t value hform
      exact h t value hform
    · exact Expr.returnFree_name_iff.mpr (returnFree_ofList rfl)
  · exact Expr.returnFree_name_iff.mpr ((returnFree_ofList rfl).append hid)

/-- What was bound, with the statements that bind it, is without returns. -/
def BoundReturnFree (r : Bindings × List Stmt) : Prop :=
  r.1.ReturnFree ∧ Stmt.AllReturnFree r.2

section

variable {context : Context} (h : context.ReturnFree) (definition : Definition)

theorem preserving_bindPath {param : Signature.Param} (hparam : param.ReturnFree) {id : String}
    (hid : Text.ReturnFree id) {bindings : Bindings} (hbindings : bindings.ReturnFree) :
    Preserving (bindPath context definition param id bindings) BoundReturnFree := by
  rw [bindPath]
  split
  · exact .ite (preserving_pure ⟨hbindings, trivial⟩) (preserving_throw _)
  · split
    · exact preserving_throw _
    · rename_i kind _
      have hlocal : Text.ReturnFree (pathLocal id) := (returnFree_ofList rfl).append hid
      have htype : (if kind == .str then HostType.str else param.type.unwrap).ReturnFree := by
        split_ifs
        · exact HostType.returnFree_str
        · exact hparam.2.unwrap
      have htext : (Expr.subscript (request "path_params") (.text id)).ReturnFree := by
        rw [Expr.returnFree_subscript_iff, returnFree_request_iff]
        exact ⟨returnFree_ofList rfl, Expr.returnFree_text _⟩
      exact (preserving_lift (preserving_bindConverted hlocal kind htype htext []
        (show Stmt.AllReturnFree [] from trivial))).bind
        fun body hbody => preserving_pure ⟨hbindings, hbody⟩

theorem preserving_bindField (struct : HostType) {field : FormField}
    (hfield : field.type.ReturnFree) :
    Preserving (bindField context definition struct field) Stmt.AllReturnFree := by
  have hvalue : Text.ReturnFree "_value" := returnFree_ofList rfl
  have hvalues : Text.ReturnFree "_values" := returnFree_ofList rfl
  have htext : Text.ReturnFree "_text" := returnFree_ofList rfl
  have hform : Text.ReturnFree "_form" := returnFree_ofList rfl
  have hplace : (fieldPlace field).ReturnFree := by
    rw [fieldPlace, Expr.returnFree_subscript_iff]
    exact ⟨Expr.returnFree_name_iff.mpr (returnFree_ofList rfl), Expr.returnFree_text _⟩
  have hitem : ((Host.item? field.type).getD field.type).unwrap.ReturnFree := by
    refine HostType.ReturnFree.unwrap ?_
    cases hitem : Host.item? field.type with
    | none => exact hfield
    | some item => exact Host.returnFree_of_item? hfield hitem
  have hconstraints : ∀ t,
      Preserving (fieldConstraints context definition field t) fun _ => True := by
    intro t
    rw [fieldConstraints]
    split
    · exact preserving_throw _
    · split
      · exact preserving_pure trivial
      · exact preserving_throw _
  rw [bindField]
  dsimp only
  split
  · exact preserving_throw _
  · rename_i kind _
    have htype : (if kind == .str then HostType.str
        else ((Host.item? field.type).getD field.type).unwrap).ReturnFree := by
      split_ifs
      · exact HostType.returnFree_str
      · exact hitem
    refine (hconstraints _).bind fun cs _ => .ite ?_ ?_
    · have hkeep : Stmt.AllReturnFree
          [.expr (.apply (.attribute (.name "_values") "append") [.name "_value"])] := by
        have happend : Text.ReturnFree "append" := returnFree_ofList rfl
        simp [hvalues, hvalue, happend]
      refine (preserving_lift (preserving_bindConverted hvalue kind htype
        (Expr.returnFree_name_iff.mpr htext) cs hkeep)).bind fun body hbody => preserving_pure ?_
      have hgetlist : Text.ReturnFree "getlist" := returnFree_ofList rfl
      have htuple : Text.ReturnFree "tuple" := returnFree_ofList rfl
      split_ifs <;> simp [hplace, hvalues, htext, hform, hbody, hgetlist, htuple]
    · have hget : Text.ReturnFree "get" := returnFree_ofList rfl
      exact preserving_lift (preserving_bindConverted hvalue kind htype (by simp [hform, hget]) cs
        (by simp [hplace, hvalue]))

theorem preserving_bindFields (struct : HostType) {fields : List FormField}
    (hfields : ∀ field ∈ fields, field.type.ReturnFree) :
    Preserving (bindFields context definition struct fields) Stmt.AllReturnFree := by
  induction fields with
  | nil => exact preserving_pure trivial
  | cons field fields ih =>
    rw [List.forall_mem_cons] at hfields
    exact (preserving_bindField definition struct hfields.1).bind fun first hfirst =>
      (ih hfields.2).bind fun rest hrest =>
        preserving_pure (Stmt.allReturnFree_append_iff.mpr ⟨hfirst, hrest⟩)

include h

theorem preserving_bindStruct {struct : HostType} (hstruct : struct.ReturnFree) :
    Preserving (bindStruct context definition struct) fun r =>
      r.1.ReturnFree ∧ Stmt.AllReturnFree r.2 := by
  have hfields : Text.ReturnFree "_form_fields" := returnFree_ofList rfl
  have hmodel : Text.ReturnFree "model_construct" := returnFree_ofList rfl
  have hset : (Stmt.set "_form_fields" (.dict [])).ReturnFree := by simp [hfields]
  have hfront : ∀ {front : Expr} (isModel : Bool), front.ReturnFree →
      (if isModel then front.attribute "model_construct" else front).ReturnFree := by
    intro front isModel hfront
    split_ifs
    · exact Expr.returnFree_attribute_iff.mpr ⟨hfront, hmodel⟩
    · exact hfront
  rw [bindStruct]
  dsimp only
  split
  · rename_i c _
    refine (preserving_bindFields definition struct (h.host.formFields c)).bind fun body hbody =>
      (preserving_lift (Imports.preserving_typeExpr hstruct)).bind fun front hfree =>
        preserving_pure ⟨?_, hset, hbody⟩
    simp [hfront, hfree, hfields]
  · refine (preserving_bindFields definition struct (by simp)).bind fun body hbody =>
      (preserving_lift (Imports.preserving_typeExpr hstruct)).bind fun front hfree =>
        preserving_pure ⟨?_, hset, hbody⟩
    simp [hfree, hfields]

theorem preserving_bindForm {param : Signature.Param} (hparam : param.ReturnFree)
    {bindings : Bindings} (hbindings : bindings.ReturnFree) :
    Preserving (bindForm context definition param bindings) BoundReturnFree := by
  have hread : Stmt.AllReturnFree (if bindings.formRead then [] else
      [Stmt.set "_form" (.await (.applyName "_read_form" [.name "request"]))]) := by
    have hform : Text.ReturnFree "_form" := returnFree_ofList rfl
    have hreadForm : Text.ReturnFree "_read_form" := returnFree_ofList rfl
    have hrequest : Text.ReturnFree "request" := returnFree_ofList rfl
    split_ifs
    · trivial
    · simp [hform, hreadForm, hrequest]
  rw [bindForm]
  refine .ite ?_ ?_
  · dsimp only
    split
    · exact .ite (preserving_pure ⟨hbindings, hread⟩) (preserving_throw _)
    · refine (preserving_bindStruct h definition hparam.2).bind fun r hr => preserving_pure ⟨?_, ?_⟩
      · rintro t value heq
        cases heq
        exact hr.1
      · exact Stmt.allReturnFree_append_iff.mpr ⟨hread, hr.2⟩
  · dsimp only
    split
    · exact preserving_pure ⟨fun t value heq => (by cases heq), hread⟩
    · exact preserving_pure ⟨hbindings, hread⟩

theorem preserving_bindArguments {bindings : Bindings} (hbindings : bindings.ReturnFree)
    {uses : List (Signature.Param × String)}
    (huses : ∀ use ∈ uses, use.1.ReturnFree ∧ Text.ReturnFree use.2) :
    Preserving (bindArguments context definition bindings uses) BoundReturnFree := by
  induction uses generalizing bindings with
  | nil => exact preserving_pure ⟨hbindings, trivial⟩
  | cons use uses ih =>
    obtain ⟨⟨hparam, hid⟩, huses⟩ := List.forall_mem_cons.mp huses
    have hrest : ∀ r, BoundReturnFree r → Preserving (do
        let r' ← bindArguments context definition r.1 uses
        return (r'.1, r.2 ++ r'.2)) BoundReturnFree := fun r hr =>
      (ih hr.1 huses).bind fun r' hr' =>
        preserving_pure ⟨hr'.1, Stmt.allReturnFree_append_iff.mpr ⟨hr.2, hr'.2⟩⟩
    rw [bindArguments]
    exact .ite ((preserving_bindPath definition hparam hid hbindings).bind hrest)
      (.ite ((preserving_bindForm h definition hparam hbindings).bind hrest)
        ((preserving_pure ⟨hbindings, trivial⟩).bind hrest))

end

/-! ### Calls -/

theorem returnFree_resultBody (signature : Signature) {target : String}
    (htarget : Text.ReturnFree target) {call : Expr} (hcall : call.ReturnFree) (isOuter : Bool) :
    Stmt.AllReturnFree (resultBody signature target call isOuter) := by
  have htd : Text.ReturnFree "_td" := returnFree_ofList rfl
  have herr : Text.ReturnFree "_err" := returnFree_ofList rfl
  have hok : Text.ReturnFree "_ok" := returnFree_ofList rfl
  have hresult : Text.ReturnFree "_result" := returnFree_ofList rfl
  have herrors : Text.ReturnFree "_errors" := returnFree_ofList rfl
  have happend : Text.ReturnFree "append" := returnFree_ofList rfl
  have hcode : Text.ReturnFree "_err_status_code" := returnFree_ofList rfl
  have hstatus : Text.ReturnFree "_error_status" := returnFree_ofList rfl
  have hkept : Stmt.AllReturnFree (if isOuter then [keepResult target, keepSuccess] else []) := by
    split_ifs
    · simp [keepResult, keepSuccess, htd, hresult, htarget, hok]
    · trivial
  unfold resultBody
  dsimp only
  split
  · simp [htarget, hcall, hkept]
  · cases isOuter <;>
      simp [keepResult, keepSuccess, htarget, hcall, htd, herr, hok, hresult, herrors, happend,
        hcode, hstatus]
  · simp [htarget, hcall, hok, returnFree_returnResponse, hkept]

section

variable {context : Context} (h : context.ReturnFree)

include h

theorem preserving_invoke {callee target : String} (hcallee : Text.ReturnFree callee)
    (htarget : Text.ReturnFree target) {args : List Expr} (hargs : ∀ e ∈ args, e.ReturnFree)
    (isOuter : Bool) :
    Imports.Preserving (invoke context callee target args isOuter) Stmt.ReturnFree := by
  have hsignature := h.signature hcallee
  have hreceiver : (Expr.attribute (.name "receiver") (context.signature callee).name).ReturnFree :=
    Expr.returnFree_attribute_iff.mpr
      ⟨Expr.returnFree_name_iff.mpr (returnFree_ofList rfl), hsignature.name⟩
  have hcall : ∀ front : Expr, front.ReturnFree → Imports.Preserving
      (pure (if (context.signature callee).isAsync then .await (front.apply args)
        else front.apply args)) Expr.ReturnFree := by
    intro front hfront
    have happly : (front.apply args).ReturnFree := Expr.returnFree_apply_iff.mpr ⟨hfront, hargs⟩
    refine Imports.preserving_pure ?_
    split_ifs
    · exact Expr.returnFree_await_iff.mpr happly
    · exact happly
  have hinvocation : Imports.Preserving (invocation (context.signature callee) args)
      Expr.ReturnFree :=
    .ite ((Imports.preserving_pure hreceiver).bind hcall)
      ((Imports.preserving_ref hsignature.module hsignature.name).bind hcall)
  exact hinvocation.bind fun call hcall => Imports.preserving_pure (Stmt.returnFree_when_iff.mpr
    ⟨returnFree_noFailure, returnFree_resultBody _ htarget hcall isOuter⟩)

end

mutual

theorem preserving_invokeArgument {context : Context} (h : context.ReturnFree)
    {bindings : Bindings} (hbindings : bindings.ReturnFree) :
    ∀ {depth : Nat} (n : Nat) {a : Argument}, a.Named Text.ReturnFree depth →
      Imports.Preserving (invokeArgument context bindings n a) fun r =>
        r.1.ReturnFree ∧ Stmt.AllReturnFree r.2.2
  | _, n, .name id, .name hid => by
    rw [invokeArgument]
    exact Imports.preserving_pure ⟨hbindings.value hid, trivial⟩
  | _, n, .call callee args, .call hcallee hargs => by
    rw [invokeArgument]
    refine (preserving_invokeArguments h hbindings n hargs).bind fun r hr => ?_
    have htarget : Text.ReturnFree (resultLocal (r.2.1 + 1)) :=
      (returnFree_ofList rfl).append (returnFree_toString_nat _)
    exact (preserving_invoke h hcallee htarget hr.1 false).bind fun block hblock =>
      Imports.preserving_pure
        ⟨Expr.returnFree_name_iff.mpr htarget, by simp [hr.2, hblock]⟩

theorem preserving_invokeArguments {context : Context} (h : context.ReturnFree)
    {bindings : Bindings} (hbindings : bindings.ReturnFree) :
    ∀ {depth : Nat} (n : Nat) {as : List Argument}, (∀ a ∈ as, a.Named Text.ReturnFree depth) →
      Imports.Preserving (invokeArguments context bindings n as) fun r =>
        (∀ e ∈ r.1, e.ReturnFree) ∧ Stmt.AllReturnFree r.2.2
  | _, n, [], _ => by
    rw [invokeArguments]
    exact Imports.preserving_pure ⟨List.forall_mem_nil _, trivial⟩
  | _, n, a :: as, has => by
    rw [List.forall_mem_cons] at has
    rw [invokeArguments]
    exact (preserving_invokeArgument h hbindings n has.1).bind fun r hr =>
      (preserving_invokeArguments h hbindings r.2.1 has.2).bind fun r' hr' =>
        Imports.preserving_pure ⟨List.forall_mem_cons.mpr ⟨hr.1, hr'.1⟩,
          Stmt.allReturnFree_append_iff.mpr ⟨hr.2, hr'.2⟩⟩

end

mutual

theorem returnFree_boundArgument {context : Context} (h : context.ReturnFree)
    {param : Signature.Param} (hparam : param.ReturnFree) :
    ∀ {depth : Nat} {a : Argument}, a.Named Text.ReturnFree depth →
      ∀ use ∈ boundArgument context param a, use.1.ReturnFree ∧ Text.ReturnFree use.2
  | _, .name id, .name hid => by
    rw [boundArgument]
    exact List.forall_mem_singleton.mpr ⟨hparam, hid⟩
  | _, .call callee args, .call hcallee hargs => by
    rw [boundArgument]
    exact returnFree_boundArguments h (h.signature hcallee).params hargs

theorem returnFree_boundArguments {context : Context} (h : context.ReturnFree) :
    ∀ {depth : Nat} {ps : List Signature.Param} {as : List Argument},
      (∀ p ∈ ps, p.ReturnFree) → (∀ a ∈ as, a.Named Text.ReturnFree depth) →
      ∀ use ∈ boundArguments context ps as, use.1.ReturnFree ∧ Text.ReturnFree use.2
  | _, [], _, _, _ => by simp [boundArguments]
  | _, _ :: _, [], _, _ => by simp [boundArguments]
  | _, p :: ps, a :: as, hps, has => by
    rw [List.forall_mem_cons] at hps has
    rw [boundArguments]
    exact List.forall_mem_append.mpr
      ⟨returnFree_boundArgument h hps.1 has.1, returnFree_boundArguments h hps.2 has.2⟩

end

section

variable {context : Context} (h : context.ReturnFree)

include h

theorem preserving_callBody {definition : Definition} (hcall : ∀ call,
    definition.call = some call → call.Named Text.ReturnFree Token.maxDepth) :
    Preserving (callBody context definition) Stmt.AllReturnFree := by
  rw [callBody]
  split
  · exact preserving_pure trivial
  · rename_i call heq
    obtain ⟨depth, hcallee, hnamed⟩ : ∃ depth, Text.ReturnFree call.callee ∧
        ∀ a ∈ call.args, a.Named Text.ReturnFree depth := by
      cases hcall call heq with
      | call hcallee hargs => exact ⟨_, hcallee, hargs⟩
    have hstart : Bindings.ReturnFree ⟨[], false, .unused⟩ := fun t value heq => by cases heq
    refine (preserving_bindArguments h definition hstart
      (returnFree_boundArguments h (h.signature hcallee).params hnamed)).bind fun r hr => ?_
    have hinvoked : Imports.Preserving (invokeCall context r.1 call) Stmt.AllReturnFree :=
      (preserving_invokeArguments h hr.1 0 hnamed).bind fun r' hr' =>
        (preserving_invoke h hcallee (returnFree_ofList rfl) hr'.1 true).bind fun block hblock =>
          Imports.preserving_pure (by simp [hr'.2, hblock])
    exact (preserving_lift hinvoked).bind fun invoked hinvoked =>
      preserving_pure (Stmt.allReturnFree_append_iff.mpr ⟨hr.2, hinvoked⟩)

end

/-! ### Rendering -/

theorem returnFree_logFields (definition : Definition) :
    (∀ name, (logFields definition).1 = some name → Text.ReturnFree name) ∧
      (logFields definition).2.ReturnFree := by
  have hextra : Text.ReturnFree "extra" := returnFree_ofList rfl
  have hurl : Text.ReturnFree "url" := returnFree_ofList rfl
  have hpath : Text.ReturnFree "path" := returnFree_ofList rfl
  simp [logFields, hextra, hurl, hpath]

theorem returnFree_renderBody {context : Context} (h : context.ReturnFree)
    (definition : Definition) : (renderBody context definition).ReturnFree := by
  have hlogger : Text.ReturnFree (if context.config.logger then "logger" else "_logger") := by
    split_ifs
    · exact returnFree_ofList rfl
    · exact returnFree_ofList rfl
  have hbody : Text.ReturnFree "_body" := returnFree_ofList rfl
  have hrender : (renderFragment context definition).ReturnFree := by
    simp only [renderFragment, Stmt.ReturnFree, Stmt.AllReturnFree, Stmt.returnFree_set_iff,
      Expr.returnFree_call_iff, Expr.returnFree_attribute_iff, Expr.returnFree_apply_iff,
      Expr.returnFree_name_iff, Expr.returnFree_text, returnFree_statusNamed_iff,
      List.forall_mem_singleton, Option.mem_def, Option.some.injEq, forall_eq', h.templates,
      returnFree_logFields definition, hlogger, hbody, List.not_mem_nil, reduceCtorEq,
      false_implies, implies_true, true_and, and_true]
    and_intros
    all_goals first
      | exact returnFree_ofList rfl
      | exact (returnFree_logFields definition).1
  rw [renderBody]
  split_ifs
  · exact hrender
  · simp only [Stmt.ReturnFree, Stmt.AllReturnFree, Stmt.returnFree_set_iff,
      Expr.returnFree_applyName_iff, List.forall_mem_singleton, returnFree_data_iff,
      returnFree_noFailure, hrender, hbody, true_and, and_true]
    exact ⟨returnFree_ofList rfl, returnFree_ofList rfl⟩

theorem returnFree_statusExpr (code : Nat) : (statusExpr code).ReturnFree := by
  have hnames : ∀ e ∈ Route.Status.registered, Text.ReturnFree e.1 := by
    simp only [Route.Status.registered, List.forall_mem_cons, List.not_mem_nil, false_implies,
      implies_true, and_true]
    and_intros
    all_goals exact returnFree_ofList rfl
  rw [statusExpr]
  split
  · rename_i name hname
    obtain ⟨e, he, rfl⟩ := Option.map_eq_some_iff.mp hname
    exact returnFree_statusNamed_iff.mpr (hnames e (List.mem_of_find?_eq_some he))
  · exact Expr.returnFree_int _

theorem returnFree_finishBody (context : Context) (e : Endpoint) :
    Stmt.AllReturnFree (finishBody context e) := by
  have hbody : Text.ReturnFree "_body" := returnFree_ofList rfl
  have hdata : Text.ReturnFree "_data" := returnFree_ofList rfl
  have hstatus : Text.ReturnFree "_status" := returnFree_ofList rfl
  have hresponse : Text.ReturnFree "response" := returnFree_ofList rfl
  have hwrite : Text.ReturnFree "write" := returnFree_ofList rfl
  have hurl : (data "_redirect_url").ReturnFree :=
    returnFree_data_iff.mpr (returnFree_ofList rfl)
  have hheaders : (Expr.attribute (.name "response") "headers").ReturnFree := by
    rw [Expr.returnFree_attribute_iff, Expr.returnFree_name_iff]
    exact ⟨hresponse, returnFree_ofList rfl⟩
  have htold : ∀ told, resultStatus? context.host e.signature = some told → told.ReturnFree := by
    have hcode : (Expr.attribute (data "_result") "status_code").ReturnFree := by
      rw [Expr.returnFree_attribute_iff, returnFree_data_iff]
      exact ⟨returnFree_ofList rfl, returnFree_ofList rfl⟩
    intro told htold
    unfold resultStatus? at htold
    split at htold
    · cases htold
    · obtain rfl := Option.some.inj htold
      exact Expr.returnFree_apply_iff.mpr ⟨hcode, List.forall_mem_nil _⟩
    · obtain rfl := Option.some.inj htold
      exact hcode
  have hchain : (statusChain context e).ReturnFree := by
    have hcode : (data "_status_code").ReturnFree := returnFree_data_iff.mpr (returnFree_ofList rfl)
    have herr : (data "_err_status_code").ReturnFree :=
      returnFree_data_iff.mpr (returnFree_ofList rfl)
    have hok : (data "_ok").ReturnFree := returnFree_data_iff.mpr (returnFree_ofList rfl)
    unfold statusChain
    dsimp only
    split
    · rename_i told hfound
      simp [-returnFree_data_iff, hcode, herr, hok, htold told hfound, returnFree_statusExpr]
    · simp [-returnFree_data_iff, hcode, herr, returnFree_statusExpr]
  have hredirect : Stmt.AllReturnFree (if e.redirects then redirectBody else []) := by
    have hname : Text.ReturnFree "redirect" := returnFree_ofList rfl
    split_ifs
    · simp [-returnFree_data_iff, redirectBody, hname, hurl, hstatus, returnFree_returnResponse]
    · trivial
  have hflush : Stmt.AllReturnFree flushBody := by
    simp only [flushBody, header, Stmt.AllReturnFree, Stmt.ReturnFree, Stmt.returnFree_when_iff,
      Stmt.returnFree_set_iff, Expr.returnFree_compare_iff, Expr.returnFree_text,
      Expr.returnFree_subscript_iff, Expr.returnFree_apply_iff, Expr.returnFree_applyName_iff,
      Expr.returnFree_attribute_iff, Expr.returnFree_name_iff, returnFree_response_iff,
      List.forall_mem_singleton, hbody, hdata, hstatus, hresponse, hwrite,
      returnFree_returnResponse, true_and, and_true]
    and_intros
    all_goals exact returnFree_ofList rfl
  rw [finishBody]
  split_ifs
  · simp [hwrite, hbody, returnFree_returnResponse]
  all_goals simp_all

theorem returnFree_openingBody {context : Context} (h : context.ReturnFree)
    (definition : Definition) : Stmt.AllReturnFree (openingBody context definition) := by
  have hresponse : Text.ReturnFree "response" := returnFree_ofList rfl
  have hwriter : Text.ReturnFree "ResponseWriter" := returnFree_ofList rfl
  have htd : Text.ReturnFree "_td" := returnFree_ofList rfl
  have hreceiver : Text.ReturnFree "receiver" := returnFree_ofList rfl
  have hrequest : Text.ReturnFree "request" := returnFree_ofList rfl
  have hpaths : Text.ReturnFree "_paths" := returnFree_ofList rfl
  have hlogger : Text.ReturnFree "logger" := returnFree_ofList rfl
  have hdebug : Text.ReturnFree "debug" := returnFree_ofList rfl
  have hdata := returnFree_of_isName h.config.templateDataType
  have hlog := returnFree_logFields definition
  unfold openingBody
  dsimp only
  split_ifs <;> simp_all

/-- **The handler of an endpoint** is without returns. -/
theorem preserving_handler {context : Context} (h : context.ReturnFree) {e : Endpoint}
    (he : e.ReturnFree) : Preserving (handler context e) Stmt.ReturnFree := by
  have hrequest : Text.ReturnFree "request" := returnFree_ofList rfl
  have htype : Text.ReturnFree "Request" := returnFree_ofList rfl
  have hresponse : Text.ReturnFree "Response" := returnFree_ofList rfl
  have hname : Text.ReturnFree e.handlerName := (returnFree_ofList rfl).append he.ident
  refine (preserving_callBody h he.call).bind fun called hcalled => preserving_pure ?_
  have hnone : ∀ rest, description? (openingBody context e.definition ++ rest) = none :=
    fun rest => rfl
  simp [hname, hrequest, htype, hresponse, hcalled, hnone, returnFree_openingBody h,
    returnFree_renderBody h, returnFree_finishBody]

end RoutesModule

end FragmentRoutes
