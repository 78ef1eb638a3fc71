import FragmentRoutes.Proofs.RoutesModule.Handler

/-!
# The form as an argument

A handler passes one value for the form, wherever the form is an argument.  `handler_form` says
when there is a handler at all, when this value fits all parameters that it is passed to, and when
it does not matter in which order the parameters stand.

A class after a parameter that takes the form as it is is a fault, but a parameter that takes the
form as it is after a class is given the class (`not_formFits_after_class`).
-/

namespace FragmentRoutes.RoutesModule

open Code Host Resolution

/-- The type of the form as it is. -/
def formType : HostType :=
  .cls (.standard "starlette.datastructures" "FormData")

/-- The type of what the form is passed as. -/
def FormUse.givenType : FormUse → HostType
  | .struct type _ => type
  | _ => formType

/-- What the form is passed as **fits** a parameter: it is accepted, a class is given a value of
that very class, and a parameter of the type of forms is given the form as it is. -/
structure FormFits (context : Context) (s : Imports) (use : FormUse) (param : Signature.Param) :
    Prop where
  accepted : context.host.accepts param.type use.givenType = true
  struct : context.host.isStruct param.type = true →
    ∃ value, use = .struct param.type value ∧ Constructs context s param.type value
  whole : param.type = formType → use = .whole

/-- The parameters **mix** a class with parameters that are none: there is one class, which the
form can be read into, and a parameter that is no class. -/
def Mixes (context : Context) (definition : Definition) (params : List Signature.Param) : Prop :=
  (∃ q ∈ params, context.host.isStruct q.type = false) ∧
    ∃ c ∈ params, context.host.isStruct c.type = true ∧ Readable context definition c.type ∧
      ∀ q ∈ params, context.host.isStruct q.type = true → q.type = c.type

/-! ### The order of the parameters -/

section

variable {context : Context} {definition : Definition} {params order : List Signature.Param}

theorem Mixes.perm (hperm : order.Perm params) (h : Mixes context definition order) :
    Mixes context definition params := by
  obtain ⟨⟨q, hq, hplain⟩, c, hc, hstruct, hreadable, hall⟩ := h
  exact ⟨⟨q, hperm.mem_iff.mp hq, hplain⟩, c, hperm.mem_iff.mp hc, hstruct, hreadable,
    fun r hr => hall r (hperm.mem_iff.mpr hr)⟩

/-- Unless they mix a class with others, there is no value for the parameters exactly if one of
them is a class that cannot be read or that another parameter is not. -/
theorem formFails_iff_of_not_mixes (h : ¬Mixes context definition params) :
    FormFails context definition params ↔
      ∃ c ∈ params, context.host.isStruct c.type = true ∧
        (¬Readable context definition c.type ∨ ∃ q ∈ params, q.type ≠ c.type) := by
  cases params with
  | nil => simp [FormFails]
  | cons first rest =>
    rw [FormFails]
    by_cases hfirst : context.host.isStruct first.type = true
    · rw [if_pos hfirst]
      constructor
      · rintro (hreadable | ⟨q, hq, hqstruct, hne⟩)
        · exact ⟨first, List.mem_cons_self, hfirst, Or.inl hreadable⟩
        · exact ⟨first, List.mem_cons_self, hfirst, Or.inr ⟨q, List.mem_cons_of_mem _ hq, hne⟩⟩
      · rintro ⟨c, hc, hcstruct, hfails⟩
        by_contra hnone
        rw [not_or, not_not, not_exists] at hnone
        obtain ⟨hreadable, hrest⟩ := hnone
        -- all classes are the first one, which can be read
        have hall : ∀ q ∈ first :: rest, context.host.isStruct q.type = true →
            q.type = first.type := by
          intro q hq hqstruct
          rcases List.mem_cons.mp hq with rfl | hq
          · rfl
          · by_contra hne
            exact hrest q ⟨hq, hqstruct, hne⟩
        rw [hall c hc hcstruct] at hfails
        rcases hfails with hfails | ⟨q, hq, hne⟩
        · exact hfails hreadable
        · -- so the parameter that differs is no class
          refine h ⟨⟨q, hq, ?_⟩, first, List.mem_cons_self, hfirst, hreadable, hall⟩
          rw [Bool.eq_false_iff]
          exact fun hqstruct => hne (hall q hq hqstruct)
    · rw [if_neg hfirst]
      have hdiffers : ∀ q : Signature.Param, context.host.isStruct q.type = true →
          first.type ≠ q.type := by
        intro q hq heq
        rw [heq] at hfirst
        exact hfirst hq
      constructor
      · rintro ⟨q, hq, hqstruct⟩
        exact ⟨q, List.mem_cons_of_mem _ hq, hqstruct,
          Or.inr ⟨first, List.mem_cons_self, hdiffers q hqstruct⟩⟩
      · rintro ⟨c, hc, hcstruct, -⟩
        rcases List.mem_cons.mp hc with rfl | hc
        · exact absurd hcstruct hfirst
        · exact ⟨c, hc, hcstruct⟩

/-- **The order of the parameters does not matter** exactly if they do not mix a class with
others. -/
theorem formFails_perm_iff :
    (∀ order : List Signature.Param, order.Perm params →
      (FormFails context definition order ↔ FormFails context definition params)) ↔
      ¬Mixes context definition params := by
  constructor
  · rintro hsame ⟨⟨q, hq, hplain⟩, c, hc, hstruct, hreadable, hall⟩
    -- with the class in front there is a value, and with the other in front there is none
    obtain ⟨before, after, hclass⟩ := List.append_of_mem hc
    have hclassFirst : (c :: (before ++ after)).Perm params := by
      rw [hclass]
      exact List.perm_middle.symm
    have hvalue : ¬FormFails context definition (c :: (before ++ after)) := by
      rw [FormFails, if_pos hstruct]
      rintro (h | ⟨r, hr, hrstruct, hne⟩)
      · exact h hreadable
      · exact hne (hall r (hclassFirst.mem_iff.mp (List.mem_cons_of_mem _ hr)) hrstruct)
    obtain ⟨before', after', hother⟩ := List.append_of_mem hq
    have hotherFirst : (q :: (before' ++ after')).Perm params := by
      rw [hother]
      exact List.perm_middle.symm
    have hnone : FormFails context definition (q :: (before' ++ after')) := by
      rw [FormFails, hplain]
      rcases List.mem_cons.mp (hotherFirst.mem_iff.mpr hc) with rfl | hc'
      · rw [hplain] at hstruct
        cases hstruct
      · exact ⟨c, hc', hstruct⟩
    exact hvalue ((hsame _ hclassFirst).mpr ((hsame _ hotherFirst).mp hnone))
  · intro h order hperm
    have h' : ¬Mixes context definition order := fun hmixes => h (hmixes.perm hperm)
    rw [formFails_iff_of_not_mixes h, formFails_iff_of_not_mixes h']
    simp only [hperm.mem_iff]

end

/-! ### What handlers pass -/

section

variable {context : Context} {e : Endpoint} {call : Call}

/-- A parameter that is no class accepts the form as it is. -/
theorem accepts_formType (h : context.Resolves e) (hcall : e.definition.call = some call)
    {param : Signature.Param} (hparam : param ∈ formParams (context.uses call))
    (hplain : context.host.isStruct param.type = false) :
    context.host.accepts param.type formType = true := by
  have htyped := argumentTyped_of_mem_uses (fun c hc => h.callTyped hcall hc)
    (mem_formParams_iff.mp hparam)
  cases htyped with
  | path hid _ _ => exact absurd hid h.form_notMem_params
  | form _ hstruct =>
    rw [hplain] at hstruct
    cases hstruct
  | reserved _ haccepts => exact haccepts

/-- The value that is given fits all parameters exactly if the first is no class, or every one
accepts this class and none is of the type of forms. -/
theorem formFits_iff (h : context.Resolves e) (hcall : e.definition.call = some call)
    {s : Imports} {use : FormUse}
    (hgiven : FormGiven context e.definition s (formParams (context.uses call)) use) :
    (∀ param ∈ formParams (context.uses call), FormFits context s use param) ↔
      ∀ first ∈ (formParams (context.uses call)).head?,
        context.host.isStruct first.type = true →
          ∀ q ∈ formParams (context.uses call),
            context.host.accepts q.type first.type = true ∧ q.type ≠ formType := by
  have haccepts := @accepts_formType context e call h hcall
  generalize formParams (context.uses call) = params at hgiven haccepts ⊢
  cases hgiven with
  | unused => simp
  | @whole first rest hplain =>
    refine iff_of_true (fun q hq => ⟨haccepts hq (hplain q hq), fun hstruct => ?_, fun _ => rfl⟩) ?_
    · rw [hplain q hq] at hstruct
      cases hstruct
    · intro q hq hstruct
      obtain rfl := Option.some.inj hq
      rw [hplain first List.mem_cons_self] at hstruct
      cases hstruct
  | @struct first rest value hstruct hreadable hrest hvalue =>
    constructor
    · intro hfits q hq _ r hr
      obtain rfl := Option.some.inj hq
      refine ⟨(hfits r hr).accepted, fun hform => ?_⟩
      cases (hfits r hr).whole hform
    · intro hall q hq
      obtain ⟨haccepted, hne⟩ := hall first rfl hstruct q hq
      refine ⟨haccepted, fun hqstruct => ?_, fun hform => absurd hform hne⟩
      have heq : q.type = first.type := by
        rcases List.mem_cons.mp hq with rfl | hq
        · rfl
        · exact hrest q hq hqstruct
      rw [heq]
      exact ⟨value, rfl, hvalue⟩

/-- **The form as an argument.**  There is no handler exactly if there is no value for the
parameters that the form is passed to.  Otherwise the handler reads the form before it carries out
calls, and every call passes the one value that there is.  It fits all parameters, at any depth,
exactly if the first of them is no class, or every one accepts that class and none is of the type of
forms.  Whether there is a handler depends on the order of the parameters exactly if they mix a
class with others. -/
theorem handler_form (h : context.Resolves e) (hcall : e.definition.call = some call)
    (s : Imports) :
    ((∃ fault s', (handler context e).run s = (.error fault, s')) ↔
      FormFails context e.definition (formParams (context.uses call))) ∧
    (∀ made s', (handler context e).run s = (.ok made, s') →
      ∃ bindings bound invoked, made = handlerOf context e (bound ++ invoked) ∧
        (formParams (context.uses call) ≠ [] → readForm ∈ bound) ∧
        (∀ stmt ∈ bound, ¬IsInvocation stmt) ∧
        List.Forall₂ (CarriesOut context s' bindings) call.walk invoked ∧
        FormGiven context e.definition s' (formParams (context.uses call)) bindings.form ∧
        ((∀ c : Call, c.Occurs call → ∀ param, (param, .name "form") ∈ context.passed c →
            FormFits context s' bindings.form param) ↔
          ∀ first ∈ (formParams (context.uses call)).head?,
            context.host.isStruct first.type = true →
              ∀ q ∈ formParams (context.uses call),
                context.host.accepts q.type first.type = true ∧ q.type ≠ formType)) ∧
    ((∀ order : List Signature.Param, order.Perm (formParams (context.uses call)) →
        (FormFails context e.definition order ↔
          FormFails context e.definition (formParams (context.uses call)))) ↔
      ¬Mixes context e.definition (formParams (context.uses call))) := by
  have hhandler := ensures_handler h hcall s
  rw [Ensures] at hhandler
  refine ⟨?_, ?_, formFails_perm_iff⟩
  · constructor
    · rintro ⟨fault, s', hrun⟩
      rw [hrun] at hhandler
      exact hhandler.2
    · intro hfails
      cases hrun : (handler context e).run s with
      | mk result s' =>
        rw [hrun] at hhandler
        cases result with
        | error fault => exact ⟨fault, s', rfl⟩
        | ok made =>
          obtain ⟨-, bindings, bound, invoked, -, hbound, -⟩ := hhandler
          exact absurd hfails hbound.given.not_formFails
  · intro made s' hrun
    rw [hrun] at hhandler
    obtain ⟨-, bindings, bound, invoked, hmade, hbound, hinvoked⟩ := hhandler
    refine ⟨bindings, bound, invoked, hmade, fun hne => hbound.read (hbound.formRead hne),
      hbound.no_invocation, hinvoked, hbound.given, ?_⟩
    rw [← formFits_iff h hcall hbound.given]
    -- the parameters of the form are those that calls pass it to
    have hmatches : context.Matches call := matches_of_callTyped fun c hc => h.callTyped hcall hc
    have hmem : ∀ param, param ∈ formParams (context.uses call) ↔
        ∃ c : Call, c.Occurs call ∧ (param, .name "form") ∈ context.passed c :=
      fun param => mem_formParams_iff.trans (mem_uses_iff hmatches)
    constructor
    · intro hall param hparam
      obtain ⟨c, hc, hpassed⟩ := (hmem param).mp hparam
      exact hall c hc param hpassed
    · intro hall c hc param hpassed
      exact hall param ((hmem param).mpr ⟨c, hc, hpassed⟩)

end

/-! ### A form that is passed twice -/

/-- A class with one field. -/
def loginType : HostType :=
  .cls (.own "Login" "app.templates" "Login" "Login")

/-- The type of forms or the absent value. -/
def optionalForm : HostType :=
  .union true [formType, HostType.noneType]

/-- An application with a function of two parameters. -/
def savingHost (first second : HostType) : Host where
  classes := [⟨.own "Login" "app.templates" "Login" "Login", [Class.root], .data false,
    [⟨"user", HostType.str, none, true, none, none⟩], []⟩]
  functions := [("Save", ⟨"app.templates", [⟨"first", some first, .positional, false⟩,
    ⟨"second", some second, .positional, false⟩], some HostType.str, false⟩)]
  receiver := none

/-- The call that passes the form to both parameters. -/
def savingCall : Call :=
  ⟨"Save", [.name "form", .name "form"]⟩

/-- A route with the call. -/
def savingDefinition : Definition :=
  ⟨⟨"POST /x Save(form, form)", some .post, "", "/x", [.literal "x"], 200, false,
    "Save(form, form)"⟩, some savingCall, "", ""⟩

/-- The resolution of the route. -/
def savingRun (first second : HostType) : Except Resolution.Fault (Option Signature) × State :=
  (resolve (savingHost first second) savingDefinition).run State.start

/-- What the resolution of the route records. -/
def savingState (first second : HostType) : State :=
  (savingRun first second).2

/-- The endpoint of the route. -/
def savingEndpoint (first second : HostType) : Endpoint :=
  ⟨savingDefinition, "Save", 0, recorded? (savingState first second).signatures "Save",
    (savingState first second).pathTypes, false⟩

/-- What the handler of the route is made from. -/
def savingContext (first second : HostType) : Context :=
  ⟨{ templatesModule := "app.templates" }, savingHost first second,
    ⟨[], [⟨"POST /x Save(form, form)", "", none⟩]⟩, (savingState first second).signatures,
    .name "templates"⟩

/-- The types of the two parameters that the form is passed to are as given. -/
def savingTypes (first second : HostType) (facts : HostType → HostType → Bool) : Bool :=
  match formParams ((savingContext first second).uses savingCall) with
  | [p, q] => facts p.type q.type
  | _ => false

/-- The route is resolved, and the form is passed to two parameters. -/
theorem resolves_saving {first second : HostType} {facts : HostType → HostType → Bool}
    (h : ((savingRun first second).1.toOption.isSome && savingTypes first second facts) = true) :
    (savingContext first second).Resolves (savingEndpoint first second) ∧
      ∃ p q, formParams ((savingContext first second).uses savingCall) = [p, q] ∧
        facts p.type q.type = true := by
  rw [Bool.and_eq_true] at h
  obtain ⟨hrun, htypes⟩ := h
  refine ⟨@resolves_of_isSome _ _ "POST /x Save(form, form)" savingCall rfl rfl hrun rfl rfl, ?_⟩
  rw [savingTypes] at htypes
  split at htypes
  · rename_i p q hparams
    exact ⟨p, q, hparams, htypes⟩
  · cases htypes

/-- Two parameters of one class are given a value of the class. -/
theorem handler_form_one_class :
    (savingContext loginType loginType).Resolves (savingEndpoint loginType loginType) ∧
    ∃ made s', (handler (savingContext loginType loginType)
        (savingEndpoint loginType loginType)).run (Imports.start "") = (.ok made, s') ∧
      ∃ (bindings : Bindings) (bound invoked : List Stmt),
        made = handlerOf (savingContext loginType loginType)
          (savingEndpoint loginType loginType) (bound ++ invoked) ∧
        readForm ∈ bound ∧
        ∀ c : Call, c.Occurs savingCall → ∀ param,
          (param, .name "form") ∈ (savingContext loginType loginType).passed c →
            FormFits (savingContext loginType loginType) s' bindings.form param := by
  obtain ⟨hresolves, p, q, hparams, hfacts⟩ := @resolves_saving loginType loginType
    (fun t u => t.same loginType && u.same loginType &&
      (savingContext loginType loginType).host.isStruct t &&
      decide (Readable (savingContext loginType loginType) savingDefinition t))
    (by decide +kernel)
  simp only [Bool.and_eq_true, decide_eq_true_eq] at hfacts
  obtain ⟨⟨⟨hpsame, hqsame⟩, hstruct⟩, hreadable⟩ := hfacts
  have hp : p.type = loginType := eq_cls_of_same hpsame
  have hq : q.type = loginType := eq_cls_of_same hqsame
  obtain ⟨hfails, hmade, -⟩ := handler_form hresolves rfl (Imports.start "")
  rw [hparams] at hfails hmade
  cases hrun : (handler (savingContext loginType loginType)
      (savingEndpoint loginType loginType)).run (Imports.start "") with
  | mk result s' =>
    cases result with
    | error fault =>
      refine absurd (hfails.mp ⟨fault, s', hrun⟩) ?_
      rw [FormFails, if_pos hstruct]
      rintro (hunreadable | ⟨r, hr, -, hdiffers⟩)
      · exact hunreadable hreadable
      · rw [List.mem_singleton.mp hr] at hdiffers
        exact hdiffers (hq.trans hp.symm)
    | ok made =>
      obtain ⟨bindings, bound, invoked, heq, hread, -, -, -, hfits⟩ := hmade made s' hrun
      refine ⟨hresolves, made, s', rfl, bindings, bound, invoked, heq, hread (by simp),
        hfits.mpr ?_⟩
      intro first hfirst _ r hr
      obtain rfl := Option.some.inj hfirst
      have hr : r.type = loginType := by
        rcases List.mem_pair.mp hr with rfl | rfl
        · exact hp
        · exact hq
      rw [hr, hp]
      exact ⟨accepts_cls _ _, by simp [loginType, formType, ClassId.own, ClassId.standard]⟩

/-- **A class in front hides that the form is expected.**  A parameter of the type of forms or the
absent value that stands after a class is given the class, which it does not accept.  With the two
in the other order there is no handler. -/
theorem not_formFits_after_class :
    ((savingContext loginType optionalForm).Resolves (savingEndpoint loginType optionalForm) ∧
      ∃ made s', (handler (savingContext loginType optionalForm)
          (savingEndpoint loginType optionalForm)).run (Imports.start "") = (.ok made, s') ∧
        ∃ (bindings : Bindings) (bound invoked : List Stmt),
          made = handlerOf (savingContext loginType optionalForm)
            (savingEndpoint loginType optionalForm) (bound ++ invoked) ∧
          List.Forall₂ (CarriesOut (savingContext loginType optionalForm) s' bindings)
            savingCall.walk invoked ∧
          (∃ value, bindings.form = .struct loginType value ∧
            Constructs (savingContext loginType optionalForm) s' loginType value) ∧
          ∃ c : Call, c.Occurs savingCall ∧
            ∃ param, (param, .name "form") ∈ (savingContext loginType optionalForm).passed c ∧
              (savingHost loginType optionalForm).accepts param.type formType = true ∧
              (savingHost loginType optionalForm).accepts param.type loginType = false) ∧
    (savingContext optionalForm loginType).Resolves (savingEndpoint optionalForm loginType) ∧
      ∃ fault s', (handler (savingContext optionalForm loginType)
        (savingEndpoint optionalForm loginType)).run (Imports.start "") = (.error fault, s') := by
  constructor
  · obtain ⟨hresolves, p, q, hparams, hfacts⟩ := @resolves_saving loginType optionalForm
      (fun t u => t.same loginType && (savingContext loginType optionalForm).host.isStruct t &&
        decide (Readable (savingContext loginType optionalForm) savingDefinition t) &&
        !(savingContext loginType optionalForm).host.isStruct u &&
        (savingHost loginType optionalForm).accepts u formType &&
        !(savingHost loginType optionalForm).accepts u loginType) (by decide +kernel)
    simp only [Bool.and_eq_true, Bool.not_eq_true', decide_eq_true_eq] at hfacts
    obtain ⟨⟨⟨⟨⟨hclass, hstruct⟩, hreadable⟩, hplain⟩, haccepts⟩, hrefuses⟩ := hfacts
    have hp : p.type = loginType := eq_cls_of_same hclass
    -- the second parameter is no class
    have hvalue : ¬FormFails (savingContext loginType optionalForm) savingDefinition [p, q] := by
      rw [FormFails, if_pos hstruct]
      rintro (hunreadable | ⟨r, hr, hrstruct, -⟩)
      · exact hunreadable hreadable
      · rw [List.mem_singleton.mp hr] at hrstruct
        cases hplain.symm.trans hrstruct
    have hhandler := ensures_handler hresolves rfl (Imports.start "")
    rw [hparams] at hhandler
    obtain ⟨made, s', hrun, bindings, bound, invoked, hmade, hbound, hinvoked⟩ :=
      hhandler.exists_run fun fault hfault => hvalue hfault.2
    have hgiven := hbound.given
    rw [hparams] at hgiven
    obtain ⟨value, huse, hvalue⟩ := hgiven.exists_struct hstruct
    rw [hp] at huse hvalue
    have hq : (q, "form") ∈ (savingContext loginType optionalForm).uses savingCall := by
      rw [← mem_formParams_iff, hparams]
      simp
    have hmatches : (savingContext loginType optionalForm).Matches savingCall :=
      matches_of_callTyped fun c hc => hresolves.callTyped rfl hc
    obtain ⟨c, hc, hpassed⟩ := (mem_uses_iff hmatches).mp hq
    exact ⟨hresolves, made, s', hrun, bindings, bound, invoked, hmade, hinvoked,
      ⟨value, huse, hvalue⟩, c, hc, q, hpassed, haccepts, hrefuses⟩
  · obtain ⟨hresolves, p, q, hparams, hstructs⟩ := @resolves_saving optionalForm loginType
      (fun t u => !(savingContext optionalForm loginType).host.isStruct t &&
        (savingContext optionalForm loginType).host.isStruct u) (by decide +kernel)
    simp only [Bool.and_eq_true, Bool.not_eq_true'] at hstructs
    refine ⟨hresolves, ?_⟩
    have hhandler := ensures_handler hresolves rfl (Imports.start "")
    rw [Ensures] at hhandler
    cases hrun : (handler (savingContext optionalForm loginType)
        (savingEndpoint optionalForm loginType)).run (Imports.start "") with
    | mk result s' =>
      rw [hrun] at hhandler
      cases result with
      | error fault => exact ⟨fault, s', rfl⟩
      | ok made =>
        -- the second parameter is a class after one that is none
        obtain ⟨-, bindings, bound, invoked, -, hbound, -⟩ := hhandler
        refine absurd ?_ hbound.given.not_formFails
        rw [hparams, FormFails]
        simp only [hstructs.1]
        exact ⟨q, List.mem_singleton_self q, hstructs.2⟩

end FragmentRoutes.RoutesModule
