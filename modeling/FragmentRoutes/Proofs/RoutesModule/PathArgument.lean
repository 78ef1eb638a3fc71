import FragmentRoutes.Proofs.RoutesModule.Handler
import FragmentRoutes.Proofs.RoutesModule.UrlMethod

/-!
# Path parameters as arguments

The resolution records one type for every path parameter that a call uses.  The handler converts
the text of the parameter to this type, every parameter of the application that it is passed to
accepts values of the type, and the URL builder takes the parameter with the same type
(`pathTypes_agree`).

The three find the type on their own: the resolution takes it from the first occurrence in nested
calls, the handler from the first one from left to right, and the URL builder looks it up.
-/

namespace FragmentRoutes

/-- The identifier occurs in the call of the definition, at any depth. -/
def Definition.HasIdentifier (d : Definition) (id : String) : Prop :=
  ∃ call, d.call = some call ∧ id ∈ call.identifiers

end FragmentRoutes

namespace FragmentRoutes.RoutesModule

open Code Host Resolution

section

variable (context : Context) (e : Endpoint)

/-- The argument is a path parameter only if the parameter accepts values of its type. -/
def AcceptsPath (param : Signature.Param) (a : Argument) : Prop :=
  ∀ p ∈ e.definition.label.params, a = .name p →
    context.host.accepts param.type (e.pathType p) = true

/-- The handler carries out the calls of the endpoint.  It converts every path parameter that they
use once, to its type, before any of them, and passes this value. -/
def ConvertsPath (made : Stmt) (s : Imports) : Prop :=
  ∃ bindings body invoked,
    made = .function true e.handlerName [Param.typed "request" (.name "Request")]
      (.name "Response") body ∧
    invoked.Sublist body ∧
    List.Forall₂ (CarriesOut context s bindings) e.definition.calls invoked ∧
    ∀ p ∈ e.definition.label.params, e.definition.HasIdentifier p →
      ConvertedOnce context.host s p (e.pathType p) body ∧
        bindings.value p = .name (pathLocal p)

/-- The method takes the path parameters with their types, and one that no call uses as a text. -/
def TakesPath (made : Stmt) (s : Imports) : Prop :=
  ∃ params returns body,
    made = .function false e.ident (Param.plain "self" :: params) returns body ∧
    List.Forall₂ (Takes context.host e s) e.definition.label.params params ∧
    List.Forall₂ (fun p param => ¬e.definition.HasIdentifier p →
      param = Param.typed p (.name "str")) e.definition.label.params params

end

section

variable {context : Context} {e : Endpoint} {call : Call}

/-! ### Types of path parameters -/

/-- A path parameter has the type of every parameter that it is passed to, as far as texts are
converted to it. -/
theorem pathType_eq_convertedType (h : context.Resolves e) (hcall : e.definition.call = some call)
    {param : Signature.Param} {p : String} (hp : p ∈ e.definition.label.params)
    (huse : (param, p) ∈ context.uses call) :
    ∃ kind, context.host.conversion? param.type = some kind ∧
      e.pathType p = convertedType kind param.type := by
  have htyped := argumentTyped_of_mem_uses (fun c hc => h.callTyped hcall hc) huse
  cases htyped with
  | @path _ kind _ hkind htype =>
    refine ⟨kind, hkind, ?_⟩
    rw [Endpoint.pathType, htype, Option.getD_some]
  | form hid _ => exact absurd hp hid
  | reserved hid _ => exact absurd hp hid

theorem exists_mem_uses (h : context.Resolves e) (hcall : e.definition.call = some call)
    {id : String} (hid : id ∈ call.identifiers) : ∃ param, (param, id) ∈ context.uses call := by
  rw [← map_snd_uses (matches_of_callTyped fun c hc => h.callTyped hcall hc)] at hid
  obtain ⟨⟨param, _⟩, huse, rfl⟩ := List.mem_map.mp hid
  exact ⟨param, huse⟩

/-- The type of a path parameter is a class. -/
theorem exists_cls_pathType (h : context.Resolves e) {p : String}
    (hp : p ∈ e.definition.label.params) : ∃ c, e.pathType p = .cls c := by
  by_cases hused : e.definition.HasIdentifier p
  · obtain ⟨call, hcall, hid⟩ := hused
    obtain ⟨param, huse⟩ := exists_mem_uses h hcall hid
    obtain ⟨kind, hkind, htype⟩ := pathType_eq_convertedType h hcall hp huse
    rw [htype]
    exact exists_cls_convertedType hkind
  · exact ⟨_, h.pathType_eq_str fun call hcall hid => hused ⟨call, hcall, hid⟩⟩

/-- **Every parameter that is passed a path parameter accepts its type.** -/
theorem acceptsPath_of_hasCall (h : context.Resolves e) {c : Call} (hc : e.definition.HasCall c) :
    List.Forall₂ (AcceptsPath context e) (context.signature c.callee).params c.args := by
  obtain ⟨call, hcall, hoccurs⟩ := hc
  have hmatches := matches_of_callTyped fun c hc => h.callTyped hcall hc
  refine List.forall₂_iff_zip.mpr ⟨hmatches c hoccurs, ?_⟩
  rintro param _ hpair p hp rfl
  obtain ⟨kind, hkind, htype⟩ :=
    pathType_eq_convertedType h hcall hp ((mem_uses_iff hmatches).mpr ⟨c, hoccurs, hpair⟩)
  rw [htype]
  exact accepts_convertedType hkind

/-! ### Handlers -/

/-- What is passed for a path parameter is its local value. -/
theorem Context.Resolves.value_eq_pathLocal (h : context.Resolves e) {p : String}
    (hp : p ∈ e.definition.label.params) (bindings : Bindings) :
    bindings.value p = .name (pathLocal p) := by
  have hname : p ≠ "ctx" ∧ p ≠ "request" ∧ p ≠ "response" ∧ p ≠ "form" := by
    simpa [Route.argumentNames] using h.notMem_argumentNames hp
  obtain ⟨hctx, hrequest, hresponse, hform⟩ := hname
  exact Bindings.value.eq_5 bindings p hctx hrequest hresponse hform

/-- The binding converts a path parameter that the call uses once, to its type. -/
theorem Bound.convertedOnce {s : Imports} {bindings : Bindings} {bound : List Stmt}
    (h : Bound context e.definition e.pathTypes s (context.uses call) bindings bound) {p : String}
    (hp : p ∈ e.definition.label.params) (huse : p ∈ (context.uses call).map (·.2)) :
    ConvertedOnce context.host s p (e.pathType p) bound := by
  cases hlookup : bindings.paths.lookup p with
  | none => exact absurd huse ((h.unconverted hlookup).2 hp)
  | some t =>
    -- the binding keeps the type that the resolution recorded
    obtain ⟨htype, honce⟩ := h.converted hlookup
    have ht : e.pathType p = t := by
      rw [Endpoint.pathType, htype, Option.getD_some]
    rw [ht]
    exact honce

/-- What the binding converts once, the handler converts once. -/
theorem ConvertedOnce.handler {s : Imports} {p : String} {t : HostType} {bound invoked : List Stmt}
    {bindings : Bindings} {calls : List Call} (h : ConvertedOnce context.host s p t bound)
    (hinvoked : List.Forall₂ (CarriesOut context s bindings) calls invoked) :
    ConvertedOnce context.host s p t (openingBody context e.definition ++ (bound ++ invoked) ++
      renderBody context e.definition :: finishBody context e) := by
  have hopening := binds_openingBody context e.definition
  have hclosing : pathLocal p ∉
      Stmt.setsOf (renderBody context e.definition :: finishBody context e) := by
    intro hmem
    rcases mem_setsOf_closing hmem with hname | hname | hname
    · exact ne_pathLocal (by decide) p hname.symm
    · exact ne_pathLocal (by decide) p hname.symm
    · exact ne_pathLocal (by decide) p hname.symm
  exact ((h.append (pathLocal_notMem_of_carriesOut hinvoked p)).append_front
    hopening.no_invocation (hopening.pathLocal_notMem (by decide) p)).append hclosing

/-- **The handler converts the path parameters to their types** and then carries out the calls, or
there is no value for the form. -/
theorem ensures_handler_convertsPath (h : context.Resolves e) (s : Imports) :
    Ensures (handler context e) s
      (fun fault => fault.IsForm ∧ e.definition.HasIdentifier "form") (ConvertsPath context e) := by
  cases hcall : e.definition.call with
  | none =>
    have hcalls : e.definition.calls = [] := by
      rw [Definition.calls, hcall]
      rfl
    refine (ensures_handler_of_no_call hcall s _).mono ?_
    rintro _ s' - rfl
    refine ⟨⟨[], false, .unused⟩, _, [], rfl, List.nil_sublist _, hcalls ▸ .nil, ?_⟩
    rintro p - ⟨call, hsome, -⟩
    rw [hcall] at hsome
    cases hsome
  | some call =>
    have hcalls : e.definition.calls = call.walk := by
      rw [Definition.calls, hcall]
      rfl
    have huses := map_snd_uses (matches_of_callTyped fun c hc => h.callTyped hcall hc)
    refine ((ensures_handler h hcall s).mono_fails ?_).mono ?_
    · -- there is no value only for a form that is passed
      rintro fault ⟨hfault, hfails⟩
      obtain ⟨param, hparam⟩ := List.exists_mem_of_ne_nil _ hfails.ne_nil
      refine ⟨hfault, call, hcall, ?_⟩
      rw [← huses]
      exact List.mem_map_of_mem (mem_formParams_iff.mp hparam)
    · rintro _ s' - ⟨bindings, bound, invoked, rfl, hbound, hinvoked⟩
      refine ⟨bindings, _, invoked, rfl, ?_, hcalls ▸ hinvoked, fun p hp hused => ?_⟩
      · exact ((List.sublist_append_right _ _).trans (List.sublist_append_right _ _)).trans
          (List.sublist_append_left _ _)
      · obtain ⟨call', hcall', hid⟩ := hused
        obtain rfl := Option.some.inj (hcall.symm.trans hcall')
        rw [← huses] at hid
        exact ⟨(hbound.convertedOnce hp hid).handler hinvoked, h.value_eq_pathLocal hp bindings⟩

/-! ### URL builders -/

/-- **The method takes the path parameters with their types**, or values of one of them cannot be
written as texts. -/
theorem ensures_urlMethod_takesPath (h : context.Resolves e) (s : Imports) :
    Ensures (urlMethod context.host e) s (IsUnwritable context.host e) (TakesPath context e) := by
  refine (ensures_urlMethod s h.label_normal fun p hp => exists_cls_pathType h hp).mono ?_
  rintro made s' - ⟨params, returns, body, hmade, htakes⟩
  refine ⟨params, returns, body, hmade, htakes, htakes.imp fun p param htake hunused => ?_⟩
  have hstr : e.pathType p = HostType.str :=
    h.pathType_eq_str fun call hcall hid => hunused ⟨call, hcall, hid⟩
  exact htake.eq_typed hstr (.builtin (by decide) rfl)

/-! ### Agreement -/

/-- **Path parameters have one type in all of the code.**  The handler converts every path
parameter that the calls use once, to this type, before it carries out any of them; every parameter
of the application that it is passed to accepts values of the type; and the method of the URL
builder takes it with the type, which is that of texts if no call uses it.  No path parameter is a
reason for there to be no handler, and there is no method exactly if values of one of the types
cannot be written as texts. -/
theorem pathTypes_agree (h : context.Resolves e) (s : Imports) :
    Ensures (handler context e) s (fun fault => fault.IsForm ∧ e.definition.HasIdentifier "form")
        (ConvertsPath context e) ∧
      (∀ c, e.definition.HasCall c →
        List.Forall₂ (AcceptsPath context e) (context.signature c.callee).params c.args) ∧
      Ensures (urlMethod context.host e) s (IsUnwritable context.host e) (TakesPath context e) ∧
      ∀ p, ¬e.definition.HasIdentifier p → e.pathType p = HostType.str :=
  ⟨ensures_handler_convertsPath h s, fun _ hc => acceptsPath_of_hasCall h hc,
    ensures_urlMethod_takesPath h s,
    fun _ hunused => h.pathType_eq_str fun call hcall hid => hunused ⟨call, hcall, hid⟩⟩

end

/-! ### A path parameter that is passed twice -/

/-- An application with a function of a number, and of a number or the absent value. -/
def loadingHost : Host where
  classes := []
  functions := [("Load", ⟨"app.templates", [⟨"first", some HostType.int, .positional, false⟩,
    ⟨"second", some (.union true [HostType.int, HostType.noneType]), .positional, false⟩],
    some HostType.int, false⟩)]
  receiver := none

/-- A route that passes a path parameter to both parameters, at two depths, and another one to
none. -/
def loadingDefinition : Definition :=
  ⟨⟨"GET /\x7bid\x7d/\x7btab\x7d Load(Load(id, id), id)", some .get, "", "/\x7bid\x7d/\x7btab\x7d",
    [.param "id", .param "tab"], 200, false, "Load(Load(id, id), id)"⟩,
    some ⟨"Load", [.call "Load" [.name "id", .name "id"], .name "id"]⟩, "", ""⟩

/-- What the resolution of the route records. -/
def loadingState : State :=
  ((resolve loadingHost loadingDefinition).run State.start).2

/-- The endpoint of the route. -/
def loadingEndpoint : Endpoint :=
  ⟨loadingDefinition, "Load", 0, recorded? loadingState.signatures "Load", loadingState.pathTypes,
    false⟩

/-- What the handler of the route is made from. -/
def loadingContext : Context :=
  ⟨{ templatesModule := "app.templates" }, loadingHost,
    ⟨[], [⟨loadingDefinition.label.name, "", none⟩]⟩, loadingState.signatures, .name "templates"⟩

/-- A path parameter that is passed to a number, and to a number or the absent value, is
converted to a number, and the one that is not passed is a text. -/
theorem pathTypes_agree_loading :
    loadingContext.Resolves loadingEndpoint ∧
    (∃ made s' body, (handler loadingContext loadingEndpoint).run (Imports.start "") =
        (.ok made, s') ∧
      made = .function true loadingEndpoint.handlerName [Param.typed "request" (.name "Request")]
        (.name "Response") body ∧
      ConvertedOnce loadingHost s' "id" HostType.int body) ∧
    ∃ made s' returns body, (urlMethod loadingHost loadingEndpoint).run (Imports.start "") =
        (.ok made, s') ∧
      made = .function false "Load" [Param.plain "self", Param.typed "id" (.name "int"),
        Param.typed "tab" (.name "str")] returns body := by
  have hresolves : loadingContext.Resolves loadingEndpoint :=
    @resolves_of_isSome _ _ loadingDefinition.label.name _ rfl rfl (by decide +kernel) rfl rfl
  obtain ⟨hhandler, -, hmethod, htext⟩ := pathTypes_agree hresolves (Imports.start "")
  have hid : loadingEndpoint.pathType "id" = HostType.int :=
    eq_cls_of_isBuiltin (by decide +kernel)
  have hidentifiers : ∀ {id : String}, loadingEndpoint.definition.HasIdentifier id → id = "id" := by
    rintro id ⟨call, hcall, hmem⟩
    obtain rfl := Option.some.inj hcall
    simpa [Call.identifiers, Call.identifiersOfArguments, Call.identifiersOfArgument] using hmem
  refine ⟨hresolves, ?_, ?_⟩
  · obtain ⟨made, s', hrun, bindings, body, invoked, hmade, -, -, hpath⟩ :=
      hhandler.exists_run fun fault hfault => absurd (hidentifiers hfault.2) (by decide)
    have hused : loadingEndpoint.definition.HasIdentifier "id" := ⟨_, rfl, by decide +kernel⟩
    obtain ⟨honce, -⟩ := hpath "id" (by decide) hused
    rw [hid] at honce
    exact ⟨made, s', body, hrun, hmade, honce⟩
  · have htab : ¬loadingEndpoint.definition.HasIdentifier "tab" :=
      fun h => absurd (hidentifiers h) (by decide)
    have hwritable : ∀ fault, ¬IsUnwritable loadingHost loadingEndpoint fault := by
      rintro fault ⟨p, hp, -, hnot⟩
      have hp : p = "id" ∨ p = "tab" := by
        simpa [loadingEndpoint, loadingDefinition, Route.Label.params, Route.Path.params,
          Route.Segment.bound?] using hp
      rcases hp with rfl | rfl
      · rw [hid] at hnot
        exact hnot (Or.inr ⟨"int", by decide, rfl⟩)
      · rw [htext "tab" htab] at hnot
        exact hnot (Or.inr ⟨"str", by decide, rfl⟩)
    obtain ⟨made, s', hrun, params, returns, body, hmade, htakes, hunused⟩ :=
      hmethod.exists_run hwritable
    obtain _ | ⟨htakeId, _ | ⟨-, _ | _⟩⟩ := htakes
    obtain _ | ⟨-, _ | ⟨hunusedTab, _ | _⟩⟩ := hunused
    rw [htakeId.eq_typed hid (.builtin (by decide) rfl), hunusedTab htab] at hmade
    exact ⟨made, s', returns, body, hrun, hmade⟩

end FragmentRoutes.RoutesModule
