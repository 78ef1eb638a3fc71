import FragmentRoutes.Proofs.Definition
import FragmentRoutes.Proofs.Resolution.PathTypes
import FragmentRoutes.Proofs.RoutesModule.Arguments
import FragmentRoutes.Proofs.Route.PathReading

/-!
# Resolved endpoints

`Context.Resolves` says that an endpoint is what the code is made from: its label was read from a
text, its calls were resolved, and what was recorded for them is what the context has.  The
endpoints of a library are of this kind (`resolves_of_mem_ofLibrary`).

For such an endpoint every call is typed under the signatures of the context and the types of the
endpoint, and a path parameter that the call does not use has the type of texts.
-/

namespace FragmentRoutes

open Resolution

/-! ### Endpoints of a library -/

namespace Endpoint

/-- An endpoint has the definition, the signature and the types that stand at one place. -/
theorem mem_zip_of_mem_zip {e : Endpoint} : ∀ {ds : List Definition} {idents : List String}
    {ranks : List Nat} {rs : List Resolved} {bs : List Bool},
      e ∈ Endpoint.zip ds idents ranks rs bs →
        (e.definition, (e.signature, e.pathTypes)) ∈ ds.zip rs
  | [], _, _, _, _, h => by simp [Endpoint.zip] at h
  | _ :: _, [], _, _, _, h => by simp [Endpoint.zip] at h
  | _ :: _, _ :: _, [], _, _, h => by simp [Endpoint.zip] at h
  | _ :: _, _ :: _, _ :: _, [], _, h => by simp [Endpoint.zip] at h
  | _ :: _, _ :: _, _ :: _, _ :: _, [], h => by simp [Endpoint.zip] at h
  | d :: ds, ident :: idents, rank :: ranks, (signature, types) :: rs, b :: bs, h => by
    rw [Endpoint.zip] at h
    rw [List.zip_cons_cons]
    rcases List.mem_cons.mp h with rfl | h
    · exact List.mem_cons_self
    · exact List.mem_cons_of_mem _ (mem_zip_of_mem_zip h)

/-- The definition was resolved to the given signature and types, and all signatures that were
recorded then are among the given ones. -/
def ResolvedTo (host : Host) (signatures : List Signature) (d : Definition) (r : Resolved) : Prop :=
  ∃ known s, (resolve host d).run ⟨known, []⟩ = (.ok r.1, s) ∧ r.2 = s.pathTypes ∧
    ∀ {callee g}, recorded? s.signatures callee = some g → recorded? signatures callee = some g

/-- **Definitions are resolved one after the other.** -/
theorem resolvedTo_of_resolveFrom {host : Host} {known all : List Signature}
    {ds : List Definition} {resolved : List Resolved}
    (h : resolveFrom host known ds = .ok (resolved, all)) :
    List.Forall₂ (ResolvedTo host all) ds resolved := by
  induction ds generalizing known resolved with
  | nil =>
    obtain ⟨rfl, rfl⟩ := Prod.mk.inj (Except.ok.inj h)
    exact .nil
  | cons d ds ih =>
    rw [resolveFrom] at h
    cases hrun : (resolve host d).run ⟨known, []⟩ with
    | mk found s =>
      rw [hrun] at h
      cases found with
      | error fault => cases h
      | ok found =>
        rw [Except.bind_eq_ok] at h
        obtain ⟨⟨rest, all'⟩, hrest, h⟩ := h
        obtain ⟨rfl, rfl⟩ := Prod.mk.inj (Except.ok.inj h)
        -- the definitions after it change no record
        have hsound := sound_resolveFrom host s.signatures ds
        rw [hrest] at hsound
        exact .cons ⟨known, s, hrun, rfl, hsound.1.signature⟩ (ih hrest)

/-- **The endpoints of a library** are put together of its definitions, what these were resolved to
and whether they redirect. -/
theorem ofLibrary_eq_ok_iff {library : Library} {host : Host} {endpoints : List Endpoint}
    {signatures : List Signature} :
    ofLibrary library host = .ok (endpoints, signatures) ↔
      ∃ definitions resolved redirects,
        Definition.ofFragments library.fragments = .ok definitions ∧
        resolveFrom host [] definitions = .ok (resolved, signatures) ∧
        (definitions.mapM fun d => Redirect.mayRedirect library [] d.name) = .ok redirects ∧
        endpoints = zip definitions (Naming.allocate definitions) (Registration.ranks definitions)
          resolved redirects := by
  simp only [ofLibrary, Except.bind_eq_ok, Except.mapError_eq_ok, Prod.exists]
  constructor
  · rintro ⟨definitions, hdefinitions, resolved, _, hresolved, redirects, hredirects, h⟩
    obtain ⟨rfl, rfl⟩ := Prod.mk.inj (Except.ok.inj h)
    exact ⟨definitions, resolved, redirects, hdefinitions, hresolved, hredirects, rfl⟩
  · rintro ⟨definitions, resolved, redirects, hdefinitions, hresolved, hredirects, rfl⟩
    exact ⟨definitions, hdefinitions, resolved, signatures, hresolved, redirects, hredirects, rfl⟩

/-- The definition of an endpoint of a library was parsed from a fragment. -/
theorem exists_parse_of_mem_ofLibrary {library : Library} {host : Host} {endpoints : List Endpoint}
    {signatures : List Signature} (h : ofLibrary library host = .ok (endpoints, signatures))
    {e : Endpoint} (he : e ∈ endpoints) :
    ∃ f : Fragment, Definition.parse f.name f.file f.group = .ok (some e.definition) := by
  obtain ⟨definitions, resolved, redirects, hdefinitions, -, -, rfl⟩ := ofLibrary_eq_ok_iff.mp h
  have hmem : e.definition ∈ definitions := (List.of_mem_zip (mem_zip_of_mem_zip he)).1
  obtain ⟨f, -, hparse⟩ := Definition.exists_parse_of_mem hdefinitions hmem
  exact ⟨f, hparse⟩

/-- **The identifiers of the call of an endpoint are in scope.** -/
theorem mem_scope_of_mem_ofLibrary {library : Library} {host : Host} {endpoints : List Endpoint}
    {signatures : List Signature} (h : ofLibrary library host = .ok (endpoints, signatures))
    {e : Endpoint} (he : e ∈ endpoints) {call : Call} (hcall : e.definition.call = some call) :
    ∀ id ∈ call.identifiers, id ∈ Definition.scope e.definition.label := by
  obtain ⟨f, hparse⟩ := exists_parse_of_mem_ofLibrary h he
  exact Definition.mem_scope_of_parse hparse hcall

end Endpoint

namespace RoutesModule

/-- The endpoint is **resolved** for the context: its label was read from a text, and its calls
were resolved with the signatures of the context to the types of the endpoint. -/
structure Context.Resolves (context : Context) (e : Endpoint) : Prop where
  parsed : ∃ text, Route.Label.parse text = .ok (some e.definition.label)
  resolved : Endpoint.ResolvedTo context.host context.signatures e.definition
    (e.signature, e.pathTypes)

/-- **The endpoints of a library are resolved** for its signatures. -/
theorem resolves_of_mem_ofLibrary {context : Context} {endpoints : List Endpoint}
    (h : Endpoint.ofLibrary context.library context.host = .ok (endpoints, context.signatures))
    {e : Endpoint} (he : e ∈ endpoints) : context.Resolves e := by
  obtain ⟨f, hparse⟩ := Endpoint.exists_parse_of_mem_ofLibrary h he
  obtain ⟨definitions, resolved, redirects, -, hresolved, -, rfl⟩ :=
    Endpoint.ofLibrary_eq_ok_iff.mp h
  refine ⟨⟨f.name, (Definition.parse_eq_ok_some hparse).1⟩, ?_⟩
  have hall := List.forall₂_iff_zip.mp (Endpoint.resolvedTo_of_resolveFrom hresolved)
  exact hall.2 (Endpoint.mem_zip_of_mem_zip he)

/-- An endpoint with a call is resolved if its resolution ends well and the endpoint and the context
have what it records. -/
theorem resolves_of_isSome {context : Context} {e : Endpoint} {text : String} {call : Call}
    (hparse : Route.Label.parse text = .ok (some e.definition.label))
    (hcall : e.definition.call = some call)
    (hrun : ((resolve context.host e.definition).run State.start).1.toOption.isSome)
    (hstate : (⟨context.signatures, e.pathTypes⟩ : State) =
      ((resolve context.host e.definition).run State.start).2)
    (hsignature : e.signature = recorded? context.signatures call.callee) :
    context.Resolves e := by
  refine ⟨⟨text, hparse⟩, [], ⟨context.signatures, e.pathTypes⟩, ?_, rfl, id⟩
  have hresolve := ensures_resolve context.host e.definition State.start
  rw [Resolution.Ensures] at hresolve
  rw [hsignature]
  show (resolve context.host e.definition).run State.start = _
  cases hresult : (resolve context.host e.definition).run State.start with
  | mk found s =>
    rw [hresult] at hresolve hrun hstate
    cases found with
    | error fault => cases hrun
    | ok found =>
      obtain rfl : ⟨context.signatures, e.pathTypes⟩ = s := hstate
      rw [hresolve.2.1, hcall]
      rfl

/-! ### What is known of a resolved endpoint -/

section

variable {context : Context} {e : Endpoint} (h : context.Resolves e)

include h

theorem Context.Resolves.label_normal : e.definition.label.Normal := by
  obtain ⟨text, hparse⟩ := h.parsed
  exact Route.Label.normal_of_parse hparse

/-- A path parameter has none of the names that every handler binds. -/
theorem Context.Resolves.notMem_argumentNames {p : String} (hp : p ∈ e.definition.label.params) :
    p ∉ Route.argumentNames :=
  have hname := Route.Path.isParamName_of_mem_params h.label_normal.path_normal.plain hp
  hname.notMem_argumentNames

/-- The form is no path parameter. -/
theorem Context.Resolves.form_notMem_params : "form" ∉ e.definition.label.params :=
  fun hmem => h.notMem_argumentNames hmem (by decide)

/-- **Every call is typed** under the signatures of the context and the types of the endpoint. -/
theorem Context.Resolves.callTyped {call : Call} (hcall : e.definition.call = some call) {c : Call}
    (hc : c.Occurs call) :
    CallTyped context.host context.signatures e.definition e.pathTypes c := by
  obtain ⟨known, s, hrun, htypes, hsignatures⟩ := h.resolved
  have hresolve := ensures_resolve context.host e.definition ⟨known, []⟩
  rw [Resolution.Ensures, hrun] at hresolve
  have htyped := hresolve.2.2 c (Definition.mem_calls_iff.mpr ⟨call, hcall, hc⟩)
  rw [show e.pathTypes = s.pathTypes from htypes]
  exact htyped.mono hsignatures id

/-- **A path parameter that the call does not use** has the type of texts. -/
theorem Context.Resolves.pathType_eq_str {p : String}
    (hp : ∀ call, e.definition.call = some call → p ∉ call.identifiers) :
    e.pathType p = HostType.str := by
  obtain ⟨known, s, hrun, htypes, -⟩ := h.resolved
  rw [Endpoint.pathType, show e.pathTypes = s.pathTypes from htypes,
    pathTypes_lookup_eq_none hrun hp, Option.getD_none]

end

end RoutesModule

end FragmentRoutes
