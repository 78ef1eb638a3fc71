import FragmentRoutes.Proofs.RoutesModule.FormUse
import FragmentRoutes.Proofs.RoutesModule.PathValue

/-!
# Binding arguments

A handler goes through the identifiers of its call from left to right.  `Bound` says what stands
after some of them: every path parameter among them was converted once, to the type that the
resolution recorded for it, and the form is passed as `FormGiven` says.  One more identifier keeps
this (`ensures_bindUse`), so all of them do (`ensures_bindArguments`).

The making ends with a fault only if there is no value for the form.
-/

namespace FragmentRoutes.RoutesModule

open Code Host Resolution

section

variable (context : Context) (definition : Definition) (types : List (String × HostType))

/-- **What was bound** for the identifiers so far: the path parameters among them were converted
once to their types, and the form was read if it is among them and is passed as it is given. -/
structure Bound (s : Imports) (uses : List (Signature.Param × String)) (bindings : Bindings)
    (body : List Stmt) : Prop where
  no_invocation : ∀ stmt ∈ body, ¬IsInvocation stmt
  unconverted : ∀ {p}, bindings.paths.lookup p = none →
    pathLocal p ∉ Stmt.setsOf body ∧ (p ∈ definition.label.params → p ∉ uses.map (·.2))
  converted : ∀ {p t}, bindings.paths.lookup p = some t →
    types.lookup p = some t ∧ ConvertedOnce context.host s p t body
  given : FormGiven context definition s (formParams uses) bindings.form
  formRead : formParams uses ≠ [] → bindings.formRead = true
  read : bindings.formRead = true → readForm ∈ body

/-- Binds one identifier for the parameter that it is passed to. -/
def bindUse (bindings : Bindings) (use : Signature.Param × String) :
    Making (Bindings × List Stmt) :=
  if definition.label.params.contains use.2 then bindPath context definition use.1 use.2 bindings
  else if use.2 == "form" then bindForm context definition use.1 bindings
  else pure (bindings, [])

theorem bindArguments_cons (bindings : Bindings) (use : Signature.Param × String)
    (uses : List (Signature.Param × String)) :
    bindArguments context definition bindings (use :: uses) = (do
      let (bindings, first) ← bindUse context definition bindings use
      let (bindings, body) ← bindArguments context definition bindings uses
      return (bindings, first ++ body)) := by
  rw [bindArguments, bindUse]
  split_ifs
  · rfl
  · rfl
  · rfl

end

section

variable {context : Context} {definition : Definition} {types : List (String × HostType)}
  {s : Imports} {uses : List (Signature.Param × String)} {bindings : Bindings} {body : List Stmt}

/-- Nothing is bound for no identifiers. -/
theorem bound_nil (s : Imports) : Bound context definition types s [] ⟨[], false, .unused⟩ [] where
  no_invocation := by simp
  unconverted := by simp
  converted := by simp
  given := .unused
  formRead h := absurd rfl h
  read := by simp

theorem Bound.mono {s' : Imports} (hgrows : s.Grows s')
    (h : Bound context definition types s uses bindings body) :
    Bound context definition types s' uses bindings body where
  no_invocation := h.no_invocation
  unconverted := h.unconverted
  converted hp := ⟨(h.converted hp).1, (h.converted hp).2.mono hgrows⟩
  given := h.given.mono hgrows
  formRead := h.formRead
  read := h.read

/-- An identifier that needs no binding leaves what was bound. -/
theorem Bound.keep (h : Bound context definition types s uses bindings body)
    {use : Signature.Param × String} (hform : use.2 ≠ "form")
    (hpath : use.2 ∈ definition.label.params → ∃ t, bindings.paths.lookup use.2 = some t) :
    Bound context definition types s (uses ++ [use]) bindings body where
  no_invocation := h.no_invocation
  unconverted := by
    intro p hp
    refine ⟨(h.unconverted hp).1, fun hparam hmem => ?_⟩
    rw [List.map_append, List.mem_append] at hmem
    rcases hmem with hmem | hmem
    · exact (h.unconverted hp).2 hparam hmem
    · obtain rfl := List.mem_singleton.mp hmem
      obtain ⟨t, ht⟩ := hpath hparam
      rw [hp] at ht
      cases ht
  converted := h.converted
  given := by
    rw [formParams_append_of_ne uses hform]
    exact h.given
  formRead := by
    rw [formParams_append_of_ne uses hform]
    exact h.formRead
  read := h.read

/-- A path parameter that was not converted before is converted now. -/
theorem Bound.convert {s' : Imports} (hgrows : s.Grows s')
    (h : Bound context definition types s uses bindings body) {param : Signature.Param} {p : String}
    {t : HostType} {kind : Conversion} {stmt : Stmt} (hform : p ≠ "form")
    (hnew : bindings.paths.lookup p = none) (htype : types.lookup p = some t)
    (hkind : context.host.conversion? t = some kind) (hstmt : Converts s' p t kind stmt) :
    Bound context definition types s' (uses ++ [(param, p)])
      { bindings with paths := bindings.paths ++ [(p, t)] } (body ++ [stmt]) where
  no_invocation := by
    intro u hu
    rcases List.mem_append.mp hu with hu | hu
    · exact h.no_invocation u hu
    · rw [List.mem_singleton.mp hu]
      exact hstmt.not_isInvocation
  unconverted := by
    intro q hq
    rw [List.lookup_append, Option.or_eq_none_iff, List.lookup_cons] at hq
    obtain ⟨hq, hne⟩ := hq
    have hne : q ≠ p := by
      rintro rfl
      rw [beq_self_eq_true] at hne
      cases hne
    refine ⟨?_, fun hparam hmem => ?_⟩
    · rw [Stmt.setsOf_append, List.mem_append]
      rintro (hmem | hmem)
      · exact (h.unconverted hq).1 hmem
      · exact hstmt.pathLocal_notMem hne (by simpa using hmem)
    · rw [List.map_append, List.mem_append] at hmem
      rcases hmem with hmem | hmem
      · exact (h.unconverted hq).2 hparam hmem
      · exact hne (List.mem_singleton.mp hmem)
  converted := by
    intro q t' hq
    by_cases heq : q = p
    · subst heq
      rw [List.lookup_append, hnew, Option.none_or, List.lookup_cons_self] at hq
      obtain rfl := Option.some.inj hq
      refine ⟨htype, kind, body, stmt, [], hkind, hstmt, rfl, h.no_invocation, ?_⟩
      rw [List.append_nil]
      exact (h.unconverted hnew).1
    · have hbeq : (q == p) = false := beq_eq_false_iff_ne.mpr heq
      rw [List.lookup_append, List.lookup_cons, hbeq, List.lookup_nil, Option.or_none] at hq
      obtain ⟨htype', honce⟩ := h.converted hq
      refine ⟨htype', (honce.mono hgrows).append ?_⟩
      simpa using hstmt.pathLocal_notMem heq
  given := by
    rw [formParams_append_of_ne uses hform]
    exact h.given.mono hgrows
  formRead := by
    rw [formParams_append_of_ne uses hform]
    exact h.formRead
  read hread := List.mem_append_left _ (h.read hread)

/-- The form is given to one more parameter. -/
theorem Bound.give {s' : Imports} (hgrows : s.Grows s')
    (h : Bound context definition types s uses bindings body) {param : Signature.Param}
    {bindings' : Bindings} {first : List Stmt} (hform : "form" ∉ definition.label.params)
    (hgiven : FormGiven context definition s' (formParams uses ++ [param]) bindings'.form)
    (hpaths : bindings'.paths = bindings.paths) (hformRead : bindings'.formRead = true)
    (hread : bindings.formRead = true ∨ readForm ∈ first) (hfirst : Binds formNames first) :
    Bound context definition types s' (uses ++ [(param, "form")]) bindings' (body ++ first) where
  no_invocation u hu := (List.mem_append.mp hu).elim (h.no_invocation u) (hfirst.no_invocation u)
  unconverted := by
    intro p hp
    rw [hpaths] at hp
    refine ⟨?_, fun hparam hmem => ?_⟩
    · rw [Stmt.setsOf_append, List.mem_append]
      exact fun hmem => hmem.elim (h.unconverted hp).1 (hfirst.pathLocal_notMem (by decide) p)
    · rw [List.map_append, List.mem_append] at hmem
      rcases hmem with hmem | hmem
      · exact (h.unconverted hp).2 hparam hmem
      · obtain rfl := List.mem_singleton.mp hmem
        exact hform hparam
  converted := by
    intro p t hp
    rw [hpaths] at hp
    obtain ⟨htype, honce⟩ := h.converted hp
    exact ⟨htype, (honce.mono hgrows).append (hfirst.pathLocal_notMem (by decide) p)⟩
  given := by
    rw [formParams_append_form]
    exact hgiven
  formRead _ := hformRead
  read _ := by
    rw [List.mem_append]
    exact hread.imp_left h.read

/-! ### One more identifier -/

/-- **One more identifier** that is of a type that its parameter takes is bound, or there is no
value for the form. -/
theorem ensures_bindUse (hform : "form" ∉ definition.label.params)
    (h : Bound context definition types s uses bindings body) {use : Signature.Param × String}
    (htyped : ArgumentTyped context.host context.signatures definition types use.1 (.name use.2)) :
    Ensures (bindUse context definition bindings use) s
      (fun fault => fault.IsForm ∧ FormFails context definition (formParams (uses ++ [use])))
      fun r s' => Bound context definition types s' (uses ++ [use]) r.1 (body ++ r.2) := by
  obtain ⟨param, id⟩ := use
  rw [bindUse]
  split_ifs with hpath hid
  · -- a path parameter, which the resolution recorded a type for
    rw [List.contains_iff_mem] at hpath
    have hne : id ≠ "form" := by
      rintro rfl
      exact hform hpath
    obtain ⟨kind, hkind, htype⟩ : ∃ kind, context.host.conversion? param.type = some kind ∧
        types.lookup id = some (convertedType kind param.type) := by
      cases htyped with
      | path _ hkind htype => exact ⟨_, hkind, htype⟩
      | form hid => exact absurd rfl hne
      | reserved hid => exact absurd hpath hid
    rw [bindPath]
    cases hlookup : bindings.paths.lookup id with
    | some t =>
      obtain ⟨htype', -⟩ := h.converted hlookup
      have ht : t = convertedType kind param.type := by
        rw [htype] at htype'
        exact (Option.some.inj htype').symm
      have haccepts : context.host.accepts param.type t = true := by
        rw [ht]
        exact accepts_convertedType hkind
      simp only [haccepts, if_true]
      refine ensures_pure ?_
      rw [List.append_nil]
      exact h.keep hne fun _ => ⟨t, hlookup⟩
    | none =>
      have htarget : (if kind == .str then HostType.str else param.type.unwrap) =
          convertedType kind param.type := by
        simp [convertedType]
      have hstr : kind = .str → convertedType kind param.type = HostType.str := by
        intro heq
        rw [convertedType, if_pos heq]
      have hmakes := makes_converts s id hstr (exists_cls_convertedType hkind)
      simp only [hkind, htarget]
      refine .bind ((ensures_lift hmakes).mono ?_)
      rintro _ s' hgrows ⟨stmt, rfl, hstmt⟩
      exact ensures_pure
        (h.convert hgrows hne hlookup htype (conversion?_convertedType hkind) hstmt)
  · -- the form
    obtain rfl := beq_iff_eq.mp hid
    refine ((ensures_bindForm param h.given).mono_fails ?_).mono ?_
    · rintro fault ⟨hfault, hfails⟩
      rw [formParams_append_form]
      exact ⟨hfault, hfails⟩
    · rintro ⟨bindings', first⟩ s' hgrows ⟨hgiven, hpaths, hformRead, hread, hfirst⟩
      exact h.give hgrows hform hgiven hpaths hformRead hread hfirst
  · -- what the handler has anyway
    refine ensures_pure ?_
    rw [List.append_nil]
    refine h.keep (by simpa using hid) fun hmem => absurd (List.contains_iff_mem.mpr hmem) hpath

/-- **Identifiers that are of types that their parameters take are bound**, or there is no value
for the form. -/
theorem ensures_bindArguments (hform : "form" ∉ definition.label.params)
    (h : Bound context definition types s uses bindings body)
    {more : List (Signature.Param × String)}
    (htyped : ∀ use ∈ more,
      ArgumentTyped context.host context.signatures definition types use.1 (.name use.2)) :
    Ensures (bindArguments context definition bindings more) s
      (fun fault => fault.IsForm ∧ FormFails context definition (formParams (uses ++ more)))
      fun r s' => Bound context definition types s' (uses ++ more) r.1 (body ++ r.2) := by
  induction more generalizing s uses bindings body with
  | nil =>
    refine ensures_pure ?_
    rw [List.append_nil, List.append_nil]
    exact h
  | cons use more ih =>
    have huses : uses ++ use :: more = (uses ++ [use]) ++ more := by simp
    rw [bindArguments_cons, huses]
    refine .bind (((ensures_bindUse hform h (htyped use List.mem_cons_self)).mono_fails ?_).mono ?_)
    · rintro fault ⟨hfault, hfails⟩
      rw [formParams_append]
      exact ⟨hfault, hfails.append _⟩
    · rintro ⟨bindings', first⟩ s' - hfirst
      refine .bind ((ih hfirst fun u hu => htyped u (List.mem_cons_of_mem _ hu)).mono ?_)
      rintro ⟨bindings'', rest⟩ s'' - hrest
      refine ensures_pure ?_
      rw [← List.append_assoc]
      exact hrest

end

end FragmentRoutes.RoutesModule
