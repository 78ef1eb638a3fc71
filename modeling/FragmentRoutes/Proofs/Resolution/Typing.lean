import FragmentRoutes.Proofs.Resolution.Step

/-!
# Typed calls

`CallTyped` says on its own what a call must satisfy under given signatures and path types: as
many arguments as its callee has parameters, and every argument of a type that its parameter
takes (`ArgumentTyped`).  What is typed stays typed when further records are made
(`CallTyped.mono`).

`resolveCalls` leaves a state in which every call of a list is typed, if the list has nested
calls first (`ensures_resolveCalls`).
-/

namespace FragmentRoutes.Resolution

open Host

/-! ### Conversions -/

/-- What a text is converted to for a parameter: a text for parameters that take any text, else
the type without the absent value. -/
def convertedType (kind : Conversion) (t : HostType) : HostType :=
  if kind = .str then HostType.str else t.unwrap

/-- A type is the same as a class only if it is that class. -/
theorem eq_cls_of_same {t : HostType} {c : ClassId} (h : t.same (.cls c) = true) : t = .cls c := by
  cases t with
  | cls d => rw [HostType.same, beq_iff_eq] at h; rw [h]
  | _ => simp [HostType.same] at h

/-- The class of a standard name is a class. -/
theorem exists_cls_of_isBuiltin {t : HostType} {name : String} (h : t.isBuiltin name = true) :
    ∃ c, t = .cls c := by
  cases t with
  | cls c => exact ⟨c, rfl⟩
  | _ => simp [HostType.isBuiltin, HostType.isClass] at h

/-- Texts are converted to classes. -/
theorem exists_cls_convertedType {host : Host} {t : HostType} {kind : Conversion}
    (h : host.conversion? t = some kind) : ∃ c, convertedType kind t = .cls c := by
  rw [conversion?] at h
  split_ifs at h with hbool hint hfloat hstr htext
  · obtain rfl := Option.some.inj h
    exact exists_cls_of_isBuiltin hbool
  · obtain rfl := Option.some.inj h
    exact exists_cls_of_isBuiltin hint
  · obtain rfl := Option.some.inj h
    exact exists_cls_of_isBuiltin hfloat
  · obtain rfl := Option.some.inj h
    exact ⟨_, rfl⟩
  · obtain rfl := Option.some.inj h
    show ∃ c, t.unwrap = .cls c
    cases ht : t.unwrap with
    | cls c => exact ⟨c, rfl⟩
    | _ => simp [isDecodable, classOf?, ht] at htext

theorem conversionTarget?_eq_some {host : Host} {t target : HostType}
    (h : conversionTarget? host t = some target) :
    ∃ kind, host.conversion? t = some kind ∧ target = convertedType kind t := by
  obtain ⟨kind, hkind, rfl⟩ := Option.map_eq_some_iff.mp h
  exact ⟨kind, hkind, by simp [convertedType]⟩

/-! ### Typed arguments and calls -/

section

variable (host : Host) (signatures : List Signature) (definition : Definition)
  (types : List (String × HostType))

/-- The argument is of a type that the parameter takes. -/
inductive ArgumentTyped (param : Signature.Param) : Argument → Prop where
  /-- A path parameter has one converted type, that of every parameter it is passed to. -/
  | path {id : String} {kind : Conversion} (hid : id ∈ definition.label.params)
      (hkind : host.conversion? param.type = some kind)
      (htype : types.lookup id = some (convertedType kind param.type)) :
      ArgumentTyped param (.name id)
  /-- The form fills a class with fields. -/
  | form (hid : "form" ∉ definition.label.params) (hstruct : host.isStruct param.type = true) :
      ArgumentTyped param (.name "form")
  /-- Any other identifier, the form too, is accepted with the type that the handler has. -/
  | reserved {id : String} (hid : id ∉ definition.label.params)
      (haccepts : host.accepts param.type ((reservedType? id).getD HostType.str) = true) :
      ArgumentTyped param (.name id)
  /-- A nested call is accepted with the result of its callee. -/
  | call {callee : String} {args : List Argument} {g : Signature}
      (hg : recorded? signatures callee = some g)
      (haccepts : host.accepts param.type g.result = true) :
      ArgumentTyped param (.call callee args)

/-- The callee has a signature with as many parameters as the call has arguments, and every
argument is of a type that its parameter takes. -/
def CallTyped (call : Call) : Prop :=
  ∃ g, recorded? signatures call.callee = some g ∧ g.params.length = call.args.length ∧
    ∀ pair ∈ g.params.zip call.args,
      ArgumentTyped host signatures definition types pair.1 pair.2

end

section

variable {host : Host} {definition : Definition} {signatures signatures' : List Signature}
  {types types' : List (String × HostType)}
  (hsignatures : ∀ {callee g}, recorded? signatures callee = some g →
    recorded? signatures' callee = some g)
  (htypes : ∀ {param t}, types.lookup param = some t → types'.lookup param = some t)

include hsignatures htypes

theorem ArgumentTyped.mono {param : Signature.Param} {arg : Argument}
    (h : ArgumentTyped host signatures definition types param arg) :
    ArgumentTyped host signatures' definition types' param arg := by
  cases h with
  | path hid hkind htype => exact .path hid hkind (htypes htype)
  | form hid hstruct => exact .form hid hstruct
  | reserved hid haccepts => exact .reserved hid haccepts
  | call hg haccepts => exact .call (hsignatures hg) haccepts

/-- **A typed call stays typed** when more is recorded. -/
theorem CallTyped.mono {call : Call} (h : CallTyped host signatures definition types call) :
    CallTyped host signatures' definition types' call := by
  obtain ⟨g, hg, hlength, hargs⟩ := h
  exact ⟨g, hsignatures hg, hlength, fun pair hpair => (hargs pair hpair).mono hsignatures htypes⟩

end

/-! ### Checking calls -/

/-- Binding a path parameter leaves it with the given class, or the class was bound before. -/
theorem ensures_bindPath {definition : Definition} {param : String} {c : ClassId} (s : State) :
    Ensures (bindPath definition param (.cls c)) s fun _ s' =>
      s.Grows s' [] ∧ s'.pathTypes.lookup param = some (.cls c) := by
  rw [bindPath]
  refine .bind (ensures_get ?_)
  cases hlookup : s.pathTypes.lookup param with
  | none =>
    refine ensures_set ⟨s.grows_bindPath, ?_⟩
    rw [List.lookup_append, hlookup]
    simp
  | some recorded =>
    dsimp only
    split_ifs with hsame
    · exact ensures_throw (by simp [Fault.IsInternal])
    · obtain rfl := eq_cls_of_same (by simpa using hsame)
      exact ensures_pure ⟨.refl s, hlookup⟩

/-- An argument that is accepted is so with the type that the handler has for it. -/
theorem ensures_checkAccepted (host : Host) {definition : Definition} {param : Signature.Param}
    {arg : Argument} {s : State}
    (h : ∀ inner, Call.ofArgument? arg = some inner → inner.callee ∈ s.callees) :
    Ensures (checkAccepted host definition param arg) s fun _ s' =>
      s' = s ∧ ∃ t, argumentType s.signatures arg = .ok t ∧ host.accepts param.type t = true := by
  rw [checkAccepted]
  obtain ⟨t, ht⟩ := argumentType_eq_ok h
  refine .bind (ensures_get (.bind (ensures_ofExcept ht ?_)))
  split_ifs with haccepts
  · exact ensures_throw (by simp [Fault.IsInternal])
  · exact ensures_pure ⟨rfl, t, ht, by simpa using haccepts⟩

theorem ensures_checkArgument (host : Host) {definition : Definition} {param : Signature.Param}
    {arg : Argument} {s : State}
    (h : ∀ inner, Call.ofArgument? arg = some inner → inner.callee ∈ s.callees) :
    Ensures (checkArgument host definition param arg) s fun _ s' =>
      s.Grows s' [] ∧ ArgumentTyped host s'.signatures definition s'.pathTypes param arg := by
  cases arg with
  | call callee args =>
    refine (ensures_checkAccepted host h).mono ?_
    rintro _ s' ⟨rfl, t, ht, haccepts⟩
    refine ⟨.refl s', ?_⟩
    rw [argumentType] at ht
    split at ht
    · rename_i g hg
      obtain rfl := Except.ok.inj ht
      exact .call hg haccepts
    · cases ht
  | name id =>
    rw [checkArgument]
    split_ifs with hpath hform
    · -- a path parameter
      rw [List.contains_iff_mem] at hpath
      cases htarget : conversionTarget? host param.type with
      | none => exact ensures_throw (by simp [Fault.IsInternal])
      | some target =>
        obtain ⟨kind, hkind, rfl⟩ := conversionTarget?_eq_some htarget
        obtain ⟨c, hc⟩ := exists_cls_convertedType hkind
        dsimp only
        rw [hc]
        refine (ensures_bindPath s).mono ?_
        rintro _ s' ⟨hgrows, hlookup⟩
        exact ⟨hgrows, .path hpath hkind (hc ▸ hlookup)⟩
    · -- the form, for a class with fields
      rw [List.contains_iff_mem] at hpath
      rw [Bool.and_eq_true, beq_iff_eq] at hform
      obtain ⟨rfl, hstruct⟩ := hform
      exact ensures_pure ⟨.refl s, .form hpath hstruct⟩
    · -- what the handler has anyway
      rw [List.contains_iff_mem] at hpath
      refine (ensures_checkAccepted host h).mono ?_
      rintro _ s' ⟨rfl, t, ht, haccepts⟩
      obtain rfl := Except.ok.inj ht
      exact ⟨.refl s', .reserved hpath haccepts⟩

theorem ensures_checkArguments (host : Host) {definition : Definition}
    {pairs : List (Signature.Param × Argument)} {s : State}
    (h : ∀ pair ∈ pairs, ∀ inner, Call.ofArgument? pair.2 = some inner →
      inner.callee ∈ s.callees) :
    Ensures (checkArguments host definition pairs) s fun _ s' =>
      s.Grows s' [] ∧ ∀ pair ∈ pairs,
        ArgumentTyped host s'.signatures definition s'.pathTypes pair.1 pair.2 := by
  induction pairs generalizing s with
  | nil => exact ensures_pure ⟨.refl s, by simp⟩
  | cons pair pairs ih =>
    rw [checkArguments]
    refine .bind ((ensures_checkArgument host (h pair List.mem_cons_self)).mono ?_)
    rintro _ s' ⟨hgrows, htyped⟩
    -- records are final, so nested callees stay recorded and arguments stay typed
    have hrest : ∀ p ∈ pairs, ∀ inner, Call.ofArgument? p.2 = some inner →
        inner.callee ∈ s'.callees := fun p hp inner hinner =>
      hgrows.mem_callees.mpr (Or.inl (h p (List.mem_cons_of_mem _ hp) inner hinner))
    refine (ih hrest).mono ?_
    rintro _ s'' ⟨hgrows', htyped'⟩
    refine ⟨hgrows.trans hgrows', fun p hp => ?_⟩
    rcases List.mem_cons.mp hp with rfl | hp
    · exact htyped.mono hgrows'.signature hgrows'.pathType
    · exact htyped' p hp

/-- **A call that passes the check is typed**, if the calls nested in it are recorded. -/
theorem ensures_checkCall (host : Host) {definition : Definition} {g : Signature} {call : Call}
    {s : State} (hg : recorded? s.signatures call.callee = some g)
    (h : ∀ inner ∈ call.nested, inner.callee ∈ s.callees) :
    Ensures (checkCall host definition g call) s fun _ s' =>
      s.Grows s' [] ∧ CallTyped host s'.signatures definition s'.pathTypes call := by
  rw [checkCall]
  split_ifs with hlength
  · exact .bind (ensures_throw (by simp [Fault.IsInternal]))
  · have hargs : ∀ pair ∈ g.params.zip call.args, ∀ inner,
        Call.ofArgument? pair.2 = some inner → inner.callee ∈ s.callees :=
      fun pair hpair inner hinner => h inner
        (List.mem_filterMap.mpr ⟨pair.2, (List.of_mem_zip hpair).2, hinner⟩)
    refine .bind (ensures_pure ((ensures_checkArguments host hargs).mono ?_))
    rintro _ s' ⟨hgrows, htyped⟩
    exact ⟨hgrows, g, hgrows.signature hg, by simpa using hlength, htyped⟩

/-! ### Resolving calls -/

/-- A call whose nested calls are recorded is recorded and typed. -/
theorem ensures_resolveCall (host : Host) {definition : Definition} {call : Call} {s : State}
    (h : ∀ inner ∈ call.nested, inner.callee ∈ s.callees) :
    Ensures (resolveCall host definition call) s fun _ s' =>
      s.Grows s' [call.callee] ∧ CallTyped host s'.signatures definition s'.pathTypes call := by
  rw [resolveCall]
  refine .bind ((ensures_signatureOf host h).mono ?_)
  rintro g s' ⟨hgrows, hg⟩
  have hnested : ∀ inner ∈ call.nested, inner.callee ∈ s'.callees := fun inner hinner =>
    hgrows.mem_callees.mpr (Or.inl (h inner hinner))
  refine (ensures_checkCall host hg hnested).mono ?_
  rintro _ s'' ⟨hgrows', htyped⟩
  exact ⟨hgrows.trans hgrows', htyped⟩

/-- **Calls that have nested calls first are all recorded and typed**; nothing else is
recorded. -/
theorem ensures_resolveCalls (host : Host) {definition : Definition} {seen calls : List Call}
    {s : State} (hcalls : Call.NestedFirst seen calls)
    (hseen : ∀ call ∈ seen, call.callee ∈ s.callees) :
    Ensures (resolveCalls host definition calls) s fun _ s' =>
      s.Grows s' (calls.map (·.callee)) ∧
        ∀ call ∈ calls, CallTyped host s'.signatures definition s'.pathTypes call := by
  induction calls generalizing seen s with
  | nil => exact ensures_pure ⟨.refl s, by simp⟩
  | cons call calls ih =>
    rw [resolveCalls]
    obtain ⟨hnested, hrest⟩ := hcalls
    refine .bind ((ensures_resolveCall host fun inner hinner =>
      hseen inner (hnested inner hinner)).mono ?_)
    rintro _ s' ⟨hgrows, htyped⟩
    -- what is nested in the next call is among the calls seen, which are recorded
    have hseen' : ∀ c ∈ call :: seen, c.callee ∈ s'.callees := by
      intro c hc
      rcases List.mem_cons.mp hc with rfl | hc
      · exact hgrows.mem_callees.mpr (Or.inr List.mem_cons_self)
      · exact hgrows.mem_callees.mpr (Or.inl (hseen c hc))
    refine (ih hrest hseen').mono ?_
    rintro _ s'' ⟨hgrows', htyped'⟩
    refine ⟨hgrows.trans hgrows', fun c hc => ?_⟩
    rcases List.mem_cons.mp hc with rfl | hc
    · exact htyped.mono hgrows'.signature hgrows'.pathType
    · exact htyped' c hc

end FragmentRoutes.Resolution
