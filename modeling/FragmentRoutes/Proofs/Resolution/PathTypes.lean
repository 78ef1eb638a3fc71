import FragmentRoutes.Proofs.Resolution.Typing

/-!
# Types of path parameters that no call uses

The resolution records a type for a path parameter only where the parameter is an argument.
`Leaves` says of a step what holds when it ends well, and `State.Frame` that a state has the types
of another except for parameters of given names.  Every step of a definition's resolution frames
the identifiers of its call, so a parameter that the call does not use has no type at the end
(`pathTypes_lookup_eq_none`).
-/

namespace FragmentRoutes

/-! ### Identifiers of calls that occur -/

namespace Call

theorem mem_identifiersOfArguments {id : String} {args : List Argument}
    (h : Argument.name id ∈ args) : id ∈ identifiersOfArguments args := by
  induction args with
  | nil => cases h
  | cons a args ih =>
    rw [identifiersOfArguments, List.mem_append]
    rcases List.mem_cons.mp h with rfl | h
    · exact Or.inl (by simp [identifiersOfArgument])
    · exact Or.inr (ih h)

theorem mem_identifiersOfArguments_of_nested {id : String} {inner : Call} {args : List Argument}
    (hinner : inner ∈ args.filterMap ofArgument?) (h : id ∈ inner.identifiers) :
    id ∈ identifiersOfArguments args := by
  induction args with
  | nil => cases hinner
  | cons a args ih =>
    rw [identifiersOfArguments, List.mem_append]
    cases a with
    | name other => exact Or.inr (ih hinner)
    | call callee args' =>
      rcases List.mem_cons.mp hinner with rfl | hinner
      · exact Or.inl (by rw [identifiersOfArgument]; exact h)
      · exact Or.inr (ih hinner)

/-- The arguments of a call that occurs in a call are identifiers of it. -/
theorem Occurs.mem_identifiers {c call : Call} (h : c.Occurs call) {id : String}
    (hid : Argument.name id ∈ c.args) : id ∈ call.identifiers := by
  induction h with
  | self => exact mem_identifiersOfArguments hid
  | nested hinner _ ih => exact mem_identifiersOfArguments_of_nested hinner ih

end Call

namespace Resolution

/-! ### What a step leaves -/

/-- If the step ends well, it does so with the given property. -/
def Leaves {α : Type} (x : Step α) (s : State) (post : α → State → Prop) : Prop :=
  match x.run s with
  | (.ok a, s') => post a s'
  | (.error _, _) => True

section

variable {α β : Type} {x : Step α} {f : α → Step β} {s : State} {post : α → State → Prop}
  {post' : β → State → Prop}

theorem Leaves.bind (h : Leaves x s fun a s' => Leaves (f a) s' post') :
    Leaves (x >>= f) s post' := by
  rw [Leaves] at h ⊢
  rw [ExceptT.run_bind_apply]
  cases hx : x.run s with
  | mk r s' =>
    rw [hx] at h
    cases r with
    | error fault => trivial
    | ok a => exact h

theorem Leaves.mono {post' : α → State → Prop} (h : Leaves x s post)
    (himp : ∀ a s', post a s' → post' a s') : Leaves x s post' := by
  rw [Leaves] at h ⊢
  split at h
  · exact himp _ _ h
  · trivial

theorem leaves_pure {a : α} (h : post a s) : Leaves (pure a) s post :=
  h

theorem leaves_throw (fault : Fault) : Leaves (throw fault) s post :=
  trivial

theorem leaves_get {post : State → State → Prop} (h : post s s) : Leaves get s post :=
  h

theorem leaves_set {post : PUnit → State → Prop} {s' : State} (h : post ⟨⟩ s') :
    Leaves (set s') s post :=
  h

theorem leaves_ofExcept (e : Except Fault α) (h : ∀ a, e = .ok a → post a s) :
    Leaves (ofExcept e) s post := by
  cases e with
  | error fault => trivial
  | ok a => exact h a rfl

end

/-! ### Framed path types -/

/-- The second state has the types of the first for all path parameters but the given ones. -/
def State.Frame (s s' : State) (names : List String) : Prop :=
  ∀ param ∉ names, s'.pathTypes.lookup param = s.pathTypes.lookup param

theorem State.frame_of_pathTypes_eq {s s' : State} {names : List String}
    (h : s'.pathTypes = s.pathTypes) : s.Frame s' names :=
  fun _ _ => by rw [h]

theorem State.Frame.trans {s s' s'' : State} {names : List String} (h : s.Frame s' names)
    (h' : s'.Frame s'' names) : s.Frame s'' names :=
  fun param hparam => (h' param hparam).trans (h param hparam)

/-- Recording a signature leaves all path types. -/
theorem leaves_record (g : Signature) (s : State) :
    Leaves (record g) s fun _ s' => s'.pathTypes = s.pathTypes := by
  rw [record]
  refine .bind (leaves_get ?_)
  split
  · split_ifs
    · exact leaves_pure rfl
    · exact leaves_throw _
  · exact .bind (leaves_set (leaves_pure rfl))

theorem leaves_signatureOf (host : Host) (call : Call) (s : State) :
    Leaves (signatureOf host call) s fun _ s' => s'.pathTypes = s.pathTypes := by
  have hlookup : Leaves (lookup host call.callee) s fun _ s' => s'.pathTypes = s.pathTypes := by
    rw [lookup]
    refine .bind (leaves_get ?_)
    split
    · exact leaves_pure rfl
    · split
      · exact leaves_pure rfl
      · exact leaves_throw _
      · exact .bind ((leaves_record _ s).mono fun _ _ h => leaves_pure h)
  rw [signatureOf]
  refine .bind (hlookup.mono fun found s' h => ?_)
  cases found with
  | some known => exact leaves_pure h
  | none =>
    refine .bind (leaves_get (.bind (leaves_ofExcept _ fun g _ => ?_)))
    exact (leaves_record g s').mono fun _ _ h' => h'.trans h

/-- Checking an argument frames the argument, if it is an identifier. -/
theorem leaves_checkArgument (host : Host) (definition : Definition) {param : Signature.Param}
    {arg : Argument} {names : List String} (h : ∀ id, arg = .name id → id ∈ names) (s : State) :
    Leaves (checkArgument host definition param arg) s fun _ s' => s.Frame s' names := by
  have haccepted : Leaves (checkAccepted host definition param arg) s
      fun _ s' => s.Frame s' names := by
    rw [checkAccepted]
    refine .bind (leaves_get (.bind (leaves_ofExcept _ fun t _ => ?_)))
    split_ifs
    · exact leaves_throw _
    · exact leaves_pure (State.frame_of_pathTypes_eq rfl)
  cases arg with
  | call callee args => exact haccepted
  | name id =>
    rw [checkArgument]
    split_ifs
    · cases conversionTarget? host param.type with
      | none => exact leaves_throw _
      | some target =>
        refine .bind (leaves_get ?_)
        split
        · refine leaves_set fun other hother => ?_
          -- only the argument itself gets a type
          have hne : (other == id) = false := by
            rw [beq_eq_false_iff_ne]
            rintro rfl
            exact hother (h other rfl)
          rw [List.lookup_append, List.lookup_cons, hne, List.lookup_nil, Option.or_none]
        · split_ifs
          · exact leaves_throw _
          · exact leaves_pure (State.frame_of_pathTypes_eq rfl)
    · exact leaves_pure (State.frame_of_pathTypes_eq rfl)
    · exact haccepted

theorem leaves_checkArguments (host : Host) (definition : Definition)
    {pairs : List (Signature.Param × Argument)} {names : List String}
    (h : ∀ pair ∈ pairs, ∀ id, pair.2 = .name id → id ∈ names) (s : State) :
    Leaves (checkArguments host definition pairs) s fun _ s' => s.Frame s' names := by
  induction pairs generalizing s with
  | nil => exact leaves_pure (State.frame_of_pathTypes_eq rfl)
  | cons pair pairs ih =>
    rw [checkArguments]
    refine .bind ((leaves_checkArgument host definition (h pair List.mem_cons_self) s).mono ?_)
    intro _ s' hframe
    exact (ih (fun p hp => h p (List.mem_cons_of_mem _ hp)) s').mono fun _ _ => hframe.trans

theorem leaves_resolveCall (host : Host) (definition : Definition) {call : Call}
    {names : List String} (h : ∀ id, Argument.name id ∈ call.args → id ∈ names) (s : State) :
    Leaves (resolveCall host definition call) s fun _ s' => s.Frame s' names := by
  rw [resolveCall]
  refine .bind ((leaves_signatureOf host call s).mono fun g s' hsame => ?_)
  have hframe : s.Frame s' names := State.frame_of_pathTypes_eq hsame
  rw [checkCall]
  split_ifs
  · exact .bind (leaves_throw _)
  · refine .bind (leaves_pure ((leaves_checkArguments host definition ?_ s').mono
      fun _ _ => hframe.trans))
    intro pair hpair id hid
    exact h id (hid ▸ (List.of_mem_zip hpair).2)

/-- **Resolving calls frames their identifiers.** -/
theorem leaves_resolveCalls (host : Host) (definition : Definition) {calls : List Call}
    {names : List String} (h : ∀ c ∈ calls, ∀ id, Argument.name id ∈ c.args → id ∈ names)
    (s : State) :
    Leaves (resolveCalls host definition calls) s fun _ s' => s.Frame s' names := by
  induction calls generalizing s with
  | nil => exact leaves_pure (State.frame_of_pathTypes_eq rfl)
  | cons call calls ih =>
    rw [resolveCalls]
    refine .bind ((leaves_resolveCall host definition (h call List.mem_cons_self) s).mono ?_)
    intro _ s' hframe
    exact (ih (fun c hc => h c (List.mem_cons_of_mem _ hc)) s').mono fun _ _ => hframe.trans

/-- **A path parameter that no call uses has no type** after a resolution that began with none. -/
theorem pathTypes_lookup_eq_none {host : Host} {d : Definition} {known : List Signature}
    {found : Option Signature} {s : State}
    (h : (resolve host d).run ⟨known, []⟩ = (.ok found, s)) {param : String}
    (hparam : ∀ call, d.call = some call → param ∉ call.identifiers) :
    s.pathTypes.lookup param = none := by
  have hframe : Leaves (resolve host d) ⟨known, []⟩
      fun _ s' => s'.pathTypes.lookup param = none := by
    rw [resolve]
    cases hcall : d.call with
    | none => exact leaves_pure rfl
    | some call =>
      have hwalk : ∀ c ∈ call.walk, ∀ id, Argument.name id ∈ c.args → id ∈ call.identifiers :=
        fun c hc id hid => (Call.mem_walk_iff.mp hc).mem_identifiers hid
      refine .bind ((leaves_resolveCalls host d hwalk _).mono fun _ s' hframe => ?_)
      exact .bind (leaves_get (leaves_pure (hframe param (hparam call hcall))))
  rw [Leaves, h] at hframe
  exact hframe

end Resolution

end FragmentRoutes
