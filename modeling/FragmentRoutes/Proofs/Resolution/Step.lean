import FragmentRoutes.Resolution
import FragmentRoutes.Proofs.Call
import FragmentRoutes.Proofs.Except
import Mathlib.Data.List.Nodup

/-!
# Steps of the resolution

`Ensures x s post` says of the step `x` from the state `s` that it either ends well with `post`,
or with a fault of the application: it never ends with a fault of the resolution itself.  A step
is taken apart at its binds (`Ensures.bind`), so every function of the resolution has one lemma.

What the steps keep is that records are final (`State.Grows`): a signature or path type that is
recorded stays as it is, and no callee is recorded twice.  Giving a call its signature records
its callee and nothing else, if the calls nested in it are recorded (`ensures_signatureOf`).
-/

namespace FragmentRoutes.Resolution

/-- A fault of the resolution itself, which no definition causes. -/
def Fault.IsInternal : Fault → Prop
  | .unrecorded _ => True
  | .changed _ _ => True
  | _ => False

/-- The step ends well with the given property, or with a fault of the application. -/
def Ensures {α : Type} (x : Step α) (s : State) (post : α → State → Prop) : Prop :=
  match x.run s with
  | (.ok a, s') => post a s'
  | (.error fault, _) => ¬fault.IsInternal

section

variable {α β : Type} {x : Step α} {f : α → Step β} {s : State} {post : α → State → Prop}
  {post' : β → State → Prop}

theorem Ensures.bind (h : Ensures x s fun a s' => Ensures (f a) s' post') :
    Ensures (x >>= f) s post' := by
  rw [Ensures] at h ⊢
  rw [ExceptT.run_bind_apply]
  cases hx : x.run s with
  | mk r s' =>
    rw [hx] at h
    cases r with
    | error fault => exact h
    | ok a => exact h

theorem Ensures.mono {post' : α → State → Prop} (h : Ensures x s post)
    (himp : ∀ a s', post a s' → post' a s') : Ensures x s post' := by
  rw [Ensures] at h ⊢
  split at h
  · exact himp _ _ h
  · exact h

theorem ensures_pure {a : α} (h : post a s) : Ensures (pure a) s post :=
  h

theorem ensures_throw {fault : Fault} (h : ¬fault.IsInternal) : Ensures (throw fault) s post :=
  h

theorem ensures_get {post : State → State → Prop} (h : post s s) : Ensures get s post :=
  h

theorem ensures_set {post : PUnit → State → Prop} {s' : State} (h : post ⟨⟩ s') :
    Ensures (set s') s post :=
  h

theorem ensures_ofExcept {e : Except Fault α} {a : α} (he : e = .ok a) (h : post a s) :
    Ensures (ofExcept e) s post := by
  rw [he]
  exact h

end

/-! ### Recorded signatures -/

theorem recorded?_eq_none_iff {signatures : List Signature} {callee : String} :
    recorded? signatures callee = none ↔ callee ∉ signatures.map (·.name) := by
  rw [recorded?, List.find?_eq_none]
  simp

theorem exists_recorded?_iff {signatures : List Signature} {callee : String} :
    (∃ g, recorded? signatures callee = some g) ↔ callee ∈ signatures.map (·.name) := by
  rw [← not_iff_not, ← recorded?_eq_none_iff, Option.eq_none_iff_forall_ne_some, not_exists]

/-- A signature that is added at the end is found if the callee had none. -/
theorem recorded?_append_self {signatures : List Signature} {g : Signature}
    (h : recorded? signatures g.name = none) :
    recorded? (signatures ++ [g]) g.name = some g := by
  rw [recorded?] at h ⊢
  rw [List.find?_append, h]
  simp

/-- A signature that was found is found whatever is added at the end. -/
theorem recorded?_append {signatures : List Signature} {callee : String} {g g' : Signature}
    (h : recorded? signatures callee = some g) :
    recorded? (signatures ++ [g']) callee = some g := by
  rw [recorded?] at h ⊢
  rw [List.find?_append, h]
  rfl

/-! ### Growing states -/

namespace State

/-- The callees with a recorded signature. -/
def callees (s : State) : List String :=
  s.signatures.map (·.name)

/-- The second state has all records of the first, unchanged, and further signatures for the
given callees only. -/
structure Grows (s s' : State) (names : List String) : Prop where
  signature : ∀ {callee g}, recorded? s.signatures callee = some g →
    recorded? s'.signatures callee = some g
  pathType : ∀ {param t}, s.pathTypes.lookup param = some t → s'.pathTypes.lookup param = some t
  mem_callees : ∀ {callee}, callee ∈ s'.callees ↔ callee ∈ s.callees ∨ callee ∈ names
  nodup : s.callees.Nodup → s'.callees.Nodup

theorem Grows.refl (s : State) : s.Grows s [] :=
  ⟨id, id, by simp, id⟩

theorem Grows.trans {s s' s'' : State} {names names' : List String} (h : s.Grows s' names)
    (h' : s'.Grows s'' names') : s.Grows s'' (names ++ names') :=
  ⟨fun hg => h'.signature (h.signature hg), fun ht => h'.pathType (h.pathType ht),
    fun {callee} => by rw [h'.mem_callees, h.mem_callees, List.mem_append, or_assoc],
    fun hn => h'.nodup (h.nodup hn)⟩

/-- A state with one more signature, of a callee that had none. -/
theorem grows_append {s : State} {g : Signature} (h : recorded? s.signatures g.name = none) :
    s.Grows ⟨s.signatures ++ [g], s.pathTypes⟩ [g.name] where
  signature := recorded?_append
  pathType := id
  mem_callees := by simp [callees]
  nodup hn := by
    rw [callees, List.map_append]
    refine List.nodup_append.mpr ⟨hn, by simp, fun a ha b hb hab => ?_⟩
    obtain rfl := hab.trans (List.mem_singleton.mp hb)
    exact recorded?_eq_none_iff.mp h ha

/-- A state in which a callee is recorded anyway. -/
theorem grows_of_mem_callees {s : State} {callee : String} (h : callee ∈ s.callees) :
    s.Grows s [callee] :=
  ⟨id, id, fun {name} => by rw [List.mem_singleton]; exact (or_iff_left_of_imp (· ▸ h)).symm, id⟩

/-- A state with the type of one more path parameter. -/
theorem grows_bindPath {s : State} {param : String} {target : HostType} :
    s.Grows ⟨s.signatures, s.pathTypes ++ [(param, target)]⟩ [] where
  signature := id
  pathType ht := by rw [List.lookup_append, ht]; rfl
  mem_callees := by simp [callees]
  nodup := id

/-- Path types that nothing was recorded for may be dropped. -/
theorem Grows.dropPathTypes {signatures : List Signature} {s : State} {names : List String}
    (h : State.Grows ⟨signatures, []⟩ s names) :
    State.Grows ⟨signatures, []⟩ ⟨s.signatures, []⟩ names where
  signature := h.signature
  pathType := id
  mem_callees := h.mem_callees
  nodup := h.nodup

end State

/-! ### Giving a call its signature -/

/-- A signature of a callee that had none is recorded as it is. -/
theorem ensures_record {s : State} {g : Signature} (h : recorded? s.signatures g.name = none) :
    Ensures (record g) s fun r s' => r = g ∧ s' = ⟨s.signatures ++ [g], s.pathTypes⟩ := by
  rw [record]
  refine .bind (ensures_get ?_)
  rw [h]
  exact .bind (ensures_set (ensures_pure ⟨rfl, rfl⟩))

/-- The application's signature of a callee has the name of the callee. -/
theorem name_of_ofHost? {host : Host} {callee : String} {g : Signature}
    (h : Signature.ofHost? host callee = some (.ok g)) : g.name = callee := by
  have hfunction : ∀ {f : Host.Function} {origin : Signature.Origin},
      Signature.ofFunction host callee f origin = .ok g → g.name = callee := by
    intro f origin hf
    rw [Signature.ofFunction, Except.bind_eq_ok] at hf
    obtain ⟨types, -, hf⟩ := hf
    rw [Except.bind_eq_ok] at hf
    obtain ⟨returns, -, hf⟩ := hf
    rw [Except.bind_eq_ok] at hf
    obtain ⟨params, -, hf⟩ := hf
    by_cases hnone : returns.isNoneType = true
    · rw [if_pos hnone] at hf
      cases hf
    · rw [if_neg hnone] at hf
      obtain rfl := Except.ok.inj hf
      rfl
  rw [Signature.ofHost?] at h
  split at h
  · exact hfunction (Option.some.inj h)
  · obtain ⟨f, -, hf⟩ := Option.map_eq_some_iff.mp h
    exact hfunction hf

/-- Looking a callee up gives its signature, which is then recorded, or leaves the state as it is
if the callee has none. -/
theorem ensures_lookup (host : Host) (s : State) (callee : String) :
    Ensures (lookup host callee) s fun found s' =>
      match found with
      | some g => s.Grows s' [callee] ∧ recorded? s'.signatures callee = some g
      | none => s' = s ∧ callee ∉ s.callees := by
  rw [lookup]
  refine .bind (ensures_get ?_)
  cases hknown : recorded? s.signatures callee with
  | some known =>
    exact ensures_pure ⟨s.grows_of_mem_callees (exists_recorded?_iff.mp ⟨known, hknown⟩), hknown⟩
  | none =>
    cases hhost : Signature.ofHost? host callee with
    | none => exact ensures_pure ⟨rfl, recorded?_eq_none_iff.mp hknown⟩
    | some made =>
      cases made with
      | error fault => exact ensures_throw (by simp [Fault.IsInternal])
      | ok g =>
        -- it has the callee's name, for which nothing was recorded
        obtain rfl := name_of_ofHost? hhost
        refine .bind ((ensures_record hknown).mono ?_)
        rintro r s' ⟨rfl, rfl⟩
        exact ensures_pure ⟨State.grows_append hknown, recorded?_append_self hknown⟩

/-- The type of an argument is known once its callee, if it is a call, is recorded. -/
theorem argumentType_eq_ok {signatures : List Signature} {a : Argument}
    (h : ∀ inner, Call.ofArgument? a = some inner → inner.callee ∈ signatures.map (·.name)) :
    ∃ t, argumentType signatures a = .ok t := by
  cases a with
  | name id => exact ⟨_, rfl⟩
  | call callee args =>
    obtain ⟨g, hg⟩ := exists_recorded?_iff.mpr (h ⟨callee, args⟩ rfl)
    exact ⟨g.result, by rw [argumentType, hg]⟩

theorem synthesizeParams_eq_ok {signatures : List Signature} {args : List Argument}
    (h : ∀ inner ∈ args.filterMap Call.ofArgument?, inner.callee ∈ signatures.map (·.name))
    (used : List String) (index : Nat) :
    ∃ params, synthesizeParams signatures used index args = .ok params := by
  induction args generalizing used index with
  | nil => exact ⟨[], rfl⟩
  | cons a args ih =>
    obtain ⟨t, ht⟩ : ∃ t, argumentType signatures a = .ok t :=
      argumentType_eq_ok fun inner hinner =>
        h inner (List.mem_filterMap.mpr ⟨a, List.mem_cons_self, hinner⟩)
    have hargs : ∀ inner ∈ args.filterMap Call.ofArgument?,
        inner.callee ∈ signatures.map (·.name) := by
      intro inner hinner
      obtain ⟨b, hb, hinner⟩ := List.mem_filterMap.mp hinner
      exact h inner (List.mem_filterMap.mpr ⟨b, List.mem_cons_of_mem _ hb, hinner⟩)
    obtain ⟨params, hparams⟩ := ih hargs (freeName used (suggestedName index a) :: used) (index + 1)
    exact ⟨_, by rw [synthesizeParams, ht, Except.ok_bind, hparams]; rfl⟩

/-- A signature can be made from a call whose nested calls are recorded. -/
theorem synthesize_eq_ok {signatures : List Signature} {call : Call}
    (h : ∀ inner ∈ call.nested, inner.callee ∈ signatures.map (·.name)) :
    ∃ g, synthesize signatures call = .ok g ∧ g.name = call.callee := by
  obtain ⟨params, hparams⟩ := synthesizeParams_eq_ok h [] 0
  exact ⟨_, by rw [synthesize, hparams]; rfl, rfl⟩

/-- **Giving a call its signature** records its callee and nothing else, if the calls nested in
it are recorded. -/
theorem ensures_signatureOf (host : Host) {s : State} {call : Call}
    (h : ∀ inner ∈ call.nested, inner.callee ∈ s.callees) :
    Ensures (signatureOf host call) s fun g s' =>
      s.Grows s' [call.callee] ∧ recorded? s'.signatures call.callee = some g := by
  rw [signatureOf]
  refine .bind ((ensures_lookup host s call.callee).mono ?_)
  rintro (_ | g) s' hfound
  · -- the callee has no signature yet, so the one made from the call is new
    obtain ⟨rfl, hnew⟩ := hfound
    obtain ⟨g, hg, hname⟩ := synthesize_eq_ok h
    refine .bind (ensures_get (.bind (ensures_ofExcept hg ?_)))
    rw [← hname] at hnew ⊢
    have hnone := recorded?_eq_none_iff.mpr hnew
    refine (ensures_record hnone).mono ?_
    rintro r s'' ⟨rfl, rfl⟩
    exact ⟨State.grows_append hnone, recorded?_append_self hnone⟩
  · exact ensures_pure hfound

end FragmentRoutes.Resolution
