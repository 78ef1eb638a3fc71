import FragmentRoutes.Endpoint
import FragmentRoutes.Proofs.Resolution.Typing
import Mathlib.Data.List.Forall2

/-!
# Resolved definitions

`resolveFrom` resolves definitions one after the other.  Signatures are kept from one to the
next, path types are not.  Since what is recorded never changes, a call that was checked against
the signatures of its time is typed under the final ones (`DefinitionTyped.mono`).

The main result is `resolveFrom_typed`: the final signatures are those of the callees of the
definitions, every call of every definition is typed under them, and no fault is one of the
resolution itself.
-/

namespace FragmentRoutes

open Resolution

namespace Definition

/-- A call of a definition, at any depth. -/
def HasCall (d : Definition) (c : Call) : Prop :=
  ∃ call, d.call = some call ∧ c.Occurs call

/-- The calls of a definition in the order in which they are resolved. -/
def calls (d : Definition) : List Call :=
  d.call.elim [] Call.walk

theorem mem_calls_iff {d : Definition} {c : Call} : c ∈ d.calls ↔ d.HasCall c := by
  rw [calls, HasCall]
  cases hcall : d.call with
  | none => simp
  | some call => simp [Call.mem_walk_iff]

/-- The callees of definitions are those of their calls. -/
theorem mem_map_callee_calls_iff {ds : List Definition} {callee : String} :
    callee ∈ (ds.flatMap calls).map (·.callee) ↔
      ∃ d ∈ ds, ∃ c, d.HasCall c ∧ c.callee = callee := by
  constructor
  · intro h
    obtain ⟨c, hc, rfl⟩ := List.mem_map.mp h
    obtain ⟨d, hd, hc⟩ := List.mem_flatMap.mp hc
    exact ⟨d, hd, c, mem_calls_iff.mp hc, rfl⟩
  · rintro ⟨d, hd, c, hc, rfl⟩
    exact List.mem_map.mpr ⟨c, List.mem_flatMap.mpr ⟨d, hd, mem_calls_iff.mpr hc⟩, rfl⟩

end Definition

/-! ### One definition -/

namespace Resolution

/-- **Resolving a definition** records its callees and nothing else, and leaves all its calls
typed. -/
theorem ensures_resolve (host : Host) (d : Definition) (s : State) :
    Ensures (resolve host d) s fun found s' =>
      s.Grows s' (d.calls.map (·.callee)) ∧
        found = d.call.bind (fun call => recorded? s'.signatures call.callee) ∧
        ∀ c ∈ d.calls, CallTyped host s'.signatures d s'.pathTypes c := by
  rw [resolve, Definition.calls]
  cases d.call with
  | none => exact ensures_pure ⟨.refl s, rfl, by simp⟩
  | some call =>
    refine .bind ((ensures_resolveCalls host (Call.nestedFirst_walk call) (by simp)).mono ?_)
    rintro _ s' ⟨hgrows, htyped⟩
    exact .bind (ensures_get (ensures_pure ⟨hgrows, rfl, htyped⟩))

end Resolution

namespace Endpoint

/-! ### All definitions -/

/-- The definition has the signature of its call, and all its calls are typed under the
signatures and its path types. -/
structure DefinitionTyped (host : Host) (signatures : List Signature) (d : Definition)
    (r : Resolved) : Prop where
  signature : r.1 = d.call.bind fun call => recorded? signatures call.callee
  typed : ∀ c, d.HasCall c → CallTyped host signatures d r.2 c

theorem DefinitionTyped.mono {host : Host} {signatures signatures' : List Signature}
    {d : Definition} {r : Resolved}
    (hsignatures : ∀ {callee g}, recorded? signatures callee = some g →
      recorded? signatures' callee = some g)
    (h : DefinitionTyped host signatures d r) : DefinitionTyped host signatures' d r where
  signature := by
    rw [h.signature]
    cases hcall : d.call with
    | none => rfl
    | some call =>
      -- the call is typed, so its callee has a signature already
      obtain ⟨g, hg, -⟩ := h.typed call ⟨call, hcall, .self call⟩
      show recorded? signatures call.callee = recorded? signatures' call.callee
      rw [hg, hsignatures hg]
  typed c hc := (h.typed c hc).mono hsignatures id

/-- The outcome of resolving definitions: the records before are among the final ones, those of
the callees of the definitions are added, and the definitions are typed. -/
def Sound (host : Host) (signatures : List Signature) (ds : List Definition) :
    Except Resolution.Fault (List Resolved × List Signature) → Prop
  | .error fault => ¬fault.IsInternal
  | .ok (resolved, all) =>
    State.Grows ⟨signatures, []⟩ ⟨all, []⟩ ((ds.flatMap Definition.calls).map (·.callee)) ∧
      List.Forall₂ (DefinitionTyped host all) ds resolved

theorem sound_resolveFrom (host : Host) (signatures : List Signature) (ds : List Definition) :
    Sound host signatures ds (resolveFrom host signatures ds) := by
  induction ds generalizing signatures with
  | nil => exact ⟨.refl _, .nil⟩
  | cons d ds ih =>
    have hd := ensures_resolve host d ⟨signatures, []⟩
    rw [Ensures] at hd
    rw [resolveFrom]
    cases hrun : (resolve host d).run ⟨signatures, []⟩ with
    | mk found s =>
      rw [hrun] at hd
      cases found with
      | error fault => exact hd
      | ok found =>
        obtain ⟨hgrows, hfound, htyped⟩ := hd
        have hrest := ih s.signatures
        dsimp only
        cases hresult : resolveFrom host s.signatures ds with
        | error fault =>
          rw [hresult] at hrest
          exact hrest
        | ok result =>
          obtain ⟨rest, all⟩ := result
          rw [hresult] at hrest
          obtain ⟨hgrows', htyped'⟩ := hrest
          -- the definitions after it change no record, so this one stays typed
          have hd : DefinitionTyped host s.signatures d (found, s.pathTypes) :=
            ⟨hfound, fun c hc => htyped c (Definition.mem_calls_iff.mpr hc)⟩
          refine ⟨?_, .cons (hd.mono hgrows'.signature) htyped'⟩
          rw [List.flatMap_cons, List.map_append]
          exact hgrows.dropPathTypes.trans hgrows'

/-- **Resolved definitions are typed.**  Resolving definitions never ends with a fault of the
resolution itself.  If it ends well, the callees of the definitions have one signature each and
nothing else has one; and under these signatures every call of every definition, at any depth, is
typed. -/
theorem resolveFrom_typed (host : Host) (ds : List Definition) :
    (∀ fault, resolveFrom host [] ds = .error fault → ¬fault.IsInternal) ∧
    ∀ resolved signatures, resolveFrom host [] ds = .ok (resolved, signatures) →
      (signatures.map (·.name)).Nodup ∧
      (∀ callee, callee ∈ signatures.map (·.name) ↔
        ∃ d ∈ ds, ∃ c, d.HasCall c ∧ c.callee = callee) ∧
      List.Forall₂ (DefinitionTyped host signatures) ds resolved := by
  have hsound := sound_resolveFrom host [] ds
  constructor
  · intro fault h
    rw [h] at hsound
    exact hsound
  · intro resolved signatures h
    rw [h] at hsound
    obtain ⟨hgrows, htyped⟩ := hsound
    refine ⟨hgrows.nodup List.nodup_nil, fun callee => ?_, htyped⟩
    refine hgrows.mem_callees.trans ?_
    rw [Definition.mem_map_callee_calls_iff]
    exact or_iff_right List.not_mem_nil

/-- Nested calls are typed with the signature of the application, and the path parameter that two
calls share is converted once.  A call that lacks an argument is a fault of the definition. -/
theorem resolveFrom_typed_nested :
    let load : Host.Function :=
      ⟨"app", [⟨"id", some (.cls (.builtin "int")), .positional, false⟩], none, false⟩
    let host : Host := ⟨[], [("Load", load)], none⟩
    let label : Route.Label := ⟨"GET /\x7bid\x7d", some .get, "", "/\x7bid\x7d", [.param "id"],
      200, false, ""⟩
    let nested : Definition :=
      ⟨label, some ⟨"Render", [.call "Load" [.name "id"], .name "ctx"]⟩, "", ""⟩
    let plain : Definition := ⟨label, some ⟨"Load", [.name "id"]⟩, "", ""⟩
    let short : Definition := ⟨label, some ⟨"Load", []⟩, "", ""⟩
    (∃ resolved signatures, resolveFrom host [] [nested, plain] = .ok (resolved, signatures) ∧
      signatures.map (·.name) = ["Load", "Render"] ∧
      List.Forall₂ (DefinitionTyped host signatures) [nested, plain] resolved) ∧
    ∃ fault, resolveFrom host [] [nested, short] = .error fault ∧ ¬fault.IsInternal := by
  intro load host label nested plain short
  constructor
  · have hnames : (resolveFrom host [] [nested, plain]).toOption.map (·.2.map (·.name)) =
        some ["Load", "Render"] := by decide +kernel
    cases h : resolveFrom host [] [nested, plain] with
    | error fault =>
      rw [h] at hnames
      exact absurd hnames (by simp [Except.toOption])
    | ok result =>
      rw [h] at hnames
      exact ⟨result.1, result.2, rfl, Option.some.inj hnames,
        ((resolveFrom_typed host [nested, plain]).2 _ _ h).2.2⟩
  · have hnone : (resolveFrom host [] [nested, short]).toOption.isNone := by decide +kernel
    cases h : resolveFrom host [] [nested, short] with
    | error fault => exact ⟨fault, rfl, (resolveFrom_typed host [nested, short]).1 fault h⟩
    | ok result =>
      rw [h] at hnone
      exact absurd hnone (by simp [Except.toOption])

end Endpoint

end FragmentRoutes
