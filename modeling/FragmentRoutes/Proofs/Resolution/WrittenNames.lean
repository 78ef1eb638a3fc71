import FragmentRoutes.Proofs.Endpoint
import FragmentRoutes.Proofs.Host.WrittenNames
import FragmentRoutes.Proofs.Resolution.PathTypes

/-!
# Names that signatures are written with

A signature is `ReturnFree` if no return stands in its name and module, nor in the names and types of
its parameters and results.  The application's signature of a callee is of this kind if no return
stands in the names of the application (`Signature.returnFree_ofHost?`), and one that is made from a
call always is.  So all that the resolution of definitions records is
(`Endpoint.returnFree_resolveFrom`).
-/

namespace FragmentRoutes

open Host Text

/-! ### Signatures -/

/-- No return stands in a name that the parameter is written with. -/
def Signature.Param.ReturnFree (p : Signature.Param) : Prop :=
  Text.ReturnFree p.name ∧ p.type.ReturnFree

/-- No return stands in a name that the signature is written with. -/
structure Signature.ReturnFree (g : Signature) : Prop where
  name : Text.ReturnFree g.name
  module : Text.ReturnFree g.module
  params : ∀ p ∈ g.params, p.ReturnFree
  result : g.result.ReturnFree
  returns : g.returns.ReturnFree

namespace Signature

variable {host : Host} (h : host.ReturnFree) {callee : String}

theorem returnFree_shapeOf {returns : HostType} (hreturns : returns.ReturnFree) :
    (shapeOf host returns).1.ReturnFree := by
  unfold shapeOf
  split_ifs
  · split
    · rename_i value mark hargs
      have hvalue : value.ReturnFree := hreturns.args value (hargs ▸ List.mem_cons_self)
      split_ifs
      · exact hvalue
      · exact hvalue
      · exact hreturns
    · exact hreturns
  · exact hreturns

include h

theorem returnFree_written {t u : HostType} (ht : t.ReturnFree)
    (hwritten : written host callee t = .ok u) : u.ReturnFree := by
  rw [written] at hwritten
  split at hwritten
  · rename_i settled hsettle
    obtain rfl := Except.ok.inj hwritten
    have hsettled := HostType.ReturnFree.settle (fun _ _ hname => h.named hname) ht.named hsettle
    exact hsettled.withoutRemarks
  · cases hwritten

theorem returnFree_paramTypes {params : List Parameter} {types : List (Parameter × HostType)}
    (hparams : ∀ p ∈ params, Text.ReturnFree p.name ∧ ∀ t ∈ p.type, t.ReturnFree)
    (htypes : paramTypes host callee params = .ok types) :
    ∀ entry ∈ types, Text.ReturnFree entry.1.name ∧ entry.2.ReturnFree := by
  induction params generalizing types with
  | nil =>
    obtain rfl := Except.ok.inj htypes
    simp
  | cons p params ih =>
    obtain ⟨⟨hname, htype⟩, hparams⟩ := List.forall_mem_cons.mp hparams
    have hrest : ∀ {t : HostType}, t.ReturnFree →
        (do let rest ← paramTypes host callee params; pure ((p, t) :: rest)) = .ok types →
          ∀ entry ∈ types, Text.ReturnFree entry.1.name ∧ entry.2.ReturnFree := by
      intro t ht hbind
      obtain ⟨rest, hrest, hbind⟩ := Except.bind_eq_ok.mp hbind
      obtain rfl := Except.ok.inj hbind
      exact List.forall_mem_cons.mpr ⟨⟨hname, ht⟩, ih hparams hrest⟩
    rw [paramTypes] at htypes
    split at htypes
    · rename_i given hgiven
      obtain ⟨t, ht, htypes⟩ := Except.bind_eq_ok.mp htypes
      exact hrest (returnFree_written h (htype given hgiven) ht) htypes
    · exact hrest HostType.returnFree_any htypes

omit h in
theorem returnFree_positional {types : List (Parameter × HostType)} {params : List Param}
    (htypes : ∀ entry ∈ types, Text.ReturnFree entry.1.name ∧ entry.2.ReturnFree)
    (hparams : positional callee types = .ok params) : ∀ p ∈ params, p.ReturnFree := by
  induction types generalizing params with
  | nil =>
    obtain rfl := Except.ok.inj hparams
    simp
  | cons entry types ih =>
    obtain ⟨p, t⟩ := entry
    obtain ⟨hentry, htypes⟩ := List.forall_mem_cons.mp htypes
    rw [positional] at hparams
    cases hpassing : p.passing with
    | rest => simp [hpassing] at hparams
    | keywordRest => simp [hpassing] at hparams
    | keywordOnly =>
      rw [hpassing] at hparams
      dsimp only at hparams
      split_ifs at hparams
      exact ih htypes hparams
    | positional =>
      rw [hpassing] at hparams
      obtain ⟨rest, hrest, hparams⟩ := Except.bind_eq_ok.mp hparams
      obtain rfl := Except.ok.inj hparams
      exact List.forall_mem_cons.mpr ⟨hentry, ih htypes hrest⟩
    | positionalOnly =>
      rw [hpassing] at hparams
      obtain ⟨rest, hrest, hparams⟩ := Except.bind_eq_ok.mp hparams
      obtain rfl := Except.ok.inj hparams
      exact List.forall_mem_cons.mpr ⟨hentry, ih htypes hrest⟩

theorem returnFree_ofFunction (hcallee : Text.ReturnFree callee) {f : Function} (hf : f.ReturnFree)
    {origin : Origin} {g : Signature} (hg : ofFunction host callee f origin = .ok g) :
    g.ReturnFree := by
  rw [ofFunction] at hg
  obtain ⟨types, htypes, hg⟩ := Except.bind_eq_ok.mp hg
  obtain ⟨returns, hreturns, hg⟩ := Except.bind_eq_ok.mp hg
  obtain ⟨params, hparams, hg⟩ := Except.bind_eq_ok.mp hg
  have hsome : returns.isNoneType ≠ true := by
    intro hnone
    rw [if_pos hnone] at hg
    cases hg
  rw [if_neg hsome] at hg
  obtain rfl := Except.ok.inj hg
  have hreturns : returns.ReturnFree := by
    rw [resultType] at hreturns
    split at hreturns
    · rename_i t ht
      exact returnFree_written h (hf.result ht) hreturns
    · obtain rfl := Except.ok.inj hreturns
      exact HostType.returnFree_any
  refine ⟨hcallee, ?_, ?_, returnFree_shapeOf hreturns, hreturns⟩
  · dsimp only
    split_ifs
    · exact hf.module
    · exact returnFree_empty
  · exact returnFree_positional (returnFree_paramTypes h (fun p hp => hf.param hp) htypes) hparams

omit h in
theorem returnFree_registration : registration.ReturnFree := by
  have hnames : registration.writtenNames = ["abc", "subclass"] := rfl
  rw [Function.ReturnFree, hnames]
  simp only [List.forall_mem_cons]
  exact ⟨returnFree_ofList rfl, returnFree_ofList rfl, by simp⟩

theorem returnFree_receiverFunction? {f : Function} (hf : receiverFunction? host callee = some f) :
    f.ReturnFree := by
  rw [receiverFunction?] at hf
  split_ifs at hf
  cases hreceiver : host.receiver with
  | none => simp [hreceiver] at hf
  | some c =>
    rw [hreceiver] at hf
    dsimp only at hf
    cases ha : host.attribute? c callee with
    | none =>
      rw [ha] at hf
      dsimp only at hf
      split_ifs at hf
      obtain rfl := Option.some.inj hf
      exact returnFree_registration
    | some a =>
      rw [ha] at hf
      cases a with
      | method g => exact Option.some.inj hf ▸ h.attribute ha rfl
      | static g => exact Option.some.inj hf ▸ h.attribute ha rfl
      | ofClass g => exact Option.some.inj hf ▸ h.attribute ha rfl
      | _ => cases hf

/-- **The signature that the application has for a callee** is without returns. -/
theorem returnFree_ofHost? (hcallee : Text.ReturnFree callee) {g : Signature}
    (hg : ofHost? host callee = some (.ok g)) : g.ReturnFree := by
  rw [ofHost?] at hg
  split at hg
  · rename_i f hf
    exact returnFree_ofFunction h hcallee (returnFree_receiverFunction? h hf) (Option.some.inj hg)
  · obtain ⟨f, hf, hg⟩ := Option.map_eq_some_iff.mp hg
    obtain ⟨front, back, heq, -⟩ := List.lookup_eq_some_iff.mp hf
    have hmem : (callee, f) ∈ host.functions := by simp [heq]
    exact returnFree_ofFunction h hcallee (h.function hmem) hg

end Signature

/-! ### Resolution -/

namespace Resolution

/-- No return stands in a name that what was recorded is written with. -/
structure State.ReturnFree (s : State) : Prop where
  signatures : ∀ g ∈ s.signatures, g.ReturnFree
  pathTypes : ∀ entry ∈ s.pathTypes, entry.2.ReturnFree

theorem returnFree_of_recorded? {signatures : List Signature}
    (hall : ∀ g ∈ signatures, g.ReturnFree) {callee : String} {g : Signature}
    (h : recorded? signatures callee = some g) : g.ReturnFree :=
  hall g (List.mem_of_find?_eq_some h)

theorem returnFree_argumentType {signatures : List Signature}
    (hall : ∀ g ∈ signatures, g.ReturnFree) {a : Argument} {t : HostType}
    (h : argumentType signatures a = .ok t) : t.ReturnFree := by
  cases a with
  | call callee args =>
    rw [argumentType] at h
    split at h
    · rename_i g hg
      exact Except.ok.inj h ▸ (returnFree_of_recorded? hall hg).result
    · cases h
  | name id =>
    obtain rfl := Except.ok.inj h
    unfold reservedType?
    split
    · refine HostType.returnFree_applied_iff.mpr ⟨⟨?_, ?_⟩, by simp [HostType.returnFree_str]⟩
      · exact returnFree_ofList rfl
      · exact returnFree_ofList rfl
    · exact HostType.returnFree_cls_iff.mpr ⟨returnFree_ofList rfl, returnFree_ofList rfl⟩
    · exact HostType.returnFree_generated_iff.mpr (returnFree_ofList rfl)
    · exact HostType.returnFree_cls_iff.mpr ⟨returnFree_ofList rfl, returnFree_ofList rfl⟩
    · exact HostType.returnFree_str

/-- The name of a parameter is an identifier, with a number or without. -/
theorem returnFree_freeName (used : List String) {base : String} (h : Text.ReturnFree base) :
    Text.ReturnFree (freeName used base) := by
  have hnumbered : ∀ n : Nat, Text.ReturnFree (base ++ "_" ++ toString n) := fun n =>
    (h.append (returnFree_ofList rfl)).append (returnFree_toString_nat n)
  have hwithin : ∀ fuel n, Text.ReturnFree (freeNameWithin used base fuel n) := by
    intro fuel
    induction fuel with
    | zero => exact hnumbered
    | succ fuel ih =>
      intro n
      rw [freeNameWithin]
      split_ifs
      · exact ih _
      · exact hnumbered n
  rw [freeName]
  split_ifs
  · exact hwithin _ _
  · exact h

theorem returnFree_suggestedName (index : Nat) (a : Argument) :
    Text.ReturnFree (suggestedName index a) := by
  unfold suggestedName
  dsimp only
  split_ifs with hname
  · exact returnFree_of_isName hname
  · exact (returnFree_ofList rfl).append (returnFree_toString_nat index)

theorem returnFree_synthesizeParams {signatures : List Signature}
    (hall : ∀ g ∈ signatures, g.ReturnFree) {used : List String} {index : Nat}
    {args : List Argument} {params : List Signature.Param}
    (h : synthesizeParams signatures used index args = .ok params) :
    ∀ p ∈ params, p.ReturnFree := by
  induction args generalizing used index params with
  | nil =>
    obtain rfl := Except.ok.inj h
    simp
  | cons a args ih =>
    rw [synthesizeParams] at h
    obtain ⟨t, ht, h⟩ := Except.bind_eq_ok.mp h
    obtain ⟨rest, hrest, h⟩ := Except.bind_eq_ok.mp h
    obtain rfl := Except.ok.inj h
    exact List.forall_mem_cons.mpr ⟨⟨returnFree_freeName _ (returnFree_suggestedName _ _),
      returnFree_argumentType hall ht⟩, ih hrest⟩

/-- **A signature that is made from a call** is without returns if the callee is. -/
theorem returnFree_synthesize {signatures : List Signature}
    (hall : ∀ g ∈ signatures, g.ReturnFree) {call : Call} (hcallee : Text.ReturnFree call.callee)
    {g : Signature} (h : synthesize signatures call = .ok g) : g.ReturnFree := by
  obtain ⟨params, hparams, h⟩ := Except.bind_eq_ok.mp h
  obtain rfl := Except.ok.inj h
  exact ⟨hcallee, returnFree_empty, returnFree_synthesizeParams hall hparams,
    HostType.returnFree_any, HostType.returnFree_any⟩

theorem leaves_record_returnFree {g : Signature} (hg : g.ReturnFree) {s : State}
    (hs : s.ReturnFree) : Leaves (record g) s fun r s' => r.ReturnFree ∧ s'.ReturnFree := by
  rw [record]
  refine .bind (leaves_get ?_)
  split
  · rename_i known hknown
    split_ifs
    · exact leaves_pure ⟨returnFree_of_recorded? hs.signatures hknown, hs⟩
    · exact leaves_throw _
  · refine .bind (leaves_set (leaves_pure ⟨hg, ?_, hs.pathTypes⟩))
    exact List.forall_mem_append.mpr ⟨hs.signatures, by simpa using hg⟩

section

variable {host : Host} (h : host.ReturnFree)

include h

theorem leaves_signatureOf_returnFree {call : Call} (hcallee : Text.ReturnFree call.callee)
    {s : State} (hs : s.ReturnFree) :
    Leaves (signatureOf host call) s fun g s' => g.ReturnFree ∧ s'.ReturnFree := by
  have hlookup : Leaves (lookup host call.callee) s fun found s' =>
      (∀ g ∈ found, g.ReturnFree) ∧ s'.ReturnFree := by
    rw [lookup]
    refine .bind (leaves_get ?_)
    split
    · rename_i known hknown
      refine leaves_pure ⟨?_, hs⟩
      simpa using returnFree_of_recorded? hs.signatures hknown
    · split
      · exact leaves_pure ⟨by simp, hs⟩
      · exact leaves_throw _
      · rename_i g hg
        refine .bind ((leaves_record_returnFree (Signature.returnFree_ofHost? h hcallee hg) hs).mono
          fun r s' hr => leaves_pure ⟨by simpa using hr.1, hr.2⟩)
  rw [signatureOf]
  refine .bind (hlookup.mono fun found s' hfound => ?_)
  cases found with
  | some known => exact leaves_pure ⟨hfound.1 known rfl, hfound.2⟩
  | none =>
    refine .bind (leaves_get (.bind (leaves_ofExcept _ fun g hg => ?_)))
    exact leaves_record_returnFree (returnFree_synthesize hfound.2.signatures hcallee hg) hfound.2

omit h in
theorem leaves_checkArgument_returnFree (definition : Definition) {param : Signature.Param}
    (hparam : param.ReturnFree) (arg : Argument) {s : State} (hs : s.ReturnFree) :
    Leaves (checkArgument host definition param arg) s fun _ s' => s'.ReturnFree := by
  have haccepted : Leaves (checkAccepted host definition param arg) s fun _ s' => s'.ReturnFree := by
    rw [checkAccepted]
    refine .bind (leaves_get (.bind (leaves_ofExcept _ fun t _ => ?_)))
    split_ifs
    · exact leaves_throw _
    · exact leaves_pure hs
  cases arg with
  | call callee args => exact haccepted
  | name id =>
    rw [checkArgument]
    split_ifs
    · cases htarget : conversionTarget? host param.type with
      | none => exact leaves_throw _
      | some target =>
        have htarget : target.ReturnFree := by
          obtain ⟨kind, -, rfl⟩ := Option.map_eq_some_iff.mp htarget
          split_ifs
          · exact HostType.returnFree_str
          · exact hparam.2.unwrap
        refine .bind (leaves_get ?_)
        split
        · refine leaves_set ⟨hs.signatures, ?_⟩
          exact List.forall_mem_append.mpr ⟨hs.pathTypes, by simpa using htarget⟩
        · split_ifs
          · exact leaves_throw _
          · exact leaves_pure hs
    · exact leaves_pure hs
    · exact haccepted

omit h in
theorem leaves_checkArguments_returnFree (definition : Definition)
    {pairs : List (Signature.Param × Argument)} (hpairs : ∀ pair ∈ pairs, pair.1.ReturnFree)
    {s : State} (hs : s.ReturnFree) :
    Leaves (checkArguments host definition pairs) s fun _ s' => s'.ReturnFree := by
  induction pairs generalizing s with
  | nil => exact leaves_pure hs
  | cons pair pairs ih =>
    obtain ⟨hpair, hpairs⟩ := List.forall_mem_cons.mp hpairs
    rw [checkArguments]
    exact .bind ((leaves_checkArgument_returnFree definition hpair pair.2 hs).mono fun _ _ hs' =>
      ih hpairs hs')

/-- What is recorded for calls is without returns if their callees are. -/
theorem leaves_resolveCalls_returnFree (definition : Definition) {calls : List Call}
    (hcalls : ∀ c ∈ calls, Text.ReturnFree c.callee) {s : State} (hs : s.ReturnFree) :
    Leaves (resolveCalls host definition calls) s fun _ s' => s'.ReturnFree := by
  induction calls generalizing s with
  | nil => exact leaves_pure hs
  | cons call calls ih =>
    obtain ⟨hcall, hcalls⟩ := List.forall_mem_cons.mp hcalls
    have hresolve : Leaves (resolveCall host definition call) s fun _ s' => s'.ReturnFree := by
      rw [resolveCall]
      refine .bind ((leaves_signatureOf_returnFree h hcall hs).mono fun g s' hg => ?_)
      rw [checkCall]
      split_ifs
      · exact .bind (leaves_throw _)
      · exact .bind (leaves_pure (leaves_checkArguments_returnFree definition
          (fun pair hpair => hg.1.params _ (List.of_mem_zip hpair).1) hg.2))
    rw [resolveCalls]
    exact .bind (hresolve.mono fun _ _ hs' => ih hcalls hs')

theorem leaves_resolve_returnFree {definition : Definition}
    (hcalls : ∀ c ∈ definition.calls, Text.ReturnFree c.callee) {s : State} (hs : s.ReturnFree) :
    Leaves (resolve host definition) s fun _ s' => s'.ReturnFree := by
  rw [Definition.calls] at hcalls
  rw [resolve]
  cases hcall : definition.call with
  | none => exact leaves_pure hs
  | some call =>
    rw [hcall] at hcalls
    exact .bind ((leaves_resolveCalls_returnFree h definition hcalls hs).mono fun _ _ hs' =>
      .bind (leaves_get (leaves_pure hs')))

end

end Resolution

/-- **All that is recorded for definitions is without returns** if no return stands in their callees,
nor in the names of the application. -/
theorem Endpoint.returnFree_resolveFrom {host : Host} (h : host.ReturnFree)
    {signatures all : List Signature} (hsignatures : ∀ g ∈ signatures, g.ReturnFree)
    {definitions : List Definition}
    (hcalls : ∀ d ∈ definitions, ∀ c ∈ d.calls, Text.ReturnFree c.callee)
    {resolved : List Resolved}
    (hresolved : resolveFrom host signatures definitions = .ok (resolved, all)) :
    (∀ g ∈ all, g.ReturnFree) ∧ ∀ r ∈ resolved, ∀ entry ∈ r.2, entry.2.ReturnFree := by
  induction definitions generalizing signatures resolved with
  | nil =>
    obtain ⟨rfl, rfl⟩ := Prod.mk.inj (Except.ok.inj hresolved)
    exact ⟨hsignatures, by simp⟩
  | cons d ds ih =>
    obtain ⟨hd, hds⟩ := List.forall_mem_cons.mp hcalls
    have hleaves := Resolution.leaves_resolve_returnFree h hd (s := ⟨signatures, []⟩)
      ⟨hsignatures, by simp⟩
    rw [Resolution.Leaves] at hleaves
    rw [resolveFrom] at hresolved
    split at hresolved
    · cases hresolved
    · rename_i found state hrun
      rw [hrun] at hleaves
      obtain ⟨⟨rest, all'⟩, hrest, hresolved⟩ := Except.bind_eq_ok.mp hresolved
      obtain ⟨rfl, rfl⟩ := Prod.mk.inj (Except.ok.inj hresolved)
      obtain ⟨hall, hrest⟩ := ih hleaves.signatures hds hrest
      exact ⟨hall, List.forall_mem_cons.mpr ⟨hleaves.pathTypes, hrest⟩⟩

end FragmentRoutes
