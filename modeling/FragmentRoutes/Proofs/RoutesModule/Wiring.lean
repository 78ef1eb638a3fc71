import FragmentRoutes.Proofs.Call.Place
import FragmentRoutes.Proofs.Call.Scope
import FragmentRoutes.Proofs.Imports.LocalName
import FragmentRoutes.Proofs.RoutesModule.PathArgument

/-!
# Results of nested calls

A handler has one statement for each place of a call, in post-order, and keeps the result of the
call at a place under a name of its own (`resultName`).  The making numbers the results as it goes
through the arguments; the names that it gives are those of the places (`makes_invokeCall_at`), so a
call passes the result of the very call that is its argument, also when equal calls occur at several
places.

All that is passed was assigned before (`handler_wiring`).
-/

namespace FragmentRoutes.RoutesModule

open Code Host Resolution Call

/-! ### Names of results -/

/-- The name that the result of the call at a place is kept under: results of nested calls are
numbered from one on in the order of the places. -/
def resultName (call : Call) (p : Place) : String :=
  if p = [] then "_result" else "_result" ++ toString (call.places.idxOf p + 1)

/-- The places are given names with consecutive numbers after `n`. -/
def Numbered (name : Place → String) (n : Nat) : List Place → Prop
  | [] => True
  | p :: ps => name p = resultLocal (n + 1) ∧ Numbered name (n + 1) ps

theorem numbered_append {name : Place → String} {n : Nat} {ps qs : List Place} :
    Numbered name n (ps ++ qs) ↔ Numbered name n ps ∧ Numbered name (n + ps.length) qs := by
  induction ps generalizing n with
  | nil => simp [Numbered]
  | cons p ps ih =>
    rw [List.cons_append, Numbered, Numbered, ih, List.length_cons, and_assoc,
      show n + 1 + ps.length = n + (ps.length + 1) by omega]

theorem numbered_map {name : Place → String} {n : Nat} {ps : List Place} (f : Place → Place) :
    Numbered name n (ps.map f) ↔ Numbered (fun p => name (f p)) n ps := by
  induction ps generalizing n with
  | nil => rfl
  | cons p ps ih => rw [List.map_cons, Numbered, Numbered, ih]

theorem resultLocal_injective {m n : Nat} (h : resultLocal m = resultLocal n) : m = n :=
  Text.append_toString_injective "_result" h

theorem resultLocal_ne (n : Nat) : resultLocal n ≠ "_result" := by
  intro h
  have hlength := congrArg String.length h
  rw [resultLocal, String.length_append] at hlength
  have hempty : (toString n).length = 0 := by omega
  rw [Nat.toString_eq_repr, String.length_eq_zero_iff] at hempty
  exact Nat.repr_ne_empty hempty

/-- The nested calls are numbered. -/
theorem numbered_resultName (call : Call) :
    Numbered (resultName call) 0 (placesFrom 0 call.args) := by
  have hnodup := nodup_places call
  have hsuffix : ∀ (ps before : List Place), call.places = before ++ ps ++ [[]] →
      Numbered (resultName call) before.length ps := by
    intro ps
    induction ps with
    | nil => exact fun _ _ => trivial
    | cons p ps ih =>
      intro before hplaces
      have hsplit : call.places = before ++ p :: (ps ++ [[]]) := by rw [hplaces]; simp
      rw [hsplit, List.nodup_middle, List.nodup_cons] at hnodup
      obtain ⟨hnew, -⟩ := hnodup
      have hnotMem : p ∉ before := fun h => hnew (List.mem_append_left _ h)
      have hne : p ≠ [] := fun h => hnew (by rw [h]; simp)
      constructor
      · rw [resultName, if_neg hne, hsplit, List.idxOf_append_of_notMem hnotMem,
          List.idxOf_cons_self, Nat.add_zero, resultLocal]
      · have hrest := ih (before ++ [p]) (by rw [hplaces]; simp)
        rwa [List.length_append, List.length_singleton] at hrest
  exact hsuffix _ [] rfl

/-- **No two calls keep their results under one name.** -/
theorem resultName_injective {call : Call} {p q : Place} (hp : p ∈ call.places)
    (h : resultName call p = resultName call q) : p = q := by
  unfold resultName at h
  split_ifs at h with hpNil hqNil hqNil
  · rw [hpNil, hqNil]
  · exact absurd h.symm (resultLocal_ne _)
  · exact absurd h (resultLocal_ne _)
  · have hidx : call.places.idxOf p = call.places.idxOf q := by
      have hnumber := resultLocal_injective h
      omega
    exact (List.idxOf_inj hp).mp hidx

/-! ### Statements for places -/

/-- What is passed for an argument of the call at a place: what an identifier stands for, or the
result of the call at the place of the argument. -/
def passedAt (bindings : Bindings) (name : Place → String) (p : Place) (i : Nat) :
    Argument → Expr
  | .name id => bindings.value id
  | .call _ _ => .name (name (p ++ [i]))

/-- The statement **invokes** the call at a place unless something failed before: it passes the
arguments of that call to the function of its callee, awaits it exactly if it is asynchronous, and
keeps the result under the name for the place. -/
def InvokesAt (context : Context) (s : Imports) (bindings : Bindings) (name : Place → String)
    (call : Call) (p : Place) (stmt : Stmt) : Prop :=
  ∃ c callee body, call.at? p = some c ∧ IsCallee s (context.signature c.callee) callee ∧
    stmt = .ifElse (.unary .not (.attribute (.name "_td") "_errors")) body [] ∧
    KeepsResult (name p) (if (context.signature c.callee).isAsync
      then .await (.call callee (c.args.mapIdx (passedAt bindings name p)) [])
      else .call callee (c.args.mapIdx (passedAt bindings name p)) []) p.isEmpty
      (context.signature c.callee).shape body

section

variable {context : Context} {s s' : Imports} {bindings : Bindings} {name : Place → String}
  {call : Call} {p : Place} {stmt : Stmt}

theorem InvokesAt.mono (hgrows : s.Grows s') (h : InvokesAt context s bindings name call p stmt) :
    InvokesAt context s' bindings name call p stmt := by
  obtain ⟨c, callee, body, hc, hcallee, hstmt⟩ := h
  exact ⟨c, callee, body, hc, hcallee.mono hgrows, hstmt⟩

/-- A call sets the name that its result is kept under. -/
theorem KeepsResult.target_mem_setsOf {target : String} {value : Expr} {isOuter : Bool}
    {shape : Signature.Shape} {body : List Stmt}
    (h : KeepsResult target value isOuter shape body) : target ∈ Stmt.setsOf body := by
  cases h with
  | value => simp [Stmt.sets, Expr.targets]
  | withError => simp [Stmt.sets, Expr.targets, Expr.name?]
  | withSuccess => simp [Stmt.sets, Expr.targets, Expr.name?]

theorem InvokesAt.name_mem_sets (h : InvokesAt context s bindings name call p stmt) :
    name p ∈ stmt.sets := by
  obtain ⟨c, callee, body, -, -, rfl, hkept⟩ := h
  rw [← Stmt.when, Stmt.sets_when]
  exact hkept.target_mem_setsOf

end

/-! ### Carrying out calls -/

theorem makes_invoke_at (context : Context) (s : Imports) (bindings : Bindings)
    (name : Place → String) {call c : Call} {p : Place} (hc : call.at? p = some c) :
    Imports.Makes (invoke context c.callee (name p) (c.args.mapIdx (passedAt bindings name p))
      p.isEmpty) s fun stmt s' => InvokesAt context s' bindings name call p stmt := by
  rw [invoke]
  refine .bind ((makes_invocation s (context.signature c.callee) _).mono ?_)
  rintro _ s' - ⟨callee, hcallee, rfl⟩
  exact Imports.makes_pure ⟨c, callee, _, hc, hcallee, rfl, keepsResult_resultBody _ _ _ _⟩

mutual

/-- The calls in the argument at a place are carried out under the names for their places. -/
theorem makes_invokeArgument_at (context : Context) (bindings : Bindings) (name : Place → String)
    (call : Call) : ∀ (a : Argument) (p : Place) (n : Nat) (s : Imports),
    (∀ inner, ofArgument? a = some inner → call.at? p = some inner) → p ≠ [] →
    Numbered (fun q => name (p ++ q)) n (placesOfArgument a) →
      Imports.Makes (invokeArgument context bindings n a) s fun r s' =>
        (∀ q i, p = q ++ [i] → r.1 = passedAt bindings name q i a) ∧
        r.2.1 = n + (placesOfArgument a).length ∧
        List.Forall₂ (InvokesAt context s' bindings name call)
          ((placesOfArgument a).map (p ++ ·)) r.2.2
  | .name id, p, n, s, _, _, _ => by
    rw [invokeArgument, placesOfArgument]
    exact Imports.makes_pure ⟨fun _ _ _ => rfl, rfl, .nil⟩
  | .call callee args, p, n, s, hat, hp, hnumbered => by
    have hc : call.at? p = some ⟨callee, args⟩ := hat _ rfl
    rw [placesOfArgument, numbered_append] at hnumbered
    obtain ⟨hargs, hself, -⟩ := hnumbered
    have hself : name p = resultLocal (n + (placesFrom 0 args).length + 1) := by
      simpa using hself
    have hmakes := makes_invokeArguments_at context bindings name call args p ⟨callee, args⟩ 0 n s
      hc rfl hargs
    rw [invokeArgument, placesOfArgument]
    refine .bind (hmakes.mono ?_)
    rintro ⟨values, m, body⟩ s' - ⟨hvalues, hm, hbody⟩
    obtain rfl : values = args.mapIdx (passedAt bindings name p) := by simpa using hvalues
    obtain rfl : m = n + (placesFrom 0 args).length := hm
    -- the call itself comes after all that is nested in it
    have hinvoke := makes_invoke_at context s' bindings name hc
    rw [show p.isEmpty = false by simpa using hp, hself] at hinvoke
    refine .bind (hinvoke.mono fun block s'' hgrows hblock => Imports.makes_pure ⟨?_, ?_, ?_⟩)
    · rintro q i rfl
      rw [passedAt, ← hself]
    · rw [List.length_append, List.length_singleton, Nat.add_assoc]
    · rw [List.map_append]
      refine List.rel_append (hbody.imp fun _ _ h => h.mono hgrows) (.cons ?_ .nil)
      simpa using hblock

/-- The calls in the arguments from a number on are carried out under the names for their
places. -/
theorem makes_invokeArguments_at (context : Context) (bindings : Bindings) (name : Place → String)
    (call : Call) : ∀ (as : List Argument) (p : Place) (c : Call) (i n : Nat) (s : Imports),
    call.at? p = some c → c.args.drop i = as →
    Numbered (fun q => name (p ++ q)) n (placesFrom i as) →
      Imports.Makes (invokeArguments context bindings n as) s fun r s' =>
        r.1 = as.mapIdx (fun k => passedAt bindings name p (i + k)) ∧
        r.2.1 = n + (placesFrom i as).length ∧
        List.Forall₂ (InvokesAt context s' bindings name call)
          ((placesFrom i as).map (p ++ ·)) r.2.2
  | [], p, c, i, n, s, _, _, _ => by
    rw [invokeArguments, placesFrom]
    exact Imports.makes_pure ⟨rfl, rfl, .nil⟩
  | a :: as, p, c, i, n, s, hc, hdrop, hnumbered => by
    obtain ⟨hget, hrest⟩ := getElem?_of_drop_eq_cons hdrop
    rw [placesFrom, numbered_append, numbered_map, List.length_map] at hnumbered
    obtain ⟨hfirst, hnumbered⟩ := hnumbered
    have hat : ∀ inner, ofArgument? a = some inner → call.at? (p ++ [i]) = some inner := by
      intro inner hinner
      rw [at?_append, hc, Option.bind_some, at?_cons, hget, Option.bind_some, hinner,
        Option.bind_some, at?_nil]
    have hplaces : ∀ q, p ++ i :: q = p ++ [i] ++ q := fun q => by simp
    have hfirst : Numbered (fun q => name (p ++ [i] ++ q)) n (placesOfArgument a) := by
      simpa using hfirst
    have hmakes := makes_invokeArgument_at context bindings name call a (p ++ [i]) n s hat
      (by simp) hfirst
    rw [invokeArguments, placesFrom]
    refine .bind (hmakes.mono ?_)
    rintro ⟨value, m, first⟩ s' - ⟨hvalue, hm, hbody⟩
    obtain rfl : m = n + (placesOfArgument a).length := hm
    obtain rfl : value = passedAt bindings name p i a := hvalue p i rfl
    refine .bind ((makes_invokeArguments_at context bindings name call as p c (i + 1) _ s' hc hrest
      hnumbered).mono ?_)
    rintro ⟨values, k, rest⟩ s'' hgrows ⟨hvalues, hk, hrestBody⟩
    refine Imports.makes_pure ⟨?_, ?_, ?_⟩
    · rw [List.mapIdx_cons]
      refine congrArg (_ :: ·) ((show values = _ from hvalues).trans ?_)
      congr 1
      funext j
      rw [show i + 1 + j = i + (j + 1) by omega]
    · rw [show k = _ from hk, List.length_append, List.length_map, Nat.add_assoc]
    · rw [List.map_append, List.map_map]
      refine List.rel_append ?_ hrestBody
      have heq : (placesOfArgument a).map ((p ++ ·) ∘ (i :: ·)) =
          (placesOfArgument a).map (p ++ [i] ++ ·) :=
        List.map_congr_left fun q _ => hplaces q
      rw [heq]
      exact hbody.imp fun _ _ h => h.mono hgrows

end

/-- **Every call is carried out under the name for its place.** -/
theorem makes_invokeCall_at (context : Context) (bindings : Bindings) (call : Call) (s : Imports) :
    Imports.Makes (invokeCall context bindings call) s fun body s' =>
      List.Forall₂ (InvokesAt context s' bindings (resultName call) call) call.places body := by
  have hmakes := makes_invokeArguments_at context bindings (resultName call) call call.args [] call
    0 0 s (at?_nil call) rfl (numbered_resultName call)
  rw [invokeCall]
  refine .bind (hmakes.mono ?_)
  rintro ⟨values, n, body⟩ s' - ⟨hvalues, -, hbody⟩
  obtain rfl : values = call.args.mapIdx (passedAt bindings (resultName call) []) := by
    simpa using hvalues
  have hinvoke := makes_invoke_at context s' bindings (resultName call) (at?_nil call)
  refine .bind (hinvoke.mono fun block s'' hgrows hblock => Imports.makes_pure ?_)
  rw [places]
  refine List.rel_append ?_ (.cons hblock .nil)
  have hnested : List.Forall₂ (InvokesAt context s' bindings (resultName call) call)
      (placesFrom 0 call.args) body := by simpa using hbody
  exact hnested.imp fun _ _ h => h.mono hgrows

/-- Results of nested calls are kept before the call that they are passed by. -/
theorem exists_kept_before {context : Context} {s : Imports} {bindings : Bindings} {call : Call}
    {invoked : List Stmt}
    (h : List.Forall₂ (InvokesAt context s bindings (resultName call) call) call.places invoked)
    {k i : Nat} {p : Place} (hp : call.places[k]? = some p) (hi : (call.at? (p ++ [i])).isSome) :
    ∃ j < k, call.places[j]? = some (p ++ [i]) ∧
      ∃ stmt, invoked[j]? = some stmt ∧ resultName call (p ++ [i]) ∈ stmt.sets := by
  obtain ⟨j, hj⟩ := List.mem_iff_getElem?.mp (mem_places_iff.mpr hi)
  refine ⟨j, ?_, hj, ?_⟩
  · -- a place does not stand before those in it
    have hbefore : Before (p ++ [i]) p := before_append p (by simp)
    by_contra hle
    obtain ⟨hkLt, rfl⟩ := List.getElem?_eq_some_iff.mp hp
    obtain ⟨hjLt, hj⟩ := List.getElem?_eq_some_iff.mp hj
    rcases Nat.eq_or_lt_of_le (Nat.not_lt.mp hle) with rfl | hlt
    · simp at hj
    · have hafter := List.pairwise_iff_getElem.mp (pairwise_places call) k j hkLt hjLt hlt
      rw [hj] at hafter
      exact not_before_of_before hbefore hafter
  · have hlength := h.length_eq
    obtain ⟨hjLt, heq⟩ := List.getElem?_eq_some_iff.mp hj
    have hget := (List.forall₂_iff_get.mp h).2 j hjLt (hlength ▸ hjLt)
    refine ⟨invoked[j], List.getElem?_eq_getElem (hlength ▸ hjLt), ?_⟩
    rw [← heq]
    exact hget.name_mem_sets

/-! ### Values of identifiers -/

/-- The value that is passed for an identifier **is there** after some statements: it is made of
what the handler is called with, or of a name that the statements set. -/
inductive IsThere (context : Context) (definition : Definition) (s : Imports)
    (bindings : Bindings) (before : List Stmt) : String → Prop where
  | ctx (hvalue : bindings.value "ctx" = request "scope") :
    IsThere context definition s bindings before "ctx"
  | request (hvalue : bindings.value "request" = .name "request") :
    IsThere context definition s bindings before "request"
  | response (hvalue : bindings.value "response" = .name "response")
    (hset : "response" ∈ Stmt.setsOf before) :
    IsThere context definition s bindings before "response"
  | form (hvalue : bindings.value "form" = .name "_form") (hset : "_form" ∈ Stmt.setsOf before) :
    IsThere context definition s bindings before "form"
  | struct {t : HostType} (hvalue : Constructs context s t (bindings.value "form"))
    (hset : "_form_fields" ∈ Stmt.setsOf before) :
    IsThere context definition s bindings before "form"
  | path {p : String} (hp : p ∈ definition.label.params)
    (hvalue : bindings.value p = .name (pathLocal p))
    (hset : pathLocal p ∈ Stmt.setsOf before) :
    IsThere context definition s bindings before p

/-- The value of a class is made from fields that were read, or it was there before. -/
def KeepsFields (bindings : Bindings) (r : Bindings × List Stmt) : Prop :=
  ∀ t value, r.1.form = .struct t value →
    bindings.form = .struct t value ∨ "_form_fields" ∈ Stmt.setsOf r.2

section

variable {context : Context} {definition : Definition}

theorem ensures_bindStruct_fields (s : Imports) (struct : HostType) :
    Ensures (bindStruct context definition struct) s (fun _ => True)
      fun r _ => "_form_fields" ∈ Stmt.setsOf r.2 := by
  rw [bindStruct]
  refine .bind (((ensures_bindFields s struct _).mono_fails fun _ _ => trivial).mono ?_)
  rintro body s' - -
  refine .bind ((ensures_lift (Imports.makes_typeExpr struct s')).mono fun front _ _ _ => ?_)
  exact ensures_pure (by simp)

theorem ensures_bindForm_fields (s : Imports) (param : Signature.Param) (bindings : Bindings) :
    Ensures (bindForm context definition param bindings) s (fun _ => True)
      fun r _ => KeepsFields bindings r := by
  obtain ⟨paths, read, use⟩ := bindings
  have hkeep : ∀ bindings' body, bindings'.form = use →
      KeepsFields ⟨paths, read, use⟩ (bindings', body) :=
    fun bindings' body hform t value h => .inl (hform.symm.trans h)
  rw [bindForm]
  by_cases hstruct : context.host.isStruct param.type = true
  · rw [if_pos hstruct]
    cases htype : use.type? with
    | some bound =>
      dsimp only
      by_cases hsame : bound.same param.type = true
      · rw [if_pos hsame]
        exact ensures_pure (hkeep _ _ rfl)
      · rw [if_neg hsame]
        exact ensures_throw trivial
    | none =>
      dsimp only
      refine .bind ((ensures_bindStruct_fields s param.type).mono ?_)
      rintro ⟨value, body⟩ s' - hbody
      refine ensures_pure fun t value _ => .inr ?_
      rw [Stmt.setsOf_append]
      exact List.mem_append_right _ hbody
  · rw [if_neg hstruct]
    cases use with
    | unused => exact ensures_pure fun t value h => by cases h
    | whole => exact ensures_pure (hkeep _ _ rfl)
    | struct type value => exact ensures_pure (hkeep _ _ rfl)

theorem ensures_bindPath_fields (s : Imports) (param : Signature.Param) (id : String)
    (bindings : Bindings) :
    Ensures (bindPath context definition param id bindings) s (fun _ => True)
      fun r _ => KeepsFields bindings r := by
  rw [bindPath]
  cases bindings.paths.lookup id with
  | some bound =>
    dsimp only
    split_ifs
    · exact ensures_pure fun t value h => .inl h
    · exact ensures_throw trivial
  | none =>
    cases context.host.conversion? param.type with
    | none => exact ensures_throw trivial
    | some kind =>
      have hmakes := @makes_bindConverted s (pathLocal id) [pathLocal id, "_err"] kind
        (if kind == .str then HostType.str else param.type.unwrap) (pathText id) [] []
        (by simp) (by simp) (.nil _)
      refine .bind ((ensures_lift hmakes).mono fun body s' _ _ => ?_)
      exact ensures_pure fun t value h => .inl h

theorem ensures_bindArguments_fields (s : Imports) (bindings : Bindings)
    (uses : List (Signature.Param × String)) :
    Ensures (bindArguments context definition bindings uses) s (fun _ => True)
      fun r _ => KeepsFields bindings r := by
  induction uses generalizing s bindings with
  | nil => exact ensures_pure fun t value h => .inl h
  | cons use uses ih =>
    have hfirst : Ensures (bindUse context definition bindings use) s (fun _ => True)
        fun r _ => KeepsFields bindings r := by
      rw [bindUse]
      split_ifs
      · exact ensures_bindPath_fields s use.1 use.2 bindings
      · exact ensures_bindForm_fields s use.1 bindings
      · exact ensures_pure fun t value h => .inl h
    rw [bindArguments_cons]
    refine .bind (hfirst.mono ?_)
    rintro ⟨bindings', first⟩ s' - hfirst
    refine .bind ((ih s' bindings').mono ?_)
    rintro ⟨bindings'', rest⟩ s'' - hrest
    refine ensures_pure fun t value h => ?_
    rw [Stmt.setsOf_append, List.mem_append]
    rcases hrest t value h with h | h
    · exact (hfirst t value h).imp_right .inl
    · exact .inr (.inr h)

end

/-- The local value of a path parameter is set where it is converted. -/
theorem ConvertedOnce.pathLocal_mem {host : Host} {s : Imports} {p : String} {t : HostType}
    {body : List Stmt} (h : ConvertedOnce host s p t body) : pathLocal p ∈ Stmt.setsOf body := by
  obtain ⟨kind, before, stmt, after, -, hstmt, rfl, -, -⟩ := h
  refine Stmt.mem_setsOf (List.mem_append_right _ List.mem_cons_self) ?_
  cases hstmt with
  | str => simp
  | value => simp [Stmt.sets]

theorem response_mem_openingBody (context : Context) (definition : Definition) :
    "response" ∈ Stmt.setsOf (openingBody context definition) := by
  unfold openingBody
  simp

section

variable {context : Context} {e : Endpoint} {call : Call}

/-- **The value of every identifier is there** when the calls are carried out. -/
theorem isThere_of_bound (h : context.Resolves e) (hcall : e.definition.call = some call)
    {s : Imports} {bindings : Bindings} {bound : List Stmt}
    (hbound : Bound context e.definition e.pathTypes s (context.uses call) bindings bound)
    (hfields : KeepsFields ⟨[], false, .unused⟩ (bindings, bound)) {id : String}
    (hid : id ∈ call.identifiers) (hscope : id ∈ Definition.scope e.definition.label) :
    IsThere context e.definition s bindings (openingBody context e.definition ++ bound) id := by
  have huse : id ∈ (context.uses call).map (·.2) := by
    rw [map_snd_uses (matches_of_callTyped fun c hc => h.callTyped hcall hc)]
    exact hid
  have hafter : ∀ {name}, name ∈ Stmt.setsOf bound →
      name ∈ Stmt.setsOf (openingBody context e.definition ++ bound) := by
    intro name hname
    rw [Stmt.setsOf_append]
    exact List.mem_append_right _ hname
  rcases List.mem_append.mp hscope with hname | hparam
  · have hnames : id = "ctx" ∨ id = "request" ∨ id = "response" ∨ id = "form" := by
      simpa [Route.argumentNames] using hname
    rcases hnames with rfl | rfl | rfl | rfl
    · exact .ctx rfl
    · exact .request rfl
    · refine .response rfl ?_
      rw [Stmt.setsOf_append]
      exact List.mem_append_left _ (response_mem_openingBody context e.definition)
    · obtain ⟨⟨param, _⟩, hmem, rfl⟩ := List.mem_map.mp huse
      have hgiven := hbound.given
      have hne : formParams (context.uses call) ≠ [] :=
        List.ne_nil_of_mem (mem_formParams_iff.mpr hmem)
      have hread : readForm ∈ bound := hbound.read (hbound.formRead hne)
      cases hform : bindings.form with
      | unused =>
        rw [hform] at hgiven
        generalize formParams (context.uses call) = params at hgiven hne
        cases hgiven
        exact absurd rfl hne
      | whole =>
        refine .form ?_ (hafter (Stmt.mem_setsOf hread (by simp [readForm])))
        simp [Bindings.value, hform]
      | struct t value =>
        have hvalue : bindings.value "form" = value := by simp [Bindings.value, hform]
        rw [hform] at hgiven
        generalize formParams (context.uses call) = params at hgiven
        cases hgiven with
        | struct _ _ _ hconstructs =>
          refine .struct (hvalue ▸ hconstructs) (hafter ?_)
          exact (hfields _ _ hform).resolve_left fun heq => by cases heq
  · exact .path hparam (h.value_eq_pathLocal hparam bindings)
      (hafter (hbound.convertedOnce hparam huse).pathLocal_mem)

/-! ### Handlers -/

/-- What stands after the call carries out no call. -/
theorem not_isInvocation_closing {stmt : Stmt}
    (h : stmt ∈ renderBody context e.definition :: finishBody context e) : ¬IsInvocation stmt := by
  have hrender : ¬IsInvocation (renderBody context e.definition) := by
    unfold renderBody
    split_ifs
    · exact not_isInvocation_attempt _ _ _ _ _
    · rintro ⟨body, heq⟩
      cases heq
  have hflush : ∀ stmt ∈ flushBody, ¬IsInvocation stmt := by
    simp [flushBody, noFailure, returnResponse]
  have hredirect : ∀ stmt ∈ redirectBody, ¬IsInvocation stmt := by
    simp [redirectBody, noFailure, data]
  have hfinish : ∀ stmt ∈ finishBody context e, ¬IsInvocation stmt := by
    unfold finishBody
    intro stmt hstmt
    split_ifs at hstmt
    · have hanswer : stmt = .expr (response "write" [.name "_body"]) ∨ stmt = returnResponse := by
        simpa using hstmt
      rcases hanswer with rfl | rfl <;> simp [returnResponse]
    · rcases List.mem_append.mp hstmt with hstmt | hstmt
      · rcases List.mem_cons.mp hstmt with rfl | hstmt
        · simp
        · exact hredirect stmt hstmt
      · exact hflush stmt hstmt
    · rcases List.mem_append.mp hstmt with hstmt | hstmt
      · obtain rfl := List.mem_singleton.mp hstmt
        simp
      · exact hflush stmt hstmt
  rcases List.mem_cons.mp h with rfl | h
  · exact hrender
  · exact hfinish stmt h

/-- **Calls are carried out in post-order with the results of the calls nested in them.**  The
handler of an endpoint of a library binds the identifiers of its call and then has one statement for
each place of the call, in post-order, and carries out no call elsewhere.  The statement for a place
passes the arguments of that call, in their order: the value of each identifier, and for each nested
call the name that the result of the call at that very place is kept under.  Different places have
different names, an earlier statement sets that of each nested call, and the values of all
identifiers are there before. -/
theorem handler_wiring {endpoints : List Endpoint}
    (h : Endpoint.ofLibrary context.library context.host = .ok (endpoints, context.signatures))
    (he : e ∈ endpoints) (hcall : e.definition.call = some call) (s : Imports) :
    Ensures (handler context e) s
      (fun fault => fault.IsForm ∧
        FormFails context e.definition (formParams (context.uses call)))
      fun made s' => ∃ bindings bound invoked, made = handlerOf context e (bound ++ invoked) ∧
        (∀ stmt ∈ openingBody context e.definition ++ bound, ¬IsInvocation stmt) ∧
        (∀ stmt ∈ renderBody context e.definition :: finishBody context e, ¬IsInvocation stmt) ∧
        (∀ p, p ∈ call.places ↔ (call.at? p).isSome) ∧ call.places.Pairwise Before ∧
        List.Forall₂ (InvokesAt context s' bindings (resultName call) call) call.places invoked ∧
        (∀ p ∈ call.places, ∀ q, resultName call p = resultName call q → p = q) ∧
        (∀ (k i : Nat) (p : Place), call.places[k]? = some p → (call.at? (p ++ [i])).isSome →
          ∃ j < k, call.places[j]? = some (p ++ [i]) ∧
            ∃ stmt : Stmt, invoked[j]? = some stmt ∧ resultName call (p ++ [i]) ∈ stmt.sets) ∧
        ∀ id ∈ call.identifiers,
          IsThere context e.definition s' bindings (openingBody context e.definition ++ bound)
            id := by
  have hresolves := resolves_of_mem_ofLibrary h he
  have hscope := Endpoint.mem_scope_of_mem_ofLibrary h he hcall
  have htyped : ∀ use ∈ context.uses call, ArgumentTyped context.host context.signatures
      e.definition e.pathTypes use.1 (.name use.2) :=
    fun use huse => argumentTyped_of_mem_uses (fun c hc => hresolves.callTyped hcall hc) huse
  have hbinds := (ensures_bindArguments hresolves.form_notMem_params (bound_nil s) htyped).and
    (ensures_bindArguments_fields s ⟨[], false, .unused⟩ (context.uses call))
  rw [handler_eq, callBody, hcall]
  refine .bind (.bind (hbinds.mono ?_))
  rintro ⟨bindings, bound⟩ s' - ⟨hbound, hfields⟩
  refine .bind ((ensures_lift (makes_invokeCall_at context bindings call s')).mono ?_)
  intro invoked s'' hgrows hinvoked
  have hbound' := hbound.mono hgrows
  refine ensures_pure (ensures_pure ⟨bindings, bound, invoked, rfl, ?_,
    fun _ => not_isInvocation_closing, fun _ => mem_places_iff, pairwise_places call, hinvoked,
    fun p hp _ => resultName_injective hp, fun _ _ _ => exists_kept_before hinvoked,
    fun id hid => isThere_of_bound hresolves hcall hbound' hfields hid (hscope id hid)⟩)
  intro stmt hstmt
  rcases List.mem_append.mp hstmt with hstmt | hstmt
  · exact (binds_openingBody context e.definition).no_invocation stmt hstmt
  · exact hbound.no_invocation stmt hstmt

end

/-! ### A call with equal calls in it -/

/-- A call whose arguments are the same call. -/
def twiceCall : Call :=
  ⟨"Load", [.call "Load" [.name "id", .name "id"], .call "Load" [.name "id", .name "id"]]⟩

/-- A route with the call. -/
def twiceDefinition : Definition :=
  ⟨⟨"GET /\x7bid\x7d Load(Load(id, id), Load(id, id))", some .get, "", "/\x7bid\x7d",
    [.param "id"], 200, false, "Load(Load(id, id), Load(id, id))"⟩, some twiceCall, "", ""⟩

/-- The page of the route. -/
def twiceLibrary : Library :=
  ⟨[twiceDefinition.label.name], [⟨twiceDefinition.label.name, "", none⟩]⟩

/-- What the resolution of the route records. -/
def twiceSignatures : List Signature :=
  ((Endpoint.resolveFrom loadingHost [] [twiceDefinition]).toOption.map (·.2)).getD []

/-- What the handler of the route is made from. -/
def twiceContext : Context :=
  ⟨{ templatesModule := "app.templates" }, loadingHost, twiceLibrary, twiceSignatures,
    .name "templates"⟩

theorem ofFragments_twiceLibrary :
    Definition.ofFragments twiceLibrary.fragments = .ok [twiceDefinition] := by
  have hinner : (Argument.call "Load" [.name "id", .name "id"]).Named Free 1 :=
    .call rfl (List.forall_mem_cons.mpr ⟨.name rfl, List.forall_mem_singleton.mpr (.name rfl)⟩)
  have hfree : twiceCall.Named Free 2 :=
    .call rfl (List.forall_mem_cons.mpr ⟨hinner, List.forall_mem_singleton.mpr hinner⟩)
  have hparse : Call.parse twiceDefinition.label.callText = .ok twiceCall :=
    Call.parse_of_scan hfree (by decide +kernel) (by decide +kernel) (by decide +kernel)
  have hfragments : twiceLibrary.fragments = [⟨twiceDefinition.label.name, "", none⟩] := by
    decide
  rw [hfragments]
  exact Definition.ofFragments_of_call rfl hparse (by decide +kernel) (by decide +kernel)

/-- The library has one endpoint, which is that of the route. -/
theorem exists_ofLibrary_twice : ∃ endpoints e,
    Endpoint.ofLibrary twiceLibrary loadingHost = .ok (endpoints, twiceSignatures) ∧
      e ∈ endpoints ∧ e.definition = twiceDefinition := by
  have hfound : ((Endpoint.resolveFrom loadingHost [] [twiceDefinition]).toOption.map
      fun found => found.1.length) = some 1 := by decide +kernel
  have hredirect : (Redirect.mayRedirect twiceLibrary [] twiceDefinition.name).toOption.isSome =
      true := by decide +kernel
  obtain ⟨⟨resolved, signatures⟩, hresolved, hlength⟩ := Option.map_eq_some_iff.mp hfound
  obtain ⟨one, rfl⟩ := List.length_eq_one_iff.mp hlength
  obtain ⟨redirects, hredirects⟩ := Option.isSome_iff_exists.mp hredirect
  have hsignatures : twiceSignatures = signatures := by
    rw [twiceSignatures, hresolved]
    rfl
  have hall : ([twiceDefinition].mapM fun d => Redirect.mayRedirect twiceLibrary [] d.name) =
      .ok [redirects] := by
    rw [List.mapM_cons, Except.toOption_eq_some.mp hredirects]
    rfl
  exact ⟨_, _, Endpoint.ofLibrary_eq_ok_iff.mpr ⟨_, _, _, ofFragments_twiceLibrary,
    hsignatures ▸ Except.toOption_eq_some.mp hresolved, hall, rfl⟩, List.mem_cons_self, rfl⟩

/-- The results of the equal calls are kept apart, and the outer call passes both of them. -/
theorem handler_wiring_twice :
    ∃ endpoints e,
      Endpoint.ofLibrary twiceLibrary loadingHost = .ok (endpoints, twiceSignatures) ∧
      e ∈ endpoints ∧ e.definition = twiceDefinition ∧
      ∃ made s' bindings bound first second outer,
        (handler twiceContext e).run (Imports.start "") = (.ok made, s') ∧
        made = handlerOf twiceContext e (bound ++ [first, second, outer]) ∧
        "_result1" ∈ first.sets ∧ "_result2" ∈ second.sets ∧
        (∃ callee, IsCallee s' (twiceContext.signature "Load") callee ∧
          outer = .ifElse (.unary .not (.attribute (.name "_td") "_errors"))
            [.assign (.name "_result") (.call callee [.name "_result1", .name "_result2"] []),
              .assign (.attribute (.name "_td") "_result") (.name "_result"),
              .assign (.attribute (.name "_td") "_ok") (.constant (.bool true))] []) ∧
        IsThere twiceContext twiceDefinition s' bindings
          (openingBody twiceContext twiceDefinition ++ bound) "id" := by
  obtain ⟨endpoints, e, hlibrary, he, hdefinition⟩ := exists_ofLibrary_twice
  have hcall : e.definition.call = some twiceCall := by rw [hdefinition]; rfl
  have hplaces : twiceCall.places = [[0], [1], []] := by decide +kernel
  have hfirst : resultName twiceCall [0] = "_result1" := by decide +kernel
  have hsecond : resultName twiceCall [1] = "_result2" := by decide +kernel
  have hfails : ∀ fault : Fault, ¬(fault.IsForm ∧ FormFails twiceContext e.definition
      (formParams (twiceContext.uses twiceCall))) := by
    rintro fault ⟨-, hfails⟩
    exact hfails.ne_nil (List.isEmpty_iff.mp (by decide +kernel))
  have hwiring := @handler_wiring twiceContext e twiceCall endpoints hlibrary he hcall
    (Imports.start "")
  obtain ⟨made, s', hrun, bindings, bound, invoked, hmade, -, -, -, -, hinvoked, -, -, hthere⟩ :=
    hwiring.exists_run hfails
  rw [hplaces] at hinvoked
  obtain _ | ⟨hinvokeFirst, _ | ⟨hinvokeSecond, _ | ⟨hinvokeOuter, _ | _⟩⟩⟩ := hinvoked
  refine ⟨endpoints, e, hlibrary, he, hdefinition, made, s', bindings, bound, _, _, _, hrun, hmade,
    hfirst ▸ hinvokeFirst.name_mem_sets, hsecond ▸ hinvokeSecond.name_mem_sets, ?_,
    hdefinition ▸ hthere "id" (by decide +kernel)⟩
  obtain ⟨c, callee, body, hc, hcallee, rfl, hkept⟩ := hinvokeOuter
  obtain rfl := Option.some.inj hc
  have hsignature : (twiceContext.signature "Load").isAsync = false ∧
      (twiceContext.signature "Load").shape = .value := by decide +kernel
  have hargs : twiceCall.args.mapIdx (passedAt bindings (resultName twiceCall) []) =
      [.name "_result1", .name "_result2"] := by
    rw [← hfirst, ← hsecond]
    rfl
  rw [show twiceCall.callee = "Load" from rfl, hsignature.1, hsignature.2, hargs] at hkept
  cases hkept
  exact ⟨callee, hcallee, rfl⟩

end FragmentRoutes.RoutesModule
