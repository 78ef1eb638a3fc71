import FragmentRoutes.Proofs.Call.Rendering
import FragmentRoutes.Proofs.Definition.Collection

/-!
# Identifiers outside the scope

The check of the scope goes through the arguments of a call from left to right, and through those
of a nested call before the arguments after it, which is the order of `identifiers`.  So the first
identifier that is not in scope is the one that is reported, with its index in the innermost call
and the callees of the calls around it: its place in the call (`StandsAt`).  Every identifier of a
call has such a place (`exists_standsAt_iff`), so the report is known for every call and every scope
(`checkScope_eq_error`).  What a label needs to define a route follows
(`Definition.scope_checked_at_every_depth`).
-/

namespace FragmentRoutes

namespace Call

/-! ### The place of an identifier -/

/-- The identifier `x` **stands** in a call after the identifiers `before`, at `index` of the
innermost call around it; `callees` are those of the calls around it, the outermost first. -/
inductive StandsAt (x : String) : Call → List String → List String → Nat → Prop where
  | here (callee : String) (front back : List Argument) :
    StandsAt x ⟨callee, front ++ .name x :: back⟩ (identifiersOfArguments front) [callee]
      front.length
  | inside (callee : String) (front back : List Argument) {inner : String}
    {args : List Argument} {before callees : List String} {index : Nat}
    (h : StandsAt x ⟨inner, args⟩ before callees index) :
    StandsAt x ⟨callee, front ++ .call inner args :: back⟩
      (identifiersOfArguments front ++ before) (callee :: callees) index

theorem identifiersOfArguments_append (as bs : List Argument) :
    identifiersOfArguments (as ++ bs) = identifiersOfArguments as ++ identifiersOfArguments bs := by
  induction as with
  | nil => rfl
  | cons a as ih => rw [List.cons_append, identifiersOfArguments, identifiersOfArguments, ih,
      List.append_assoc]

variable {x : String} {call : Call} {before callees scope : List String} {index : Nat}

/-- An identifier that stands in a call is one of its identifiers, after those before it. -/
theorem StandsAt.exists_identifiers_eq (h : StandsAt x call before callees index) :
    ∃ after, call.identifiers = before ++ x :: after := by
  induction h with
  | here callee front back =>
    refine ⟨identifiersOfArguments back, ?_⟩
    rw [identifiers, identifiersOfArguments_append, identifiersOfArguments, identifiersOfArgument,
      List.singleton_append]
  | inside callee front back _ ih =>
    obtain ⟨after, hafter⟩ := ih
    rw [identifiers] at hafter
    refine ⟨after ++ identifiersOfArguments back, ?_⟩
    rw [identifiers, identifiersOfArguments_append, identifiersOfArguments, identifiersOfArgument,
      hafter]
    simp only [List.append_assoc, List.cons_append]

/-- An identifier among those of the last arguments of a call stands there. -/
theorem exists_standsAt_arguments (callee : String) (front as : List Argument)
    {before after : List String} (h : identifiersOfArguments as = before ++ x :: after) :
    ∃ callees index, StandsAt x ⟨callee, front ++ as⟩ (identifiersOfArguments front ++ before)
      callees index := by
  match as with
  | [] => simp [identifiersOfArguments] at h
  | a :: as =>
    -- the identifier stands behind the first argument
    have hlater {before' : List String} (h : identifiersOfArguments as = before' ++ x :: after) :
        ∃ callees index, StandsAt x ⟨callee, front ++ a :: as⟩
          (identifiersOfArguments front ++ (identifiersOfArgument a ++ before')) callees index := by
      have hlater := exists_standsAt_arguments callee (front ++ [a]) as h
      rwa [identifiersOfArguments_append, identifiersOfArguments, identifiersOfArguments,
        List.append_nil, List.append_assoc, List.append_assoc, List.singleton_append] at hlater
    rw [identifiersOfArguments] at h
    rcases List.append_eq_append_iff.mp h with ⟨before', rfl, hrest⟩ | ⟨rest, ha, hrest⟩
    · exact hlater hrest
    cases rest with
    | nil =>
      have hlater := @hlater [] hrest.symm
      rwa [List.append_nil, ha, List.append_nil] at hlater
    | cons y rest =>
      obtain ⟨rfl, -⟩ := List.cons.inj hrest
      cases a with
      | name id =>
        rw [identifiersOfArgument, List.singleton_eq_append_iff] at ha
        obtain ⟨rfl, ha⟩ | ⟨-, ha⟩ := ha
        · obtain ⟨rfl, -⟩ := List.cons.inj ha
          rw [List.append_nil]
          exact ⟨_, _, .here callee front as⟩
        · cases ha
      | call inner args =>
        obtain ⟨callees, index, hinner⟩ := exists_standsAt_arguments inner [] args ha
        exact ⟨_, _, .inside callee front as hinner⟩
  termination_by sizeOf as

/-- **What stands in a call** are its identifiers, each after those before it. -/
theorem exists_standsAt_iff : (∃ callees index, StandsAt x call before callees index) ↔
    ∃ after, call.identifiers = before ++ x :: after := by
  constructor
  · rintro ⟨callees, index, h⟩
    exact h.exists_identifiers_eq
  · rintro ⟨after, h⟩
    exact exists_standsAt_arguments call.callee [] call.args h

/-! ### The report -/

theorem checkArguments_append (front as : List Argument) :
    checkArguments scope index (front ++ as) = (do
      checkArguments scope index front
      checkArguments scope (index + front.length) as) := by
  induction front generalizing index with
  | nil => rfl
  | cons a front ih =>
    rw [List.cons_append, checkArguments, checkArguments, ih, List.length_cons, bind_assoc,
      Nat.add_right_comm, Nat.add_assoc]

/-- What is wrong with the argument after arguments that are in scope is wrong with the call. -/
theorem checkScope_eq_error_of_front {callee : String} {front back : List Argument} {a : Argument}
    {fault : Fault} (hfront : ∀ id ∈ identifiersOfArguments front, id ∈ scope)
    (ha : checkArgument scope front.length a = .error fault) :
    checkScope scope ⟨callee, front ++ a :: back⟩ = .error (.inCall callee fault) := by
  rw [checkScope, checkArguments_append, (checkArguments_eq_ok_iff 0 front).mpr hfront,
    Except.ok_bind, Nat.zero_add, checkArguments, ha]
  rfl

/-- **The first identifier that is not in scope is reported**, with its place. -/
theorem checkScope_eq_error (h : StandsAt x call before callees index)
    (hbefore : ∀ id ∈ before, id ∈ scope) (hx : x ∉ scope) :
    call.checkScope scope = .error (callees.foldr .inCall (.unknownArgument x index)) := by
  induction h with
  | here callee front back =>
    refine checkScope_eq_error_of_front hbefore ?_
    rw [checkArgument, if_neg (by simpa using hx), List.foldr_nil]
  | inside callee front back _ ih =>
    rw [List.forall_mem_append] at hbefore
    -- the check of the nested call is that of its own arguments
    exact checkScope_eq_error_of_front hbefore.1 (ih hbefore.2)

theorem exists_checkScope_eq_error_iff :
    (∃ fault, call.checkScope scope = .error fault) ↔ ∃ id ∈ call.identifiers, id ∉ scope := by
  cases hcheck : call.checkScope scope with
  | error fault =>
    refine iff_of_true ⟨fault, rfl⟩ ?_
    by_contra hnone
    push Not at hnone
    rw [checkScope_eq_ok_iff.mpr hnone] at hcheck
    cases hcheck
  | ok _ =>
    have hall := checkScope_eq_ok_iff.mp hcheck
    exact iff_of_false (by simp) fun ⟨id, hid, hnot⟩ => hnot (hall id hid)

theorem message_inCall (diagnosis : Diagnosis) (callee : String) (fault : Fault) :
    (Fault.inCall callee fault).message diagnosis =
      "call " ++ callee ++ " argument error: " ++ fault.message diagnosis :=
  rfl

theorem message_foldr_inCall (diagnosis : Diagnosis) (callees : List String) (fault : Fault) :
    (callees.foldr Fault.inCall fault).message diagnosis =
      callees.foldr (fun callee rest => "call " ++ callee ++ " argument error: " ++ rest)
        (fault.message diagnosis) := by
  induction callees with
  | nil => rfl
  | cons callee callees ih => rw [List.foldr_cons, message_inCall, ih, List.foldr_cons]

/-- A list with an element that fails a test has a first one. -/
theorem exists_first_not_mem {ids : List String} (h : ¬ ∀ id ∈ ids, id ∈ scope) :
    ∃ before x after, ids = before ++ x :: after ∧ (∀ id ∈ before, id ∈ scope) ∧ x ∉ scope := by
  induction ids with
  | nil => simp at h
  | cons id ids ih =>
    by_cases hid : id ∈ scope
    · obtain ⟨before, x, after, rfl, hbefore, hx⟩ :=
        ih fun hids => h (List.forall_mem_cons.mpr ⟨hid, hids⟩)
      exact ⟨id :: before, x, after, rfl, List.forall_mem_cons.mpr ⟨hid, hbefore⟩, hx⟩
    · exact ⟨[], id, ids, rfl, by simp, hid⟩

end Call

/-! ### The definition of a label -/

namespace Definition

/-- A text that spells a call is not empty. -/
theorem not_isEmpty_of_parse {text : String} {call : Call} (h : Call.parse text = .ok call) :
    text.isEmpty = false := by
  refine Bool.eq_false_iff.mpr fun hempty => ?_
  obtain rfl := String.isEmpty_iff.mp hempty
  -- an empty text has no tokens, so no name would be a callee
  have hnamed : call.Named (fun _ => False) Code.Token.maxDepth := by
    refine Call.named_of_spelled h fun ts hts => ?_
    obtain rfl := Option.some.inj hts
    exact Code.spelled_nil
  exact hnamed.callee

/-- The call of a label is checked against its scope. -/
theorem parseCall_eq {label : Route.Label} {call : Call}
    (h : Call.parse label.callText = .ok call) :
    parseCall label = (call.checkScope (scope label)).map fun _ => some call := by
  rw [parseCall, not_isEmpty_of_parse h, if_neg Bool.false_ne_true, h]
  rfl

/-- **A label with a call** defines a route exactly if the identifiers of the call are in scope and
the response is not used beside an explicit status. -/
theorem exists_parse_iff {name source group : String} {label : Route.Label} {call : Call}
    (hlabel : Route.Label.parse name = .ok (some label))
    (hcall : Call.parse label.callText = .ok call) :
    (∃ d, parse name source group = .ok (some d)) ↔
      (∀ id ∈ call.identifiers, id ∈ Route.argumentNames ∨ id ∈ label.params) ∧
        ¬(label.explicitStatus = true ∧ "response" ∈ call.identifiers) := by
  have hscope : (∀ id ∈ call.identifiers, id ∈ Route.argumentNames ∨ id ∈ label.params) ↔
      call.checkScope (scope label) = .ok () := by
    rw [Call.checkScope_eq_ok_iff, scope]
    simp only [List.mem_append]
  rw [hscope, parse, hlabel]
  dsimp only
  rw [parseCall_eq hcall]
  cases hcheck : call.checkScope (scope label) with
  | error fault => simp [Except.map]
  | ok _ =>
    have hmentions : call.mentions "response" = true ↔ "response" ∈ call.identifiers :=
      List.contains_iff_mem
    simp only [Except.map, writesResponse, Bool.and_eq_true, hmentions]
    split_ifs with hwrites
    · exact iff_of_false (by simp) fun h => h.2 hwrites
    · exact iff_of_true ⟨_, rfl⟩ ⟨trivial, hwrites⟩

/-- **A fragment** with such a label is one route. -/
theorem ofFragments_of_call {f : Fragment} {label : Route.Label} {call : Call}
    (hlabel : Route.Label.parse f.name = .ok (some label))
    (hcall : Call.parse label.callText = .ok call)
    (hscope : ∀ id ∈ call.identifiers, id ∈ Route.argumentNames ∨ id ∈ label.params)
    (hwrites : ¬(label.explicitStatus = true ∧ "response" ∈ call.identifiers)) :
    ofFragments [f] = .ok [⟨label, some call, f.file, f.group⟩] := by
  obtain ⟨⟨label', call', source, group⟩, hparse⟩ :=
    (@exists_parse_iff f.name f.file f.group _ _ hlabel hcall).mpr ⟨hscope, hwrites⟩
  obtain ⟨hlabel', rfl, rfl⟩ := parse_eq_ok_some hparse
  obtain rfl := Option.some.inj (Except.ok.inj (hlabel.symm.trans hlabel'))
  have hcheck : call.checkScope (scope label) = .ok () :=
    Call.checkScope_eq_ok_iff.mpr fun id hid => List.mem_append.mpr (hscope id hid)
  have hread := parseCall_of_parse hparse
  rw [parseCall_eq hcall, hcheck] at hread
  obtain rfl := Except.ok.inj hread
  exact ofFragments_singleton hparse

open Call in
/-- **Scope at every depth.**  A call is refused exactly if one of its identifiers is not in scope.
The first that is not is then reported with its index in the innermost call around it, behind the
callees of the calls from the outermost to that one.  So a label with a call defines a route exactly
if all identifiers at any depth are reserved names or parameters of its path, and it has no explicit
status beside the response as an argument. -/
theorem scope_checked_at_every_depth :
    (∀ (call : Call) (scope : List String),
      ((∃ fault, call.checkScope scope = .error fault) ↔ ∃ id ∈ call.identifiers, id ∉ scope) ∧
      ∀ fault, call.checkScope scope = .error fault →
        ∃ before x after callees index, call.identifiers = before ++ x :: after ∧
          (∀ id ∈ before, id ∈ scope) ∧ x ∉ scope ∧ StandsAt x call before callees index ∧
          ∀ diagnosis, fault.message diagnosis =
            callees.foldr (fun callee rest => "call " ++ callee ++ " argument error: " ++ rest)
              ("unknown argument " ++ x ++ " at index " ++ toString index)) ∧
    ∀ {name source group : String} {label : Route.Label} {call : Call},
      Route.Label.parse name = .ok (some label) → Call.parse label.callText = .ok call →
      ((∃ d, parse name source group = .ok (some d)) ↔
        (∀ id ∈ call.identifiers, id ∈ Route.argumentNames ∨ id ∈ label.params) ∧
          ¬(label.explicitStatus = true ∧ "response" ∈ call.identifiers)) := by
  refine ⟨fun call scope => ⟨exists_checkScope_eq_error_iff, fun fault hfault => ?_⟩,
    exists_parse_iff⟩
  have houtside : ¬∀ id ∈ call.identifiers, id ∈ scope := by
    intro hall
    rw [checkScope_eq_ok_iff.mpr hall] at hfault
    cases hfault
  obtain ⟨before, x, after, heq, hbefore, hx⟩ := exists_first_not_mem houtside
  obtain ⟨callees, index, hstands⟩ := exists_standsAt_iff.mpr ⟨after, heq⟩
  rw [checkScope_eq_error hstands hbefore hx] at hfault
  obtain rfl := Except.error.inj hfault
  exact ⟨before, x, after, callees, index, heq, hbefore, hx, hstands,
    fun diagnosis => message_foldr_inCall diagnosis _ _⟩

open Call in
/-- In a call with a nested one, the identifier that is not in scope is reported; where all are, the
label defines a route. -/
theorem scope_checked_at_every_depth_nestedCall :
    (∃ fault, nestedCall.checkScope ["ctx"] = .error fault ∧
      fault.message =
        "call Show argument error: call Load argument error: unknown argument id at index 0" ∧
      ∃ before x callees index, StandsAt x nestedCall before callees index ∧ x ∉ ["ctx"]) ∧
    ∃ label, Route.Label.parse "GET /\x7bid\x7d Show( ctx,Load(id) )" = .ok (some label) ∧
      Call.parse label.callText = .ok nestedCall ∧
      ∃ d, parse "GET /\x7bid\x7d Show( ctx,Load(id) )" "" "" = .ok (some d) := by
  have hlabel : Route.Label.parse "GET /\x7bid\x7d Show( ctx,Load(id) )" = .ok (some
      ⟨"GET /\x7bid\x7d Show( ctx,Load(id) )", some .get, "", "/\x7bid\x7d", [.param "id"], 200,
        false, "Show( ctx,Load(id) )"⟩) := by rfl
  have hfault : nestedCall.checkScope ["ctx"] =
      .error (.inCall "Show" (.inCall "Load" (.unknownArgument "id" 0))) := by rfl
  obtain ⟨before, x, after, callees, index, -, -, hx, hstands, -⟩ :=
    (scope_checked_at_every_depth.1 nestedCall ["ctx"]).2 _ hfault
  refine ⟨⟨_, hfault, by decide +kernel, before, x, callees, index, hstands, hx⟩,
    _, hlabel, parse_nestedCall, ?_⟩
  exact (scope_checked_at_every_depth.2 hlabel parse_nestedCall).mpr (by decide)

end Definition

end FragmentRoutes
