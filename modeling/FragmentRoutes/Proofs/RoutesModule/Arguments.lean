import FragmentRoutes.Proofs.Endpoint
import FragmentRoutes.RoutesModule.Handler

/-!
# Arguments of handlers

A handler goes through the identifiers of its call from left to right, each with the parameter
that it is passed to (`Context.uses`).  When every call has as many arguments as its callee has
parameters, these are the identifiers of the call (`map_snd_uses`), and each of them is passed by a
call that occurs in it (`mem_uses_iff`).

The resolution leaves every call of a definition typed, so each identifier is of a type that its
parameter takes (`argumentTyped_of_mem_uses`).
-/

namespace FragmentRoutes.RoutesModule

open Host Resolution Call

/-- The identifiers of a call from left to right, each with the parameter that it is passed to. -/
def Context.uses (context : Context) (call : Call) : List (Signature.Param × String) :=
  boundArguments context (context.signature call.callee).params call.args

/-- The arguments of a call, each with its parameter. -/
def Context.passed (context : Context) (call : Call) : List (Signature.Param × Argument) :=
  (context.signature call.callee).params.zip call.args

/-- Every call that occurs in the call has as many arguments as its callee has parameters. -/
def Context.Matches (context : Context) (call : Call) : Prop :=
  ∀ c : Call, c.Occurs call → (context.signature c.callee).params.length = c.args.length

theorem Context.Matches.nested {context : Context} {call inner : Call} (h : context.Matches call)
    (hinner : inner ∈ call.nested) : context.Matches inner :=
  fun c hc => h c (.nested hinner hc)

/-! ### Identifiers -/

section

variable {context : Context}

mutual

theorem map_snd_boundArgument (p : Signature.Param) : ∀ a : Argument,
    (∀ inner, ofArgument? a = some inner → context.Matches inner) →
      (boundArgument context p a).map (·.2) = identifiersOfArgument a
  | .name id, _ => rfl
  | .call callee args, h => by
    rw [boundArgument, identifiersOfArgument]
    have hmatches : context.Matches ⟨callee, args⟩ := h _ rfl
    exact map_snd_boundArguments _ args (hmatches _ (.self _)) fun inner hinner =>
      hmatches.nested hinner

theorem map_snd_boundArguments : ∀ (ps : List Signature.Param) (as : List Argument),
    ps.length = as.length →
    (∀ inner ∈ as.filterMap ofArgument?, context.Matches inner) →
      (boundArguments context ps as).map (·.2) = identifiersOfArguments as
  | [], [], _, _ => by rw [boundArguments.eq_2 _ _ _ (by simp)]; rfl
  | [], _ :: _, hlength, _ => by simp at hlength
  | _ :: _, [], hlength, _ => by simp at hlength
  | p :: ps, a :: as, hlength, h => by
    have hlength' : ps.length = as.length := by simpa using hlength
    rw [boundArguments, identifiersOfArguments, List.map_append,
      map_snd_boundArgument p a fun inner hinner =>
        h inner (List.mem_filterMap.mpr ⟨a, List.mem_cons_self, hinner⟩),
      map_snd_boundArguments ps as hlength' fun inner hinner => by
        obtain ⟨b, hb, hinner⟩ := List.mem_filterMap.mp hinner
        exact h inner (List.mem_filterMap.mpr ⟨b, List.mem_cons_of_mem _ hb, hinner⟩)]

end

/-- **A handler goes through the identifiers of its call.** -/
theorem map_snd_uses {call : Call} (h : context.Matches call) :
    (context.uses call).map (·.2) = call.identifiers :=
  map_snd_boundArguments _ call.args (h call (.self call)) fun _ hinner => h.nested hinner

/-! ### Calls that pass identifiers -/

/-- What occurs in a call is the call itself or occurs in a call nested in it. -/
theorem exists_occurs_iff {call : Call} {P : Call → Prop} :
    (∃ c : Call, c.Occurs call ∧ P c) ↔
      P call ∨ ∃ inner ∈ call.nested, ∃ c : Call, c.Occurs inner ∧ P c := by
  constructor
  · rintro ⟨c, hc, hP⟩
    rcases occurs_iff.mp hc with rfl | ⟨inner, hinner, hc⟩
    · exact Or.inl hP
    · exact Or.inr ⟨inner, hinner, c, hc, hP⟩
  · rintro (hP | ⟨inner, hinner, c, hc, hP⟩)
    · exact ⟨call, .self call, hP⟩
    · exact ⟨c, .nested hinner hc, hP⟩

mutual

theorem mem_boundArgument_iff {use : Signature.Param × String} (p : Signature.Param) :
    ∀ a : Argument, (∀ inner, ofArgument? a = some inner → context.Matches inner) →
      (use ∈ boundArgument context p a ↔ (use.1, Argument.name use.2) = (p, a) ∨
        ∃ inner, ofArgument? a = some inner ∧
          ∃ c : Call, c.Occurs inner ∧ (use.1, .name use.2) ∈ context.passed c)
  | .name id, _ => by
    obtain ⟨param, name⟩ := use
    simp [boundArgument, ofArgument?]
  | .call callee args, h => by
    have hmatches : context.Matches ⟨callee, args⟩ := h _ rfl
    rw [boundArgument, mem_boundArguments_iff _ args (hmatches _ (.self _)) fun inner hinner =>
      hmatches.nested hinner]
    simp only [ofArgument?, Option.some.injEq, exists_eq_left']
    rw [exists_occurs_iff]
    simp [Context.passed, Call.nested]

theorem mem_boundArguments_iff {use : Signature.Param × String} :
    ∀ (ps : List Signature.Param) (as : List Argument), ps.length = as.length →
      (∀ inner ∈ as.filterMap ofArgument?, context.Matches inner) →
        (use ∈ boundArguments context ps as ↔ (use.1, .name use.2) ∈ ps.zip as ∨
          ∃ inner ∈ as.filterMap ofArgument?,
            ∃ c : Call, c.Occurs inner ∧ (use.1, .name use.2) ∈ context.passed c)
  | [], [], _, _ => by rw [boundArguments.eq_2 _ _ _ (by simp)]; simp
  | [], _ :: _, hlength, _ => by simp at hlength
  | _ :: _, [], hlength, _ => by simp at hlength
  | p :: ps, a :: as, hlength, h => by
    have hlength' : ps.length = as.length := by simpa using hlength
    have hfirst : ∀ inner, ofArgument? a = some inner → context.Matches inner :=
      fun inner hinner => h inner (List.mem_filterMap.mpr ⟨a, List.mem_cons_self, hinner⟩)
    have hrest : ∀ inner ∈ as.filterMap ofArgument?, context.Matches inner := by
      intro inner hinner
      obtain ⟨b, hb, hinner⟩ := List.mem_filterMap.mp hinner
      exact h inner (List.mem_filterMap.mpr ⟨b, List.mem_cons_of_mem _ hb, hinner⟩)
    rw [boundArguments, List.mem_append, mem_boundArgument_iff p a hfirst,
      mem_boundArguments_iff ps as hlength' hrest, List.zip_cons_cons, List.mem_cons]
    cases a with
    | name id => simp [ofArgument?, or_assoc]
    | call callee args =>
      simp only [ofArgument?, List.filterMap_cons_some, List.mem_cons, Option.some.injEq,
        exists_eq_left', exists_eq_or_imp]
      exact or_or_or_comm

end

/-- **Every identifier is passed by a call that occurs in the call**, and a handler goes through
all that are. -/
theorem mem_uses_iff {call : Call} (h : context.Matches call) {param : Signature.Param}
    {id : String} :
    (param, id) ∈ context.uses call ↔
      ∃ c : Call, c.Occurs call ∧ (param, .name id) ∈ context.passed c := by
  rw [exists_occurs_iff]
  exact mem_boundArguments_iff _ call.args (h call (.self call)) fun _ hinner => h.nested hinner

end

/-! ### Typed identifiers -/

section

variable {context : Context} {definition : Definition} {types : List (String × HostType)}
  {call : Call}

/-- The signature recorded for a callee is the one that handlers use. -/
theorem Context.signature_eq {callee : String} {g : Signature}
    (h : recorded? context.signatures callee = some g) : context.signature callee = g := by
  rw [recorded?] at h
  rw [Context.signature, h, Option.getD_some]

variable (h : ∀ c : Call, c.Occurs call →
  CallTyped context.host context.signatures definition types c)

include h

theorem matches_of_callTyped : context.Matches call := by
  intro c hc
  obtain ⟨g, hg, hlength, -⟩ := h c hc
  rw [Context.signature_eq hg, hlength]

/-- **Identifiers are of types that their parameters take.** -/
theorem argumentTyped_of_mem_uses {param : Signature.Param} {id : String}
    (huse : (param, id) ∈ context.uses call) :
    ArgumentTyped context.host context.signatures definition types param (.name id) := by
  obtain ⟨c, hc, hpair⟩ := (mem_uses_iff (matches_of_callTyped h)).mp huse
  obtain ⟨g, hg, -, hargs⟩ := h c hc
  rw [Context.passed, Context.signature_eq hg] at hpair
  exact hargs _ hpair

end

end FragmentRoutes.RoutesModule
