import FragmentRoutes.Call
import FragmentRoutes.Proofs.Except
import Mathlib.Data.List.Basic

/-!
# The calls in a call

A call occurs in another if it is that call or occurs in one of its arguments (`Occurs`).
`walk` lists exactly the calls that occur in a call (`mem_walk_iff`), and it lists a call after
those nested in it (`nestedFirst_walk`), so that their results are there when it is carried out.
-/

namespace FragmentRoutes.Call

/-- The calls that are arguments of a call. -/
def nested (call : Call) : List Call :=
  call.args.filterMap ofArgument?

/-- A call **occurs** in a call: it is the call itself, or it occurs in an argument. -/
inductive Occurs : Call → Call → Prop where
  | self (call : Call) : Occurs call call
  | nested {c inner call : Call} (hinner : inner ∈ call.nested) (h : Occurs c inner) :
    Occurs c call

theorem occurs_iff {c call : Call} :
    Occurs c call ↔ c = call ∨ ∃ inner ∈ call.nested, Occurs c inner := by
  constructor
  · intro h
    cases h with
    | self => exact Or.inl rfl
    | nested hinner h => exact Or.inr ⟨_, hinner, h⟩
  · rintro (rfl | ⟨inner, hinner, h⟩)
    · exact .self c
    · exact .nested hinner h

/-! ### The calls that `walk` lists -/

mutual

theorem mem_walkArgument_iff {c : Call} : ∀ a : Argument,
    c ∈ walkArgument a ↔ ∃ inner, ofArgument? a = some inner ∧ Occurs c inner
  | .name id => by simp [walkArgument, ofArgument?]
  | .call callee args => by
    rw [walkArgument, List.mem_append, List.mem_singleton, mem_walkArguments_iff args]
    simp only [ofArgument?, Option.some.injEq, exists_eq_left']
    rw [occurs_iff, or_comm]
    rfl

theorem mem_walkArguments_iff {c : Call} : ∀ as : List Argument,
    c ∈ walkArguments as ↔ ∃ inner ∈ as.filterMap ofArgument?, Occurs c inner
  | [] => by simp [walkArguments]
  | a :: as => by
    rw [walkArguments, List.mem_append, mem_walkArgument_iff a, mem_walkArguments_iff as]
    cases a with
    | name id => simp [ofArgument?]
    | call callee args => simp [ofArgument?]

end

/-- **`walk` lists the calls that occur in a call.** -/
theorem mem_walk_iff {c call : Call} : c ∈ call.walk ↔ Occurs c call := by
  rw [walk, List.mem_append, List.mem_singleton, mem_walkArguments_iff, occurs_iff, or_comm]
  rfl

/-! ### The order of `walk` -/

/-- Every call of a list comes after the calls nested in it; those of `seen` came before the
list. -/
def NestedFirst (seen : List Call) : List Call → Prop
  | [] => True
  | call :: rest => (∀ inner ∈ call.nested, inner ∈ seen) ∧ NestedFirst (call :: seen) rest

theorem nestedFirst_append {seen xs ys : List Call} :
    NestedFirst seen (xs ++ ys) ↔ NestedFirst seen xs ∧ NestedFirst (xs.reverse ++ seen) ys := by
  induction xs generalizing seen with
  | nil => simp [NestedFirst]
  | cons x xs ih => simp [NestedFirst, ih, and_assoc]

/-- A call may stand after its arguments. -/
theorem nestedFirst_append_singleton {seen : List Call} {call : Call}
    (h : NestedFirst seen (walkArguments call.args)) :
    NestedFirst seen (walkArguments call.args ++ [call]) := by
  refine nestedFirst_append.mpr ⟨h, fun inner hinner => ?_, trivial⟩
  -- a nested call occurs in an argument, so it is among those listed
  rw [List.mem_append, List.mem_reverse]
  exact Or.inl ((mem_walkArguments_iff call.args).mpr ⟨inner, hinner, .self inner⟩)

mutual

theorem nestedFirst_walkArgument (seen : List Call) : ∀ a : Argument,
    NestedFirst seen (walkArgument a)
  | .name id => trivial
  | .call callee args => by
    rw [walkArgument]
    exact @nestedFirst_append_singleton seen ⟨callee, args⟩ (nestedFirst_walkArguments seen args)

theorem nestedFirst_walkArguments (seen : List Call) : ∀ as : List Argument,
    NestedFirst seen (walkArguments as)
  | [] => trivial
  | a :: as => by
    rw [walkArguments]
    exact nestedFirst_append.mpr
      ⟨nestedFirst_walkArgument seen a, nestedFirst_walkArguments _ as⟩

end

/-- **`walk` lists every call after those nested in it.** -/
theorem nestedFirst_walk (call : Call) : NestedFirst [] call.walk :=
  nestedFirst_append_singleton (nestedFirst_walkArguments [] call.args)

/-! ### Identifiers in scope -/

section

variable {scope : List String}

mutual

theorem checkArgument_eq_ok_iff : ∀ (index : Nat) (a : Argument),
    checkArgument scope index a = .ok () ↔ ∀ id ∈ identifiersOfArgument a, id ∈ scope
  | index, .name id => by
    rw [checkArgument, identifiersOfArgument]
    split_ifs with h
    · exact iff_of_true rfl (by simpa using h)
    · exact iff_of_false (fun heq => by cases heq) (by simpa using h)
  | index, .call callee args => by
    rw [checkArgument, identifiersOfArgument, Except.mapError_eq_ok]
    exact checkArguments_eq_ok_iff 0 args

theorem checkArguments_eq_ok_iff : ∀ (index : Nat) (as : List Argument),
    checkArguments scope index as = .ok () ↔ ∀ id ∈ identifiersOfArguments as, id ∈ scope
  | index, [] => by
    rw [checkArguments, identifiersOfArguments]
    exact iff_of_true rfl (by simp)
  | index, a :: as => by
    rw [checkArguments, identifiersOfArguments, Except.bind_eq_ok, List.forall_mem_append,
      ← checkArgument_eq_ok_iff index a, ← checkArguments_eq_ok_iff (index + 1) as]
    constructor
    · rintro ⟨_, hfirst, hrest⟩
      exact ⟨hfirst, hrest⟩
    · rintro ⟨hfirst, hrest⟩
      exact ⟨(), hfirst, hrest⟩

end

/-- **The check of the scope accepts a call exactly if all its identifiers are in scope.** -/
theorem checkScope_eq_ok_iff {call : Call} :
    call.checkScope scope = .ok () ↔ ∀ id ∈ call.identifiers, id ∈ scope := by
  rw [checkScope, Except.mapError_eq_ok]
  exact checkArguments_eq_ok_iff 0 call.args

end

end FragmentRoutes.Call
