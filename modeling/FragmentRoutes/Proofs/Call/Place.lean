import FragmentRoutes.Proofs.Call
import Mathlib.Data.List.Nodup
import Mathlib.Data.List.Pairwise

/-!
# Places of calls

The occurrences of calls in a call are told apart by their places: the numbers of the arguments on
the way to them.  `places` lists the places of all calls (`mem_places_iff`) in the order of `walk`
(`map_at?_places`).  This is the post-order of the tree (`pairwise_places`): what is nested in a call
stands before it, and what is in an argument before what is in a later one.
-/

namespace FragmentRoutes.Call

/-- The way to a call: the number of an argument of the call, and so on in that argument. -/
abbrev Place := List Nat

/-- The call at a place. -/
def at? (call : Call) : Place → Option Call
  | [] => some call
  | i :: p => (call.args[i]?.bind ofArgument?).bind fun inner => inner.at? p

/-- A place stands **before** another one: it is in the call at the other place, or in an earlier
argument where they part. -/
def Before : Place → Place → Prop
  | [], _ => False
  | _ :: _, [] => True
  | i :: p, j :: q => i < j ∨ i = j ∧ Before p q

mutual

/-- The places of the calls in an argument, innermost first. -/
def placesOfArgument : Argument → List Place
  | .name _ => []
  | .call _ args => placesFrom 0 args ++ [[]]

/-- The places of the calls in arguments, innermost first; `i` is the number of the first. -/
def placesFrom (i : Nat) : List Argument → List Place
  | [] => []
  | a :: as => (placesOfArgument a).map (i :: ·) ++ placesFrom (i + 1) as

end

/-- The places of nested calls innermost first, that of the call itself last. -/
def places (call : Call) : List Place :=
  placesFrom 0 call.args ++ [[]]

/-! ### Calls at places -/

@[simp]
theorem at?_nil (call : Call) : call.at? [] = some call := by
  rw [at?]

theorem at?_cons (call : Call) (i : Nat) (p : Place) :
    call.at? (i :: p) = (call.args[i]?.bind ofArgument?).bind fun inner => inner.at? p := by
  rw [at?]

theorem at?_append (call : Call) (p q : Place) :
    call.at? (p ++ q) = (call.at? p).bind fun inner => inner.at? q := by
  induction p generalizing call with
  | nil => rw [List.nil_append, at?_nil, Option.bind_some]
  | cons i p ih =>
    rw [List.cons_append, at?_cons, at?_cons]
    cases call.args[i]?.bind ofArgument? with
    | none => rfl
    | some inner => exact ih inner

/-- The arguments from a number on are the first of them and those after it. -/
theorem getElem?_of_drop_eq_cons {args as : List Argument} {i : Nat} {a : Argument}
    (h : args.drop i = a :: as) : args[i]? = some a ∧ args.drop (i + 1) = as := by
  constructor
  · rw [← List.head?_drop, h, List.head?_cons]
  · rw [← List.tail_drop, h, List.tail_cons]

mutual

theorem map_at?_placesOfArgument : ∀ a : Argument,
    (placesOfArgument a).map (fun p => (ofArgument? a).bind fun inner => inner.at? p) =
      (walkArgument a).map some
  | .name id => by simp [placesOfArgument, walkArgument]
  | .call callee args => by
    rw [placesOfArgument, walkArgument, List.map_append, List.map_append]
    exact congrArg (· ++ _) (map_at?_placesFrom ⟨callee, args⟩ 0 args rfl)

theorem map_at?_placesFrom (call : Call) : ∀ (i : Nat) (as : List Argument),
    call.args.drop i = as → (placesFrom i as).map call.at? = (walkArguments as).map some
  | i, [], _ => by simp [placesFrom, walkArguments]
  | i, a :: as, h => by
    obtain ⟨hget, hdrop⟩ := getElem?_of_drop_eq_cons h
    rw [placesFrom, walkArguments, List.map_append, List.map_append, List.map_map,
      map_at?_placesFrom call (i + 1) as hdrop, ← map_at?_placesOfArgument a]
    congr 1
    refine List.map_congr_left fun p _ => ?_
    rw [Function.comp_apply, at?_cons, hget, Option.bind_some]

end

/-- **The places are those of the calls that `walk` lists**, in its order. -/
theorem map_at?_places (call : Call) : call.places.map call.at? = call.walk.map some := by
  rw [places, walk, List.map_append, List.map_append, map_at?_placesFrom call 0 call.args rfl]
  rfl

/-! ### All places -/

mutual

theorem mem_placesOfArgument_iff {p : Place} : ∀ a : Argument,
    p ∈ placesOfArgument a ↔ ∃ inner, ofArgument? a = some inner ∧ (inner.at? p).isSome
  | .name id => by simp [placesOfArgument, ofArgument?]
  | .call callee args => by
    rw [placesOfArgument, List.mem_append, List.mem_singleton,
      mem_placesFrom_iff ⟨callee, args⟩ 0 args rfl]
    simp only [ofArgument?, Option.some.injEq, exists_eq_left']
    cases p with
    | nil => simp
    | cons i p => simp

theorem mem_placesFrom_iff (call : Call) {p : Place} : ∀ (i : Nat) (as : List Argument),
    call.args.drop i = as →
      (p ∈ placesFrom i as ↔ ∃ k q, p = k :: q ∧ i ≤ k ∧ (call.at? p).isSome)
  | i, [], h => by
    have hlength : call.args.length ≤ i := List.drop_eq_nil_iff.mp h
    rw [placesFrom]
    refine iff_of_false List.not_mem_nil ?_
    rintro ⟨k, q, rfl, hk, hsome⟩
    rw [at?_cons, List.getElem?_eq_none (by omega)] at hsome
    cases hsome
  | i, a :: as, h => by
    obtain ⟨hget, hdrop⟩ := getElem?_of_drop_eq_cons h
    have hfirst : ∀ q, q ∈ placesOfArgument a ↔ (call.at? (i :: q)).isSome := by
      intro q
      rw [mem_placesOfArgument_iff a, at?_cons, hget, Option.bind_some]
      cases ofArgument? a with
      | none => simp
      | some inner => simp
    rw [placesFrom, List.mem_append, List.mem_map, mem_placesFrom_iff call (i + 1) as hdrop]
    constructor
    · rintro (⟨q, hq, rfl⟩ | ⟨k, q, rfl, hk, hsome⟩)
      · exact ⟨i, q, rfl, Nat.le_refl i, (hfirst q).mp hq⟩
      · exact ⟨k, q, rfl, by omega, hsome⟩
    · rintro ⟨k, q, rfl, hk, hsome⟩
      rcases Nat.eq_or_lt_of_le hk with rfl | hlt
      · exact .inl ⟨q, (hfirst q).mpr hsome, rfl⟩
      · exact .inr ⟨k, q, rfl, hlt, hsome⟩

end

/-- **Every occurrence of a call has a place in the list.** -/
theorem mem_places_iff {call : Call} {p : Place} : p ∈ call.places ↔ (call.at? p).isSome := by
  rw [places, List.mem_append, List.mem_singleton, mem_placesFrom_iff call 0 call.args rfl]
  cases p with
  | nil => simp
  | cons i p => simp

/-! ### Their order -/

theorem not_before_of_before {p q : Place} (h : Before p q) : ¬Before q p := by
  induction p generalizing q with
  | nil => cases h
  | cons i p ih =>
    cases q with
    | nil => exact id
    | cons j q =>
      rintro (hlt' | ⟨heq', hbefore'⟩)
      · rcases h with hlt | ⟨heq, -⟩
        · omega
        · omega
      · rcases h with hlt | ⟨-, hbefore⟩
        · omega
        · exact ih hbefore hbefore'

/-- What is nested in a call stands before it. -/
theorem before_append (p : Place) {q : Place} (h : q ≠ []) : Before (p ++ q) p := by
  induction p with
  | nil =>
    obtain ⟨i, q, rfl⟩ := List.exists_cons_of_ne_nil h
    trivial
  | cons i p ih => exact .inr ⟨rfl, ih⟩

/-- A call may stand after its arguments. -/
theorem pairwise_append_nil {ps : List Place} (h : ps.Pairwise Before)
    (hne : ∀ p ∈ ps, ∃ k q, p = k :: q ∧ 0 ≤ k) : (ps ++ [[]]).Pairwise Before := by
  rw [List.pairwise_append]
  refine ⟨h, List.pairwise_singleton _ _, fun p hp q hq => ?_⟩
  obtain ⟨k, p, rfl, -⟩ := hne p hp
  rw [List.mem_singleton.mp hq]
  trivial

mutual

theorem pairwise_placesOfArgument : ∀ a : Argument, (placesOfArgument a).Pairwise Before
  | .name id => by
    rw [placesOfArgument]
    exact .nil
  | .call callee args => by
    rw [placesOfArgument]
    exact pairwise_append_nil (pairwise_placesFrom 0 args).1 (pairwise_placesFrom 0 args).2

/-- The places are in order, and they begin with the numbers of the arguments. -/
theorem pairwise_placesFrom : ∀ (i : Nat) (as : List Argument),
    (placesFrom i as).Pairwise Before ∧ ∀ p ∈ placesFrom i as, ∃ k q, p = k :: q ∧ i ≤ k
  | i, [] => by
    rw [placesFrom]
    exact ⟨.nil, by simp⟩
  | i, a :: as => by
    obtain ⟨hpairwise, hfrom⟩ := pairwise_placesFrom (i + 1) as
    rw [placesFrom]
    constructor
    · rw [List.pairwise_append, List.pairwise_map]
      refine ⟨(pairwise_placesOfArgument a).imp fun h => .inr ⟨rfl, h⟩, hpairwise, ?_⟩
      intro p hp q hq
      obtain ⟨p, -, rfl⟩ := List.mem_map.mp hp
      obtain ⟨k, q, rfl, hk⟩ := hfrom q hq
      exact .inl hk
    · intro p hp
      rcases List.mem_append.mp hp with hp | hp
      · obtain ⟨q, -, rfl⟩ := List.mem_map.mp hp
        exact ⟨i, q, rfl, Nat.le_refl i⟩
      · obtain ⟨k, q, rfl, hk⟩ := hfrom p hp
        exact ⟨k, q, rfl, by omega⟩

end

/-- **The places stand in post-order.** -/
theorem pairwise_places (call : Call) : call.places.Pairwise Before :=
  pairwise_append_nil (pairwise_placesFrom 0 call.args).1 (pairwise_placesFrom 0 call.args).2

theorem nodup_places (call : Call) : call.places.Nodup := by
  refine List.Pairwise.imp (fun {p q} hbefore heq => ?_) (pairwise_places call)
  rw [heq] at hbefore
  exact not_before_of_before hbefore hbefore

end FragmentRoutes.Call
