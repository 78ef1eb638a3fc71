import FragmentRoutes.Call
import FragmentRoutes.Proofs.Code.ReadNames
import FragmentRoutes.Proofs.Except

/-!
# Names in calls

A call that is read has the callees and identifiers of the expression that it is read from, so they
are all forms of texts that can name something, and the call is nested no deeper than brackets may
be (`Call.named_of_parse`).
-/

namespace FragmentRoutes

open Code

/-- The callees and identifiers in an argument all have the property, and at most `n` calls are
nested in each other there. -/
inductive Argument.Named (P : String → Prop) : Nat → Argument → Prop where
  | name {n : Nat} {id : String} (hid : P id) : Named P n (.name id)
  | call {n : Nat} {callee : String} {args : List Argument} (hcallee : P callee)
    (hargs : ∀ a ∈ args, a.Named P n) : Named P (n + 1) (.call callee args)

namespace Call

/-- The callees and identifiers in a call all have the property, and at most `n` calls are nested in
each other there. -/
def Named (P : String → Prop) (n : Nat) (call : Call) : Prop :=
  Argument.Named P n (.call call.callee call.args)

variable {P : String → Prop} {n : Nat}

theorem Named.callee {call : Call} (h : call.Named P n) : P call.callee := by
  cases h with
  | call hcallee => exact hcallee

/-! ### The names at any depth -/

theorem mem_walkArguments_iff_exists {c : Call} {as : List Argument} :
    c ∈ walkArguments as ↔ ∃ a ∈ as, c ∈ walkArgument a := by
  induction as with
  | nil => simp [walkArguments]
  | cons a as ih => simp [walkArguments, ih]

theorem mem_identifiersOfArguments_iff_exists {id : String} {as : List Argument} :
    id ∈ identifiersOfArguments as ↔ ∃ a ∈ as, id ∈ identifiersOfArgument a := by
  induction as with
  | nil => simp [identifiersOfArguments]
  | cons a as ih => simp [identifiersOfArguments, ih]

/-- The names of an argument are the callees of the calls in it and its identifiers. -/
theorem named_argument_iff {Q : String → Prop} {a : Argument} (h : a.Named Q n) :
    a.Named P n ↔
      (∀ c ∈ walkArgument a, P c.callee) ∧ ∀ id ∈ identifiersOfArgument a, P id := by
  induction h with
  | @name n id =>
    rw [walkArgument, identifiersOfArgument, List.forall_mem_singleton]
    constructor
    · rintro ⟨hid⟩
      exact ⟨List.forall_mem_nil _, hid⟩
    · exact fun h => .name h.2
  | @call n callee args _ _ ih =>
    rw [walkArgument, identifiersOfArgument, List.forall_mem_append, List.forall_mem_singleton]
    constructor
    · intro h
      cases h with
      | call hcallee hargs =>
        refine ⟨⟨fun c hc => ?_, hcallee⟩, fun id hid => ?_⟩
        · obtain ⟨a, ha, hc⟩ := mem_walkArguments_iff_exists.mp hc
          exact ((ih a ha).mp (hargs a ha)).1 c hc
        · obtain ⟨a, ha, hid⟩ := mem_identifiersOfArguments_iff_exists.mp hid
          exact ((ih a ha).mp (hargs a ha)).2 id hid
    · rintro ⟨⟨hwalk, hcallee⟩, hids⟩
      refine .call hcallee fun a ha => (ih a ha).mpr ⟨fun c hc => ?_, fun id hid => ?_⟩
      · exact hwalk c (mem_walkArguments_iff_exists.mpr ⟨a, ha, hc⟩)
      · exact hids id (mem_identifiersOfArguments_iff_exists.mpr ⟨a, ha, hid⟩)

/-- The names of a call are the callees of the calls in it and its identifiers. -/
theorem named_iff {Q : String → Prop} {call : Call} (h : call.Named Q n) :
    call.Named P n ↔ (∀ c ∈ call.walk, P c.callee) ∧ ∀ id ∈ call.identifiers, P id :=
  (named_argument_iff h).trans (by rw [walkArgument, identifiersOfArgument]; rfl)

theorem Named.imp {Q : String → Prop} {call : Call} (h : call.Named Q n)
    (himp : ∀ id, Q id → P id) : call.Named P n := by
  have hnames := (named_iff h).mp h
  exact (named_iff h).mpr
    ⟨fun c hc => himp _ (hnames.1 c hc), fun id hid => himp _ (hnames.2 id hid)⟩

/-! ### The names of what is read -/

/-- The arguments that expressions are have the names of the expressions. -/
theorem named_of_argumentsOf {es : List Expr}
    (hes : ∀ e ∈ es, ∀ index a, argumentOf index e = .ok a → a.Named P n) {index : Nat}
    {args : List Argument} (h : argumentsOf index es = .ok args) : ∀ a ∈ args, a.Named P n := by
  induction es generalizing index args with
  | nil =>
    rw [argumentsOf] at h
    obtain rfl := Except.ok.inj h
    simp
  | cons e es ih =>
    rw [argumentsOf, Except.bind_eq_ok] at h
    obtain ⟨a, ha, h⟩ := h
    rw [Except.bind_eq_ok] at h
    obtain ⟨as, has, h⟩ := h
    obtain rfl := Except.ok.inj h
    refine List.forall_mem_cons.mpr ⟨hes e List.mem_cons_self index a ha, ?_⟩
    exact ih (fun e he => hes e (List.mem_cons_of_mem _ he)) has

/-- A call that is made of parts has their names. -/
theorem named_of_ofParts {callee : Expr} {es : List Expr} {keyworded : Bool} {call : Call}
    (hcallee : callee.CallsNamed P (n + 1))
    (hes : ∀ e ∈ es, ∀ index a, argumentOf index e = .ok a → a.Named P n)
    (h : ofParts callee es keyworded = .ok call) : call.Named P (n + 1) := by
  cases hcallee with
  | name hid =>
    rw [ofParts] at h
    split_ifs at h
    rw [Except.bind_eq_ok] at h
    obtain ⟨args, hargs, h⟩ := h
    obtain rfl := Except.ok.inj h
    exact .call hid (named_of_argumentsOf hes hargs)
  | call =>
    rw [ofParts] at h
    · cases h
    · simp
  | other hname =>
    rw [ofParts] at h
    · cases h
    · rintro id rfl
      cases hname

theorem named_of_argumentOf {e : Expr} (he : e.CallsNamed P n) :
    ∀ index a, argumentOf index e = .ok a → a.Named P n := by
  induction he with
  | name hid =>
    intro index a h
    rw [argumentOf] at h
    obtain rfl := Except.ok.inj h
    exact .name hid
  | call hcallee hargs _ ih =>
    intro index a h
    rw [argumentOf, Except.bind_eq_ok] at h
    obtain ⟨call, hcall, h⟩ := h
    obtain rfl := Except.ok.inj h
    exact named_of_ofParts hcallee ih hcall
  | other hname hcallee =>
    intro index a h
    rw [argumentOf] at h
    · cases h
    · rintro id rfl
      cases hname
    · rintro callee args keywords rfl
      cases hcallee

/-- The call that an expression is has the names of the expression. -/
theorem named_of_ofExpr {e : Expr} (he : e.CallsNamed P n) {call : Call}
    (h : ofExpr e = .ok call) : call.Named P n := by
  cases he with
  | name => cases h
  | call hcallee hargs =>
    exact named_of_ofParts hcallee (fun a ha => named_of_argumentOf (hargs a ha)) h
  | other _ hcallee =>
    unfold ofExpr at h
    split at h
    · cases hcallee
    · cases h

/-- The names in a call that is read are among the tokens of its text. -/
theorem named_of_spelled {text : String} {call : Call} (h : parse text = .ok call)
    (hspelled : ∀ ts, Token.scan (Text.stripChars text.toList) = some ts → Spelled P [] ts) :
    call.Named P Token.maxDepth := by
  unfold parse at h
  dsimp only at h
  split_ifs at h
  split at h
  · cases h
  · rename_i e hread
    exact named_of_ofExpr (callsNamed_of_read hspelled hread) h

/-- **The names in a call that is read** are forms of texts that can name something. -/
theorem named_of_parse {text : String} {call : Call} (h : parse text = .ok call) :
    call.Named Token.IsFormOfName Token.maxDepth :=
  named_of_spelled h fun _ => Token.spelled_scan

end Call

end FragmentRoutes
