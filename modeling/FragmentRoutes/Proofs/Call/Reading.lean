import FragmentRoutes.Call
import Mathlib.Tactic.Common

/-!
# Reading calls

The reader goes down from the loosest level of the grammar to an atom with its trailers.  Where the
next token closes the expression, no level on the way up goes on with it, so what is read is the
atom with its trailers (`expression_of_primary`).
-/

namespace FragmentRoutes.Code.Reader

/-- The token ends an expression that is an argument, or that is all of a text. -/
inductive Closes : Token → Prop where
  | parenthesis : Closes (.mark ")")
  | comma : Closes (.mark ",")
  | newline : Closes .newline

section

variable {t : Token} {ts rest : List Token} {e : Expr} {n : Nat}

theorem operationRest_of_closes (ht : Closes t) (level : Nat) :
    operationRest (n + 1) level e (t :: rest) = some (e, t :: rest) := by
  have hmark : ∀ m, m = ")" ∨ m = "," → operatorAt level m = none := by
    rintro m (rfl | rfl) <;> (rw [operatorAt]; all_goals simp)
  cases ht with
  | parenthesis => rw [operationRest, hmark _ (.inl rfl)]
  | comma => rw [operationRest, hmark _ (.inr rfl)]
  | newline => rw [operationRest]; all_goals simp

/-- No operator goes on with an operand that is closed. -/
theorem operation_of_factor (ht : Closes t) (h : factor n ts = some (e, t :: rest)) :
    operation (n + 7) 0 ts = some (e, t :: rest) := by
  have hlevel : ∀ d ≤ 6, operation (n + d + 1) (6 - d) ts = some (e, t :: rest) := by
    intro d hd
    induction d with
    | zero => rw [operation, if_pos (by decide), h]
    | succ d ih =>
      have hnext : 6 - (d + 1) + 1 = 6 - d := by omega
      have hfirst := ih (by omega)
      rw [Nat.add_assoc] at hfirst
      rw [operation, if_neg (by rw [operatorLevels]; omega), hnext, hfirst, Option.bind_eq_bind,
        Option.bind_some]
      exact operationRest_of_closes ht _
  exact hlevel 6 (Nat.le_refl 6)

/-- **An atom with its trailers is an expression** if the next token closes it. -/
theorem expression_of_primary {f : String} (ht : Closes t)
    (h : primary n (.name f :: ts) = some (e, t :: rest)) :
    expression (n + 13) (.name f :: ts) = some (e, t :: rest) := by
  have hfactor : factor (n + 2) (.name f :: ts) = some (e, t :: rest) := by
    have hawaited : awaited (n + 1) (.name f :: ts) = some (e, t :: rest) := by
      rw [awaited, h]
      simp
    rw [factor]
    simp only [sign?, hawaited, Option.bind_eq_bind, Option.bind_some]
    cases ht <;> rfl
  have hinversion : inversion (n + 10) (.name f :: ts) = some (e, t :: rest) := by
    have hcomparisons : comparisons (n + 9) (t :: rest) = some ([], t :: rest) := by
      rw [comparisons]
      cases ht <;> rfl
    rw [inversion]
    · simp only [operation_of_factor ht hfactor, hcomparisons, Option.bind_eq_bind, Option.bind_some]
      rfl
    · simp
  have hconjunction : conjunction (n + 11) (.name f :: ts) = some (e, t :: rest) := by
    have hoperands : andOperands (n + 10) (t :: rest) = some ([], t :: rest) := by
      rw [andOperands]
      cases ht <;> simp
    rw [conjunction]
    simp only [hinversion, hoperands, Option.bind_eq_bind, Option.bind_some]
    rfl
  have hdisjunction : disjunction (n + 12) (.name f :: ts) = some (e, t :: rest) := by
    have hoperands : orOperands (n + 11) (t :: rest) = some ([], t :: rest) := by
      rw [orOperands]
      cases ht <;> simp
    rw [disjunction]
    simp only [hconjunction, hoperands, Option.bind_eq_bind, Option.bind_some]
    rfl
  rw [expression]
  · simp only [hdisjunction, Option.bind_eq_bind, Option.bind_some]
    cases ht <;> rfl
  · simp

/-! ### Arguments -/

/-- A name with arguments is read as a call. -/
theorem primary_call {f : String} {args : List Expr} (ht : Closes t)
    (h : arguments (n + 1) .positional [] [] ts = some ((args, []), t :: rest)) :
    primary (n + 3) (.name f :: .mark "(" :: ts) = some (.call (.name f) args [], t :: rest) := by
  have htrailers : ∀ e, trailers (n + 1) e (t :: rest) = some (e, t :: rest) := by
    intro e
    rw [trailers]
    all_goals cases ht <;> simp
  rw [primary, atom, Option.bind_eq_bind, Option.bind_some]
  simp only [trailers, h, Option.bind_eq_bind, Option.bind_some]
  exact htrailers _

theorem arguments_nil : arguments (n + 1) .positional [] [] (.mark ")" :: rest) =
    some (([], []), rest) := by
  rw [arguments]
  rfl

/-- A call may be the one argument of a call. -/
theorem arguments_call {f : String}
    (h : primary n (.name f :: .mark "(" :: ts) = some (e, .mark ")" :: rest)) :
    arguments (n + 15) .positional [] [] (.name f :: .mark "(" :: ts) = some (([e], []), rest) := by
  have hnamed : named (n + 14) (.name f :: .mark "(" :: ts) = some (e, .mark ")" :: rest) := by
    rw [named]
    · rw [expression_of_primary .parenthesis h]
      rfl
    · simp
  rw [arguments]
  · simp only [hnamed, Option.bind_eq_bind, Option.bind_some]
    rfl
  all_goals simp

/-- **An atom with its trailers is read** if nothing follows on the line. -/
theorem read_of_primary {cs : List Char} {f : String}
    (hscan : Token.scan cs = some (.name f :: ts))
    (h : primary n (.name f :: ts) = some (e, [.newline]))
    (hn : 32 * (cs.length + 4) = n + 13) : Expr.read cs = some e := by
  have hexpressions : expressions (n + 13) (.name f :: ts) = some (e, [.newline]) := by
    rw [expressions, expression_of_primary .newline h]
    rfl
  rw [Expr.read, hscan, hn]
  dsimp only
  rw [hexpressions]
  rfl

end

end FragmentRoutes.Code.Reader
