import FragmentRoutes.Code.Stmt
import Mathlib.Data.List.Basic

/-!
# Runs of statements

What a run of statements does is a list of events: a statement without parts is carried out, or a
condition is decided on.  Whatever may raise an error does so in some run, and an error is caught
in some run and passed on in another, so the runs here are those of the generated code and more:
what holds of all of them holds of the code.
-/

namespace FragmentRoutes.Code

/-- What a run does: it carries out a statement without parts, or it decides on a condition. -/
inductive Event where
  | did (s : Stmt)
  | decided (test : Expr) (holds : Bool)

/-- How a run ends: behind the last statement, with an error, or with a value that is returned. -/
inductive Ending where
  | through
  | raised
  | returned
  deriving DecidableEq, Repr

/-- The rounds of a loop, of which one may end it. -/
inductive Rounds (round : List Event → Ending → Prop) : List Event → Ending → Prop where
  | done : Rounds round [] .through
  | next {t t' : List Event} {e : Ending} (h : round t .through) (h' : Rounds round t' e) :
    Rounds round (t ++ t') e
  | stop {t : List Event} {e : Ending} (h : round t e) (he : e ≠ .through) : Rounds round t e

mutual

/-- The statement may do this and end so. -/
def Stmt.Runs : Stmt → List Event → Ending → Prop
  | .ifElse test body otherwise, t, e =>
    (t = [] ∧ e = .raised) ∨ (∃ t', t = .decided test true :: t' ∧ Stmt.RunsOf body t' e) ∨
      ∃ t', t = .decided test false :: t' ∧ Stmt.RunsOf otherwise t' e
  | .attempt body _ _ handler otherwise, t, e =>
    (∃ t₁ t₂, t = t₁ ++ t₂ ∧ Stmt.RunsOf body t₁ .through ∧ Stmt.RunsOf otherwise t₂ e) ∨
      (∃ t₁ t₂, t = t₁ ++ t₂ ∧ Stmt.RunsOf body t₁ .raised ∧ Stmt.RunsOf handler t₂ e) ∨
        (Stmt.RunsOf body t e ∧ e ≠ .through)
  | .each _ _ body, t, e =>
    (t = [] ∧ e = .raised) ∨ Rounds (fun t e => Stmt.RunsOf body t e) t e
  | .ret value, t, e => (t = [] ∧ e = .raised) ∨ (t = [.did (.ret value)] ∧ e = .returned)
  | s, t, e => (t = [] ∧ e = .raised) ∨ (t = [.did s] ∧ e = .through)

/-- The statements, one after the other, may do this and end so. -/
def Stmt.RunsOf : List Stmt → List Event → Ending → Prop
  | [], t, e => t = [] ∧ e = .through
  | s :: ss, t, e =>
    (∃ t₁ t₂, t = t₁ ++ t₂ ∧ s.Runs t₁ .through ∧ Stmt.RunsOf ss t₂ e) ∨
      (s.Runs t e ∧ e ≠ .through)

end

section

variable {s : Stmt} {ss : List Stmt} {t : List Event} {e : Ending}

/-- The statement only has an effect, and no statements in it. -/
inductive Stmt.IsPlain : Stmt → Prop where
  | expr (value : Expr) : IsPlain (.expr value)
  | assign (target value : Expr) : IsPlain (.assign target value)

end

/-! ### Checks -/

section

variable {checks : List Stmt} {t : List Event} {e : Ending}

end

end FragmentRoutes.Code
