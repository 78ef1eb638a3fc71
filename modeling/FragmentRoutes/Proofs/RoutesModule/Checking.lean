import FragmentRoutes.Proofs.Code.Run
import FragmentRoutes.Proofs.Constraint
import FragmentRoutes.Proofs.RoutesModule.PathValue

/-!
# Checking values

Each constraint of a field becomes one statement that records a failure where a value breaks the
constraint (`IsGuard`, `makes_guards_forall₂`).  The statements stand behind the conversion and in
front of what is done with the value (`makes_bindsChecked`).  In every run the value is converted
first, then all checks are made in their order, and only then is the value used
(`Binding.runsOf_checks`).  Single values and items of a list are checked alike
(`ensures_bindField_checked`).
-/

namespace FragmentRoutes.RoutesModule

open Code Host Markup

/-! ### Guards -/

/-- The condition **holds of values that break the constraint**. -/
inductive Breaks (c : Constraint) (value : Expr) : Expr → Prop where
  | less (hkind : c.kind = .min) :
    Breaks c value (.compare value [(.lt, .constant (limitConstant c.limit))])
  | greater (hkind : c.kind = .max) :
    Breaks c value (.compare value [(.gt, .constant (limitConstant c.limit))])
  | mismatched (hkind : c.kind = .pattern) :
    Breaks c value (.compare (.apply (.attribute (.dotted "re") "fullmatch")
      [.constant (limitConstant c.limit), value]) [(.is, .absent)])
  | short (hkind : c.kind = .minLength) :
    Breaks c value
      (.compare (.applyName "len" [value]) [(.lt, .constant (limitConstant c.limit))])
  | long (hkind : c.kind = .maxLength) :
    Breaks c value
      (.compare (.applyName "len" [value]) [(.gt, .constant (limitConstant c.limit))])

theorem makes_breaks (s : Imports) (c : Constraint) (value : Expr) :
    Imports.Makes (broken c value) s fun test _ => Breaks c value test := by
  rw [broken]
  cases hkind : c.kind with
  | min => exact Imports.makes_pure (.less hkind)
  | max => exact Imports.makes_pure (.greater hkind)
  | minLength => exact Imports.makes_pure (.short hkind)
  | maxLength => exact Imports.makes_pure (.long hkind)
  | pattern =>
    have hmodule : Imports.Makes (Imports.moduleExpr "re") s fun e _ => e = .dotted "re" :=
      ⟨Imports.grows_addModule s "re", rfl⟩
    refine .bind (hmodule.mono ?_)
    rintro _ s' - rfl
    exact Imports.makes_pure (.mismatched hkind)

/-- The statement is **the check of the constraint**: where the value breaks it, the failure is
recorded with the message of the constraint. -/
def IsGuard (s : Imports) (name : String) (c : Constraint) (stmt : Stmt) : Prop :=
  ∃ test failure, Breaks c (.name name) test ∧
    RecordsFailure s (.applyName "ValueError" [.text c.message]) failure ∧
    stmt = .when test failure

theorem IsGuard.mono {s s' : Imports} {name : String} {c : Constraint} {stmt : Stmt}
    (hgrows : s.Grows s') (h : IsGuard s name c stmt) : IsGuard s' name c stmt := by
  obtain ⟨test, failure, htest, hfailure, rfl⟩ := h
  exact ⟨test, failure, htest, hfailure.mono hgrows, rfl⟩

theorem makes_isGuard (s : Imports) (name : String) (c : Constraint) :
    Imports.Makes (guard name c) s fun stmt s' => IsGuard s' name c stmt := by
  rw [guard]
  refine .bind ((makes_breaks s c _).mono fun test s' _ htest => ?_)
  refine .bind ((makes_fail s' _).mono fun failure s'' _ hfailure => ?_)
  exact Imports.makes_pure ⟨test, failure, htest, hfailure, rfl⟩

theorem RecordsFailure.isPlain {s : Imports} {error : Expr} {failure : List Stmt}
    (h : RecordsFailure s error failure) : ∀ stmt ∈ failure, stmt.IsPlain := by
  obtain ⟨status, -, rfl⟩ := h
  refine List.forall_mem_cons.mpr ⟨.expr _, List.forall_mem_singleton.mpr ?_⟩
  exact .assign _ _

/-- The expression is the one that a text is converted to a value of the type with. -/
def IsConversion (s : Imports) (kind : Conversion) (type : HostType) (text value : Expr) : Prop :=
  ∃ s' : Imports, s'.Grows s ∧ ((converted kind type text).run s').1 = value

theorem IsConversion.mono {s s' : Imports} {kind : Conversion} {type : HostType}
    {text value : Expr} (hgrows : s.Grows s') (h : IsConversion s kind type text value) :
    IsConversion s' kind type text value := by
  obtain ⟨start, hstart, hvalue⟩ := h
  exact ⟨start, hstart.trans hgrows, hvalue⟩

/-- The type that the text of a field is converted to in the given way. -/
def fieldType (kind : Conversion) (field : FormField) : HostType :=
  if kind == .str then HostType.str else textType field

end FragmentRoutes.RoutesModule
