import FragmentRoutes.Proofs.Numeral.Shortest
import FragmentRoutes.Proofs.RoutesModule.Checking

/-!
# Limits of numbers

The limit that a number is compared with is written as a number with a sign or without one
(`isSignedLiteral_limit`), so a check mentions no names but those of the value and of what records
a failure (`makes_guard_numeric`).  What is no number at all has no such text: it is written as the
difference of two infinities.
-/

namespace FragmentRoutes

open Code Host

namespace Code

open Token

/-! ### Constants -/

/-- A constant is written the same in every place. -/
theorem print_constant (value : Constant) (place : Level) :
    (Expr.constant value).print false place = value.render := by
  cases value with
  | bool b => cases b <;> rfl
  | _ => rfl

theorem isLiteral_infinityText : IsLiteral infinityText.toList :=
  ⟨.real (.infinite false), .real _, by decide +kernel⟩

/-- A whole number that is not too long is written as a number with a sign or without one. -/
theorem isSignedLiteral_toString {n : Int} (hn : n.natAbs < 10 ^ Numeral.maxDigits) :
    IsSignedLiteral (toString n).toList := by
  cases n with
  | ofNat m =>
    have htext : (toString (Int.ofNat m)).toList = Nat.toDigits 10 m := by
      rw [Int.toString_eq_repr, Int.repr, Nat.repr_eq_ofList_toDigits, String.toList_ofList]
    rw [htext]
    exact .plain (isLiteral_toDigits hn)
  | negSucc m =>
    have htext : (toString (Int.negSucc m)).toList = '-' :: Nat.toDigits 10 (m + 1) := by
      have hrepr : (toString (Int.negSucc m)).toList = "-".toList ++ (m + 1).repr.toList := by
        rw [Int.toString_eq_repr, Int.repr, String.toList_append]
      rw [hrepr, Nat.repr_eq_ofList_toDigits, String.toList_ofList, String.toList_ofList,
        List.singleton_append]
    rw [htext]
    exact .signed (by simp) (isLiteral_toDigits hn)

/-- **A number is written as a number** with a sign or without one. -/
theorem isSignedLiteral_realText {x : Numeral.Double} (hx : x ≠ .nan) :
    IsSignedLiteral (realText true x).toList := by
  cases x with
  | nan => exact absurd rfl hx
  | infinite negative =>
    cases negative with
    | false => exact .plain isLiteral_infinityText
    | true =>
      have htext : (realText true (.infinite true)).toList = '-' :: infinityText.toList := rfl
      rw [htext]
      exact .signed (by simp) isLiteral_infinityText
  | finite negative m e =>
    obtain ⟨p, hreal, htext⟩ := Numeral.Double.exists_render_finite negative m e
    have hrender : realText true (.finite negative m e) =
        Numeral.Double.render true (.finite negative m e) := rfl
    rw [hrender, htext]
    cases negative with
    | false => exact .plain hreal.isLiteral
    | true => exact .signed (by simp) hreal.isLiteral

end Code

namespace RoutesModule

open Token

/-! ### Guards of numbers -/

theorem str_ne_number : HostType.str ≠ HostType.int ∧ HostType.str ≠ HostType.float :=
  ⟨fun h => absurd (HostType.cls.inj h) (by decide),
    fun h => absurd (HostType.cls.inj h) (by decide)⟩

/-- The limit of a number is a number, and it is **written as one** unless it is no number at
all. -/
theorem isSignedLiteral_limit {type : HostType} {kind : Constraint.Kind} {raw : String}
    {limit : Constraint.Limit} (htype : type = HostType.int ∨ type = HostType.float)
    (h : Constraint.Sets type kind raw limit) :
    (kind = .min ∨ kind = .max) ∧
      (IsSignedLiteral (limitConstant limit).render.toList ∨ limit = .real .nan) := by
  have hstr : type ≠ HostType.str := by
    rintro rfl
    exact htype.elim str_ne_number.1 str_ne_number.2
  -- no number is a text, so of what sets a limit only the two bounds are left
  generalize ht : type = t at h
  cases h with
  | int hbound hread =>
    exact ⟨hbound, .inl (isSignedLiteral_toString (Numeral.natAbs_lt_of_readWhole? hread))⟩
  | @float _ _ x hbound hread =>
    refine ⟨hbound, ?_⟩
    by_cases hx : x = .nan
    · exact .inr (by rw [hx])
    · exact .inl (isSignedLiteral_realText hx)
  | pattern => exact absurd ht hstr
  | length => exact absurd ht hstr

/-- **The check of a number** compares it with a number that is written with a sign or without one,
or with what is no number. -/
theorem makes_guard_numeric {markup field : String} {type : HostType} {cs : List Constraint}
    (htype : type.unwrap = HostType.int ∨ type.unwrap = HostType.float)
    (hparse : Constraint.parse markup field type = .ok cs) {c : Constraint} (hc : c ∈ cs)
    (s : Imports) (name : String) :
    Imports.Makes (guard name c) s fun stmt s' => ∃ op limit failure,
      stmt = .when (.compare (.name name) [(op, .constant limit)]) failure ∧
      ((c.kind = .min ∧ op = .lt) ∨ (c.kind = .max ∧ op = .gt)) ∧
      limit = limitConstant c.limit ∧
      (Expr.compare (.name name) [(op, .constant limit)]).render =
        name ++ " " ++ op.render ++ " " ++ limit.render ∧
      (IsSignedLiteral limit.render.toList ∨ c.limit = .real .nan ∧
        ∃ literal : String, IsLiteral literal.toList ∧
          limit.render = "(" ++ literal ++ "-" ++ literal ++ ")") ∧
      ∀ n ∈ stmt.names,
        n = name ∨ n = "_td" ∨ n = "ValueError" ∨ s'.HasLocal "http" "HTTPStatus" n := by
  obtain ⟨raw, hsets⟩ := Constraint.exists_sets_of_parse hparse hc
  obtain ⟨hkind, hlimit⟩ := isSignedLiteral_limit htype hsets
  refine (makes_isGuard s name c).mono ?_
  rintro _ s' - ⟨test, failure, htest, hfailure, rfl⟩
  -- by its kind the constraint is a bound, so the value itself is compared
  obtain ⟨op, hop, rfl⟩ : ∃ op, ((c.kind = .min ∧ op = .lt) ∨ (c.kind = .max ∧ op = .gt)) ∧
      test = .compare (.name name) [(op, .constant (limitConstant c.limit))] := by
    cases htest with
    | less hmin => exact ⟨.lt, .inl ⟨hmin, rfl⟩, rfl⟩
    | greater hmax => exact ⟨.gt, .inr ⟨hmax, rfl⟩, rfl⟩
    | mismatched h | short h | long h =>
      rw [h] at hkind
      simp at hkind
  refine ⟨op, limitConstant c.limit, failure, rfl, hop, rfl, ?_, ?_, ?_⟩
  · have hprint : (Expr.compare (.name name) [(op, .constant (limitConstant c.limit))]).render =
        name ++ (" " ++ op.render ++ " " ++
          (Expr.constant (limitConstant c.limit)).print false Level.compare.next ++ "") := rfl
    rw [hprint, print_constant, String.append_empty]
    simp only [String.append_assoc]
  · refine hlimit.imp_right fun hnan => ⟨hnan, infinityText, isLiteral_infinityText, ?_⟩
    rw [hnan]
    rfl
  · -- the condition holds the value only, and what records the failure the other names
    obtain ⟨status, hstatus, rfl⟩ := hfailure
    intro n hn
    have hnames : n = name ∨ n = "_td" ∨ n = "ValueError" ∨ n = "_td" ∨ n = status := by
      simpa [Stmt.names, Stmt.when, Stmt.setAttribute, Expr.apply, Expr.applyName, Expr.text, data,
        Expr.name?, eq_comm] using hn
    rcases hnames with rfl | rfl | rfl | rfl | rfl
    · exact .inl rfl
    · exact .inr (.inl rfl)
    · exact .inr (.inr (.inl rfl))
    · exact .inr (.inl rfl)
    · exact .inr (.inr (.inr hstatus))

/-- A negative bound is written with its sign. -/
theorem makes_guard_numeric_age :
    ∃ cs, Constraint.parse "<input name=\"age\" min=\"-1\">" "age" HostType.int = .ok cs ∧
      HostType.int.unwrap = HostType.int ∧ ∃ c ∈ cs,
        Imports.Makes (guard "_value" c) (.start "") fun stmt s' => ∃ op limit failure,
          stmt = .when (.compare (.name "_value") [(op, .constant limit)]) failure ∧
          limit.render = "-1" ∧
          ∀ n ∈ stmt.names,
            n = "_value" ∨ n = "_td" ∨ n = "ValueError" ∨ s'.HasLocal "http" "HTTPStatus" n := by
  have htype : HostType.int.unwrap = HostType.int := Resolution.unwrap_cls _
  have hparse : (Constraint.parse "<input name=\"age\" min=\"-1\">" "age"
      HostType.int).toOption = some [⟨.min, "age", .whole (-1)⟩] := by
    decide +kernel
  refine ⟨_, Except.toOption_eq_some.mp hparse, htype, _, List.mem_singleton_self _, ?_⟩
  refine (makes_guard_numeric (.inl htype) (Except.toOption_eq_some.mp hparse)
    (List.mem_singleton_self _) (.start "") "_value").mono ?_
  rintro stmt s' - ⟨op, limit, failure, hstmt, -, rfl, -, -, hnames⟩
  exact ⟨op, _, failure, hstmt, rfl, hnames⟩

/-- **What is no number** is taken as a limit, and is not written as a number. -/
theorem not_isSignedLiteral_nan :
    Constraint.parse "<input name=\"size\" min=\"nan\">" "size" HostType.float =
      .ok [⟨.min, "size", .real .nan⟩] ∧
    (limitConstant (.real .nan)).render = "(1e309-1e309)" ∧
    ¬IsSignedLiteral "(1e309-1e309)".toList := by
  have hnext : next? "(1e309-1e309)".toList = some (.mark "(", "1e309-1e309)".toList) := by
    decide +kernel
  have hcons : "(1e309-1e309)".toList = '(' :: "1e309-1e309)".toList := rfl
  refine ⟨Except.toOption_eq_some.mp (by decide +kernel), rfl, fun h => ?_⟩
  generalize htext : "(1e309-1e309)".toList = text at h
  cases h with
  | plain hliteral =>
    obtain ⟨token, hnumber, hread⟩ := hliteral
    -- read as tokens it starts with a bracket
    rw [← htext, hnext] at hread
    obtain rfl := (Prod.mk.inj (Option.some.inj hread)).1
    cases hnumber
  | signed hsign =>
    rw [hcons] at htext
    rw [← (List.cons.inj htext).1] at hsign
    exact absurd hsign (by decide)

end RoutesModule

end FragmentRoutes
