import FragmentRoutes.Proofs.RoutesModule.Fields

/-!
# Values of path parameters

A handler keeps the value of a path parameter under a local name of its own.  `Converts` says which
statement converts the text of a parameter to a value of a type, and `makes_converts` that this is
the one that is made.  `ConvertedOnce` says of the body of a handler that it has this statement
before it carries out any call, and sets the value nowhere else.
-/

namespace FragmentRoutes.RoutesModule

open Code Host

/-! ### Local values -/

theorem pathLocal_injective {p q : String} (h : pathLocal p = pathLocal q) : p = q := by
  rw [pathLocal, pathLocal, ← String.toList_inj, String.toList_append, String.toList_append] at h
  exact String.toList_inj.mp (List.append_cancel_left h)

/-- A name that begins otherwise is not the local value of a path parameter. -/
theorem ne_pathLocal {name : String} (h : name.toList.take 3 ≠ ['_', 'p', '_']) (p : String) :
    name ≠ pathLocal p := by
  rintro rfl
  refine h ?_
  rw [pathLocal, String.toList_append]
  rfl

theorem Binds.pathLocal_notMem {names : List String} {body : List Stmt} (h : Binds names body)
    (hnames : ∀ name ∈ names, name.toList.take 3 ≠ ['_', 'p', '_']) (p : String) :
    pathLocal p ∉ Stmt.setsOf body :=
  fun hmem => ne_pathLocal (hnames _ (h.sets _ hmem)) p rfl

/-- The text of a path parameter in a request. -/
def pathText (p : String) : Expr :=
  .subscript (request "path_params") (.text p)

/-- The expression that a text is converted to a value of the type with. -/
inductive IsConverted (s : Imports) (t : HostType) (text : Expr) : Conversion → Expr → Prop where
  | int : IsConverted s t text .int (.applyName "int" [text, .int 10])
  | float : IsConverted s t text .float (.applyName "float" [text])
  | bool : IsConverted s t text .bool (.applyName "_parse_bool" [text])
  | text {c : ClassId} {front : Expr} (ht : t = .cls c) (hfront : s.Shows c front) :
    IsConverted s t text .text (.apply (.attribute front "from_text") [text])

/-- The statement **converts** a path parameter to a value of the type: a text is taken as it is,
any other value is made from the text, and a failure to do so is recorded. -/
inductive Converts (s : Imports) (p : String) (t : HostType) : Conversion → Stmt → Prop where
  | str (ht : t = HostType.str) : Converts s p t .str (.set (pathLocal p) (pathText p))
  | value {kind : Conversion} {value : Expr} {failure : List Stmt}
    (hvalue : IsConverted s t (pathText p) kind value)
    (hfailure : RecordsFailure s (.name "_err") failure) :
    Converts s p t kind
      (.attempt [.set (pathLocal p) value] (.name "ValueError") (some "_err") failure [])

theorem IsConverted.mono {s s' : Imports} {t : HostType} {text value : Expr} {kind : Conversion}
    (hgrows : s.Grows s') (h : IsConverted s t text kind value) :
    IsConverted s' t text kind value := by
  cases h with
  | int => exact .int
  | float => exact .float
  | bool => exact .bool
  | text ht hfront => exact .text ht (hfront.mono hgrows)

theorem RecordsFailure.mono {s s' : Imports} {error : Expr} {body : List Stmt}
    (hgrows : s.Grows s') (h : RecordsFailure s error body) : RecordsFailure s' error body := by
  obtain ⟨status, hstatus, rfl⟩ := h
  exact ⟨status, hstatus.mono hgrows, rfl⟩

theorem Converts.mono {s s' : Imports} {p : String} {t : HostType} {kind : Conversion}
    {stmt : Stmt} (hgrows : s.Grows s') (h : Converts s p t kind stmt) :
    Converts s' p t kind stmt := by
  cases h with
  | str ht => exact .str ht
  | value hvalue hfailure => exact .value (hvalue.mono hgrows) (hfailure.mono hgrows)

theorem Converts.not_isInvocation {s : Imports} {p : String} {t : HostType} {kind : Conversion}
    {stmt : Stmt} (h : Converts s p t kind stmt) : ¬IsInvocation stmt := by
  rintro ⟨body, rfl⟩
  cases h

/-- A conversion sets the local value of no other path parameter. -/
theorem Converts.pathLocal_notMem {s : Imports} {p q : String} {t : HostType} {kind : Conversion}
    {stmt : Stmt} (h : Converts s p t kind stmt) (hne : q ≠ p) : pathLocal q ∉ stmt.sets := by
  have hlocal : pathLocal q ≠ pathLocal p := fun heq => hne (pathLocal_injective heq)
  cases h with
  | str => simpa using hlocal
  | value _ hfailure =>
    have herr : "_err" ≠ pathLocal q := ne_pathLocal (by decide) q
    rw [Stmt.sets, hfailure.setsOf]
    simpa using ⟨hlocal, herr.symm⟩

/-- The text of a path parameter is converted by one statement. -/
theorem makes_converts (s : Imports) (p : String) {kind : Conversion} {t : HostType}
    (hstr : kind = .str → t = HostType.str) (ht : ∃ c, t = .cls c) :
    Imports.Makes (bindConverted (pathLocal p) kind t (pathText p) [] []) s
      fun body s' => ∃ stmt, body = [stmt] ∧ Converts s' p t kind stmt := by
  obtain ⟨c, rfl⟩ := ht
  have hvalue : ∀ s, kind ≠ .str → Imports.Makes (converted kind (.cls c) (pathText p)) s
      fun value s' => IsConverted s' (.cls c) (pathText p) kind value := by
    intro s hkind
    cases kind with
    | str => exact absurd rfl hkind
    | int => exact Imports.makes_pure .int
    | float => exact Imports.makes_pure .float
    | bool => exact Imports.makes_pure .bool
    | text =>
      exact .bind ((Imports.makes_typeExpr_cls s c).mono fun front _ _ hfront =>
        Imports.makes_pure (.text rfl hfront))
  rw [bindConverted, guards]
  refine .bind (Imports.makes_pure ?_)
  split_ifs with hkind
  · obtain rfl := beq_iff_eq.mp hkind
    exact Imports.makes_pure ⟨_, rfl, .str (hstr rfl)⟩
  · refine .bind ((hvalue s fun heq => hkind (beq_iff_eq.mpr heq)).mono fun value s' _ hvalue => ?_)
    refine .bind ((makes_fail s' _).mono fun failure s'' hgrows hfailure => ?_)
    exact Imports.makes_pure ⟨_, rfl, .value (hvalue.mono hgrows) hfailure⟩

/-! ### Conversions in a body -/

/-- The body **converts the path parameter once**, to a value of the type and in the way of the
type, before it carries out any call. -/
def ConvertedOnce (host : Host) (s : Imports) (p : String) (t : HostType) (body : List Stmt) :
    Prop :=
  ∃ kind before stmt after, host.conversion? t = some kind ∧ Converts s p t kind stmt ∧
    body = before ++ stmt :: after ∧ (∀ u ∈ before, ¬IsInvocation u) ∧
    pathLocal p ∉ Stmt.setsOf (before ++ after)

section

variable {host : Host} {s s' : Imports} {p : String} {t : HostType} {body : List Stmt}

theorem ConvertedOnce.mono (hgrows : s.Grows s') (h : ConvertedOnce host s p t body) :
    ConvertedOnce host s' p t body := by
  obtain ⟨kind, before, stmt, after, hkind, hstmt, hbody⟩ := h
  exact ⟨kind, before, stmt, after, hkind, hstmt.mono hgrows, hbody⟩

/-- Statements after it that do not set the value leave the conversion as it is. -/
theorem ConvertedOnce.append (h : ConvertedOnce host s p t body) {rest : List Stmt}
    (hrest : pathLocal p ∉ Stmt.setsOf rest) : ConvertedOnce host s p t (body ++ rest) := by
  obtain ⟨kind, before, stmt, after, hkind, hstmt, rfl, hbefore, hsets⟩ := h
  refine ⟨kind, before, stmt, after ++ rest, hkind, hstmt, by simp, hbefore, ?_⟩
  rw [← List.append_assoc, Stmt.setsOf_append, List.mem_append]
  exact fun hmem => hmem.elim hsets hrest

/-- So do statements before it that carry out no call. -/
theorem ConvertedOnce.append_front (h : ConvertedOnce host s p t body) {front : List Stmt}
    (hcalls : ∀ u ∈ front, ¬IsInvocation u) (hfront : pathLocal p ∉ Stmt.setsOf front) :
    ConvertedOnce host s p t (front ++ body) := by
  obtain ⟨kind, before, stmt, after, hkind, hstmt, rfl, hbefore, hsets⟩ := h
  refine ⟨kind, front ++ before, stmt, after, hkind, hstmt, by simp, ?_, ?_⟩
  · intro u hu
    exact (List.mem_append.mp hu).elim (hcalls u) (hbefore u)
  · rw [List.append_assoc, Stmt.setsOf_append, List.mem_append]
    exact fun hmem => hmem.elim hfront hsets

end

end FragmentRoutes.RoutesModule
