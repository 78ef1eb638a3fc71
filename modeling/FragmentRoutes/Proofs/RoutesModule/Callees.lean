import FragmentRoutes.Proofs.Imports.Keeping
import FragmentRoutes.Proofs.RoutesModule.Binding
import FragmentRoutes.Proofs.Text.SplitOn

/-!
# What is called while arguments are bound

A callee is `Aside` of the receiver if it is a method of no name, of a local value, of a symbol of
another module, or makes values of a class.  It is no method of the receiver, unless such a class is
written with the name of the receiver and not imported (`Aside.methodOf?_eq_none`).

Converting and checking values and reading forms calls nothing else, so binding the arguments of a
call does not (`ensures_bindArguments_quiet`).
-/

namespace FragmentRoutes

open Code Host Resolution

namespace Host

/-- Values of the class are made from texts or from forms, by a method: one that the class has, or
the class itself if it stands in another one. -/
def Supplies (host : Host) (c : ClassId) : Prop :=
  host.conversion? (.cls c) = some .text ∨
    host.isStruct (.cls c) = true ∧ (host.isModel c = true ∨ (c.qualname.splitOn ".").tail ≠ [])

end Host

namespace RoutesModule

/-! ### Methods of a name -/

/-- The method of what goes by the name that a callee is. -/
def methodOf? (owner : String) : Expr → Option String
  | .attribute (.name id) method => if id = owner then some method else none
  | _ => none

/-- The methods that statements call on what goes by the name, in the order of the text. -/
def methodsOn (owner : String) (body : List Stmt) : List String :=
  (Stmt.calleesOf body).filterMap (methodOf? owner)

@[simp]
theorem methodsOn_append (owner : String) (body body' : List Stmt) :
    methodsOn owner (body ++ body') = methodsOn owner body ++ methodsOn owner body' := by
  rw [methodsOn, Stmt.calleesOf_append, List.filterMap_append]
  rfl

/-- The name whose method a callee is. -/
def ownerOf? : Expr → Option String
  | .attribute (.name id) _ => some id
  | _ => none

/-- What shows a class that stands in no other one is no method. -/
theorem ownerOf?_of_shows {s : Imports} {c : ClassId} {shown : Expr} (h : s.Shows c shown)
    (hnested : (c.qualname.splitOn ".").tail = []) : ownerOf? shown = none := by
  cases h with
  | absent _ => rfl
  | builtin _ _ => rfl
  | hidden _ _ _ _ => rfl
  | imported _ _ _ _ =>
    rw [hnested]
    rfl

/-- The callee is **aside** of the receiver: it is a method of no name, of a local value, of a symbol
of another module, or it makes values of a class. -/
inductive Aside (host : Host) (s : Imports) : Expr → Prop where
  | unowned {callee : Expr} (hcallee : ownerOf? callee = none) : Aside host s callee
  | ofValue {name method : String} (hname : name ≠ "receiver") :
    Aside host s (.attribute (.name name) method)
  | ofSymbol {module symbol name method : String} (hmodule : module ≠ "")
    (hlocal : s.HasLocal module symbol name) : Aside host s (.attribute (.name name) method)
  | ofClass {c : ClassId} {shown callee : Expr} (hc : host.Supplies c) (hshown : s.Shows c shown)
    (hnames : callee.names = shown.names) : Aside host s callee

/-- The statements call nothing but what is aside of the receiver. -/
def Quiet (host : Host) (s : Imports) (body : List Stmt) : Prop :=
  ∀ callee ∈ Stmt.calleesOf body, Aside host s callee

section

variable {host : Host} {s s' : Imports}

theorem Aside.mono (hgrows : s.Grows s') {callee : Expr} (h : Aside host s callee) :
    Aside host s' callee := by
  cases h with
  | unowned hcallee => exact .unowned hcallee
  | ofValue hname => exact .ofValue hname
  | ofSymbol hmodule hlocal => exact .ofSymbol hmodule (hlocal.mono hgrows)
  | ofClass hc hshown hnames => exact .ofClass hc (hshown.mono hgrows) hnames

/-- A method of a value that is no name. -/
theorem aside_attribute {value : Expr} {method : String} (h : value.name? = none) :
    Aside host s (.attribute value method) := by
  refine .unowned ?_
  cases value with
  | name id => cases h
  | _ => rfl

theorem methodOf?_eq_some_iff {owner method : String} {callee : Expr} :
    methodOf? owner callee = some method ↔ callee = .attribute (.name owner) method := by
  constructor
  · intro h
    unfold methodOf? at h
    split at h
    · split_ifs at h with hid
      rw [hid, Option.some.inj h]
    · cases h
  · rintro rfl
    exact if_pos rfl

/-- **What is aside is no method of the receiver**, unless values are made of a class that is
written with the name of the receiver. -/
theorem Aside.methodOf?_eq_none (hkeeps : s.Keeps "receiver")
    (hhost : ∀ c, host.Supplies c → ¬Imports.IsBare "receiver" c) {callee : Expr}
    (h : Aside host s callee) : methodOf? "receiver" callee = none := by
  rw [Option.eq_none_iff_forall_ne_some]
  intro method hmethod
  obtain rfl := methodOf?_eq_some_iff.mp hmethod
  cases h with
  | unowned hcallee => cases hcallee
  | ofValue hname => exact hname rfl
  | ofSymbol hmodule hlocal => exact hkeeps.ne_of_hasLocal hmodule hlocal rfl
  | ofClass hc hshown hnames =>
    refine hhost _ hc (hkeeps.isBare_of_shows hshown ?_)
    rw [← hnames]
    simp

theorem Quiet.mono (hgrows : s.Grows s') {body : List Stmt} (h : Quiet host s body) :
    Quiet host s' body :=
  fun callee hcallee => (h callee hcallee).mono hgrows

theorem Quiet.methodsOn_eq_nil (hkeeps : s.Keeps "receiver")
    (hhost : ∀ c, host.Supplies c → ¬Imports.IsBare "receiver" c) {body : List Stmt}
    (h : Quiet host s body) : methodsOn "receiver" body = [] := by
  rw [methodsOn, List.filterMap_eq_nil_iff]
  exact fun callee hcallee => (h callee hcallee).methodOf?_eq_none hkeeps hhost

theorem quiet_nil : Quiet host s [] := by
  simp [Quiet]

theorem Quiet.append {body body' : List Stmt} (h : Quiet host s body) (h' : Quiet host s body') :
    Quiet host s (body ++ body') := by
  intro callee hcallee
  rw [Stmt.calleesOf_append, List.mem_append] at hcallee
  exact hcallee.elim (h callee) (h' callee)

theorem Quiet.cons {stmt : Stmt} {body : List Stmt}
    (hstmt : ∀ callee ∈ stmt.callees, Aside host s callee) (h : Quiet host s body) :
    Quiet host s (stmt :: body) := by
  intro callee hcallee
  rw [Stmt.calleesOf_cons, List.mem_append] at hcallee
  exact hcallee.elim (hstmt callee) (h callee)

end

/-! ### Converting and checking -/

section

variable {host : Host}

/-- Recording a failure calls what makes the error. -/
theorem RecordsFailure.quiet {s : Imports} {error : Expr} {body : List Stmt}
    (h : RecordsFailure s error body) (herror : ∀ callee ∈ error.callees, Aside host s callee) :
    Quiet host s body := by
  obtain ⟨status, -, rfl⟩ := h
  refine .cons (fun callee hcallee => ?_) (.cons (by simp) quiet_nil)
  simp only [Stmt.callees_expr, Expr.callees_apply, data, Expr.callees_attribute,
    Expr.callees_name, List.nil_append, List.flatMap_cons, List.flatMap_nil, List.append_nil,
    List.mem_cons] at hcallee
  rcases hcallee with rfl | hcallee
  · exact aside_attribute rfl
  · exact herror callee hcallee

theorem makes_broken_quiet (host : Host) (s : Imports) (c : Constraint) (name : String) :
    Imports.Makes (broken c (.name name)) s fun e s' =>
      ∀ callee ∈ e.callees, Aside host s' callee := by
  have hlen : ∀ (s : Imports) (op : CompareOp) (limit : Constant), ∀ callee ∈
      (Expr.compare (.applyName "len" [.name name]) [(op, .constant limit)]).callees,
        Aside host s callee := by
    intro s op limit callee hcallee
    obtain rfl : callee = .name "len" := by simpa using hcallee
    exact .unowned rfl
  rw [broken]
  cases c.kind with
  | min => exact Imports.makes_pure (by simp)
  | max => exact Imports.makes_pure (by simp)
  | minLength => exact Imports.makes_pure (hlen s _ _)
  | maxLength => exact Imports.makes_pure (hlen s _ _)
  | pattern =>
    have hmodule : Imports.Makes (Imports.moduleExpr "re") s fun e _ => e = .name "re" := by
      have hparts : "re".splitOn "." = ["re"] := Text.splitOn_of_notMem rfl (by decide)
      refine ⟨Imports.grows_addModule s "re", ?_⟩
      show Expr.dotted "re" = _
      rw [Expr.dotted, hparts]
      rfl
    refine .bind (hmodule.mono ?_)
    rintro _ s' - rfl
    refine Imports.makes_pure fun callee hcallee => ?_
    obtain rfl : callee = .attribute (.name "re") "fullmatch" := by simpa using hcallee
    exact .ofValue (by decide)

/-- Checks call nothing but what is aside of the receiver. -/
theorem makes_guards_quiet (host : Host) (s : Imports) (name : String) (cs : List Constraint) :
    Imports.Makes (guards name cs) s fun body s' => Quiet host s' body := by
  induction cs generalizing s with
  | nil => exact Imports.makes_pure quiet_nil
  | cons c cs ih =>
    rw [guards, guard]
    refine .bind (.bind ((makes_broken_quiet host s c name).mono fun test s₁ _ htest => ?_))
    refine .bind ((makes_fail s₁ _).mono fun failure s₂ hgrows hfailure => ?_)
    refine Imports.makes_pure (.bind ((ih s₂).mono fun body s₃ hgrows' hbody =>
      Imports.makes_pure (.cons (fun callee hcallee => ?_) hbody)))
    rw [Stmt.callees_when, List.mem_append] at hcallee
    rcases hcallee with hcallee | hcallee
    · exact (htest callee hcallee).mono (hgrows.trans hgrows')
    · refine (hfailure.quiet (fun callee hcallee => ?_) callee hcallee).mono hgrows'
      obtain rfl : callee = .name "ValueError" := by simpa using hcallee
      exact .unowned rfl

/-- Without the absent value a type is another one only if it is a union. -/
theorem unwrap_eq_or_union (t : HostType) :
    t.unwrap = t ∨ ∃ barred types, t = .union barred types ∧ 1 < types.length := by
  rw [HostType.unwrap]
  split_ifs with hnone
  · split
    · rename_i m hm
      right
      cases t with
      | union barred types =>
        refine ⟨barred, types, rfl, ?_⟩
        obtain ⟨absent, habsent, hisNone⟩ := List.any_eq_true.mp hnone
        have hlt : (types.filter fun m => !m.isNoneType).length < types.length :=
          List.length_filter_lt_length_iff_exists.mpr ⟨absent, habsent, by simp [hisNone]⟩
        rwa [show types.filter (fun m => !m.isNoneType) = [m] from hm] at hlt
      | _ => cases hnone
    · exact .inl rfl
  · exact .inl rfl

/-- The expression for a type that texts are converted to by a method shows a class with such a
method, or is no name. -/
theorem makes_typeExpr_text (s : Imports) {t : HostType} (ht : host.conversion? t = some .text) :
    Imports.Makes (Imports.typeExpr t) s fun e s' =>
      (∃ c, host.Supplies c ∧ s'.Shows c e) ∨ e.name? = none := by
  obtain ⟨c, hc⟩ := exists_cls_convertedType ht
  have hunwrap : t.unwrap = .cls c := hc
  have hsupplies : host.Supplies c := by
    left
    rw [conversion?] at ht ⊢
    rwa [unwrap_cls, ← hunwrap]
  rcases unwrap_eq_or_union t with hself | ⟨barred, types, rfl, hlength⟩
  · obtain rfl : t = .cls c := hself.symm.trans hunwrap
    exact (Imports.makes_typeExpr_cls s c).mono fun e s' _ hshown => .inl ⟨c, hsupplies, hshown⟩
  · refine (Imports.makes_typeExpr (.union barred types) s).imp_right fun _ => .inr ?_
    rw [Imports.typeExpr]
    exact Imports.name?_barred (hlength.trans_eq (Imports.length_typeExprs types s).symm)

theorem makes_converted_quiet (s : Imports) {kind : Conversion} {t : HostType}
    (ht : kind = .text → host.conversion? t = some .text) {text : Expr}
    (htext : ∀ s, ∀ callee ∈ text.callees, Aside host s callee) :
    Imports.Makes (converted kind t text) s fun value s' =>
      ∀ callee ∈ value.callees, Aside host s' callee := by
  have hname : ∀ (f : String) (rest : List Expr), rest.flatMap Expr.callees = [] →
      ∀ callee ∈ (Expr.applyName f (text :: rest)).callees, Aside host s callee := by
    intro f rest hrest callee hcallee
    rw [Expr.callees_applyName, List.flatMap_cons, hrest, List.append_nil,
      List.mem_cons] at hcallee
    rcases hcallee with rfl | hcallee
    · exact .unowned rfl
    · exact htext s callee hcallee
  unfold converted
  cases kind with
  | str => exact Imports.makes_pure (htext s)
  | int => exact Imports.makes_pure (hname _ _ (by simp))
  | float => exact Imports.makes_pure (hname _ _ rfl)
  | bool => exact Imports.makes_pure (hname _ _ rfl)
  | text =>
    have hfront := makes_typeExpr_text s (ht rfl)
    have hcalls := Imports.callees_typeExpr t s
    refine ⟨hfront.1, fun callee hcallee => ?_⟩
    change callee ∈ (Expr.apply (.attribute ((Imports.typeExpr t).run s).1 "from_text")
      [text]).callees at hcallee
    rw [Expr.callees_apply, Expr.callees_attribute, hcalls, List.mem_cons] at hcallee
    rcases hcallee with rfl | hcallee
    · rcases hfront.2 with ⟨c, hc, hshown⟩ | hunnamed
      · exact .ofClass hc hshown (Expr.names_attribute _ _)
      · exact aside_attribute hunnamed
    · exact htext _ callee (by simpa using hcallee)

/-- **Converting and checking a value** calls what makes its text, what is done next, and otherwise
nothing but what is aside of the receiver. -/
theorem makes_bindConverted_quiet (s : Imports) (name : String) {kind : Conversion} {t : HostType}
    (ht : kind = .text → host.conversion? t = some .text) {text : Expr}
    (htext : ∀ s, ∀ callee ∈ text.callees, Aside host s callee) (cs : List Constraint)
    {next : List Stmt} (hnext : ∀ s, Quiet host s next) :
    Imports.Makes (bindConverted name kind t text cs next) s fun body s' => Quiet host s' body := by
  rw [bindConverted]
  refine .bind ((makes_guards_quiet host s name cs).mono fun checks s₁ _ hchecks => ?_)
  split_ifs
  · exact Imports.makes_pure
      (.cons (by simpa using htext s₁) (hchecks.append (hnext s₁)))
  · refine .bind ((makes_converted_quiet s₁ ht htext).mono fun value s₂ hgrows hvalue => ?_)
    refine .bind ((makes_fail s₂ _).mono fun failure s₃ hgrows' hfailure => ?_)
    have hrest := (hchecks.mono (hgrows.trans hgrows')).append (hnext s₃)
    refine Imports.makes_pure (.cons (fun callee hcallee => ?_) quiet_nil)
    rw [Stmt.callees_attempt, Expr.callees_name, List.append_nil, List.mem_append,
      List.mem_append, Stmt.calleesOf_cons, Stmt.callees_set, Stmt.calleesOf_nil,
      List.append_nil] at hcallee
    rcases hcallee with (hcallee | hcallee) | hcallee
    · exact (hvalue callee hcallee).mono hgrows'
    · exact hfailure.quiet (by simp) callee hcallee
    · exact hrest callee hcallee

end

/-! ### Binding -/

/-- What the form is passed as calls nothing but what is aside of the receiver. -/
def FormUse.Quiet (host : Host) (s : Imports) : FormUse → Prop
  | .struct _ value => ∀ callee ∈ value.callees, Aside host s callee
  | _ => True

theorem FormUse.Quiet.mono {host : Host} {s s' : Imports} (hgrows : s.Grows s') {use : FormUse}
    (h : use.Quiet host s) : use.Quiet host s' := by
  cases use with
  | unused => trivial
  | whole => trivial
  | struct type value => exact fun callee hcallee => (h callee hcallee).mono hgrows

section

variable {context : Context} {definition : Definition}

theorem makes_bindValue_quiet (s : Imports) (field : FormField) {kind : Conversion} {t : HostType}
    (ht : kind = .text → context.host.conversion? t = some .text) (cs : List Constraint) :
    Ensures (bindValue field kind t cs) s (fun _ => True)
      fun body s' => Quiet context.host s' body := by
  refine ensures_lift (makes_bindConverted_quiet s _ ht (fun s callee hcallee => ?_) cs
    fun s => ?_)
  · obtain rfl : callee = .attribute (.name "_form") "get" := by simpa using hcallee
    exact .ofValue (by decide)
  · exact .cons (by simp [fieldPlace]) quiet_nil

theorem makes_bindItems_quiet (s : Imports) (field : FormField) {kind : Conversion} {t : HostType}
    (ht : kind = .text → context.host.conversion? t = some .text) (cs : List Constraint) :
    Ensures (bindItems field kind t cs) s (fun _ => True)
      fun body s' => Quiet context.host s' body := by
  have hkeep : ∀ s, Quiet context.host s
      [.expr (.apply (.attribute (.name "_values") "append") [.name "_value"])] := by
    refine fun s => .cons (fun callee hcallee => ?_) quiet_nil
    obtain rfl : callee = .attribute (.name "_values") "append" := by simpa using hcallee
    exact .ofValue (by decide)
  refine .bind ((ensures_lift (makes_bindConverted_quiet s "_value" ht (by simp) cs hkeep)).mono
    fun body s' _ hbody => ensures_pure ?_)
  refine .cons (by simp) (.cons (fun callee hcallee => ?_) (.cons ?_ quiet_nil))
  · rw [Stmt.callees_each, List.mem_append, List.mem_append] at hcallee
    rcases hcallee with (hcallee | hcallee) | hcallee
    · simp at hcallee
    · obtain rfl : callee = .attribute (.name "_form") "getlist" := by simpa using hcallee
      exact .ofValue (by decide)
    · exact hbody callee hcallee
  · split_ifs
    · intro callee hcallee
      obtain rfl : callee = .name "tuple" := by simpa [fieldPlace] using hcallee
      exact .unowned rfl
    · simp [fieldPlace]

theorem ensures_bindField_quiet (s : Imports) (struct : HostType) (field : FormField) :
    Ensures (bindField context definition struct field) s (fun _ => True)
      fun body s' => Quiet context.host s' body := by
  rw [bindField]
  dsimp only
  rw [← textType]
  cases hkind : context.host.conversion? (textType field) with
  | none => exact ensures_throw trivial
  | some kind =>
    have ht : kind = .text → context.host.conversion?
        (if kind == .str then HostType.str else textType field) = some .text := by
      rintro rfl
      exact hkind
    refine .bind (((ensures_fieldConstraints s field _).mono_fails fun _ _ => trivial).mono
      fun cs s' _ _ => ?_)
    by_cases hitems : (item? field.type).isSome = true
    · rw [if_pos hitems]
      exact makes_bindItems_quiet s' field ht cs
    · rw [if_neg hitems]
      exact makes_bindValue_quiet s' field ht cs

theorem ensures_bindFields_quiet (s : Imports) (struct : HostType) (fields : List FormField) :
    Ensures (bindFields context definition struct fields) s (fun _ => True)
      fun body s' => Quiet context.host s' body := by
  induction fields generalizing s with
  | nil => exact ensures_pure quiet_nil
  | cons field fields ih =>
    rw [bindFields]
    refine .bind ((ensures_bindField_quiet s struct field).mono fun first s' _ hfirst => ?_)
    refine .bind ((ih s').mono fun rest s'' hgrows hrest => ?_)
    exact ensures_pure ((hfirst.mono hgrows).append hrest)

end

section

variable {context : Context} {definition : Definition}

theorem ensures_bindStruct_quiet (s : Imports) {struct : HostType}
    (hstruct : context.host.isStruct struct = true) :
    Ensures (bindStruct context definition struct) s (fun _ => True)
      fun r s' => Quiet context.host s' r.2 ∧
        ∀ callee ∈ r.1.callees, Aside context.host s' callee := by
  obtain ⟨c, rfl⟩ := exists_cls_of_isStruct hstruct
  refine .bind ((ensures_bindFields_quiet s (.cls c) (context.host.formFields c)).mono
    fun body s₁ _ hbody => ?_)
  refine .bind ((ensures_lift (Imports.makes_typeExpr_cls s₁ c)).mono
    fun shown s₂ hgrows hshown => ?_)
  refine ensures_pure ⟨.cons (by simp) (hbody.mono hgrows), fun callee hcallee => ?_⟩
  by_cases hmodel : context.host.isModel c = true
  · rw [if_pos hmodel, Expr.callees_call, Expr.callees_attribute, hshown.callees_eq_nil] at hcallee
    obtain rfl : callee = .attribute shown "model_construct" := by simpa using hcallee
    exact .ofClass (.inr ⟨hstruct, .inl hmodel⟩) hshown (Expr.names_attribute _ _)
  · rw [if_neg hmodel, Expr.callees_call, hshown.callees_eq_nil] at hcallee
    obtain rfl : callee = shown := by simpa using hcallee
    by_cases hnested : (c.qualname.splitOn ".").tail = []
    · exact .unowned (ownerOf?_of_shows hshown hnested)
    · exact .ofClass (.inr ⟨hstruct, .inr hnested⟩) hshown rfl

theorem ensures_bindForm_quiet (s : Imports) (param : Signature.Param) {bindings : Bindings}
    (h : bindings.form.Quiet context.host s) :
    Ensures (bindForm context definition param bindings) s (fun _ => True)
      fun r s' => r.1.form.Quiet context.host s' ∧ Quiet context.host s' r.2 := by
  obtain ⟨paths, read, use⟩ := bindings
  have hread : ∀ s, Quiet context.host s (if read then [] else [readForm]) := by
    intro s
    split_ifs
    · exact quiet_nil
    · refine .cons (fun callee hcallee => ?_) quiet_nil
      obtain rfl : callee = .name "_read_form" := by simpa [readForm] using hcallee
      exact .unowned rfl
  rw [bindForm]
  by_cases hstruct : context.host.isStruct param.type = true
  · rw [if_pos hstruct]
    cases use.type? with
    | some bound =>
      dsimp only
      by_cases hsame : bound.same param.type = true
      · rw [if_pos hsame]
        exact ensures_pure ⟨h, hread s⟩
      · rw [if_neg hsame]
        exact ensures_throw trivial
    | none =>
      refine .bind ((ensures_bindStruct_quiet s hstruct).mono ?_)
      rintro ⟨value, body⟩ s' - ⟨hbody, hvalue⟩
      exact ensures_pure ⟨hvalue, (hread s').append hbody⟩
  · rw [if_neg hstruct]
    cases use with
    | unused => exact ensures_pure ⟨trivial, hread s⟩
    | whole => exact ensures_pure ⟨h, hread s⟩
    | struct type value => exact ensures_pure ⟨h, hread s⟩

theorem ensures_bindPath_quiet (s : Imports) (param : Signature.Param) (id : String)
    {bindings : Bindings} (h : bindings.form.Quiet context.host s) :
    Ensures (bindPath context definition param id bindings) s (fun _ => True)
      fun r s' => r.1.form.Quiet context.host s' ∧ Quiet context.host s' r.2 := by
  rw [bindPath]
  cases bindings.paths.lookup id with
  | some bound =>
    dsimp only
    split_ifs
    · exact ensures_pure ⟨h, quiet_nil⟩
    · exact ensures_throw trivial
  | none =>
    dsimp only
    cases hkind : context.host.conversion? param.type with
    | none => exact ensures_throw trivial
    | some kind =>
      have htarget : (if kind == .str then HostType.str else param.type.unwrap) =
          convertedType kind param.type := by
        simp [convertedType]
      have ht : kind = .text →
          context.host.conversion? (convertedType kind param.type) = some .text := by
        rintro rfl
        exact conversion?_convertedType hkind
      simp only [htarget]
      refine .bind ((ensures_lift (makes_bindConverted_quiet s (pathLocal id) ht
        (by simp [request]) [] fun _ => quiet_nil)).mono fun body s' hgrows hbody => ?_)
      exact ensures_pure ⟨h.mono hgrows, hbody⟩

/-- **Binding arguments** calls nothing but what is aside of the receiver. -/
theorem ensures_bindArguments_quiet (s : Imports) {bindings : Bindings}
    (h : bindings.form.Quiet context.host s) (uses : List (Signature.Param × String)) :
    Ensures (bindArguments context definition bindings uses) s (fun _ => True)
      fun r s' => r.1.form.Quiet context.host s' ∧ Quiet context.host s' r.2 := by
  induction uses generalizing s bindings with
  | nil => exact ensures_pure ⟨h, quiet_nil⟩
  | cons use uses ih =>
    have hfirst : Ensures (bindUse context definition bindings use) s (fun _ => True)
        fun r s' => r.1.form.Quiet context.host s' ∧ Quiet context.host s' r.2 := by
      rw [bindUse]
      split_ifs
      · exact ensures_bindPath_quiet s use.1 use.2 h
      · exact ensures_bindForm_quiet s use.1 h
      · exact ensures_pure ⟨h, quiet_nil⟩
    rw [bindArguments_cons]
    refine .bind (hfirst.mono ?_)
    rintro ⟨bindings', first⟩ s' - ⟨hform, hfirst⟩
    refine .bind ((ih s' hform).mono ?_)
    rintro ⟨bindings'', rest⟩ s'' hgrows ⟨hform, hrest⟩
    exact ensures_pure ⟨hform, (hfirst.mono hgrows).append hrest⟩

end

end RoutesModule

end FragmentRoutes
