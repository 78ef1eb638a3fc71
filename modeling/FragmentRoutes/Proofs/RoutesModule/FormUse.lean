import FragmentRoutes.Proofs.Resolution.Conversion
import FragmentRoutes.Proofs.RoutesModule.Fields

/-!
# What the form is passed as

All parameters that the form is passed to share one value.  `FormGiven` says which value it is, and
`FormFails` when there is none; both depend on which of the parameters comes first.  A step of the
binding goes from one to the next parameter (`ensures_bindForm`).
-/

namespace FragmentRoutes.RoutesModule

open Code Host Resolution

/-! ### Parameters of the form -/

/-- The parameters that the form is passed to, in the order of the identifiers. -/
def formParams (uses : List (Signature.Param × String)) : List Signature.Param :=
  (uses.filter fun use => use.2 == "form").map (·.1)

theorem formParams_append (uses uses' : List (Signature.Param × String)) :
    formParams (uses ++ uses') = formParams uses ++ formParams uses' := by
  rw [formParams, List.filter_append, List.map_append]
  rfl

theorem formParams_append_form (uses : List (Signature.Param × String)) (param : Signature.Param) :
    formParams (uses ++ [(param, "form")]) = formParams uses ++ [param] :=
  formParams_append uses _

theorem formParams_append_of_ne (uses : List (Signature.Param × String)) {param : Signature.Param}
    {id : String} (h : id ≠ "form") : formParams (uses ++ [(param, id)]) = formParams uses := by
  rw [formParams_append]
  simp [formParams, h]

theorem mem_formParams_iff {uses : List (Signature.Param × String)} {param : Signature.Param} :
    param ∈ formParams uses ↔ (param, "form") ∈ uses := by
  rw [formParams, List.mem_map]
  constructor
  · rintro ⟨⟨q, id⟩, hmem, rfl⟩
    obtain ⟨hmem, hid⟩ := List.mem_filter.mp hmem
    rw [← beq_iff_eq.mp hid]
    exact hmem
  · intro hmem
    exact ⟨(param, "form"), List.mem_filter.mpr ⟨hmem, rfl⟩, rfl⟩

section

variable (context : Context) (definition : Definition)

/-- There is **no value** for the parameters: the first is a class that the form cannot be read
into, or there is a class after a first parameter that is not the same class. -/
def FormFails : List Signature.Param → Prop
  | [] => False
  | first :: rest =>
    if context.host.isStruct first.type then
      ¬Readable context definition first.type ∨
        ∃ q ∈ rest, context.host.isStruct q.type = true ∧ q.type ≠ first.type
    else ∃ q ∈ rest, context.host.isStruct q.type = true

/-- **What the form is passed as** to all of the parameters: as it is if none of them is a class,
and as a value of the class if the first is one and no other class follows. -/
inductive FormGiven (s : Imports) : List Signature.Param → FormUse → Prop where
  | unused : FormGiven s [] .unused
  | whole {first : Signature.Param} {rest : List Signature.Param}
    (hplain : ∀ q ∈ first :: rest, context.host.isStruct q.type = false) :
    FormGiven s (first :: rest) .whole
  | struct {first : Signature.Param} {rest : List Signature.Param} {value : Expr}
    (hstruct : context.host.isStruct first.type = true)
    (hreadable : Readable context definition first.type)
    (hrest : ∀ q ∈ rest, context.host.isStruct q.type = true → q.type = first.type)
    (hvalue : Constructs context s first.type value) :
    FormGiven s (first :: rest) (.struct first.type value)

end

section

variable {context : Context} {definition : Definition} {params : List Signature.Param}

theorem FormGiven.mono {s s' : Imports} {use : FormUse} (hgrows : s.Grows s')
    (h : FormGiven context definition s params use) :
    FormGiven context definition s' params use := by
  cases h with
  | unused => exact .unused
  | whole hplain => exact .whole hplain
  | struct hstruct hreadable hrest hvalue =>
    exact .struct hstruct hreadable hrest (hvalue.mono hgrows)

theorem FormFails.ne_nil (h : FormFails context definition params) : params ≠ [] := by
  rintro rfl
  exact h

/-- There is no value once there was none for the parameters before. -/
theorem FormFails.append (h : FormFails context definition params)
    (rest : List Signature.Param) : FormFails context definition (params ++ rest) := by
  cases params with
  | nil => cases h
  | cons first params =>
    rw [FormFails] at h
    rw [List.cons_append, FormFails]
    split_ifs at h ⊢
    · rcases h with h | ⟨q, hq, h⟩
      · exact Or.inl h
      · exact Or.inr ⟨q, List.mem_append_left rest hq, h⟩
    · obtain ⟨q, hq, h⟩ := h
      exact ⟨q, List.mem_append_left rest hq, h⟩

/-- **There is a value or there is none.** -/
theorem FormGiven.not_formFails {s : Imports} {use : FormUse}
    (h : FormGiven context definition s params use) : ¬FormFails context definition params := by
  cases h with
  | unused => exact id
  | whole hplain =>
    rw [FormFails, hplain _ List.mem_cons_self]
    rintro ⟨q, hq, hstruct⟩
    rw [hplain q (List.mem_cons_of_mem _ hq)] at hstruct
    cases hstruct
  | struct hstruct hreadable hrest _ =>
    rw [FormFails, if_pos hstruct]
    rintro (h | ⟨q, hq, hqstruct, hne⟩)
    · exact h hreadable
    · exact hne (hrest q hq hqstruct)

/-- What is given to a class in front is a value of the class. -/
theorem FormGiven.exists_struct {s : Imports} {first : Signature.Param}
    {rest : List Signature.Param} {use : FormUse}
    (h : FormGiven context definition s (first :: rest) use)
    (hstruct : context.host.isStruct first.type = true) :
    ∃ value, use = .struct first.type value ∧ Constructs context s first.type value := by
  cases h with
  | whole hplain =>
    rw [hplain first List.mem_cons_self] at hstruct
    cases hstruct
  | struct _ _ _ hvalue => exact ⟨_, rfl, hvalue⟩

/-! ### One more parameter -/

/-- The statement that reads the form. -/
def readForm : Stmt :=
  .set "_form" (.await (.applyName "_read_form" [.name "request"]))

/-- A class is the same as a type only if the type is that class. -/
theorem same_iff_of_isStruct {host : Host} {t u : HostType} (h : host.isStruct u = true) :
    t.same u = true ↔ u = t := by
  obtain ⟨c, rfl⟩ := exists_cls_of_isStruct h
  constructor
  · intro hsame
    exact (eq_cls_of_same hsame).symm
  · rintro rfl
    simp [HostType.same]

/-- Reading the form, unless it was read before. -/
theorem binds_read (read : Bool) :
    Binds formNames (if read then [] else [readForm]) ∧
      (read = true ∨ readForm ∈ if read then [] else [readForm]) := by
  cases read with
  | true => exact ⟨.nil formNames, Or.inl rfl⟩
  | false =>
    refine ⟨.cons (by simp [readForm, formNames]) ?_ (.nil formNames), Or.inr (by simp)⟩
    simp [readForm]

/-- A parameter that is no class is given what there is. -/
theorem FormGiven.append_plain {s : Imports} {use : FormUse} {param : Signature.Param}
    (h : FormGiven context definition s params use)
    (hplain : context.host.isStruct param.type = false) :
    FormGiven context definition s (params ++ [param])
      (match use with
        | .unused => .whole
        | use => use) := by
  cases h with
  | unused => exact .whole (by simpa using hplain)
  | @whole first rest h =>
    refine .whole fun q hq => ?_
    rcases List.mem_append.mp (show q ∈ (first :: rest) ++ [param] from hq) with hq | hq
    · exact h q hq
    · rw [List.mem_singleton.mp hq, hplain]
  | struct hstruct hreadable hrest hvalue =>
    refine .struct hstruct hreadable (fun q hq hqstruct => ?_) hvalue
    rcases List.mem_append.mp hq with hq | hq
    · exact hrest q hq hqstruct
    · rw [List.mem_singleton.mp hq, hplain] at hqstruct
      cases hqstruct

/-- **One more parameter** is given the value that there is, or there is no value for it. -/
theorem ensures_bindForm {s : Imports} {bindings : Bindings} (param : Signature.Param)
    (hgiven : FormGiven context definition s params bindings.form) :
    Ensures (bindForm context definition param bindings) s
      (fun fault => fault.IsForm ∧ FormFails context definition (params ++ [param]))
      fun r s' => FormGiven context definition s' (params ++ [param]) r.1.form ∧
        r.1.paths = bindings.paths ∧ r.1.formRead = true ∧
        (bindings.formRead = true ∨ readForm ∈ r.2) ∧ Binds formNames r.2 := by
  obtain ⟨paths, read, use⟩ := bindings
  obtain ⟨hfront, hread⟩ := binds_read read
  rw [bindForm]
  by_cases hstruct : context.host.isStruct param.type = true
  · rw [if_pos hstruct]
    cases hgiven with
    | unused =>
      -- the first parameter is a class
      have hfails : ¬Readable context definition param.type →
          FormFails context definition [param] := by
        intro h
        rw [FormFails, if_pos hstruct]
        exact Or.inl h
      refine .bind (((ensures_bindStruct s hstruct).mono_fails fun fault h =>
        ⟨h.1, hfails h.2⟩).mono ?_)
      rintro ⟨value, body⟩ s' - ⟨hreadable, hvalue, hbody⟩
      refine ensures_pure ⟨.struct hstruct hreadable (by simp) hvalue, rfl, rfl, ?_, ?_⟩
      · exact hread.imp_right (List.mem_append_left body)
      · exact hfront.append hbody
    | @whole first rest hplain =>
      -- the form was passed as it is before
      obtain ⟨c, hc⟩ := exists_cls_of_isStruct hstruct
      have hsame : HostType.any.same param.type = false := by simp [hc, HostType.same]
      simp only [FormUse.type?, hsame]
      refine ensures_throw ⟨trivial, ?_⟩
      rw [List.cons_append, FormFails, hplain first List.mem_cons_self]
      exact ⟨param, by simp, hstruct⟩
    | @struct first rest value hfirst hreadable hrest hvalue =>
      simp only [FormUse.type?]
      by_cases hsame : first.type.same param.type = true
      · have heq : param.type = first.type := (same_iff_of_isStruct hstruct).mp hsame
        rw [if_pos hsame]
        refine ensures_pure ⟨.struct hfirst hreadable (fun q hq hq' => ?_) hvalue, rfl, rfl, hread,
          hfront⟩
        rcases List.mem_append.mp hq with hq | hq
        · exact hrest q hq hq'
        · rw [List.mem_singleton.mp hq, heq]
      · rw [if_neg hsame]
        refine ensures_throw ⟨trivial, ?_⟩
        rw [List.cons_append, FormFails, if_pos hfirst]
        refine Or.inr ⟨param, by simp, hstruct, fun heq => hsame ?_⟩
        exact (same_iff_of_isStruct hstruct).mpr heq
  · rw [if_neg hstruct]
    have hgiven' := hgiven.append_plain (Bool.eq_false_iff.mpr hstruct)
    cases use with
    | unused => exact ensures_pure ⟨hgiven', rfl, rfl, hread, hfront⟩
    | whole => exact ensures_pure ⟨hgiven', rfl, rfl, hread, hfront⟩
    | struct t value => exact ensures_pure ⟨hgiven', rfl, rfl, hread, hfront⟩

end

end FragmentRoutes.RoutesModule
