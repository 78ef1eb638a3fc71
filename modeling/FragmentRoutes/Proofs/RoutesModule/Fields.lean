import FragmentRoutes.Proofs.RoutesModule.Making
import FragmentRoutes.RoutesModule.Handler

/-!
# Reading forms into classes

A form can be read into a class if every field of the class has a type that texts are converted to
and constraints that can be read (`Readable`).  This depends on the application and the fragments
alone.  `ensures_bindStruct` says that the making of a class ends well exactly then, and that what
is made is a value of this very class (`Constructs`).
-/

namespace FragmentRoutes.RoutesModule

open Code Host

/-- A fault of what the form is read into. -/
def Fault.IsForm : Fault → Prop
  | .formTwice _ _ _ => True
  | .fieldType _ _ _ _ => True
  | .missingTemplate _ _ => True
  | .constraint _ _ => True
  | _ => False

/-- The local names that reading a form sets. -/
def formNames : List String :=
  ["_form", "_form_fields", "_values", "_text", "_value", "_err"]

/-! ### Fields -/

/-- The type that the texts of a field are converted to. -/
def textType (field : FormField) : HostType :=
  ((item? field.type).getD field.type).unwrap

/-- The template with the constraints of a field. -/
def constraintTemplate (definition : Definition) (field : FormField) : String :=
  match field.template with
  | some name => if name.isEmpty then definition.name else name
  | none => definition.name

section

variable (context : Context) (definition : Definition)

/-- The constraints that the template of a field sets for values of a type, if it can be read. -/
def constraints? (field : FormField) (type : HostType) : Option (List Constraint) :=
  (context.library.get? (constraintTemplate definition field)).bind fun fragment =>
    (Constraint.parse fragment.source field.external type).toOption

/-- The field **can be read**: its texts can be converted, and its constraints are those of a
template. -/
def FieldReadable (field : FormField) : Prop :=
  ((context.host.conversion? (textType field)).bind fun kind =>
    constraints? context definition field
      (if kind == .str then HostType.str else textType field)).isSome = true

/-- The fields of a class that a form fills. -/
def structFields (struct : HostType) : List FormField :=
  match classOf? struct with
  | some c => context.host.formFields c
  | none => []

/-- A form **can be read into** the class: all fields can be read. -/
def Readable (struct : HostType) : Prop :=
  ∀ field ∈ structFields context struct, FieldReadable context definition field

instance (field : FormField) : Decidable (FieldReadable context definition field) :=
  inferInstanceAs (Decidable (_ = true))

instance (struct : HostType) : Decidable (Readable context definition struct) :=
  inferInstanceAs (Decidable (∀ field ∈ structFields context struct, _))

/-- The expression makes a value of the class from the fields that were read. -/
def Constructs (s : Imports) (struct : HostType) (value : Expr) : Prop :=
  ∃ c front, struct = .cls c ∧ s.Shows c front ∧
    value = .call (if context.host.isModel c then front.attribute "model_construct" else front) []
      [(none, .name "_form_fields")]

end

section

variable {context : Context} {definition : Definition}

theorem Constructs.mono {s s' : Imports} {struct : HostType} {value : Expr} (hgrows : s.Grows s')
    (h : Constructs context s struct value) : Constructs context s' struct value := by
  obtain ⟨c, front, hc, hshows, hvalue⟩ := h
  exact ⟨c, front, hc, hshows.mono hgrows, hvalue⟩

theorem ensures_fieldConstraints (s : Imports) (field : FormField) (type : HostType) :
    Ensures (fieldConstraints context definition field type) s
      (fun fault => fault.IsForm ∧ constraints? context definition field type = none)
      fun cs _ => constraints? context definition field type = some cs := by
  rw [fieldConstraints, constraints?]
  split
  · rename_i hget
    rw [show context.library.get? (constraintTemplate definition field) = none from hget]
    exact ensures_throw ⟨trivial, rfl⟩
  · rename_i fragment hget
    rw [show context.library.get? (constraintTemplate definition field) = some fragment from hget,
      Option.bind_some]
    cases Constraint.parse fragment.source field.external type with
    | ok cs => exact @ensures_pure _ s _ (fun cs' _ => some cs = some cs') cs rfl
    | error fault => exact ensures_throw ⟨trivial, rfl⟩

/-- Keeping a value in the place of a field sets no name. -/
theorem binds_keep (field : FormField) (value : Expr) :
    Binds formNames [.assign (fieldPlace field) value] := by
  refine .cons ?_ ?_ (.nil formNames)
  · simp [Stmt.sets, fieldPlace, Expr.targets]
  · simp

theorem ensures_bindValue (s : Imports) (field : FormField) (kind : Conversion) (type : HostType)
    (cs : List Constraint) (fails : Fault → Prop) :
    Ensures (bindValue field kind type cs) s fails fun body _ => Binds formNames body :=
  ensures_lift (makes_bindConverted s kind type _ cs (by decide) (by decide) (binds_keep field _))

theorem ensures_bindItems (s : Imports) (field : FormField) (kind : Conversion) (type : HostType)
    (cs : List Constraint) (fails : Fault → Prop) :
    Ensures (bindItems field kind type cs) s fails fun body _ => Binds formNames body := by
  have hkeep : Binds formNames
      [.expr (.apply (.attribute (.name "_values") "append") [.name "_value"])] :=
    .cons (by simp) (by simp) (.nil formNames)
  refine .bind ((ensures_lift (makes_bindConverted s kind type _ cs (by decide) (by decide)
    hkeep)).mono fun body _ _ hbody => ?_)
  refine ensures_pure (.cons (by simp [formNames]) ?_ (.cons ?_ ?_ (binds_keep field _)))
  · simp
  · intro name hname
    rw [Stmt.sets, Expr.targets, List.mem_append, List.mem_singleton] at hname
    rcases hname with rfl | hname
    · simp [formNames]
    · exact hbody.sets name hname
  · simp

/-- **A field is read if it can be.** -/
theorem ensures_bindField (s : Imports) (struct : HostType) (field : FormField) :
    Ensures (bindField context definition struct field) s
      (fun fault => fault.IsForm ∧ ¬FieldReadable context definition field)
      fun body _ => FieldReadable context definition field ∧ Binds formNames body := by
  rw [bindField, FieldReadable, textType]
  dsimp only
  rw [← textType]
  cases context.host.conversion? (textType field) with
  | none => exact ensures_throw ⟨trivial, by simp⟩
  | some kind =>
    rw [Option.bind_some]
    refine .bind (((ensures_fieldConstraints s field _).mono_fails fun fault h => ?_).mono ?_)
    · exact ⟨h.1, by rw [h.2]; simp⟩
    · intro cs s' _ hcs
      have hsome : (constraints? context definition field
          (if kind == .str then HostType.str else textType field)).isSome = true := by
        rw [hcs]
        rfl
      by_cases hitems : (item? field.type).isSome = true
      · rw [if_pos hitems]
        exact (ensures_bindItems s' field kind _ cs _).mono fun body _ _ hbody => ⟨hsome, hbody⟩
      · rw [if_neg hitems]
        exact (ensures_bindValue s' field kind _ cs _).mono fun body _ _ hbody => ⟨hsome, hbody⟩

/-- Fields are read if all of them can be. -/
theorem ensures_bindFields (s : Imports) (struct : HostType) (fields : List FormField) :
    Ensures (bindFields context definition struct fields) s
      (fun fault => fault.IsForm ∧ ¬∀ field ∈ fields, FieldReadable context definition field)
      fun body _ => (∀ field ∈ fields, FieldReadable context definition field) ∧
        Binds formNames body := by
  induction fields generalizing s with
  | nil => exact ensures_pure ⟨by simp, .nil formNames⟩
  | cons field fields ih =>
    rw [bindFields]
    refine .bind (((ensures_bindField s struct field).mono_fails fun fault h =>
      ⟨h.1, fun hall => h.2 (hall field List.mem_cons_self)⟩).mono ?_)
    rintro first s' - ⟨hfield, hfirst⟩
    refine .bind (((ih s').mono_fails fun fault h =>
      ⟨h.1, fun hall => h.2 fun f hf => hall f (List.mem_cons_of_mem _ hf)⟩).mono ?_)
    rintro rest s'' - ⟨hfields, hrest⟩
    exact ensures_pure ⟨List.forall_mem_cons.mpr ⟨hfield, hfields⟩, hfirst.append hrest⟩

/-! ### Classes -/

theorem exists_cls_of_isStruct {host : Host} {t : HostType} (h : host.isStruct t = true) :
    ∃ c, t = .cls c := by
  cases t with
  | cls c => exact ⟨c, rfl⟩
  | _ => cases h

/-- **A form is read into a class if it can be**, and then the value is one of this class. -/
theorem ensures_bindStruct (s : Imports) {struct : HostType}
    (hstruct : context.host.isStruct struct = true) :
    Ensures (bindStruct context definition struct) s
      (fun fault => fault.IsForm ∧ ¬Readable context definition struct)
      fun r s' => Readable context definition struct ∧
        Constructs context s' struct r.1 ∧ Binds formNames r.2 := by
  obtain ⟨c, rfl⟩ := exists_cls_of_isStruct hstruct
  refine .bind ((ensures_bindFields s (.cls c) (context.host.formFields c)).mono ?_)
  rintro body s' - ⟨hreadable, hbody⟩
  refine .bind ((ensures_lift (Imports.makes_typeExpr_cls s' c)).mono fun front s'' _ hfront => ?_)
  exact ensures_pure
    ⟨hreadable, ⟨c, front, rfl, hfront, rfl⟩, .cons (by simp [formNames]) (by simp) hbody⟩

end

end FragmentRoutes.RoutesModule
