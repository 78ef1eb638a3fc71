import FragmentRoutes.Host.View
import FragmentRoutes.Proofs.Except
import FragmentRoutes.Proofs.Text.ReturnFree
import Mathlib.Data.List.Basic

/-!
# Names that an application is written with

Types are written with the names and the modules of their classes (`HostType.writtenNames`), and
functions with those of their parameters too.  A type is `ReturnFree` if no return stands in these
names, and so are the types that are made of such types.  If no return stands in the names that an
application is written with (`Host.writtenNames`), its functions and the fields of its forms are of
this kind (`Host.ReturnFree.attribute`, `Host.ReturnFree.formFields`).
-/

namespace FragmentRoutes

open Host Text

/-! ### Types -/

namespace HostType

mutual

/-- The names that a type is written with. -/
def writtenNames : HostType → List String
  | .generated name => [name]
  | .forward name => [name]
  | .cls c => [c.module, c.qualname]
  | .synonym _ c => [c.module, c.qualname]
  | .applied _ c types => c.module :: c.qualname :: writtenNamesOf types
  | .union _ types => writtenNamesOf types
  | .annotated base _ => writtenNames base
  | .special _ types => writtenNamesOf types
  | .params types => writtenNamesOf types
  | _ => []

/-- The names that types are written with. -/
def writtenNamesOf : List HostType → List String
  | [] => []
  | t :: ts => writtenNames t ++ writtenNamesOf ts

end

attribute [simp] writtenNames writtenNamesOf

/-- No return stands in a name that the type is written with. -/
def ReturnFree (t : HostType) : Prop :=
  ∀ name ∈ t.writtenNames, Text.ReturnFree name

theorem forall_writtenNamesOf_iff {ts : List HostType} :
    (∀ name ∈ writtenNamesOf ts, Text.ReturnFree name) ↔ ∀ t ∈ ts, t.ReturnFree := by
  induction ts with
  | nil => simp
  | cons t ts ih =>
    rw [writtenNamesOf, List.forall_mem_append, ih, List.forall_mem_cons, ReturnFree]

@[simp]
theorem returnFree_cls_iff {c : ClassId} :
    (HostType.cls c).ReturnFree ↔ Text.ReturnFree c.module ∧ Text.ReturnFree c.qualname := by
  simp [ReturnFree]

@[simp]
theorem returnFree_synonym_iff {name : String} {c : ClassId} :
    (HostType.synonym name c).ReturnFree ↔
      Text.ReturnFree c.module ∧ Text.ReturnFree c.qualname := by
  simp [ReturnFree]

@[simp]
theorem returnFree_applied_iff {head : Head} {c : ClassId} {types : List HostType} :
    (HostType.applied head c types).ReturnFree ↔
      (Text.ReturnFree c.module ∧ Text.ReturnFree c.qualname) ∧ ∀ t ∈ types, t.ReturnFree := by
  rw [← forall_writtenNamesOf_iff]
  simp [ReturnFree, and_assoc]

@[simp]
theorem returnFree_union_iff {barred : Bool} {types : List HostType} :
    (HostType.union barred types).ReturnFree ↔ ∀ t ∈ types, t.ReturnFree := by
  rw [← forall_writtenNamesOf_iff, ReturnFree, writtenNames]

@[simp]
theorem returnFree_annotated_iff {base : HostType} {remarks : List Value} :
    (HostType.annotated base remarks).ReturnFree ↔ base.ReturnFree := by
  rw [ReturnFree, ReturnFree, writtenNames]

@[simp]
theorem returnFree_special_iff {name : String} {types : List HostType} :
    (HostType.special name types).ReturnFree ↔ ∀ t ∈ types, t.ReturnFree := by
  rw [← forall_writtenNamesOf_iff, ReturnFree, writtenNames]

@[simp]
theorem returnFree_params_iff {types : List HostType} :
    (HostType.params types).ReturnFree ↔ ∀ t ∈ types, t.ReturnFree := by
  rw [← forall_writtenNamesOf_iff, ReturnFree, writtenNames]

@[simp]
theorem returnFree_generated_iff {name : String} :
    (HostType.generated name).ReturnFree ↔ Text.ReturnFree name := by
  simp [ReturnFree]

@[simp]
theorem returnFree_any : HostType.any.ReturnFree := by
  simp [ReturnFree]

/-- A builtin class. -/
theorem returnFree_builtin {name : String} (h : Text.ReturnFree name) :
    (HostType.cls (.builtin name)).ReturnFree :=
  returnFree_cls_iff.mpr ⟨returnFree_ofList rfl, h⟩

theorem returnFree_noneType : noneType.ReturnFree :=
  returnFree_builtin (returnFree_ofList rfl)

theorem returnFree_str : HostType.str.ReturnFree :=
  returnFree_builtin (returnFree_ofList rfl)

theorem ReturnFree.named {t : HostType} (h : t.ReturnFree) : (HostType.named t).ReturnFree := by
  unfold HostType.named
  split
  · exact returnFree_noneType
  · exact h

/-- Nothing is among distinct types that was not among the types. -/
theorem mem_distinct {seen types : List HostType} {t : HostType} (h : t ∈ distinct seen types) :
    t ∈ seen ∨ t ∈ types := by
  induction types generalizing seen with
  | nil =>
    rw [distinct] at h
    exact .inl (List.mem_reverse.mp h)
  | cons u us ih =>
    rw [distinct] at h
    split_ifs at h
    · exact (ih h).imp_right (List.mem_cons_of_mem _)
    · rcases ih h with h | h
      · rcases List.mem_cons.mp h with rfl | h
        · exact .inr List.mem_cons_self
        · exact .inl h
      · exact .inr (List.mem_cons_of_mem _ h)

theorem returnFree_unite {barred : Bool} {types : List HostType} (h : ∀ t ∈ types, t.ReturnFree) :
    (unite barred types).ReturnFree := by
  have hparts : ∀ t ∈ types.flatMap parts, t.ReturnFree := by
    intro t ht
    obtain ⟨u, hu, ht⟩ := List.mem_flatMap.mp ht
    have hu := h u hu
    unfold parts at ht
    split at ht
    · exact returnFree_union_iff.mp hu t ht
    · exact List.mem_singleton.mp ht ▸ returnFree_noneType
    · exact List.mem_singleton.mp ht ▸ hu
  have hdistinct : ∀ t ∈ distinct [] (types.flatMap parts), t.ReturnFree := fun t ht =>
    hparts t ((mem_distinct ht).resolve_left List.not_mem_nil)
  unfold unite
  split
  · rename_i t heq
    exact hdistinct t (heq ▸ List.mem_cons_self)
  · exact returnFree_union_iff.mpr hdistinct

theorem ReturnFree.members {t : HostType} (h : t.ReturnFree) : ∀ m ∈ t.members, m.ReturnFree := by
  unfold HostType.members
  split
  · exact returnFree_union_iff.mp h
  · simp

theorem ReturnFree.unwrap {t : HostType} (h : t.ReturnFree) : t.unwrap.ReturnFree := by
  unfold HostType.unwrap
  dsimp only
  split_ifs
  · split
    · rename_i m heq
      exact h.members m (List.mem_of_mem_filter (heq ▸ List.mem_cons_self))
    · exact h
  · exact h

theorem ReturnFree.args {t : HostType} (h : t.ReturnFree) : ∀ u ∈ t.args, u.ReturnFree := by
  have hvalue : ∀ v, (HostType.value v).ReturnFree := by simp [ReturnFree]
  unfold HostType.args
  split
  · exact (returnFree_applied_iff.mp h).2
  · exact returnFree_union_iff.mp h
  · exact List.forall_mem_map.mpr fun v _ => hvalue v
  · exact List.forall_mem_cons.mpr ⟨returnFree_annotated_iff.mp h,
      List.forall_mem_map.mpr fun v _ => hvalue v⟩
  · exact returnFree_special_iff.mp h
  · simp

mutual

theorem ReturnFree.withoutRemarks : ∀ {t : HostType}, t.ReturnFree →
    (withoutRemarks t).ReturnFree
  | .annotated base _, h => by
    rw [HostType.withoutRemarks]
    exact ReturnFree.withoutRemarks (returnFree_annotated_iff.mp h)
  | .applied head c types, h => by
    rw [HostType.withoutRemarks]
    rw [returnFree_applied_iff] at h ⊢
    exact ⟨h.1, returnFree_withoutRemarksAll h.2⟩
  | .union barred types, h => by
    rw [HostType.withoutRemarks]
    exact returnFree_unite (returnFree_withoutRemarksAll (returnFree_union_iff.mp h))
  | .special name types, h => by
    rw [HostType.withoutRemarks]
    exact returnFree_special_iff.mpr (returnFree_withoutRemarksAll (returnFree_special_iff.mp h))
  | .params types, h => by
    rw [HostType.withoutRemarks]
    exact returnFree_params_iff.mpr (returnFree_withoutRemarksAll (returnFree_params_iff.mp h))
  | .any, h => h
  | .nothing, h => h
  | .ellipsis, h => h
  | .var _, h => h
  | .generated _, h => h
  | .cls _, h => h
  | .synonym _ _, h => h
  | .literal _, h => h
  | .newType _ _ _, h => h
  | .value _, h => h
  | .forward _, h => h

theorem returnFree_withoutRemarksAll : ∀ {ts : List HostType}, (∀ t ∈ ts, t.ReturnFree) →
    ∀ t ∈ withoutRemarksAll ts, t.ReturnFree
  | [], _ => by simp [withoutRemarksAll]
  | t :: ts, h => by
    rw [List.forall_mem_cons] at h
    rw [withoutRemarksAll, List.forall_mem_cons]
    exact ⟨ReturnFree.withoutRemarks h.1, returnFree_withoutRemarksAll h.2⟩

end

mutual

/-- Names that are replaced by such types leave such a type. -/
theorem ReturnFree.settle {find : String → Option HostType}
    (hfind : ∀ name t, Text.ReturnFree name → find name = some t → t.ReturnFree) :
    ∀ {t u : HostType}, t.ReturnFree → settle find t = .ok u → u.ReturnFree
  | .forward name, u, h, heq => by
    rw [HostType.settle] at heq
    split at heq
    · rename_i t ht
      exact Except.ok.inj heq ▸ hfind name t (h name List.mem_cons_self) ht
    · cases heq
  | .annotated base remarks, u, h, heq => by
    rw [HostType.settle] at heq
    obtain ⟨t, ht, heq⟩ := Except.bind_eq_ok.mp heq
    obtain rfl := Except.ok.inj heq
    exact returnFree_annotated_iff.mpr (ReturnFree.settle hfind (returnFree_annotated_iff.mp h) ht)
  | .applied head c types, u, h, heq => by
    rw [HostType.settle] at heq
    obtain ⟨ts, hts, heq⟩ := Except.bind_eq_ok.mp heq
    obtain rfl := Except.ok.inj heq
    rw [returnFree_applied_iff] at h ⊢
    exact ⟨h.1, returnFree_settleAll hfind h.2 hts⟩
  | .union barred types, u, h, heq => by
    rw [HostType.settle] at heq
    obtain ⟨ts, hts, heq⟩ := Except.bind_eq_ok.mp heq
    obtain rfl := Except.ok.inj heq
    exact returnFree_unite (returnFree_settleAll hfind (returnFree_union_iff.mp h) hts)
  | .special name types, u, h, heq => by
    rw [HostType.settle] at heq
    obtain ⟨ts, hts, heq⟩ := Except.bind_eq_ok.mp heq
    obtain rfl := Except.ok.inj heq
    exact returnFree_special_iff.mpr (returnFree_settleAll hfind (returnFree_special_iff.mp h) hts)
  | .params types, u, h, heq => by
    rw [HostType.settle] at heq
    obtain ⟨ts, hts, heq⟩ := Except.bind_eq_ok.mp heq
    obtain rfl := Except.ok.inj heq
    exact returnFree_params_iff.mpr (returnFree_settleAll hfind (returnFree_params_iff.mp h) hts)
  | .any, u, h, heq => Except.ok.inj heq ▸ h
  | .nothing, u, h, heq => Except.ok.inj heq ▸ h
  | .ellipsis, u, h, heq => Except.ok.inj heq ▸ h
  | .var _, u, h, heq => Except.ok.inj heq ▸ h
  | .generated _, u, h, heq => Except.ok.inj heq ▸ h
  | .cls _, u, h, heq => Except.ok.inj heq ▸ h
  | .synonym _ _, u, h, heq => Except.ok.inj heq ▸ h
  | .literal _, u, h, heq => Except.ok.inj heq ▸ h
  | .newType _ _ _, u, h, heq => Except.ok.inj heq ▸ h
  | .value _, u, h, heq => Except.ok.inj heq ▸ h

theorem returnFree_settleAll {find : String → Option HostType}
    (hfind : ∀ name t, Text.ReturnFree name → find name = some t → t.ReturnFree) :
    ∀ {ts us : List HostType}, (∀ t ∈ ts, t.ReturnFree) → settleAll find ts = .ok us →
      ∀ u ∈ us, u.ReturnFree
  | [], us, _, heq => by
    rw [settleAll] at heq
    obtain rfl := Except.ok.inj heq
    simp
  | t :: ts, us, h, heq => by
    rw [List.forall_mem_cons] at h
    rw [settleAll] at heq
    obtain ⟨u, hu, heq⟩ := Except.bind_eq_ok.mp heq
    obtain ⟨us', hus, heq⟩ := Except.bind_eq_ok.mp heq
    obtain rfl := Except.ok.inj heq
    exact List.forall_mem_cons.mpr
      ⟨ReturnFree.settle hfind h.1 hu, returnFree_settleAll hfind h.2 hus⟩

end

end HostType

/-! ### Functions and classes -/

namespace Host

/-- The names that a function is written with: those of its module and its parameters, and those of
its types. -/
def Function.writtenNames (f : Function) : List String :=
  f.module :: f.params.flatMap (fun p => p.name :: p.type.elim [] HostType.writtenNames) ++
    f.result.elim [] HostType.writtenNames

/-- The function that an attribute is. -/
def Attribute.function? : Attribute → Option Function
  | .method f => some f
  | .static f => some f
  | .ofClass f => some f
  | _ => none

/-- The names that a class is written with: its own, and those of its fields' types and of its
functions. -/
def Class.writtenNames (c : Class) : List String :=
  c.id.module :: c.id.qualname :: c.fields.flatMap (·.type.writtenNames) ++
    (c.members.filterMap (·.2.function?)).flatMap Function.writtenNames

end Host

/-- The names that an application is written with. -/
def Host.writtenNames (host : Host) : List String :=
  host.classes.flatMap Class.writtenNames ++ host.functions.flatMap (·.2.writtenNames)

namespace Host

/-- No return stands in a name that the function is written with. -/
def Function.ReturnFree (f : Function) : Prop :=
  ∀ name ∈ f.writtenNames, Text.ReturnFree name

/-- No return stands in a name that the application is written with. -/
def ReturnFree (host : Host) : Prop :=
  ∀ name ∈ host.writtenNames, Text.ReturnFree name

section

variable {f : Function} (h : f.ReturnFree)

include h

theorem Function.ReturnFree.module : Text.ReturnFree f.module :=
  h _ (List.mem_append_left _ List.mem_cons_self)

theorem Function.ReturnFree.param {p : Parameter} (hp : p ∈ f.params) :
    Text.ReturnFree p.name ∧ ∀ t ∈ p.type, t.ReturnFree := by
  have hparam : ∀ name ∈ p.name :: p.type.elim [] HostType.writtenNames, Text.ReturnFree name :=
    fun name hname => h name
      (List.mem_append_left _ (List.mem_cons_of_mem _ (List.mem_flatMap.mpr ⟨p, hp, hname⟩)))
  refine ⟨hparam _ List.mem_cons_self, fun t ht name hname => ?_⟩
  exact hparam name (List.mem_cons_of_mem _ (by rwa [Option.mem_def.mp ht]))

theorem Function.ReturnFree.result {t : HostType} (ht : f.result = some t) : t.ReturnFree :=
  fun name hname => h name (List.mem_append_right _ (by rwa [ht]))

end

/-- A field of fields with more is one of the fields, or one of the others. -/
theorem mem_foldl_putField {fields more : List Field} {f : Field}
    (h : f ∈ more.foldl putField fields) : f ∈ fields ∨ f ∈ more := by
  induction more generalizing fields with
  | nil => exact .inl h
  | cons g more ih =>
    rcases ih h with h | h
    · have hput : f ∈ fields ∨ f = g := by
        unfold putField at h
        split_ifs at h
        · obtain ⟨f', hf', rfl⟩ := List.mem_map.mp h
          split_ifs
          · exact .inr rfl
          · exact .inl hf'
        · exact (List.mem_append.mp h).imp_right List.mem_singleton.mp
      rcases hput with h | rfl
      · exact .inl h
      · exact .inr List.mem_cons_self
    · exact .inr (List.mem_cons_of_mem _ h)

/-- The fields of a class are no functions. -/
theorem function?_fieldAttributes {host : Host} (c : Class) :
    ∀ entry ∈ host.fieldAttributes c, entry.2.function? = none := by
  have hdefaults : ∀ entry ∈ c.fields.filterMap fun f => f.default.map fun v =>
      (f.name, Attribute.value v), entry.2.function? = none := by
    intro entry hentry
    obtain ⟨f, -, hf⟩ := List.mem_filterMap.mp hentry
    obtain ⟨v, -, rfl⟩ := Option.map_eq_some_iff.mp hf
    rfl
  unfold fieldAttributes
  dsimp only
  split
  · refine List.forall_mem_append.mpr ⟨List.forall_mem_map.mpr fun _ _ => rfl, ?_⟩
    exact fun entry hentry => hdefaults entry (List.mem_of_mem_filter hentry)
  · split_ifs
    · simp
    · exact hdefaults

section

variable {host : Host} (h : host.ReturnFree)

include h

theorem ReturnFree.cls {c : Class} (hc : c ∈ host.classes) : (HostType.cls c.id).ReturnFree := by
  have hown : ∀ name ∈ c.writtenNames, Text.ReturnFree name := fun name hname =>
    h name (List.mem_append_left _ (List.mem_flatMap.mpr ⟨c, hc, hname⟩))
  exact HostType.returnFree_cls_iff.mpr
    ⟨hown _ (by simp [Class.writtenNames]), hown _ (by simp [Class.writtenNames])⟩

theorem ReturnFree.field {c : Class} (hc : c ∈ host.classes) {f : Field} (hf : f ∈ c.fields) :
    f.type.ReturnFree := fun name hname =>
  h name (List.mem_append_left _ (List.mem_flatMap.mpr ⟨c, hc, List.mem_append_left _
    (List.mem_cons_of_mem _ (List.mem_cons_of_mem _ (List.mem_flatMap.mpr ⟨f, hf, hname⟩)))⟩))

theorem ReturnFree.member {c : Class} (hc : c ∈ host.classes) {m : String × Attribute}
    (hm : m ∈ c.members) {f : Function} (hf : m.2.function? = some f) : f.ReturnFree :=
  fun name hname => h name (List.mem_append_left _ (List.mem_flatMap.mpr ⟨c, hc,
    List.mem_append_right _
      (List.mem_flatMap.mpr ⟨f, List.mem_filterMap.mpr ⟨m, hm, hf⟩, hname⟩)⟩))

theorem ReturnFree.function {entry : String × Function} (hentry : entry ∈ host.functions) :
    entry.2.ReturnFree :=
  fun name hname => h name (List.mem_append_right _ (List.mem_flatMap.mpr ⟨entry, hentry, hname⟩))

/-! ### What is read off an application -/

/-- The function that an attribute is belongs to a class of the application. -/
theorem ReturnFree.attribute {c : ClassId} {name : String} {a : Attribute}
    (ha : host.attribute? c name = some a) {f : Function} (hf : a.function? = some f) :
    f.ReturnFree := by
  obtain ⟨d, -, ha⟩ := List.exists_of_findSome?_eq_some ha
  rw [ownAttribute?] at ha
  split at ha
  · rename_i own hown
    obtain ⟨front, back, heq, -⟩ := List.lookup_eq_some_iff.mp ha
    have hmem : (name, a) ∈ host.ownAttributes own := by simp [heq]
    rw [ownAttributes, List.mem_append, List.mem_append] at hmem
    rcases hmem with (hmem | hmem) | hmem
    · exact h.member (List.mem_of_find?_eq_some hown) hmem hf
    · -- fields are places or values
      have hplain : ∀ attributes : List (String × Attribute),
          (∀ b ∈ attributes, b.2.function? = none) →
          (name, a) ∉ attributes := fun attributes hall hin => by simp [hall _ hin] at hf
      exact absurd hmem (hplain _ (function?_fieldAttributes own))
    · unfold kindAttributes at hmem
      split at hmem
      · simp only [List.mem_cons, Prod.mk.injEq, List.not_mem_nil, or_false] at hmem
        rcases hmem with ⟨-, rfl⟩ | ⟨-, rfl⟩ | ⟨-, rfl⟩ <;> cases hf
      · cases hmem
  · split at ha
    · split_ifs at ha
      · cases Option.some.inj ha
        cases hf
      · cases Option.some.inj ha
        cases hf
    · cases ha

/-- The names that the code of the application uses stand for such types. -/
theorem ReturnFree.named {name : String} (hname : Text.ReturnFree name) {t : HostType}
    (ht : host.named? name = some t) : t.ReturnFree := by
  rw [named?] at ht
  split at ht
  · rename_i d hd
    obtain rfl := Option.some.inj ht
    exact h.cls (List.mem_of_find?_eq_some hd)
  · split_ifs at ht
    · exact Option.some.inj ht ▸ HostType.returnFree_noneType
    · obtain ⟨s, hs, rfl⟩ := Option.map_eq_some_iff.mp ht
      -- the key of a standard class is made of the module and the name
      have hkey : s.module ++ "." ++ s.name = "builtins." ++ name := by
        simpa [Standard.find?, Standard.id, ClassId.standard] using List.find?_some hs
      have hfree : Text.ReturnFree (s.module ++ "." ++ s.name) :=
        hkey ▸ (returnFree_ofList rfl).append hname
      rw [returnFree_append_iff, returnFree_append_iff] at hfree
      exact HostType.returnFree_cls_iff.mpr ⟨hfree.1.1, hfree.2⟩

/-- The fields of data classes are those of classes of the application. -/
theorem ReturnFree.dataFields : ∀ entry ∈ host.dataFields, ∀ f ∈ entry.2, f.type.ReturnFree := by
  have hfrom : ∀ (known : List (ClassId × List Field)) (line : List ClassId),
      (∀ entry ∈ known, ∀ f ∈ entry.2, f.type.ReturnFree) →
        ∀ f ∈ fieldsFrom known line, f.type.ReturnFree := by
    intro known line hknown
    rw [fieldsFrom]
    refine List.foldlRecOn
      (motive := fun fields : List Field => ∀ f ∈ fields, f.type.ReturnFree) _ _ ?_
      fun fields hfields c _ => ?_
    · exact fun f hf => absurd hf List.not_mem_nil
    split
    · rename_i own hown
      exact fun f hf => (mem_foldl_putField hf).elim (hfields f)
        (hknown _ (List.mem_of_find?_eq_some hown) f)
    · exact hfields
  rw [Host.dataFields]
  refine List.foldlRecOn (motive := fun known : List (ClassId × List Field) =>
    ∀ entry ∈ known, ∀ f ∈ entry.2, f.type.ReturnFree) _ _ ?_ fun known hknown c hc => ?_
  · exact fun entry hentry => absurd hentry List.not_mem_nil
  dsimp only
  split
  · refine List.forall_mem_cons.mpr ⟨fun f hf => ?_, hknown⟩
    exact (mem_foldl_putField hf).elim (hfrom known _ hknown f) (h.field hc)
  · split
    · rename_i hfound
      obtain ⟨d, -, hfind⟩ := List.exists_of_findSome?_eq_some hfound
      exact List.forall_mem_cons.mpr
        ⟨fun f hf => hknown _ (List.mem_of_find?_eq_some hfind) f hf, hknown⟩
    · exact hknown

theorem ReturnFree.dataFields? {c : ClassId} {fields : List Field}
    (hfields : host.dataFields? c = some fields) : ∀ f ∈ fields, f.type.ReturnFree := by
  obtain ⟨entry, hentry, rfl⟩ := Option.map_eq_some_iff.mp hfields
  exact h.dataFields entry (List.mem_of_find?_eq_some hentry)

/-- **The fields that forms fill** have types of the application. -/
theorem ReturnFree.formFields (c : ClassId) :
    ∀ field ∈ host.formFields c, field.type.ReturnFree := by
  have hmodelType : ∀ {t : HostType}, t.ReturnFree → (modelType t).ReturnFree := by
    intro t ht
    unfold modelType
    split
    · exact (HostType.returnFree_annotated_iff.mp ht).named
    · exact ht.named
  rw [Host.formFields]
  split_ifs
  · rw [modelFields]
    refine List.forall_mem_map.mpr fun f hf => hmodelType ?_
    rcases mem_foldl_putField (List.mem_of_mem_filter hf) with hf | hf
    · cases hf
    · obtain ⟨d, -, hf⟩ := List.mem_flatMap.mp hf
      cases hd : host.find? d with
      | none => simp [hd] at hf
      | some own => exact h.field (List.mem_of_find?_eq_some hd) (by simpa [hd] using hf)
  · refine List.forall_mem_map.mpr fun f hf => HostType.ReturnFree.withoutRemarks
      (HostType.ReturnFree.named ?_)
    cases hwritten : host.writtenType? c f.name with
    | none =>
      cases hdata : host.dataFields? c with
      | none => simp [hdata] at hf
      | some fields =>
        exact h.dataFields? hdata f (by simpa [hdata] using List.mem_of_mem_filter hf)
    | some t =>
      obtain ⟨d, -, ht⟩ := List.exists_of_findSome?_eq_some hwritten
      obtain ⟨own, hown, ht⟩ := Option.bind_eq_some_iff.mp ht
      obtain ⟨g, hg, rfl⟩ := Option.map_eq_some_iff.mp ht
      exact h.field (List.mem_of_find?_eq_some hown) (List.mem_of_find?_eq_some hg)

end

end Host

end FragmentRoutes
