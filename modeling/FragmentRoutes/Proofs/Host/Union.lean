import FragmentRoutes.Host.Accept
import FragmentRoutes.Proofs.Host.Sameness
import Mathlib.Data.List.Basic

/-!
# Passing unions

A parameter that is a union accepts what one of its members accepts, and the members of the
parameter are tried before those of the argument.  So a union of arguments is accepted if and only
if one alternative of the parameter accepts all its members (`accepts_iff_exists_alternative`,
`accepts_iff_forall_members`).  Every type that is no union accepts itself
(`accepts_self`), while a union does so only if one of its alternatives accepts all others
(`accepts_union_iff`): the union of two classes that have nothing to do with each other does not
(`not_accepts_union_itself`).
-/

namespace FragmentRoutes

namespace HostType

mutual

/-- The types that a parameter of the type offers a choice of: those of the members of a union, and
of any other type the type itself. -/
def alternatives : HostType → List HostType
  | .union _ (t :: ts) => alternativesOf (t :: ts)
  | t => [t]

/-- The alternatives of types, from left to right. -/
def alternativesOf : List HostType → List HostType
  | [] => []
  | t :: ts => t.alternatives ++ alternativesOf ts

end

theorem alternatives_of_members_eq_nil {t : HostType} (h : t.members = []) :
    t.alternatives = [t] := by
  unfold alternatives
  split
  · cases h
  · rfl

theorem alternativesOf_eq_flatMap (ts : List HostType) :
    alternativesOf ts = ts.flatMap alternatives := by
  induction ts with
  | nil => rw [alternativesOf, List.flatMap_nil]
  | cons t ts ih => rw [alternativesOf, ih, List.flatMap_cons]

theorem alternatives_of_members_ne_nil {t : HostType} (h : t.members ≠ []) :
    t.alternatives = t.members.flatMap alternatives := by
  cases t with
  | union barred ts =>
    cases ts with
    | nil => exact absurd rfl h
    | cons t ts => rw [alternatives, alternativesOf_eq_flatMap, members]
  | _ => exact absurd rfl h

/-- The alternatives of a union of types that are no unions are its members. -/
theorem alternatives_eq_members {t : HostType} (h : t.members ≠ [])
    (hflat : ∀ m ∈ t.members, m.members = []) : t.alternatives = t.members := by
  rw [alternatives_of_members_ne_nil h]
  calc t.members.flatMap alternatives = t.members.flatMap fun m => [m] :=
        List.flatMap_congr fun m hm => alternatives_of_members_eq_nil (hflat m hm)
    _ = t.members := List.flatMap_singleton' t.members

end HostType

namespace Host

variable {host : Host} {param arg : HostType}

/-! ### One union at a time -/

theorem accepts_of_acceptsAll_or_isAny (h : (acceptsAll param || arg.isAny) = true) :
    host.accepts param arg = true := by
  rw [accepts.eq_def, if_pos h]

theorem isAny_eq_false_of_members (h : arg.members ≠ []) : arg.isAny = false := by
  cases arg with
  | any => exact absurd rfl h
  | _ => rfl

/-- A union accepts what one of its members accepts. -/
theorem accepts_iff_exists_member (h : param.members ≠ []) :
    host.accepts param arg = true ↔ ∃ m ∈ param.members, host.accepts m arg = true := by
  by_cases hany : (acceptsAll param || arg.isAny) = true
  · refine iff_of_true (accepts_of_acceptsAll_or_isAny hany) ?_
    have hall : acceptsAll param = false := by
      cases param with
      | union _ _ => rfl
      | _ => exact absurd rfl h
    rw [hall, Bool.false_or] at hany
    obtain ⟨m, hm⟩ := List.exists_mem_of_ne_nil _ h
    exact ⟨m, hm, accepts_of_acceptsAll_or_isAny (by rw [hany, Bool.or_true])⟩
  · have hmembers : (!param.members.isEmpty) = true := by simpa using h
    rw [accepts.eq_def, if_neg hany, if_pos hmembers, List.any_eq_true]
    constructor
    · rintro ⟨⟨m, hm⟩, -, haccepts⟩
      exact ⟨m, hm, haccepts⟩
    · rintro ⟨m, hm, haccepts⟩
      exact ⟨⟨m, hm⟩, List.mem_attach _ _, haccepts⟩

/-- **A parameter that is no union accepts a union exactly if it accepts all its members.** -/
theorem accepts_iff_forall_members (hparam : param.members = []) (harg : arg.members ≠ []) :
    host.accepts param arg = true ↔ ∀ a ∈ arg.members, host.accepts param a = true := by
  by_cases hall : acceptsAll param = true
  · have haccepts : ∀ a, host.accepts param a = true := fun a =>
      accepts_of_acceptsAll_or_isAny (by rw [hall, Bool.true_or])
    exact iff_of_true (haccepts arg) fun a _ => haccepts a
  · have hany : ¬(acceptsAll param || arg.isAny) = true := by
      rwa [isAny_eq_false_of_members harg, Bool.or_false]
    have hparam' : ¬(!param.members.isEmpty) = true := by simpa using hparam
    have harg' : (!arg.members.isEmpty) = true := by simpa using harg
    rw [accepts.eq_def, if_neg hany, if_neg hparam', if_pos harg', List.all_eq_true]
    constructor
    · intro haccepts a ha
      exact haccepts ⟨a, ha⟩ (List.mem_attach _ _)
    · rintro haccepts ⟨a, ha⟩ -
      exact haccepts a ha

/-- **A parameter accepts what one of its alternatives accepts.** -/
theorem accepts_iff_exists_alternative (host : Host) (param arg : HostType) :
    host.accepts param arg = true ↔ ∃ p ∈ param.alternatives, host.accepts p arg = true := by
  by_cases h : param.members = []
  · simp [HostType.alternatives_of_members_eq_nil h]
  · rw [accepts_iff_exists_member h, HostType.alternatives_of_members_ne_nil h]
    have hmember : ∀ m ∈ param.members, (host.accepts m arg = true ↔
        ∃ p ∈ m.alternatives, host.accepts p arg = true) := fun m hm =>
      have := sizeOf_lt_of_mem_members hm
      accepts_iff_exists_alternative host m arg
    constructor
    · rintro ⟨m, hm, haccepts⟩
      obtain ⟨p, hp, haccepts⟩ := (hmember m hm).mp haccepts
      exact ⟨p, List.mem_flatMap.mpr ⟨m, hm, hp⟩, haccepts⟩
    · rintro ⟨p, hp, haccepts⟩
      obtain ⟨m, hm, hp⟩ := List.mem_flatMap.mp hp
      exact ⟨m, hm, (hmember m hm).mpr ⟨p, hp, haccepts⟩⟩
termination_by sizeOf param

theorem members_eq_nil_of_mem_alternatives {p : HostType} (t : HostType)
    (h : p ∈ t.alternatives) : p.members = [] := by
  by_cases hmembers : t.members = []
  · rw [HostType.alternatives_of_members_eq_nil hmembers, List.mem_singleton] at h
    rwa [h]
  · rw [HostType.alternatives_of_members_ne_nil hmembers] at h
    obtain ⟨m, hm, hp⟩ := List.mem_flatMap.mp h
    have := sizeOf_lt_of_mem_members hm
    exact members_eq_nil_of_mem_alternatives m hp
termination_by sizeOf t

/-! ### Unions on both sides -/

/-- One alternative of the parameter accepts all members of the argument. -/
def OneTakesAll (host : Host) (param arg : HostType) : Prop :=
  ∃ p ∈ param.alternatives, ∀ a ∈ arg.members, host.accepts p a = true

/-- No alternative of the parameter accepts some member of the argument. -/
def NoneTakesSome (host : Host) (param arg : HostType) : Prop :=
  ∃ a ∈ arg.members, ∀ p ∈ param.alternatives, host.accepts p a = false

theorem accepts_iff_oneTakesAll (harg : arg.members ≠ []) :
    host.accepts param arg = true ↔ OneTakesAll host param arg := by
  rw [accepts_iff_exists_alternative]
  exact exists_congr fun p => and_congr_right fun hp =>
    accepts_iff_forall_members (members_eq_nil_of_mem_alternatives param hp) harg

theorem not_forall_accepts_iff :
    (¬∀ a ∈ arg.members, host.accepts param a = true) ↔ NoneTakesSome host param arg := by
  simp only [NoneTakesSome, accepts_iff_exists_alternative host param, not_forall, not_exists,
    not_and, Bool.not_eq_true, exists_prop]

/-- **A type that is no union accepts itself.** -/
theorem accepts_self {t : HostType} (h : t.members = []) : host.accepts t t = true := by
  have hempty : ¬(!t.members.isEmpty) = true := by simpa using h
  rw [accepts.eq_def, if_neg hempty, if_neg hempty]
  split_ifs with hall
  · rfl
  · split
    · rw [takesGenerated, beq_self_eq_true]
    · rename_i hgenerated
      exact absurd rfl (hgenerated _)
    · rw [if_pos (HostType.same_refl t)]

/-- **When a union is accepted.**  A parameter accepts a union if and only if one of its
alternatives accepts all members.  This is the same as accepting each member by itself exactly if
some member is not accepted at all or one alternative accepts all of them, so always if the
parameter is no union.  A type accepts itself if it is no union, and a union does exactly if one of
its alternatives accepts all its members. -/
theorem accepts_union_iff (host : Host) :
    (∀ param arg : HostType, arg.members ≠ [] →
      (host.accepts param arg = true ↔ OneTakesAll host param arg) ∧
      ((host.accepts param arg = true ↔ ∀ a ∈ arg.members, host.accepts param a = true) ↔
        NoneTakesSome host param arg ∨ OneTakesAll host param arg) ∧
      (param.members = [] →
        (host.accepts param arg = true ↔ ∀ a ∈ arg.members, host.accepts param a = true))) ∧
    ∀ t : HostType, (t.members = [] → host.accepts t t = true) ∧
      (t.members ≠ [] → (host.accepts t t = true ↔ OneTakesAll host t t)) := by
  refine ⟨fun param arg harg => ⟨accepts_iff_oneTakesAll harg, ?_, fun hparam =>
    accepts_iff_forall_members hparam harg⟩, fun t => ⟨accepts_self, accepts_iff_oneTakesAll⟩⟩
  have hall : OneTakesAll host param arg → ∀ a ∈ arg.members, host.accepts param a = true := by
    rintro ⟨p, hp, haccepts⟩ a ha
    exact (accepts_iff_exists_alternative host param a).mpr ⟨p, hp, haccepts a ha⟩
  rw [accepts_iff_oneTakesAll harg, ← not_forall_accepts_iff]
  constructor
  · intro hiff
    by_cases h : ∀ a ∈ arg.members, host.accepts param a = true
    · exact Or.inr (hiff.mpr h)
    · exact Or.inl h
  · rintro (hnone | hone)
    · exact iff_of_false (fun h => hnone (hall h)) hnone
    · exact iff_of_true hone (hall hone)

/-- A class accepts the classes that may stand for it. -/
theorem accepts_cls_iff {c d : ClassId} : host.accepts (.cls c) (.cls d) = true ↔
    acceptsAll (.cls c) = true ∨ c = d ∨ host.admits d c = true := by
  rw [accepts.eq_def]
  by_cases hall : acceptsAll (.cls c) = true
  · simp [hall]
  · by_cases hsame : c = d
    · simp [hsame, HostType.members, HostType.same]
    · simp [hall, hsame, HostType.isAny, HostType.members, HostType.same, frontClass?,
        HostType.args]

/-- The class of users. -/
def userClass : ClassId := .own "User" "app.templates" "User" "User"

/-- The class of administrators, who are users. -/
def adminClass : ClassId := .own "Admin" "app.templates" "Admin" "Admin"

/-- The class of groups, which are no users. -/
def groupClass : ClassId := .own "Group" "app.templates" "Group" "Group"

/-- An application with users, administrators and groups. -/
def memberHost : Host :=
  ⟨[⟨userClass, [Class.root], .plain, [], []⟩, ⟨adminClass, [userClass], .plain, [], []⟩,
    ⟨groupClass, [Class.root], .plain, [], []⟩], [], none⟩

/-- The union of users and administrators accepts itself, since users are accepted where both
are. -/
theorem accepts_union_iff_admin :
    let t := HostType.union true [.cls userClass, .cls adminClass]
    t.members ≠ [] ∧ OneTakesAll memberHost t t ∧ memberHost.accepts t t = true := by
  intro t
  have hmembers : t.members ≠ [] := by simp [t, HostType.members]
  have hadmin : memberHost.accepts (.cls userClass) (.cls adminClass) = true :=
    accepts_cls_iff.mpr (.inr (.inr (by decide +kernel)))
  have hone : OneTakesAll memberHost t t :=
    ⟨.cls userClass, List.mem_cons_self, List.forall_mem_cons.mpr
      ⟨accepts_self rfl, List.forall_mem_singleton.mpr hadmin⟩⟩
  exact ⟨hmembers, hone, (((accepts_union_iff memberHost).2 t).2 hmembers).mpr hone⟩

/-- The union of users and groups is not accepted where the same type is written, although the
parameter accepts both members. -/
theorem not_accepts_union_itself :
    let t := HostType.union true [.cls userClass, .cls groupClass]
    memberHost.accepts t t = false ∧ ∀ a ∈ t.members, memberHost.accepts t a = true := by
  intro t
  have hmembers : t.members ≠ [] := by simp [t, HostType.members]
  have hgroup : ¬memberHost.accepts (.cls userClass) (.cls groupClass) = true := by
    rw [accepts_cls_iff]
    decide +kernel
  have huser : ¬memberHost.accepts (.cls groupClass) (.cls userClass) = true := by
    rw [accepts_cls_iff]
    decide +kernel
  constructor
  · rw [← Bool.not_eq_true, accepts_iff_oneTakesAll hmembers]
    rintro ⟨p, hp, haccepts⟩
    have hflat : ∀ m ∈ t.members, m.members = [] := by simp [t, HostType.members]
    rw [HostType.alternatives_eq_members hmembers hflat] at hp
    have hp : p = .cls userClass ∨ p = .cls groupClass := by
      simpa [t, HostType.members] using hp
    rcases hp with rfl | rfl
    · exact hgroup (haccepts _ (by simp [t, HostType.members]))
    · exact huser (haccepts _ (by simp [t, HostType.members]))
  · intro a ha
    refine (accepts_iff_exists_member hmembers).mpr ⟨a, ha, accepts_self ?_⟩
    have ha : a = .cls userClass ∨ a = .cls groupClass := by
      simpa [t, HostType.members] using ha
    rcases ha with rfl | rfl <;> rfl

end Host

end FragmentRoutes
