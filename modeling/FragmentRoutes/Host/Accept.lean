/-
  Passing values of one type for another.

  `accepts` says whether a value of one type may be passed where another is written.  A
  union accepts what one of its members does, and of a union all members must be
  accepted.  Applied classes compare by their classes and, when they have as many
  arguments, argument by argument.  A protocol that is not checked accepts every class,
  and a checked one the classes that have its members.
-/
import FragmentRoutes.Host.View

namespace FragmentRoutes.Host

open HostType

/-! ### Protocols -/

/-- The class is a protocol itself. -/
def isProtocol (host : Host) (c : ClassId) : Bool :=
  match host.find? c with
  | some own => own.bases.contains Class.protocolBase
  | none =>
    c == Class.protocolBase ||
      match Standard.find? c.key with
      | some s => s.bases.contains "typing.Protocol"
      | none => false

/-- What a class of a lineage says about protocols being checked. -/
def saysChecked? (host : Host) (c : ClassId) : Option Bool :=
  match host.find? c with
  | some own => if own.kind == .protocol true then some true else none
  | none => if c == Class.protocolBase then some false
    else if host.isProtocol c then some true
    else none

/-- Classes are checked against the protocol. -/
def isChecked (host : Host) (c : ClassId) : Bool :=
  ((host.lineage c).findSome? host.saysChecked?).getD false

/-- The names that are no members of a protocol. -/
def unlisted : List String := [
  "__parameters__", "__orig_bases__", "__orig_class__", "_is_protocol",
  "_is_runtime_protocol", "__abstractmethods__", "__annotations__", "__dict__", "__doc__",
  "__init__", "__module__", "__new__", "__slots__", "__subclasshook__", "__weakref__",
  "__class_getitem__"]

/-- The names that a class of a protocol's lineage adds to its members. -/
def memberNames (host : Host) (c : ClassId) : List String :=
  match host.find? c with
  | some own => own.members.map (·.1) ++ own.fields.map (·.name)
  | none =>
    if c == Class.protocolBase || c == Class.genericBase || c == Class.root then []
    else match Standard.find? c.key with
      | some s => s.present ++ s.void
      | none => []

/-- The members of a protocol. -/
def protocolMembers (host : Host) (c : ClassId) : List String :=
  ((host.lineage c).flatMap host.memberNames).filter fun name =>
    !unlisted.contains name && !name.startsWith "_abc_"

/-- The members of a protocol can all be called. -/
def hasOnlyMethods (host : Host) (c : ClassId) : Bool :=
  (host.protocolMembers c).all fun name =>
    match host.attribute? c name with
    | some a => a.isCallable
    | none => false

/-- A class itself answers for a member, with a value or without one. -/
def answers? (host : Host) (whole c : ClassId) (name : String) : Option Bool :=
  match host.ownAttribute? c name with
  | some a => some (!a.isVoid)
  | none =>
    let fields := ((host.find? c).map (·.fields)).getD []
    if host.isProtocol whole && fields.any (·.name == name) then some true else none

/-- The class has every member of the protocol. -/
def implements (host : Host) (c protocol : ClassId) : Bool :=
  (host.protocolMembers protocol).all fun name =>
    ((host.lineage c).findSome? fun d => host.answers? c d name).getD false

/-- A value of the first class may stand for one of the second. -/
def admits (host : Host) (c d : ClassId) : Bool :=
  if host.isProtocol d && (host.find? d).isSome then
    !host.isChecked d ||
      host.hasOnlyMethods d && (host.implements c d || host.isSubclass c d)
  else if d == Class.protocolBase then true
  else host.isSubclass c d

/-! ### Types -/

/-- The name that a type goes by, when it has one. -/
def ownName? : HostType → Option String
  | .cls c => some c.name
  | .synonym name _ => some name
  | .applied (.synonym name) _ _ => some name
  | .applied _ c _ => some c.name
  | .newType _ name _ => some name
  | .literal _ => some "Literal"
  | .annotated _ _ => some "Annotated"
  | .special name _ => some name
  | _ => none

/-- The class that a type is, or is an application of. -/
def frontClass? (t : HostType) : Option ClassId :=
  match t with
  | .cls c => some c
  | _ => t.origin?

/-- A value of a class of the routes module may be passed for the type. -/
def takesGenerated (host : Host) (param : HostType) (name : String) : Bool :=
  match param with
  | .generated own => own == name
  | _ =>
    ownName? param == some name ||
      match classOf? param with
      | some c => host.isProtocol c
      | none => false

/-- The type accepts every value. -/
def acceptsAll (param : HostType) : Bool :=
  match param with
  | .any => true
  | .var _ => true
  | _ => param.isBuiltin "object"

/-- The members of a union are smaller than it. -/
theorem sizeOf_lt_of_mem_members {t m : HostType} (h : m ∈ t.members) : sizeOf m < sizeOf t := by
  cases t <;> simp [HostType.members] at h
  have := List.sizeOf_lt_of_mem h
  simp
  omega

/-- The arguments of a type are smaller than it. -/
theorem sizeOf_lt_of_mem_args {t a : HostType} (h : a ∈ t.args) : sizeOf a < sizeOf t := by
  cases t <;> simp [HostType.args] at h
  case applied head c types => have := List.sizeOf_lt_of_mem h; simp; omega
  case union barred types => have := List.sizeOf_lt_of_mem h; simp; omega
  case literal values =>
    obtain ⟨v, hv, rfl⟩ := h
    have := List.sizeOf_lt_of_mem hv
    simp; omega
  case annotated base remarks =>
    rcases h with rfl | ⟨v, hv, rfl⟩
    · simp; omega
    · have := List.sizeOf_lt_of_mem hv
      simp; omega
  case special name types => have := List.sizeOf_lt_of_mem h; simp; omega

/-- A value of the second type may be passed for the first. -/
def accepts (host : Host) (param arg : HostType) : Bool :=
  if acceptsAll param || arg.isAny then true
  else if !param.members.isEmpty then
    param.members.attach.any fun ⟨m, _⟩ => accepts host m arg
  else if !arg.members.isEmpty then
    arg.members.attach.all fun ⟨m, _⟩ => accepts host param m
  else match arg, param with
    | .generated name, _ => host.takesGenerated param name
    | _, .generated _ => false
    | arg, param =>
      if param.same arg then true
      else match frontClass? param, frontClass? arg with
        | some p, some a =>
          if !host.admits a p then false
          else if param.args.isEmpty || param.args.length != arg.args.length then true
          else (param.args.attach.zip arg.args.attach).all fun (⟨p, _⟩, ⟨a, _⟩) =>
            p.isEllipsis || a.isEllipsis || accepts host p a
        | _, _ => false
termination_by sizeOf param + sizeOf arg
decreasing_by
  · have := sizeOf_lt_of_mem_members ‹_›
    omega
  · have := sizeOf_lt_of_mem_members ‹_›
    omega
  · have := sizeOf_lt_of_mem_args (t := param) ‹_›
    have := sizeOf_lt_of_mem_args (t := arg) ‹_›
    omega

end FragmentRoutes.Host
