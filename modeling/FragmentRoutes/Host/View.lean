/-
  What types are to the routes module.

  Whether a type is that of an error, can be read from a text or written as one, has
  fields to fill from a form, tells its own status, is a list of items, or can be
  converted to from the text of a path or form.
-/
import FragmentRoutes.Host.Lineage

namespace FragmentRoutes.Host

open HostType

/-- The class that a type is, when it is one and nothing more. -/
def classOf? : HostType → Option ClassId
  | .cls c => some c
  | _ => none

mutual

/-- The values of the type are errors, the absent value aside. -/
def isErrorLike (host : Host) : HostType → Bool
  | .union _ types => anyPresent types && allErrors host types
  | .cls c => host.isSubclass c (.builtin "BaseException")
  | _ => false

/-- Every type but that of the absent value is one of errors. -/
def allErrors (host : Host) : List HostType → Bool
  | [] => true
  | t :: ts => (t.isNoneType || isErrorLike host t) && allErrors host ts

/-- One of the types is not that of the absent value. -/
def anyPresent : List HostType → Bool
  | [] => false
  | t :: ts => !t.isNoneType || anyPresent ts

end

/-- The class of the type reads its values from texts. -/
def isDecodable (host : Host) (t : HostType) : Bool :=
  match (classOf? t).bind (host.attribute? · "from_text") with
  | some (.ofClass _) => true
  | some (.static _) => true
  | _ => false

/-- The values of the type write themselves as texts. -/
def isEncodable (host : Host) (t : HostType) : Bool :=
  match classOf? t with
  | some c =>
    !host.isSubclass c (.builtin "str") &&
      match host.attribute? c "to_text" with
      | some (.method _) => true
      | _ => false
  | none => false

/-! ### Fields -/

/-- A field that a form fills. -/
structure FormField where
  name : String
  external : String
  type : HostType
  template : Option String
  deriving Repr

/-- The type is a class with fields to fill. -/
def isStruct (host : Host) (t : HostType) : Bool :=
  match classOf? t with
  | some c => host.isModel c || (host.dataFields? c).isSome
  | none => false

/-- The type written last for a field along a lineage. -/
def writtenType? (host : Host) (c : ClassId) (name : String) : Option HostType :=
  (host.lineage c).findSome? fun d =>
    (host.find? d).bind fun own => (own.fields.find? fun f => f.name == name).map (·.type)

/-- A type written for a field of a model, without remarks on it. -/
def modelType : HostType → HostType
  | .annotated base _ => named base
  | t => named t

/-- The fields of a model. -/
def modelFields (host : Host) (c : ClassId) : List FormField :=
  let written := (host.lineage c).reverse.flatMap fun d =>
    ((host.find? d).map (·.fields)).getD []
  let fields := (written.foldl putField []).filter fun f =>
    !Class.ofClassOnly f && !f.name.startsWith "_"
  fields.map fun f =>
    let external := match f.external with
      | some name => if name.isEmpty then f.name else name
      | none => f.name
    ⟨f.name, external, modelType f.type, f.template⟩

/-- The fields of a class that a form fills, in their order. -/
def formFields (host : Host) (c : ClassId) : List FormField :=
  if host.isModel c then host.modelFields c
  else
    let fields := ((host.dataFields? c).getD []).filter fun f =>
      f.initialized && !Class.ofClassOnly f
    fields.map fun f =>
      let type := (host.writtenType? c f.name).getD f.type
      ⟨f.name, f.external.getD f.name, withoutRemarks (named type), f.template⟩

/-! ### Status -/

/-- How a value tells its own status. -/
inductive StatusAccess where
  | method
  | attribute
  deriving DecidableEq, Repr

/-- The builtin classes whose values never tell a status. -/
def withoutStatus : List ClassId :=
  ["int", "str", "float", "bool", "bytes", "NoneType"].map ClassId.builtin

/-- How values of a class tell their own status through a field. -/
def fieldStatus? (host : Host) (c : ClassId) : Option StatusAccess :=
  if host.isStruct (.cls c) && (host.formFields c).any fun f => f.name == "status_code" then
    some .attribute
  else none

/-- How values of a type, the absent one aside, tell their own status. -/
def statusAccess? (host : Host) (t : HostType) : Option StatusAccess :=
  match classOf? t.unwrap with
  | none => none
  | some c =>
    if withoutStatus.contains c then none
    else match host.attribute? c "status_code" with
      | none => host.fieldStatus? c
      | some (.method _) => some .method
      | some .property => some .attribute
      | some (.value v) =>
        match v with
        | .none => host.fieldStatus? c
        | .flag _ => some .attribute
        | .whole _ => some .attribute
        | _ => none
      | some _ => none

/-! ### Items and conversions -/

/-- The classes of lists. -/
def listClasses : List ClassId :=
  [.builtin "list", .abstract "Sequence", .abstract "MutableSequence"]

/-- The type, unless it is the absent value. -/
def present? : HostType → Option HostType
  | .nothing => none
  | t => some t

/-- The type of the items, for a type of lists of any length. -/
def item? (t : HostType) : Option HostType :=
  match t.origin? with
  | none => none
  | some c =>
    if listClasses.contains c then present? (t.args.headD HostType.str)
    else if c == .builtin "tuple" then
      match t.args with
      | [item, rest] => if rest.isEllipsis then present? item else none
      | _ => none
    else none

/-- How a text becomes a value. -/
inductive Conversion where
  | str
  | int
  | float
  | bool
  | text
  deriving DecidableEq, Repr

/-- How a text becomes a value of a type, when it can. -/
def conversion? (host : Host) (t : HostType) : Option Conversion :=
  let t := t.unwrap
  if t.isBuiltin "bool" then some .bool
  else if t.isBuiltin "int" then some .int
  else if t.isBuiltin "float" then some .float
  else if t.isBuiltin "str" || t.isAny || t.isBuiltin "object" then some .str
  else if host.isDecodable t then some .text
  else none

end FragmentRoutes.Host
