/-
  Classes and functions of the application.

  A class has a kind, the classes it is derived from, fields and further attributes.
  The fields of a data class with a default are attributes of it too, and all fields of
  one with slots are.  `Host` is all that is known of the application: its classes in
  the order of their making, its free functions, and the class of the receiver, whose
  methods handle requests.
-/
import FragmentRoutes.Host.Form
import FragmentRoutes.Host.Standard

namespace FragmentRoutes.Host

/-- How an argument reaches a parameter of a function. -/
inductive Passing where
  | positional
  | positionalOnly
  | rest
  | keywordOnly
  | keywordRest
  deriving DecidableEq, Repr

/-- A parameter of a function, with its type when one is written. -/
structure Parameter where
  name : String
  type : Option HostType
  passing : Passing
  hasDefault : Bool
  deriving Repr

/-- A function of the application. -/
structure Function where
  module : String
  params : List Parameter
  result : Option HostType
  isAsync : Bool
  deriving Repr

/-- What a name stands for in a class. -/
inductive Attribute where
  /-- A function that is given the instance. -/
  | method (f : Function)
  /-- A function that is given nothing. -/
  | static (f : Function)
  /-- A function that is given the class. -/
  | ofClass (f : Function)
  /-- A value computed for the instance. -/
  | property
  /-- The place of a field of the instance. -/
  | slot
  /-- A plain value. -/
  | value (v : Value)
  /-- Something callable of a standard class. -/
  | standard
  deriving Repr

namespace Attribute

/-- The attribute is there without a value. -/
def isVoid : Attribute → Bool
  | .value .none => true
  | _ => false

/-- The attribute can be called. -/
def isCallable : Attribute → Bool
  | .method _ => true
  | .static _ => true
  | .ofClass _ => true
  | .standard => true
  | _ => false

end Attribute

/-- A field of a class.  The external name is the one that forms use, and the template is
the one with the control of the field. -/
structure Field where
  name : String
  type : HostType
  default : Option Value
  initialized : Bool
  external : Option String
  template : Option String
  deriving Repr

/-- What a class is made as. -/
inductive Class.Kind where
  | plain
  | data (slots : Bool)
  | model
  | protocol (checked : Bool)
  deriving DecidableEq, Repr

/-- A class of the application, with the classes that it is directly derived from. -/
structure Class where
  id : ClassId
  bases : List ClassId
  kind : Class.Kind
  fields : List Field
  members : List (String × Attribute)
  deriving Repr

namespace Class

/-- The class of models. -/
def modelBase : ClassId := .standard "pydantic.main" "BaseModel"

/-- The class of protocols. -/
def protocolBase : ClassId := .standard "typing" "Protocol"

/-- The class of classes with type variables. -/
def genericBase : ClassId := .standard "typing" "Generic"

/-- The class of all values. -/
def root : ClassId := .builtin "object"

/-- The classes that a class of a kind is derived from, those that are given among
them. -/
def basesOf (kind : Class.Kind) (given : List ClassId) (generic : Bool) : List ClassId :=
  let bases := match kind with
    | .model => if given.isEmpty then [modelBase] else given
    | .protocol _ => given ++ [protocolBase]
    | _ => given
  let bases := if generic then bases ++ [genericBase] else bases
  if bases.isEmpty then [root] else bases

/-- The field belongs to the class and not to its instances. -/
def ofClassOnly (f : Field) : Bool :=
  match f.type with
  | .special "ClassVar" _ => true
  | _ => false

end Class

end Host

/-- What is known of the application. -/
structure Host where
  classes : List Host.Class
  functions : List (String × Host.Function)
  receiver : Option Host.ClassId
  deriving Repr

namespace Host

/-- An application of which nothing is known. -/
def empty : Host := ⟨[], [], none⟩

/-- The class of an identity, when it is one of the application. -/
def find? (host : Host) (c : ClassId) : Option Class :=
  host.classes.find? fun d => d.id == c

/-- The type that a name stands for in the code of the application. -/
def named? (host : Host) (name : String) : Option HostType :=
  match host.classes.find? fun d => d.id.key == "#" ++ name with
  | some d => some (.cls d.id)
  | none =>
    if name == "None" then some HostType.noneType
    else (Standard.find? ("builtins." ++ name)).map fun s => .cls s.id

end Host

end FragmentRoutes
