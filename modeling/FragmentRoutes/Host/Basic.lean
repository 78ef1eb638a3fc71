/-
  Types of the application.

  The parameters and results of the application's functions have types: classes, classes
  applied to types, unions, and a few special forms.  Classes are named here by their
  identity; what a class consists of is kept beside the types (`Host.Class`).

  Two types are the same when they are built alike (`same`); the order of the members of
  a union does not matter, and neither does the way it was written.
-/
import FragmentRoutes.Numeral.Shortest
import FragmentRoutes.Text.Quoted

namespace FragmentRoutes

namespace Host

/-- A plain value, as it stands in a literal type or as the value of an attribute. -/
inductive Value where
  | none
  | flag (value : Bool)
  | whole (value : Int)
  | real (value : Numeral.Double)
  | text (value : String)
  | list (items : List Value)
  | table (entries : List (String × Value))
  deriving Repr, Inhabited

mutual

/-- Two values are the same: of one kind, and alike part by part. -/
def Value.same : Value → Value → Bool
  | .none, .none => true
  | .flag a, .flag b => a == b
  | .whole a, .whole b => a == b
  | .real a, .real b => a == b
  | .text a, .text b => a == b
  | .list as, .list bs => Value.sameItems as bs
  | .table as, .table bs => Value.sameEntries as bs
  | _, _ => false

/-- Values are the same one by one. -/
def Value.sameItems : List Value → List Value → Bool
  | [], [] => true
  | a :: as, b :: bs => a.same b && Value.sameItems as bs
  | _, _ => false

/-- Entries of tables have the same keys and values one by one. -/
def Value.sameEntries : List (String × Value) → List (String × Value) → Bool
  | [], [] => true
  | (k, a) :: as, (l, b) :: bs => k == l && a.same b && Value.sameEntries as bs
  | _, _ => false

end

instance : BEq Value := ⟨Value.same⟩

mutual

/-- The value as it is shown. -/
def Value.render : Value → String
  | .none => "None"
  | .flag value => if value then "True" else "False"
  | .whole value => toString value
  | .real value => value.text
  | .text value => Text.quote value
  | .list items => "[" ++ ", ".intercalate (Value.renderItems items) ++ "]"
  | .table entries => "\x7b" ++ ", ".intercalate (Value.renderEntries entries) ++ "\x7d"

/-- The values as they are shown. -/
def Value.renderItems : List Value → List String
  | [] => []
  | v :: vs => v.render :: Value.renderItems vs

/-- The entries of a table as they are shown. -/
def Value.renderEntries : List (String × Value) → List String
  | [] => []
  | (key, v) :: rest => (Text.quote key ++ ": " ++ v.render) :: Value.renderEntries rest

end

/-- A class, by its identity and by the names it goes by. -/
structure ClassId where
  key : String
  module : String
  qualname : String
  name : String
  deriving DecidableEq, Repr, Inhabited

namespace ClassId

/-- The standard class of a name in a module. -/
def standard (module name : String) : ClassId :=
  ⟨module ++ "." ++ name, module, name, name⟩

/-- The standard class that needs no module. -/
def builtin (name : String) : ClassId :=
  standard "builtins" name

/-- The class of containers that are named in general terms. -/
def abstract (name : String) : ClassId :=
  standard "collections.abc" name

/-- A class of the application, which no standard class is the same as. -/
def own (id module qualname name : String) : ClassId :=
  ⟨"#" ++ id, module, qualname, name⟩

/-- The class is one of the application. -/
def isOwn (c : ClassId) : Bool :=
  c.key.startsWith "#"

/-- The class needs no module to be named. -/
def isBuiltin (c : ClassId) : Bool :=
  c.module == "builtins"

end ClassId

end Host

open Host

/-- How the application of a class to types is written: with the class itself, with its
second name among the typing names, or with a generic class of the application. -/
inductive HostType.Head where
  | direct
  | synonym (name : String)
  | generic
  deriving DecidableEq, Repr

/-- A type of the application. -/
inductive HostType where
  /-- Any type at all. -/
  | any
  /-- The absent value, where it stands for its class. -/
  | nothing
  /-- Three dots. -/
  | ellipsis
  /-- A type variable. -/
  | var (name : String)
  /-- A class that the routes module defines. -/
  | generated (name : String)
  /-- A class. -/
  | cls (c : ClassId)
  /-- A class under its second name among the typing names, without arguments. -/
  | synonym (name : String) (c : ClassId)
  /-- A class applied to types. -/
  | applied (head : HostType.Head) (c : ClassId) (args : List HostType)
  /-- One of several types, written with bars between them or not. -/
  | union (barred : Bool) (members : List HostType)
  /-- One of several values. -/
  | literal (values : List Value)
  /-- A type with remarks. -/
  | annotated (base : HostType) (remarks : List Value)
  /-- A special form among the typing names. -/
  | special (name : String) (args : List HostType)
  /-- The parameters of a callable. -/
  | params (types : List HostType)
  /-- A type of its own that is represented by another; `place` is where it was made. -/
  | newType (module name place : String)
  /-- A value among the arguments of a type. -/
  | value (v : Value)
  /-- A name that stands for a type once all classes are known. -/
  | forward (name : String)
  deriving Repr, Inhabited

namespace HostType

/-! ### Well-known types -/

/-- The class of the absent value. -/
def noneType : HostType := .cls (.builtin "NoneType")

/-- The class of texts. -/
def str : HostType := .cls (.builtin "str")

/-- The class of whole numbers. -/
def int : HostType := .cls (.builtin "int")

/-- The class of floating point numbers. -/
def float : HostType := .cls (.builtin "float")

/-- The class of truth values. -/
def bool : HostType := .cls (.builtin "bool")

/-- The class of all values. -/
def object : HostType := .cls (.builtin "object")

/-- The type is the given class. -/
def isClass (t : HostType) (c : ClassId) : Bool :=
  match t with
  | .cls d => c == d
  | _ => false

/-- The type is the class of a standard name. -/
def isBuiltin (t : HostType) (name : String) : Bool :=
  t.isClass (.builtin name)

/-- The type is the class of the absent value. -/
def isNoneType (t : HostType) : Bool :=
  t.isBuiltin "NoneType"

/-- The type is any type. -/
def isAny : HostType → Bool
  | .any => true
  | _ => false

/-- The type is three dots. -/
def isEllipsis : HostType → Bool
  | .ellipsis => true
  | _ => false

/-! ### Sameness -/

mutual

/-- Two types are the same. -/
def same : HostType → HostType → Bool
  | .any, .any => true
  | .nothing, .nothing => true
  | .ellipsis, .ellipsis => true
  | .var a, .var b => a == b
  | .generated a, .generated b => a == b
  | .cls a, .cls b => a == b
  | .synonym a _, .synonym b _ => a == b
  | .applied g a xs, .applied h b ys => (g == .direct) == (h == .direct) && a == b && sameList xs ys
  | .union _ xs, .union _ ys => allAmong xs ys && ys.all fun y => isAmong xs y
  | .literal xs, .literal ys => xs.all ys.contains && ys.all xs.contains
  | .annotated a xs, .annotated b ys => same a b && xs == ys
  | .special a xs, .special b ys => a == b && sameList xs ys
  | .params xs, .params ys => sameList xs ys
  | .newType m a p, .newType n b q => m == n && a == b && p == q
  | .value v, .value w => v == w
  | .forward a, .forward b => a == b
  | _, _ => false

/-- Types are the same one by one. -/
def sameList : List HostType → List HostType → Bool
  | [], [] => true
  | x :: xs, y :: ys => same x y && sameList xs ys
  | _, _ => false

/-- Every one of the first types is among the second. -/
def allAmong : List HostType → List HostType → Bool
  | [], _ => true
  | x :: xs, ys => ys.any (same x) && allAmong xs ys

/-- The type is among the types. -/
def isAmong : List HostType → HostType → Bool
  | [], _ => false
  | x :: xs, y => same x y || isAmong xs y

end

/-! ### Unions -/

/-- Types without those that came before. -/
def distinct (seen : List HostType) : List HostType → List HostType
  | [] => seen.reverse
  | t :: ts => if isAmong seen t then distinct seen ts else distinct (t :: seen) ts

/-- The members of a type as they count in a union that it is a part of. -/
def parts : HostType → List HostType
  | .union _ members => members
  | .nothing => [noneType]
  | t => [t]

/-- The union of types: members of members are members, each counts once, and a single
member is the union itself. -/
def unite (barred : Bool) (types : List HostType) : HostType :=
  match distinct [] (types.flatMap parts) with
  | [t] => t
  | members => .union barred members

/-- The type can only be put into a union by its typing name. -/
def needsName : HostType → Bool
  | .var _ => true
  | .synonym _ _ => true
  | .applied head _ _ => head != .direct
  | .union barred _ => !barred
  | .literal _ => true
  | .annotated _ _ => true
  | .special _ _ => true
  | .newType _ _ _ => true
  | .forward _ => true
  | _ => false

/-- The union of types written with bars between them, from the left on. -/
def uniteBarred : List HostType → HostType
  | [] => .union true []
  | t :: ts => ts.foldl (fun a b => unite (!(needsName a || needsName b)) [a, b]) t

/-- The type or the absent value. -/
def optional (t : HostType) : HostType :=
  unite false [t, noneType]

/-- The members of a union, none for any other type. -/
def members : HostType → List HostType
  | .union _ types => types
  | _ => []

/-- The type without the absent value, when one other member is left. -/
def unwrap (t : HostType) : HostType :=
  let all := t.members
  if all.any isNoneType then
    match all.filter fun m => !m.isNoneType with
    | [m] => m
    | _ => t
  else t

/-! ### Forms -/

/-- A class as it stands among typing names, where the absent value is its class. -/
def named : HostType → HostType
  | .nothing => noneType
  | t => t

/-- The class that a type is an application of, or a second name of. -/
def origin? : HostType → Option ClassId
  | .applied _ c _ => some c
  | .synonym _ c => some c
  | .annotated _ _ => some (.standard "typing" "Annotated")
  | _ => none

/-- The arguments of a type. -/
def args : HostType → List HostType
  | .applied _ _ types => types
  | .union _ types => types
  | .literal values => values.map .value
  | .annotated base remarks => base :: remarks.map .value
  | .special _ types => types
  | _ => []

end HostType

end FragmentRoutes
