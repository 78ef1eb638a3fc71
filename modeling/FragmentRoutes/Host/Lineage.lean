/-
  Descent of classes.

  The lineage of a class is the class itself and all that it is derived from, each
  before its own bases and the bases of a class in their order (`merge`).  An attribute
  is looked for along the lineage.

  A class also counts as an abstract class that it is listed under, and as one whose
  attributes it has (`hook?`).
-/
import FragmentRoutes.Host.Class

namespace FragmentRoutes.Host

/-! ### Lineages -/

/-- The first head of the lists that is in none of their tails, else the first head. -/
def nextOf (lists : List (List ClassId)) : Option ClassId :=
  let heads := lists.filterMap List.head?
  match heads.find? fun c => lists.all fun l => !l.tail.contains c with
  | some c => some c
  | none => heads.head?

/-- Lists of classes as one list that keeps the order of each; the bound is the number
of classes in them. -/
def mergeWithin : Nat → List (List ClassId) → List ClassId
  | 0, _ => []
  | fuel + 1, lists =>
    match nextOf lists with
    | none => []
    | some c => c :: mergeWithin fuel (lists.map fun l => l.filter (· != c))

/-- Lists of classes as one list that keeps the order of each. -/
def merge (lists : List (List ClassId)) : List ClassId :=
  mergeWithin lists.flatten.length lists

/-- The lineages of classes, the last class first. -/
abbrev Lineages := List (ClassId × List ClassId)

/-- The lineage of a class whose lineage is not listed: nothing is known but that it is
a class. -/
def unknownLineage (c : ClassId) : List ClassId :=
  if c == Class.root then [c] else [c, Class.root]

/-- The lineage of a class among lineages. -/
def lineageAmong (known : Lineages) (c : ClassId) : List ClassId :=
  match known.find? fun k => k.1 == c with
  | some (_, line) => line
  | none => unknownLineage c

/-- Lineages with that of one more class, derived from the given classes. -/
def extend (known : Lineages) (c : ClassId) (bases : List ClassId) : Lineages :=
  (c, c :: merge (bases.map (lineageAmong known) ++ [bases])) :: known

/-- The lineages of the standard classes. -/
def standardLineages : Lineages :=
  Standard.all.foldl (fun known s =>
    extend known s.id (s.bases.map fun path => Standard.classOf (Standard.keyOf path))) []

/-- The lineages of all classes of an application. -/
def lineages (host : Host) : Lineages :=
  host.classes.foldl (fun known c => extend known c.id c.bases) standardLineages

/-- The class and all that it is derived from. -/
def lineage (host : Host) (c : ClassId) : List ClassId :=
  lineageAmong host.lineages c

/-- The class is the other or derived from it. -/
def descends (host : Host) (c d : ClassId) : Bool :=
  (host.lineage c).contains d

/-- The class is a model. -/
def isModel (host : Host) (c : ClassId) : Bool :=
  host.descends c Class.modelBase

/-! ### Fields of data classes -/

/-- Fields with one more, which takes the place of a field of its name. -/
def putField (fields : List Field) (f : Field) : List Field :=
  if fields.any fun g => g.name == f.name then
    fields.map fun g => if g.name == f.name then f else g
  else fields ++ [f]

/-- The fields that a class has from the classes of its lineage, given the fields of
these. -/
def fieldsFrom (known : List (ClassId × List Field)) (line : List ClassId) : List Field :=
  line.reverse.foldl (fun fields c =>
    match known.find? fun k => k.1 == c with
    | some (_, own) => own.foldl putField fields
    | none => fields) []

/-- The fields of the data classes of an application, and of the classes derived from
them, the last class first. -/
def dataFields (host : Host) : List (ClassId × List Field) :=
  host.classes.foldl (fun known c =>
    let line := (host.lineage c.id).tail
    match c.kind with
    | .data _ => (c.id, c.fields.foldl putField (fieldsFrom known line)) :: known
    | _ =>
      match line.findSome? fun d => known.find? fun k => k.1 == d with
      | some (_, fields) => (c.id, fields) :: known
      | none => known) []

/-- The fields of a data class, and of a class derived from one. -/
def dataFields? (host : Host) (c : ClassId) : Option (List Field) :=
  (host.dataFields.find? fun k => k.1 == c).map (·.2)

/-! ### Attributes -/

/-- The attributes that the fields of a class are. -/
def fieldAttributes (host : Host) (c : Class) : List (String × Attribute) :=
  let defaults := c.fields.filterMap fun f => f.default.map fun v => (f.name, Attribute.value v)
  match c.kind with
  | .data true =>
    let placed := ((host.dataFields? c.id).getD []).filter fun f => !Class.ofClassOnly f
    placed.map (fun f => (f.name, .slot)) ++ defaults.filter fun d =>
      !placed.any fun f => f.name == d.1
  | _ => if host.isModel c.id then [] else defaults

/-- The attributes that a class of a kind has on its own. -/
def kindAttributes : Class.Kind → List (String × Attribute)
  | .data _ => [("__eq__", .standard), ("__repr__", .standard), ("__hash__", .value .none)]
  | _ => []

/-- The attributes of a class of the application itself. -/
def ownAttributes (host : Host) (c : Class) : List (String × Attribute) :=
  c.members ++ host.fieldAttributes c ++ kindAttributes c.kind

/-- What a name stands for in a class itself. -/
def ownAttribute? (host : Host) (c : ClassId) (name : String) : Option Attribute :=
  match host.find? c with
  | some own => (host.ownAttributes own).lookup name
  | none =>
    match Standard.find? c.key with
    | some s =>
      if s.present.contains name then some .standard
      else if s.void.contains name then some (.value .none)
      else none
    | none => none

/-- What a name stands for in a class. -/
def attribute? (host : Host) (c : ClassId) (name : String) : Option Attribute :=
  (host.lineage c).findSome? fun d => host.ownAttribute? d name

/-! ### Abstract classes -/

/-- The attributes that make a class count as an abstract class. -/
def hook? (c : ClassId) : Option (List String) :=
  match c.key with
  | "collections.abc.Hashable" => some ["__hash__"]
  | "collections.abc.Awaitable" => some ["__await__"]
  | "collections.abc.Coroutine" => some ["__await__", "send", "throw", "close"]
  | "collections.abc.AsyncIterable" => some ["__aiter__"]
  | "collections.abc.AsyncIterator" => some ["__anext__", "__aiter__"]
  | "collections.abc.AsyncGenerator" =>
    some ["__aiter__", "__anext__", "asend", "athrow", "aclose"]
  | "collections.abc.Iterable" => some ["__iter__"]
  | "collections.abc.Iterator" => some ["__iter__", "__next__"]
  | "collections.abc.Reversible" => some ["__reversed__", "__iter__"]
  | "collections.abc.Generator" => some ["__iter__", "__next__", "send", "throw", "close"]
  | "collections.abc.Sized" => some ["__len__"]
  | "collections.abc.Container" => some ["__contains__"]
  | "collections.abc.Collection" => some ["__len__", "__iter__", "__contains__"]
  | "collections.abc.Callable" => some ["__call__"]
  | "os.PathLike" => some ["__fspath__"]
  | "contextlib.AbstractContextManager" => some ["__enter__", "__exit__"]
  | "contextlib.AbstractAsyncContextManager" => some ["__aenter__", "__aexit__"]
  | "typing.SupportsInt" => some ["__int__"]
  | "typing.SupportsFloat" => some ["__float__"]
  | "typing.SupportsComplex" => some ["__complex__"]
  | "typing.SupportsBytes" => some ["__bytes__"]
  | "typing.SupportsIndex" => some ["__index__"]
  | "typing.SupportsAbs" => some ["__abs__"]
  | "typing.SupportsRound" => some ["__round__"]
  | _ => none

/-- The class has all the attributes, each with a value. -/
def provides (host : Host) (c : ClassId) (names : List String) : Bool :=
  names.all fun name =>
    match host.attribute? c name with
    | some a => !a.isVoid
    | none => false

/-- The abstract classes that the classes of a lineage are listed under. -/
def listedUnder (host : Host) (c : ClassId) : List ClassId :=
  (host.lineage c).flatMap fun d =>
    match Standard.find? d.key with
    | some s => s.countsAs.map fun path => Standard.classOf (Standard.keyOf path)
    | none => []

/-- A value of the class is a value of the other, protocols of the application apart. -/
def isSubclass (host : Host) (c d : ClassId) : Bool :=
  host.descends c d || (host.listedUnder c).any (host.descends · d) ||
    match hook? d with
    | some names => host.provides c names
    | none => false

end FragmentRoutes.Host
