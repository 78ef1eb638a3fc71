/-
  Types made of types.

  A type is applied to others (`apply`), limited to values (`limit`) or given remarks
  (`annotate`).  Among typing names the absent value stands for its class.  A repeated
  value of a literal type counts once, and remarks on a type with remarks are added to
  them.
-/
import FragmentRoutes.Host.Basic

namespace FragmentRoutes

open Host

namespace HostType

mutual

/-- A type as an argument of a typing name. -/
def namedArg : HostType → HostType
  | .nothing => noneType
  | .params types => .params (namedArgs types)
  | t => t

/-- Types as arguments of a typing name. -/
def namedArgs : List HostType → List HostType
  | [] => []
  | t :: ts => namedArg t :: namedArgs ts

end

/-- A type applied to types. -/
def apply (head : HostType) (args : List HostType) : HostType :=
  match head with
  | .synonym name c => .applied (.synonym name) c (namedArgs args)
  | .special "Union" _ => unite false args
  | .special "Optional" _ => unite false (args ++ [noneType])
  | .special name _ => .special name (namedArgs args)
  | .cls c =>
    if c.isOwn then .applied .generic c (namedArgs args) else .applied .direct c args
  | t => t

/-- Values without those that came before. -/
def distinctValues (seen : List Value) : List Value → List Value
  | [] => seen.reverse
  | v :: vs => if seen.contains v then distinctValues seen vs else distinctValues (v :: seen) vs

/-- The type of the given values. -/
def limit (values : List Value) : HostType :=
  .literal (distinctValues [] values)

/-- A type with remarks. -/
def annotate (base : HostType) (remarks : List Value) : HostType :=
  match base with
  | .annotated inner first => .annotated inner (first ++ remarks)
  | t => .annotated (named t) remarks

mutual

/-- The type without any remarks, at any depth. -/
def withoutRemarks : HostType → HostType
  | .annotated base _ => withoutRemarks base
  | .applied head c types => .applied head c (withoutRemarksAll types)
  | .union barred types => unite barred (withoutRemarksAll types)
  | .special name types => .special name (withoutRemarksAll types)
  | .params types => .params (withoutRemarksAll types)
  | t => t

/-- The types without any remarks. -/
def withoutRemarksAll : List HostType → List HostType
  | [] => []
  | t :: ts => withoutRemarks t :: withoutRemarksAll ts

end

mutual

/-- The type with every name in it replaced by the type it stands for; the first name
that stands for none is the error. -/
def settle (find : String → Option HostType) : HostType → Except String HostType
  | .forward name =>
    match find name with
    | some t => .ok t
    | none => .error name
  | .annotated base remarks => do
    let base ← settle find base
    return .annotated base remarks
  | .applied head c types => do
    let types ← settleAll find types
    return .applied head c types
  | .union barred types => do
    let types ← settleAll find types
    return unite barred types
  | .special name types => do
    let types ← settleAll find types
    return .special name types
  | .params types => do
    let types ← settleAll find types
    return .params types
  | t => .ok t

/-- The types with every name in them replaced. -/
def settleAll (find : String → Option HostType) : List HostType → Except String (List HostType)
  | [] => .ok []
  | t :: ts => do
    let t ← settle find t
    let ts ← settleAll find ts
    return t :: ts

end

end HostType

end FragmentRoutes
