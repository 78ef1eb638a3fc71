/-
  Names of types, as messages show them.

  A class on its own is shown by its name, and inside of another type by its module too,
  unless it needs none.  The names of the two typing modules are left out wherever they
  stand, even at the end of the name of another module.
-/
import FragmentRoutes.Host.Basic

namespace FragmentRoutes

open Host

/-- The class with its module, when it needs one. -/
def Host.ClassId.path (c : ClassId) : String :=
  if c.isBuiltin then c.qualname else c.module ++ "." ++ c.qualname

namespace HostType

mutual

/-- The type as it stands inside of another. -/
def inner : HostType → String
  | .any => "typing.Any"
  | .nothing => "None"
  | .ellipsis => "..."
  | .var name => "~" ++ name
  | .generated name => name
  | .cls c => c.path
  | .synonym name _ => "typing." ++ name
  | .applied head c types =>
    let front := match head with
      | .synonym name => "typing." ++ name
      | _ => c.path
    if types.isEmpty then front ++ "[()]"
    else front ++ "[" ++ ", ".intercalate (innerList types) ++ "]"
  | .union barred types =>
    if barred then " | ".intercalate (innerBarred types)
    else
      let shown := innerList types
      match types.findIdx? isNoneType, shown with
      | some 0, [_, other] => "typing.Optional[" ++ other ++ "]"
      | some 1, [other, _] => "typing.Optional[" ++ other ++ "]"
      | _, _ => "typing.Union[" ++ ", ".intercalate shown ++ "]"
  | .literal values => "typing.Literal[" ++ ", ".intercalate (values.map Value.render) ++ "]"
  | .annotated base remarks =>
    "typing.Annotated[" ++ ", ".intercalate (inner base :: remarks.map Value.render) ++ "]"
  | .special name types =>
    if types.isEmpty then "typing." ++ name
    else "typing." ++ name ++ "[" ++ ", ".intercalate (innerList types) ++ "]"
  | .params types => "[" ++ ", ".intercalate (innerList types) ++ "]"
  | .newType module name _ => module ++ "." ++ name
  | .value v => v.render
  | .forward name => "ForwardRef(" ++ Text.quote name ++ ")"

/-- The types as they stand inside of another. -/
def innerList : List HostType → List String
  | [] => []
  | t :: ts => inner t :: innerList ts

/-- The members of a union with bars, where the absent value stands for its class. -/
def innerBarred : List HostType → List String
  | [] => []
  | t :: ts => (if t.isNoneType then "None" else inner t) :: innerBarred ts

end

/-- The characters without any occurrence of a word; the bound is their number. -/
def without (word : List Char) : Nat → List Char → List Char
  | 0, cs => cs
  | _, [] => []
  | fuel + 1, c :: cs =>
    if word.isPrefixOf (c :: cs) then without word fuel ((c :: cs).drop word.length)
    else c :: without word fuel cs

/-- The text without the names of the typing modules. -/
def withoutModules (s : String) : String :=
  let cs := s.toList
  let cs := without "typing.".toList cs.length cs
  String.ofList (without "collections.abc.".toList cs.length cs)

/-- The name of a type, as messages show it. -/
def render (t : HostType) : String :=
  match t with
  | .any => "Any"
  | .ellipsis => "Ellipsis"
  | .cls c => if t.isNoneType then "None" else c.qualname
  | .params types => "[" ++ ", ".intercalate ((innerList types).map withoutModules) ++ "]"
  | _ => withoutModules (inner t)

/-- A character of a dotted word. -/
def isWordChar (c : Char) : Bool :=
  c == '.' || c == '_' || c.isAlphanum

/-- The text with the name of the typing module left out in front of each dotted word;
the bound is the number of characters. -/
def withoutFront : Nat → List Char → List Char
  | 0, cs => cs
  | _, [] => []
  | fuel + 1, c :: cs =>
    if isWordChar c then
      let word := (c :: cs).takeWhile isWordChar
      let rest := (c :: cs).dropWhile isWordChar
      let front := "typing.".toList
      (if front.isPrefixOf word then word.drop front.length else word) ++ withoutFront fuel rest
    else c :: withoutFront fuel cs

/-- A type as it was written for a parameter: a typing name without its module, and any
other type in full. -/
def renderWritten (t : HostType) : String :=
  let shortened := fun (s : String) => String.ofList (withoutFront s.length s.toList)
  match t with
  | .forward name => Text.quote name
  | .ellipsis => "Ellipsis"
  | .any | .synonym _ _ | .applied (.synonym _) _ _ | .union false _ | .literal _ | .special _ _ =>
    shortened (inner t)
  | .cls c =>
    if c.module == "typing" then "<class " ++ Text.quote c.qualname ++ ">" else c.path
  | _ => inner t

end HostType

end FragmentRoutes
