/-
  Constraints of form fields.

  The control of a field says in its markup which values it takes: `min` and `max` for
  numbers, `pattern`, `minlength` and `maxlength` for texts.  `parse` reads these
  attributes in that order.  An attribute whose value is computed by the template is
  left alone, and one that does not fit the type of the field is a fault.
-/
import FragmentRoutes.Diagnosis
import FragmentRoutes.Host.Naming
import FragmentRoutes.Markup.Control
import FragmentRoutes.Numeral.Whole
import FragmentRoutes.Regex
import FragmentRoutes.Text.Blank

namespace FragmentRoutes

open Host

/-- What a constraint limits. -/
inductive Constraint.Kind where
  | min
  | max
  | pattern
  | minLength
  | maxLength
  deriving DecidableEq, Repr

/-- The value of a limit. -/
inductive Constraint.Limit where
  | whole (value : Int)
  | real (value : Numeral.Double)
  | text (value : String)
  deriving DecidableEq, Repr

/-- A constraint on the field of a form. -/
structure Constraint where
  kind : Constraint.Kind
  field : String
  limit : Constraint.Limit
  deriving DecidableEq, Repr

namespace Constraint

/-- All kinds, in the order in which values are checked. -/
def Kind.all : List Kind := [.min, .max, .pattern, .minLength, .maxLength]

/-- The attribute that a constraint is written as. -/
def Kind.attribute : Kind → String
  | .min => "min"
  | .max => "max"
  | .pattern => "pattern"
  | .minLength => "minlength"
  | .maxLength => "maxlength"

/-- The value as a text. -/
def Limit.render : Limit → String
  | .whole value => toString value
  | .real value => value.text
  | .text value => value

/-- What a value that breaks the constraint is answered with. -/
def message (c : Constraint) : String :=
  match c.kind with
  | .min => c.field ++ " must not be less than " ++ c.limit.render
  | .max => c.field ++ " must not be more than " ++ c.limit.render
  | .pattern => c.field ++ " must match " ++ Text.quote c.limit.render
  | .minLength => c.field ++ " is too short (the min length is " ++ c.limit.render ++ ")"
  | .maxLength => c.field ++ " is too long (the max length is " ++ c.limit.render ++ ")"

/-! ### Faults -/

/-- What is wrong with an attribute of a control. -/
inductive Mistake where
  | notNumeric (kind : Kind) (field : String) (type : HostType)
  | notText (kind : Kind) (field : String) (type : HostType)
  | unreadable (kind : Kind) (raw field : String) (type : HostType)
  | badPattern (raw field : String)
  | badLength (kind : Kind) (raw field : String)
  | negative (kind : Kind) (field : String)
  deriving Repr

/-- The words of a mistake, where `diagnosis` gives those of the interpreter. -/
def Mistake.message (mistake : Mistake) (diagnosis : Diagnosis := .brief) : String :=
  match mistake with
  | .notNumeric kind field type =>
    kind.attribute ++ " attribute on " ++ field ++ " requires an int or float field, got " ++
      type.render
  | .notText kind field type =>
    kind.attribute ++ " attribute on " ++ field ++ " requires a str field, got " ++ type.render
  | .unreadable kind raw field type =>
    "failed to parse " ++ kind.attribute ++ " attribute " ++ Text.quote raw ++ " on " ++ field ++
      " as " ++ type.render
  | .badPattern raw field =>
    Diagnosis.explain ("invalid pattern attribute " ++ Text.quote raw ++ " on " ++ field)
      (diagnosis.pattern raw)
  | .badLength kind raw field =>
    "failed to parse " ++ kind.attribute ++ " attribute " ++ Text.quote raw ++ " on " ++ field
  | .negative kind field =>
    kind.attribute ++ " attribute on " ++ field ++ " must not be negative"

/-- Why the constraints of a field cannot be read: a mistake in an attribute, markup
that is no markup, or a pattern that cannot even be looked at. -/
inductive Fault where
  | mistake (mistake : Mistake)
  | markup (fault : Markup.Fault)
  | pattern (fault : Regex.Fault)
  deriving Repr

/-! ### Reading -/

/-- A mark of the template language stands in the characters. -/
def hasMark : List Char → Bool
  | '{' :: '{' :: _ => true
  | '{' :: '%' :: _ => true
  | _ :: cs => hasMark cs
  | [] => false

/-- The template computes the value. -/
def isComputed (value : String) : Bool :=
  hasMark value.toList

/-- The number that a limit of a numeric field is, when the text spells one. -/
def readNumber? (type : HostType) (raw : String) : Option Limit :=
  if type.isBuiltin "int" then (Numeral.readWhole? raw).map .whole
  else (Numeral.readDouble? raw).map .real

/-- The limit of the value of a numeric field. -/
def readBound (kind : Kind) (field : String) (type : HostType) (raw : String) :
    Except Fault Limit :=
  if type.isBuiltin "int" || type.isBuiltin "float" then
    match readNumber? type raw with
    | some limit => .ok limit
    | none => .error (.mistake (.unreadable kind raw field type))
  else .error (.mistake (.notNumeric kind field type))

/-- The pattern that a text must match. -/
def readPattern (field raw : String) : Except Fault Limit :=
  match Regex.check raw with
  | .ok _ => .ok (.text raw)
  | .error .malformed => .error (.mistake (.badPattern raw field))
  | .error fault => .error (.pattern fault)

/-- The limit of the length of a text. -/
def readLength (kind : Kind) (field raw : String) : Except Fault Limit :=
  match Numeral.readWhole? raw with
  | none => .error (.mistake (.badLength kind raw field))
  | some length =>
    if length < 0 then .error (.mistake (.negative kind field)) else .ok (.whole length)

/-- The limit that an attribute sets for a field of a type. -/
def readLimit (kind : Kind) (field : String) (type : HostType) (raw : String) :
    Except Fault Limit :=
  match kind with
  | .min | .max => readBound kind field type raw
  | _ =>
    if !type.isBuiltin "str" then .error (.mistake (.notText kind field type))
    else match kind with
      | .pattern => readPattern field raw
      | _ => readLength kind field raw

/-- The text of an attribute that counts as a constraint. -/
def rawLimit? (attributes : List (String × Option String)) (kind : Kind) : Option String :=
  match Markup.Control.value? attributes kind.attribute with
  | some (some raw) => if isComputed raw then none else some (Text.strip raw)
  | _ => none

/-- The constraints of some kinds that the attributes of a control set. -/
def readKinds (attributes : List (String × Option String)) (field : String) (type : HostType) :
    List Kind → Except Fault (List Constraint)
  | [] => .ok []
  | kind :: kinds =>
    match rawLimit? attributes kind with
    | none => readKinds attributes field type kinds
    | some raw => do
      let limit ← readLimit kind field type raw
      let rest ← readKinds attributes field type kinds
      return ⟨kind, field, limit⟩ :: rest

/-- The constraints that the markup sets for a field that holds values of a type. -/
def parse (markup field : String) (type : HostType) : Except Fault (List Constraint) := do
  match ← (Markup.Control.find? markup field).mapError Fault.markup with
  | none => return []
  | some attributes => readKinds attributes field type.unwrap Kind.all

end Constraint

end FragmentRoutes
