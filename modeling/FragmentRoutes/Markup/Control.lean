/-
  Form controls in markup.

  A form field is bound to the first control of its name.  Of an attribute that is
  written twice the last counts.
-/
import FragmentRoutes.Markup.Tag

namespace FragmentRoutes.Markup

namespace Control

/-- The elements that are form controls. -/
def elements : List String := ["input", "textarea", "select"]

/-- The value that an attribute has, `none` when it is not written and `some none` when
it is written without a value. -/
def value? (attributes : List (String × Option String)) (name : String) :
    Option (Option String) :=
  (attributes.reverse.find? fun a => a.1 == name).map (·.2)

/-- The tag is that of the control of a field. -/
def controls (field : String) (tag : Tag) : Bool :=
  elements.contains tag.name && value? tag.attributes "name" == some (some field)

/-- The attributes of the first control of a field. -/
def find? (markup field : String) : Except Fault (Option (List (String × Option String))) := do
  let tags ← Tag.scan markup
  return (tags.find? (controls field)).map (·.attributes)

end Control

end FragmentRoutes.Markup
