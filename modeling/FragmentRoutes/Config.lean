/-
  Options of a routes module.

  A configuration names the module with the templates, the receiver, and what the
  routes module is to define.  `ofSettings` reads it from named settings, of which only
  the first is required: a name must be an identifier, a module a dotted sequence of
  identifiers, and a switch one of the usual words for on and off.  All problems are
  reported together, in the order of the options.
-/
import FragmentRoutes.Text.Identifier
import FragmentRoutes.Text.Quoted

namespace FragmentRoutes

open Text

/-- The options of a routes module. -/
structure Config where
  templatesModule : String
  templatesVariable : String := "templates"
  receiverType : Option String := none
  receiverModule : Option String := none
  outputFile : String := "template_routes.py"
  routesFunction : String := "template_routes"
  receiverInterface : String := "RoutesReceiver"
  templateDataType : String := "TemplateData"
  routePathsType : String := "TemplateRoutePaths"
  pathPrefix : Bool := false
  logger : Bool := false
  renderErrors : Bool := false
  deriving DecidableEq, Repr, Inhabited

namespace Config

/-- The value that a setting is given.  A number is kept as far as switches tell
numbers apart. -/
inductive Setting where
  | null
  | flag (value : Bool)
  | whole (value : Int)
  | text (value : String)
  | other
  deriving DecidableEq, Repr

/-- Why a setting is refused. -/
inductive Fault where
  | missing
  | notText
  | notSwitch
  | unknownSwitch
  | notIdentifier (text : String)
  | outputFile
  deriving DecidableEq, Repr

/-- A setting that is refused. -/
structure Problem where
  field : String
  fault : Fault
  deriving DecidableEq, Repr

/-- The words of a fault, for those that have words. -/
def Fault.message? : Fault → Option String
  | notIdentifier text => some (quote text ++ " is not a Python identifier")
  | outputFile => some "output_file must be a .py file name without directories"
  | _ => none

/-! ### Checks -/

/-- The name, when it is an identifier. -/
def checkIdentifier (name : String) : Except Fault String :=
  if isName name then .ok name else .error (.notIdentifier name)

/-- The first part of a dotted name that is no identifier. -/
def checkParts : List String → Except Fault Unit
  | [] => .ok ()
  | part :: parts => do
    let _ ← checkIdentifier part
    checkParts parts

/-- The dotted name, when each of its parts is an identifier. -/
def checkModule (name : String) : Except Fault String := do
  checkParts (name.splitOn ".")
  return name

/-- The name, when it is one of a file of the right kind without directories. -/
def checkOutputFile (name : String) : Except Fault String :=
  if name.endsWith ".py" && !name.contains '/' && !name.contains '\\' then .ok name
  else .error .outputFile

/-- Words that turn a switch on. -/
def onWords : List String := ["1", "t", "y", "on", "yes", "true"]

/-- Words that turn a switch off. -/
def offWords : List String := ["0", "f", "n", "no", "off", "false"]

/-- The position of a switch that a word in any case stands for. -/
def readSwitch (word : String) : Except Fault Bool :=
  let word := word.map Char.toLower
  if onWords.contains word then .ok true
  else if offWords.contains word then .ok false
  else .error .unknownSwitch

/-! ### Settings -/

/-- Settings by name; a later one replaces an earlier one of its name. -/
abbrev Settings := List (String × Setting)

/-- The setting of a name. -/
def setting? (settings : Settings) (name : String) : Option Setting :=
  (settings.reverse.find? fun s => s.1 == name).map (·.2)

/-- A setting that must be a text and passes a check. -/
def readText (check : String → Except Fault String) : Setting → Except Fault String
  | .text value => check value
  | _ => .error .notText

/-- A setting that may be left empty. -/
def readOptional (check : String → Except Fault String) : Setting → Except Fault (Option String)
  | .null => .ok none
  | value => (readText check value).map some

/-- A setting that turns something on or off.  Of the numbers only those that fit a
machine word are switches. -/
def readFlag : Setting → Except Fault Bool
  | .flag value => .ok value
  | .text word => readSwitch word
  | .whole 0 => .ok false
  | .whole 1 => .ok true
  | .whole n => if n.natAbs < 0x8000000000000000 then .error .unknownSwitch else .error .notSwitch
  | _ => .error .notSwitch

/-- The value of an option, its default when it is not set. -/
def option (settings : Settings) (name : String) (read : Setting → Except Fault α)
    (default : Except Fault α) : Except Problem α :=
  (match setting? settings name with
    | some value => read value
    | none => default).mapError (⟨name, ·⟩)

/-- The problem with an option. -/
def problem? : Except Problem α → List Problem
  | .ok _ => []
  | .error p => [p]

/-- The configuration that settings make, or all that is wrong with them. -/
def ofSettings (settings : Settings) : Except (List Problem) Config :=
  let base : Config := ⟨"", "templates", none, none, "template_routes.py", "template_routes",
    "RoutesReceiver", "TemplateData", "TemplateRoutePaths", false, false, false⟩
  let name := fun field default => option settings field (readText checkIdentifier) (.ok default)
  let flag := fun field => option settings field readFlag (.ok false)
  let templatesModule :=
    option settings "templates_module" (readText checkModule) (.error .missing)
  let templatesVariable := name "templates_variable" base.templatesVariable
  let receiverType := option settings "receiver_type" (readOptional checkIdentifier) (.ok none)
  let receiverModule := option settings "receiver_module" (readOptional checkModule) (.ok none)
  let outputFile :=
    option settings "output_file" (readText checkOutputFile) (.ok base.outputFile)
  let routesFunction := name "routes_function" base.routesFunction
  let receiverInterface := name "receiver_interface" base.receiverInterface
  let templateDataType := name "template_data_type" base.templateDataType
  let routePathsType := name "route_paths_type" base.routePathsType
  let pathPrefix := flag "path_prefix"
  let logger := flag "logger"
  let renderErrors := flag "render_errors"
  let config : Except Problem Config := do
    return ⟨← templatesModule, ← templatesVariable, ← receiverType, ← receiverModule,
      ← outputFile, ← routesFunction, ← receiverInterface, ← templateDataType,
      ← routePathsType, ← pathPrefix, ← logger, ← renderErrors⟩
  match config with
  | .ok config => .ok config
  | .error _ => .error (problem? templatesModule ++ problem? templatesVariable ++
      problem? receiverType ++ problem? receiverModule ++ problem? outputFile ++
      problem? routesFunction ++ problem? receiverInterface ++ problem? templateDataType ++
      problem? routePathsType ++ problem? pathPrefix ++ problem? logger ++
      problem? renderErrors)

end Config

end FragmentRoutes
