/-
  Projects: the modules of an application and the files next to them.

  The module with the templates is imported and, when one is asked for, the class of the
  receiver is looked up.  The functions that the module defines itself may be called by
  routes.  `generate` generates the routes module and writes it next to the templates, unless
  the file there already says the same or nothing is to be written.
-/
import FragmentRoutes.Fragment.Folder
import FragmentRoutes.RoutesModule

namespace FragmentRoutes

open Host

/-- What a name of a module stands for. -/
inductive Project.Item where
  /-- Templates, themselves or inside of something that holds them. -/
  | templates (library : Library) (isHeld : Bool)
  /-- Templates that are the files of a folder and the blocks in them. -/
  | folder (root : String) (patterns : List String) (files : List TextFile) (isHeld : Bool)
  | value (v : Value)
  | cls (c : ClassId)
  | function (f : Function)
  deriving Repr

/-- A module of the application, with a source file or without one. -/
structure Project.Module where
  name : String
  hasFile : Bool
  items : List (String × Project.Item)
  deriving Repr

/-- The classes and modules of an application. -/
structure Project where
  classes : List Host.Class
  modules : List Project.Module
  deriving Repr

/-- The texts of files by their paths from the root of a project. -/
abbrev Files := List (String × String)

namespace Files

/-- The files with one more, which takes the place of one of its path. -/
def write (files : Files) (path text : String) : Files :=
  (path, text) :: files.filter fun f => f.1 != path

/-- The text of a file, its lines ended alike. -/
def read? (files : Files) (path : String) : Option String :=
  (files.lookup path).map fun text => String.ofList (TextFile.unifyLines text.toList)

end Files

namespace Project

/-- Why nothing is generated. -/
inductive Fault where
  /-- A module that is not imported, with the first part of its name that there is no module
  for. -/
  | missingModule (module missing : String)
  | missingVariable (module name : String)
  | notTemplates (module name kind : String)
  | folder (error : Folder.Error)
  | missingReceiver (type module : String)
  | noFile (module : String)
  | generation (failure : RoutesModule.Failure)
  deriving Repr

/-! ### Modules -/

/-- A dotted name with all that it starts with, the shortest first. -/
def prefixes (name : String) : List String :=
  let parts := name.splitOn "."
  (List.range parts.length).map fun n => ".".intercalate (parts.take (n + 1))

/-- The module of a name; what the name of a module starts with is an empty one. -/
def module? (project : Project) (name : String) : Option Module :=
  match project.modules.find? fun m => m.name == name with
  | some m => some m
  | none =>
    if project.modules.any fun m => (prefixes m.name).contains name then some ⟨name, false, []⟩
    else none

/-- Imports a module. -/
def importModule (project : Project) (name : String) : Except Fault Module :=
  match (prefixes name).find? fun part => (project.module? part).isNone with
  | some missing => .error (.missingModule name missing)
  | none =>
    match project.module? name with
    | some m => .ok m
    | none => .error (.missingModule name name)

/-- What a name of a module stands for; every module has a name of its own. -/
def Module.item? (m : Module) (name : String) : Option Item :=
  match m.items.lookup name with
  | some item => some item
  | none => if name == "__name__" then some (.value (.text m.name)) else none

/-- The class of a value. -/
def valueKind : Value → String
  | .none => "NoneType"
  | .flag _ => "bool"
  | .whole _ => "int"
  | .real _ => "float"
  | .text _ => "str"
  | .list _ => "list"
  | .table _ => "dict"

/-- The class of an item that is no templates. -/
def itemKind (host : Host) : Item → String
  | .templates _ _ => "Environment"
  | .folder _ _ _ _ => "Environment"
  | .value v => valueKind v
  | .function _ => "function"
  | .cls c =>
    if host.isModel c then "ModelMetaclass"
    else if host.descends c Class.protocolBase then "_ProtocolMeta"
    else "type"

/-- The application without functions and receiver. -/
def bareHost (project : Project) : Host :=
  ⟨project.classes, [], none⟩

/-- The templates of a module, with the name of the attribute that holds them when they
are held by something.  All of them are listed, so the files of a folder are read here. -/
def templates (project : Project) (m : Module) (name : String) :
    Except Fault (Library × String) :=
  match m.item? name with
  | none => .error (.missingVariable m.name name)
  | some (.value .none) => .error (.missingVariable m.name name)
  | some (.templates library isHeld) => .ok (library, if isHeld then "env" else "")
  | some (.folder root patterns files isHeld) =>
    match Folder.load root patterns files with
    | .ok fragments => .ok (Library.ofFragments fragments none, if isHeld then "env" else "")
    | .error error => .error (.folder error)
  | some item => .error (.notTemplates m.name name (itemKind project.bareHost item))

/-- The class of the receiver, when one is asked for. -/
def receiver (project : Project) (config : Config) : Except Fault (Option ClassId) :=
  match config.receiverType with
  | none => .ok none
  | some type => do
    let m ← project.importModule (config.receiverModule.getD config.templatesModule)
    match m.item? type with
    | some (.cls c) => return some c
    | _ => throw (.missingReceiver type m.name)

/-- The functions that a module defines for others to use. -/
def ownFunctions (m : Module) : List (String × Function) :=
  m.items.filterMap fun (name, item) =>
    match item with
    | .function f => if f.module == m.name && !name.startsWith "_" then some (name, f) else none
    | _ => none

/-! ### Generation -/

/-- The place of the generated module, next to the module of the templates. -/
def outputPath (m : Module) (fileName : String) : String :=
  "/".intercalate ((m.name.splitOn ".").dropLast ++ [fileName])

/-- What came of a run. -/
structure Outcome where
  path : String
  generated : RoutesModule
  written : Bool
  upToDate : Bool

/-- A step of a run over the files of a project.  What it did to the files before a fault stays
done. -/
abbrev Step := ExceptT Fault (StateM Files)

/-- Generates the routes module of a project.  When `writes` is set, a file that says
something else, or is not there, is written. -/
def generate (project : Project) (config : Config) (writes : Bool) : Step Outcome := do
  let m ← ofExcept (project.importModule config.templatesModule)
  let (library, attributeName) ← ofExcept (project.templates m config.templatesVariable)
  let receiver ← ofExcept (project.receiver config)
  let host : Host := ⟨project.classes, ownFunctions m, receiver⟩
  let generated ← ofExcept ((RoutesModule.generate config library host attributeName).mapError
    Fault.generation)
  if !m.hasFile then throw (.noFile m.name)
  let path := outputPath m config.outputFile
  let isSame := (← get).read? path == some generated.text
  let written := writes && !isSame
  if written then modify (·.write path generated.text)
  return ⟨path, generated, written, isSame || written⟩

/-- A run over files: what came of it with the files after it, or why nothing did. -/
def run (project : Project) (files : Files) (config : Config) (writes : Bool) :
    Except Fault (Outcome × Files) :=
  match (project.generate config writes).run.run files with
  | (.ok outcome, files) => .ok (outcome, files)
  | (.error fault, _) => .error fault

/-! ### Messages -/

/-- The words of a fault, when it is one that users are told about; `diagnosis` gives those of
the interpreter. -/
def Fault.message? (fault : Fault) (diagnosis : Diagnosis := .brief) : Option String :=
  match fault with
  | .missingModule module missing =>
    some ("failed to import " ++ module ++ ": " ++ diagnosis.missing module missing)
  | .missingVariable module name => some (module ++ "." ++ name ++ " not found")
  | .notTemplates module name kind =>
    some (module ++ "." ++ name ++ " is " ++ kind ++
      ", expected a jinja2.Environment or an object with one as .env")
  | .missingReceiver type module =>
    some ("receiver type " ++ type ++ " not found in " ++ module)
  | .folder error => some error.message
  | .noFile module => some (module ++ " has no source file to write next to")
  | .generation failure => failure.message? diagnosis

end Project

end FragmentRoutes
