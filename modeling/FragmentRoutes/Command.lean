/-
  The command line.

  `generate` writes the routes module, `check` says whether it is up to date, and `routes
  list` shows the routes.  What cannot be understood ends with code 2, and a fault with
  code 1 and its words.
-/
import FragmentRoutes.Project
import FragmentRoutes.Terminal.Markup
import FragmentRoutes.Terminal.Table

namespace FragmentRoutes

/-- What a command line asks for. -/
inductive Command.Action where
  | generate
  | check
  | list
  deriving DecidableEq, Repr

/-- An action with its configuration and the directory that modules are found in. -/
structure Command where
  action : Command.Action
  config : Config
  directory : String
  deriving Repr

namespace Command

/-- Why a command line asks for nothing: it is not understood, or it asks for help. -/
inductive Refusal where
  | usage
  | help
  deriving DecidableEq, Repr

/-! ### Options -/

/-- An option: its name, its letter, the setting that it makes, none for an option that
does not concern the configuration, and whether it takes a value. -/
structure Choice where
  name : String
  letter : Option Char
  setting : Option String
  takesValue : Bool

/-- The options of every command. -/
def commonOptions : List Choice := [
  ⟨"templates-module", some 'm', some "templates_module", true⟩,
  ⟨"templates-variable", none, some "templates_variable", true⟩,
  ⟨"receiver-type", none, some "receiver_type", true⟩,
  ⟨"receiver-module", none, some "receiver_module", true⟩,
  ⟨"verbose", some 'v', none, false⟩,
  ⟨"cwd", none, none, true⟩,
  ⟨"help", none, none, false⟩]

/-- The options of the commands that make a module. -/
def moduleOptions : List Choice := commonOptions ++ [
  ⟨"output-file", none, some "output_file", true⟩,
  ⟨"routes-function", none, some "routes_function", true⟩,
  ⟨"receiver-interface", none, some "receiver_interface", true⟩,
  ⟨"template-data-type", none, some "template_data_type", true⟩,
  ⟨"route-paths-type", none, some "route_paths_type", true⟩,
  ⟨"path-prefix", none, some "path_prefix", false⟩,
  ⟨"logger", none, some "logger", false⟩,
  ⟨"render-errors", none, some "render_errors", false⟩]

/-- The options of an action. -/
def Action.options : Action → List Choice
  | .list => commonOptions
  | _ => moduleOptions

/-- An option with the value it was given. -/
abbrev Given := Choice × String

/-- The options that the letters after a minus sign stand for; the last one may take what
follows as its value, or the next argument, which is then used up. -/
def readLetters (options : List Choice) (next : Option String) :
    List Char → Except Refusal (List Given × Bool)
  | [] => .ok ([], false)
  | c :: cs =>
    match options.find? fun o => o.letter == some c with
    | none => .error .usage
    | some o =>
      if !o.takesValue then do
        let (rest, used) ← readLetters options next cs
        return ((o, "") :: rest, used)
      else if !cs.isEmpty then .ok ([(o, String.ofList cs)], false)
      else match next with
        | some value => .ok ([(o, value)], true)
        | none => .error .usage

/-- The option that a word after two minus signs stands for, with its value in it or as
the next argument, which is then used up. -/
def readWord (options : List Choice) (next : Option String) (word : List Char) :
    Except Refusal (Given × Bool) :=
  let name := String.ofList (word.takeWhile (· != '='))
  let inside := (word.dropWhile (· != '=')).drop 1
  let hasValue := word.contains '='
  match options.find? fun o => o.name == name with
  | none => .error .usage
  | some o =>
    if !o.takesValue then
      if hasValue then .error .usage else .ok ((o, ""), false)
    else if hasValue then .ok ((o, String.ofList inside), false)
    else match next with
      | some value => .ok ((o, value), true)
      | none => .error .usage

/-- The options that arguments give; commands take nothing else.  The bound is the number
of arguments. -/
def readOptions (options : List Choice) : Nat → List String → Except Refusal (List Given)
  | 0, _ => .ok []
  | _, [] => .ok []
  | fuel + 1, arg :: args =>
    match arg.toList with
    | ['-', '-'] => if args.isEmpty then .ok [] else .error .usage
    | '-' :: '-' :: word => do
      let (given, used) ← readWord options args.head? word
      let rest ← readOptions options fuel (if used then args.tail else args)
      return given :: rest
    | '-' :: c :: cs => do
      let (given, used) ← readLetters options args.head? (c :: cs)
      let rest ← readOptions options fuel (if used then args.tail else args)
      return given ++ rest
    | _ => .error .usage

/-- The settings that options make. -/
def settings (given : List Given) : Config.Settings :=
  given.filterMap fun (o, value) => o.setting.map fun name =>
    (name, if o.takesValue then .text value else .flag true)

/-- A command with its options. -/
def ofOptions (action : Action) (args : List String) : Except Refusal Command := do
  let given ← readOptions action.options args.length args
  if given.any fun (o, _) => o.name == "help" then throw .help
  let directory := (given.reverse.find? fun (o, _) => o.name == "cwd").map (·.2)
  match Config.ofSettings (settings given) with
  | .ok config => return ⟨action, config, directory.getD "."⟩
  | .error _ => throw .usage

/-- The arguments without the mark that ends options. -/
def dropMark : List String → List String
  | "--" :: args => args
  | args => args

/-- What a command line asks for. -/
def parse (args : List String) : Except Refusal Command :=
  match dropMark args with
  | "generate" :: rest => ofOptions .generate rest
  | "check" :: rest => ofOptions .check rest
  | "--help" :: _ => .error .help
  | "routes" :: rest =>
    match dropMark rest with
    | "list" :: rest => ofOptions .list rest
    | "--help" :: _ => .error .help
    | _ => .error .usage
  | _ => .error .usage

/-! ### Results -/

/-- Where a command is carried out: what the interpreter says, and how the terminal renders
texts. -/
structure Platform where
  diagnosis : Diagnosis
  render : Terminal.Renderer

/-- An interpreter of few words, and a terminal that does no more than it must. -/
def Platform.plain : Platform := ⟨.brief, .plain⟩

/-- The way a command ends: its code, and what it has printed on the two outputs.  What the
interpreter prints of an error that nothing takes care of is no part of it. -/
structure Result where
  code : Nat
  out : String
  err : String
  deriving DecidableEq, Repr

/-- Lines that end a command well, unless one of them cannot be printed. -/
def printed (platform : Platform) (lines : List String) : Result :=
  match lines.mapM platform.render.print? with
  | some shown => ⟨0, String.join (shown.map (· ++ "\n")), ""⟩
  | none => ⟨1, "", ""⟩

/-- The end of a command that a fault ended. -/
def failed (platform : Platform) (fault : Project.Fault) : Result :=
  let shown := (fault.message? platform.diagnosis).bind fun message =>
    platform.render.print? ("[bold red]error[/bold red]: " ++ message)
  ⟨1, "", match shown with
    | some line => line ++ "\n"
    | none => ""⟩

/-- The headings of the list of routes. -/
def headings : List String :=
  ["PATTERN", "IDENTIFIER", "CALL", "STATUS", "REDIRECT", "FILE"]

/-- The row of a route in the list. -/
def routeRow (e : Endpoint) : List String :=
  let call := match e.signature with
    | some s => s.render
    | none => ""
  [e.definition.pattern, e.ident, call, toString e.definition.label.status,
    if e.redirects then "yes" else "", e.definition.group]

/-- The list of routes. -/
def listed (platform : Platform) (endpoints : List Endpoint) : Result :=
  match endpoints.mapM fun e => (routeRow e).mapM platform.render.print? with
  | some rows =>
    let lines := Terminal.Table.lines ⟨headings, rows⟩
    ⟨0, String.join (lines.map (· ++ "\n")), ""⟩
  | none => ⟨1, "", ""⟩

/-- What a command prints when it went well; `root` is the path of the project. -/
def report (platform : Platform) (root : String) (command : Command)
    (outcome : Project.Outcome) : Result :=
  let path := root ++ "/" ++ outcome.path
  let count := toString outcome.generated.endpoints.length
  match command.action with
  | .generate => printed platform [
      "[bold green]jinjamux[/bold green] generate: " ++ command.config.templatesModule,
      "Routes: [bold]" ++ count ++ "[/bold]",
      if outcome.written then "[bold green]Wrote[/bold green] " ++ path
      else "Unchanged: " ++ path]
  | .check =>
    let late := if outcome.upToDate then []
      else ["[yellow]out of date:[/yellow] " ++ path, "Run `jinjamux generate` to update it."]
    printed platform (["[bold green]ok[/bold green]: " ++ count ++ " routes"] ++ late)
  | .list => listed platform outcome.generated.endpoints

/-- Carries out a command line on a project. -/
def run (root : String) (project : Project) (files : Files) (args : List String)
    (platform : Platform := .plain) : Result × Files :=
  match parse args with
  | .error .usage => (⟨2, "", ""⟩, files)
  | .error .help => (⟨0, "", ""⟩, files)
  | .ok command =>
    match project.run files command.config (command.action == .generate) with
    | .error fault => (failed platform fault, files)
    | .ok (outcome, files) => (report platform root command outcome, files)

end Command

end FragmentRoutes
