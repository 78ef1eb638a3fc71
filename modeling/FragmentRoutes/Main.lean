/-
  The program.

  A module of the application is a source file below the directory that is worked in, and
  the templates that a variable of it stands for are the files of the folder of that name
  next to the source file.  Nothing else is known of the application, so every call in a
  label is required of the receiver.
-/
import FragmentRoutes.Command

open FragmentRoutes

/-- The text files in a folder and below it; `inner` is the path to them so far. -/
partial def textFiles (folder inner : String) : IO (List TextFile) := do
  let mut found := []
  for entry in ← (← IO.FS.realPath folder).readDir do
    let path := folder ++ "/" ++ entry.fileName
    let name := inner ++ entry.fileName
    if ← (← IO.FS.realPath path).isDir then
      found := found ++ (← textFiles path (name ++ "/"))
    else if let some text := String.fromUTF8? (← IO.FS.readBinFile path) then
      found := found ++ [⟨name, text⟩]
  return found

/-- The folder is there. -/
def isFolder (path : String) : IO Bool := do
  try
    (← IO.FS.realPath path).isDir
  catch _ => return false

/-- The text of a file, when it is there. -/
def readText? (path : String) : IO (Option String) := do
  try
    return some (← IO.FS.readFile path)
  catch _ => return none

/-- The project that a command works on. -/
def projectOf (command : Command) : IO Project := do
  let name := command.config.templatesModule
  let path := command.directory ++ "/" ++ "/".intercalate (name.splitOn ".")
  let source ← readText? (path ++ ".py")
  if source.isNone then return ⟨[], []⟩
  let parts := path.splitOn "/"
  let folder := "/".intercalate (parts.dropLast ++ [command.config.templatesVariable])
  let files ← if ← isFolder folder then textFiles folder "" else pure []
  let item := Project.Item.folder folder Folder.defaultPatterns files false
  return ⟨[], [⟨name, true, [(command.config.templatesVariable, item)]⟩]⟩

/-- The file that a command writes to, when it is there. -/
def outputOf (command : Command) : IO Files := do
  let parts := (command.config.templatesModule.splitOn ".").dropLast
  let path := "/".intercalate (parts ++ [command.config.outputFile])
  match ← readText? (command.directory ++ "/" ++ path) with
  | some text => return [(path, text)]
  | none => return []

/-- Prints the way a command ended, and gives its code. -/
def finish (result : Command.Result) : IO UInt32 := do
  IO.print result.out
  IO.eprint result.err
  return result.code.toUInt32

/-- Carries out a command line. -/
def main (args : List String) : IO UInt32 := do
  match Command.parse args with
  | .error _ => finish (Command.run "" ⟨[], []⟩ [] args).1
  | .ok command =>
    let project ← projectOf command
    let files ← outputOf command
    let (result, written) := Command.run command.directory project files args
    for (path, text) in written do
      if files.lookup path != some text then
        IO.FS.writeFile (command.directory ++ "/" ++ path) text
    finish result
