import ScriptAssist.Command.Run

/-!
# The command line

The files that a command may read are looked at first; the command itself is a function of them.
-/

namespace ScriptAssist

def observe (path : Path) : IO (Option Entry) := do
  let location := (← IO.currentDir) / String.ofList path.text
  if ← location.isDir then return some .directory
  else if ← location.pathExists then
    let bytes ← IO.FS.readBinFile location
    return some (.file bytes.toList)
  else return none

def learn (files : Files) (path : Path) : IO Files := do
  match ← observe path with
  | some entry => return files.write (Path.climb path.parts) entry
  | none => return files

def learnWorkspace (files : Files) (root : Path) : IO Files := do
  let files ← learn (← learn files root) (root.file Config.fileName)
  match Config.load files root with
  | .error _ => return files
  | .ok config =>
    let directory := config.catalogDirectory
    (Catalog.fileNames.map directory.file).foldlM learn (← learn files directory)

def Command.project? : Command → Option Text
  | .version => none
  | .complete _ _ _ _ project _ => some project
  | .snippets _ project _ => some project
  | .sections _ _ project => some project
  | .check project => some project

def Output.print (output : Output) : IO UInt32 := do
  IO.print (String.ofList output.out)
  IO.eprint (String.ofList output.err)
  return output.code.toUInt32

def runArguments (directory : Path) (arguments : List Text) : IO UInt32 := do
  let paths := arguments.map fun argument => directory.join (Path.ofText argument)
  let files ← paths.foldlM learn {}
  match Command.read files directory arguments with
  | .error .usage =>
    IO.eprintln "Usage: complete FILE LINE COLUMN | snippets | sections FILE | lsp check"
    return 2
  | .error (.unreadable failure) => (Command.unreadable failure).print
  | .ok command =>
    let files ← match command.project? with
      | some project => learnWorkspace files (directory.resolve (Path.ofText project))
      | none => pure files
    (command.run files directory).print

end ScriptAssist

def main (arguments : List String) : IO UInt32 := do
  let directory ← IO.currentDir
  ScriptAssist.runArguments (ScriptAssist.Path.ofText directory.toString.toList)
    (arguments.map String.toList)
