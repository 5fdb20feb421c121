import ScriptAssist.Command.Arguments
import ScriptAssist.Engine.Mode
import ScriptAssist.Text.Digits
import ScriptAssist.Workspace.Files

/-!
# Commands

What the command line can ask for. Arguments that do not make a command are refused.
-/

namespace ScriptAssist

inductive Command
  | version
  | complete (file : Path) (line column : Int) (kind : RequestKind) (project : Text) (json : Bool)
  | snippets (action : Option Text) (project : Text) (json : Bool)
  | sections (file : Path) (heading project : Text)
  | check (project : Text)
  deriving DecidableEq, Repr

namespace Command

def projectSwitch : Switch := { long := "--project", short := some 'p' }
def jsonSwitch : Switch := { long := "--json", takesValue := false }
def kindSwitch : Switch := { long := "--kind", short := some 'k' }
def actionSwitch : Switch := { long := "--action", short := some 'a' }
def headingSwitch : Switch := { long := "--annotation", short := some 'n' }
def versionSwitch : Switch := { long := "--version", short := some 'v', takesValue := false }

def mixedArguments (switches : List Switch) (arguments : List Text) : Option Arguments :=
  readArguments switches true (arguments.length + 1) arguments

def project (arguments : Arguments) : Text :=
  (arguments.value? projectSwitch.long).getD ['.']

inductive Rejection
  | usage
  | unreadable (failure : ReadFailure)
  deriving DecidableEq, Repr

def given {α : Type} : Option α → Except Rejection α
  | some value => .ok value
  | none => .error .usage

def readFile (files : Files) (directory : Path) (text : Text) : Except Rejection Path :=
  let path := directory.join (Path.ofText text)
  match files.find path with
  | .error failure => .error (.unreadable failure)
  | .ok (some (.file _)) => .ok path
  | .ok _ => .error .usage

def readPosition? (text : Text) : Option Int :=
  ((Text.readNat? text).filter (1 ≤ ·)).map Int.ofNat

def readKind? (arguments : Arguments) : Option RequestKind :=
  match arguments.value? kindSwitch.long with
  | none => some .action
  | some name => RequestKind.ofName? name

def readComplete (files : Files) (directory : Path) (arguments : List Text) :
    Except Rejection Command := do
  let arguments ← given (mixedArguments [kindSwitch, projectSwitch, jsonSwitch] arguments)
  match arguments.plain with
  | [file, line, column] =>
    let file ← readFile files directory file
    let line ← given (readPosition? line)
    let column ← given (readPosition? column)
    let kind ← given (readKind? arguments)
    pure (.complete file line column kind (project arguments) (arguments.has jsonSwitch.long))
  | _ => .error .usage

def readSnippets (arguments : List Text) : Except Rejection Command := do
  let arguments ← given (mixedArguments [actionSwitch, projectSwitch, jsonSwitch] arguments)
  match arguments.plain with
  | [] =>
    pure (.snippets (arguments.value? actionSwitch.long) (project arguments)
      (arguments.has jsonSwitch.long))
  | _ => .error .usage

def readSections (files : Files) (directory : Path) (arguments : List Text) :
    Except Rejection Command := do
  let arguments ← given (mixedArguments [headingSwitch, projectSwitch] arguments)
  match arguments.plain with
  | [file] =>
    let file ← readFile files directory file
    let heading := (arguments.value? headingSwitch.long).getD "test-actions"
    pure (.sections file heading (project arguments))
  | _ => .error .usage

def readCheck (arguments : List Text) : Except Rejection Command := do
  let arguments ← given (mixedArguments [projectSwitch] arguments)
  match arguments.plain with
  | [] => pure (.check (project arguments))
  | _ => .error .usage

def readServer (arguments : List Text) : Except Rejection Command := do
  let arguments ← given (readArguments [] false (arguments.length + 1) arguments)
  match arguments.plain with
  | name :: rest => if name = "check" then readCheck rest else .error .usage
  | [] => .error .usage

def read (files : Files) (directory : Path) (arguments : List Text) :
    Except Rejection Command := do
  let arguments ← given (readArguments [versionSwitch] false (arguments.length + 1) arguments)
  if arguments.has versionSwitch.long then pure .version
  else
    match arguments.plain with
    | name :: rest =>
      if name = "complete" then readComplete files directory rest
      else if name = "snippets" then readSnippets rest
      else if name = "sections" then readSections files directory rest
      else if name = "lsp" then readServer rest
      else .error .usage
    | [] => .error .usage

end Command

end ScriptAssist
