import ScriptAssist.Text.Basic
import ScriptAssist.Text.Printable
import ScriptAssist.Text.Utf8
import ScriptAssist.Workspace.Path

/-!
# Files of a workspace

The files that the program can see, as a value. Directories are those that are listed and those that
lead to something listed.
-/

namespace ScriptAssist

inductive Entry
  | file (bytes : List UInt8)
  | directory
  deriving DecidableEq, Repr

structure Files where
  entries : List (List Text × Entry) := []

inductive PathFault
  | missing
  | notDirectory
  | nameTooLong
  | nullCharacter
  deriving DecidableEq, Repr

inductive ReadFailure
  | lost (fault : PathFault) (path : Text)
  | isDirectory (path : Text)
  | notUtf8
  deriving DecidableEq, Repr

namespace Files

def entryAt? (files : Files) (steps : List Text) : Option Entry :=
  match files.entries.lookup steps with
  | some entry => some entry
  | none =>
    if steps.isEmpty || files.entries.any (fun entry => steps.isPrefixOf entry.1) then
      some .directory
    else none

def maxNameBytes : Nat := 255

def maxPathBytes : Nat := 4096

def walk (files : Files) (done : List Text) : List Text → Except PathFault Entry
  | [] =>
    match files.entryAt? done with
    | some entry => .ok entry
    | none => .error .missing
  | step :: rest =>
    match files.entryAt? done with
    | none => .error .missing
    | some (.file _) => .error .notDirectory
    | some .directory =>
      if Path.isParentStep step then walk files done.dropLast rest
      else if maxNameBytes < (Text.Utf8.encode step).length then .error .nameTooLong
      else walk files (done ++ [step]) rest

def look (files : Files) (path : Path) : Except PathFault Entry :=
  if path.text.contains '\x00' then .error .nullCharacter
  else if maxPathBytes ≤ (Text.Utf8.encode path.text).length then .error .nameTooLong
  else (if path.isAbsolute then files else {}).walk [] path.parts

/-- What is at a path, if there is something. Only a name that is too long is a failure. -/
def find (files : Files) (path : Path) : Except ReadFailure (Option Entry) :=
  match files.look path with
  | .ok entry => .ok (some entry)
  | .error .nameTooLong => .error (.lost .nameTooLong path.text)
  | .error _ => .ok none

def readText (files : Files) (path : Path) : Except ReadFailure Text :=
  match files.look path with
  | .error fault => .error (.lost fault path.text)
  | .ok .directory => .error (.isDirectory path.text)
  | .ok (.file bytes) =>
    match Text.Utf8.decode? bytes with
    | some text => .ok (Text.unifyNewlines text)
    | none => .error .notUtf8

def write (files : Files) (steps : List Text) (entry : Entry) : Files :=
  ⟨(steps, entry) :: files.entries.filter (·.1 != steps)⟩

/-- Takes an entry away, with all that is below it. The directory it was in stays. -/
def remove (files : Files) (steps : List Text) : Files :=
  ⟨(steps.dropLast, .directory) ::
    files.entries.filter fun entry => !steps.isPrefixOf entry.1 && entry.1 != steps.dropLast⟩

end Files

def PathFault.message (path : Text) : PathFault → Text
  | missing => "[Errno 2] No such file or directory: " ++ Text.quoted path
  | notDirectory => "[Errno 20] Not a directory: " ++ Text.quoted path
  | nameTooLong => "[Errno 36] File name too long: " ++ Text.quoted path
  | nullCharacter => "embedded null byte"

def ReadFailure.message : ReadFailure → Text
  | lost fault path => fault.message path
  | isDirectory path => "[Errno 21] Is a directory: " ++ Text.quoted path
  | notUtf8 => []

end ScriptAssist
