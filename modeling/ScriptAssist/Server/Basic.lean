import ScriptAssist.Event
import ScriptAssist.Server.Item
import ScriptAssist.Workspace.Uri

/-!
# The language server

A server holds the configuration that it read last and an engine. Each request is a function of the
server and of the files as they are then. A load that fails keeps the engine; the configuration
stays the new one if only the catalog failed.
-/

namespace ScriptAssist

structure Server where
  root : Option Path := none
  config : Option Config := none
  engine : Engine := {}
  threshold : Option Level := none
  documents : List (Path × Text) := []

inductive Axis
  | line
  | character
  deriving DecidableEq, Repr

def Axis.name : Axis → Text
  | line => "line"
  | character => "character"

structure PositionFault where
  axis : Axis
  value : Int
  deriving DecidableEq, Repr

namespace PositionFault

def maximum : Int := 2147483647

def find? (line column : Int) : Option PositionFault :=
  if line < 0 || maximum < line then some ⟨.line, line⟩
  else if column < 0 || maximum < column then some ⟨.character, column⟩
  else none

def message (fault : PositionFault) : Text :=
  "Position." ++ fault.axis.name ++ " should be in range [0:" ++ Text.ofInt maximum ++
    "], but was " ++ Text.ofInt fault.value ++ "."

end PositionFault

inductive RequestError
  | position (fault : PositionFault)
  | host (fault : HostFault)
  | load (error : LoadError)
  | read (failure : ReadFailure)
  deriving DecidableEq, Repr

def RequestError.message : RequestError → Text
  | position fault => fault.message
  | host fault => fault.message
  | load error => error.message
  | read failure => failure.message

namespace Server

def load (server : Server) (files : Files) : Server × Option LoadError :=
  match server.root with
  | none => (server, none)
  | some root =>
    match Config.load files root with
    | .error error => (server, some error)
    | .ok config =>
      let configured := { server with config := some config, threshold := some config.level }
      match Catalog.load files config.catalogDirectory with
      | .error error => (configured, some error)
      | .ok catalog => ({ configured with engine := ⟨catalog, config.settings⟩ }, none)

def loadEvents (server : Server) (files : Files) : List Event :=
  match server.root with
  | none => []
  | some root =>
    match Config.load files root with
    | .error _ => []
    | .ok config => Catalog.loadEvents files config.catalogDirectory

structure Outcome (α : Type) where
  server : Server
  answer : α
  events : List Event

def shown (server : Server) (events : List Event) : List Event :=
  events.filter (·.passes server.threshold)

/-- A load in which a reported error becomes an event; any other error is the answer. -/
def loadNoting (event : LoadError → Event) (server : Server) (files : Files) :
    Outcome (Except LoadError Bool) :=
  let (loaded, error?) := server.load files
  let events := server.loadEvents files
  match error? with
  | none => ⟨loaded, .ok true, loaded.shown events⟩
  | some error =>
    if error.isReported then ⟨loaded, .ok false, loaded.shown (events ++ [event error])⟩
    else ⟨loaded, .error error, loaded.shown events⟩

/-- The root of a workspace that an editor names, else that of its first folder. -/
def rootUri? (uri : Option Text) (folders : List Text) : Option Text :=
  match uri.getD [] with
  | [] => folders.head?.filter (!·.isEmpty)
  | uri => some uri

def start (server : Server) (files : Files) (uri : Option Text) (folders : List Text) :
    Outcome (Except RequestError Bool) :=
  match (rootUri? uri folders).map Uri.directory with
  | none => ⟨server, .ok true, []⟩
  | some (.error fault) => ⟨server, .error (.host fault), []⟩
  | some (.ok root) =>
    let outcome := { server with root := some root }.loadNoting .loadFailed files
    ⟨outcome.server, outcome.answer.mapError .load, outcome.events⟩

def refresh (server : Server) (files : Files) : Outcome (Except LoadError Bool) :=
  server.loadNoting .reloadFailed files

def openDocument (server : Server) (uri text : Text) : Except HostFault Server := do
  let path ← Uri.document uri
  pure { server with documents := Keyed.put Prod.fst server.documents (path, text) }

/-- The text of a document: as it is open, else as it is in its file. -/
def documentText (server : Server) (files : Files) (uri : Text) : Except RequestError Text :=
  match Uri.document uri with
  | .error fault => .error (.host fault)
  | .ok path =>
    match server.documents.lookup path with
    | some text => .ok text
    | none => (files.readText path).mapError .read

def beforeCursor (text : Text) (line column : Int) : Text :=
  if line < 0 then [] else Text.before (((Text.splitOn '\n' text)[line.toNat]?).getD []) column

def query (text : Text) (line column : Int) (trigger : Option Text) : Query :=
  ⟨some text, line, column, RequestKind.ofTrigger trigger (beforeCursor text line column)⟩

def complete (server : Server) (files : Files) (uri : Text) (line column : Int)
    (trigger : Option Text) : Outcome (Except RequestError (List Item)) :=
  match PositionFault.find? line column with
  | some fault => ⟨server, .error (.position fault), []⟩
  | none =>
    match server.documentText files uri with
    | .error error => ⟨server, .error error, []⟩
    | .ok text =>
      let query := query text line column trigger
      ⟨server, .ok ((server.engine.complete query).map Candidate.item),
        server.shown (server.engine.completionEvents query)⟩

end Server

end ScriptAssist
