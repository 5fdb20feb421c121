import ScriptAssist.Json.Printer
import ScriptAssist.Server.Basic

/-!
# Sessions of a server

A session is a list of calls; each call meets the files as they are then. What a server holds after
a session is said by the loads of the session alone: its engine is the one of the last load that was
completed, and its configuration the one that was read last. So completions never come from a load
that failed.
-/

namespace ScriptAssist

inductive Request
  | start (uri : Option Text) (folders : List Text)
  | refresh
  | openDocument (uri text : Text)
  | complete (uri : Text) (line column : Int) (trigger : Option Text)
  deriving DecidableEq, Repr

inductive Answer
  | started (result : Except RequestError Bool)
  | refreshed (result : Except LoadError Bool)
  | opened (result : Except HostFault Unit)
  | completed (result : Except RequestError (List Item))

namespace Answer

def isFailedLoad : Answer → Bool
  | started (.ok loaded) => !loaded
  | started (.error (.load _)) => true
  | refreshed (.ok loaded) => !loaded
  | refreshed (.error _) => true
  | _ => false

theorem isFailedLoad_started_iff (result : Except LoadError Bool) :
    (started (result.mapError .load)).isFailedLoad = true ↔ result ≠ .ok true := by
  rcases result with error | _ | _
  · exact iff_of_true rfl (by simp)
  · exact iff_of_true rfl (by simp)
  · exact iff_of_false Bool.false_ne_true (by simp)

theorem isFailedLoad_refreshed_iff (result : Except LoadError Bool) :
    (refreshed result).isFailedLoad = true ↔ result ≠ .ok true := by
  rcases result with error | _ | _ <;> simp [isFailedLoad]

end Answer

structure Call where
  files : Files
  request : Request

namespace Server

def handle (server : Server) (call : Call) : Server × Answer :=
  match call.request with
  | .start uri folders =>
    let outcome := server.start call.files uri folders
    (outcome.server, .started outcome.answer)
  | .refresh =>
    let outcome := server.refresh call.files
    (outcome.server, .refreshed outcome.answer)
  | .openDocument uri text =>
    match server.openDocument uri text with
    | .ok opened => (opened, .opened (.ok ()))
    | .error fault => (server, .opened (.error fault))
  | .complete uri line column trigger =>
    let outcome := server.complete call.files uri line column trigger
    (outcome.server, .completed outcome.answer)

def after (server : Server) : List Call → Server
  | [] => server
  | call :: rest => (server.handle call).1.after rest

def answers (server : Server) : List Call → List Answer
  | [] => []
  | call :: rest => (server.handle call).2 :: (server.handle call).1.answers rest

theorem after_append (server : Server) (history later : List Call) :
    server.after (history ++ later) = (server.after history).after later := by
  induction history generalizing server with
  | nil => rfl
  | cons call rest ih => exact ih _

theorem answers_append (server : Server) (history later : List Call) :
    server.answers (history ++ later) =
      server.answers history ++ (server.after history).answers later := by
  induction history generalizing server with
  | nil => rfl
  | cons call rest ih => exact congrArg _ (ih _)

theorem length_answers (server : Server) (history : List Call) :
    (server.answers history).length = history.length := by
  induction history generalizing server with
  | nil => rfl
  | cons call rest ih => exact congrArg Nat.succ (ih _)

theorem getElem?_answers (server : Server) (history : List Call) (call : Call)
    (later : List Call) :
    (server.answers (history ++ call :: later))[history.length]? =
      some ((server.after history).handle call).2 := by
  rw [answers_append, ← length_answers server history, List.getElem?_append_right (Nat.le_refl _)]
  simp [answers]

end Server

structure Load where
  files : Files
  root : Path

namespace Load

/-- The configuration is read first; it says where the catalog is. -/
def result (load : Load) : Except LoadError (Config × Engine) := do
  let config ← Config.load load.files load.root
  let catalog ← Catalog.load load.files config.catalogDirectory
  pure (config, ⟨catalog, config.settings⟩)

def config? (load : Load) : Option Config :=
  (Config.load load.files load.root).toOption

def result? (load : Load) : Option (Config × Engine) :=
  load.result.toOption

def engine? (load : Load) : Option Engine :=
  load.result?.map Prod.snd

def error? (load : Load) : Option LoadError :=
  match load.result with
  | .ok _ => none
  | .error error => some error

theorem error?_eq_none_iff (load : Load) : load.error? = none ↔ load.engine?.isSome := by
  rw [error?, engine?, result?]
  cases load.result <;> simp [Except.toOption]

end Load

namespace Call

def root? (call : Call) : Option Path :=
  match call.request with
  | .start uri folders => (Server.rootUri? uri folders).bind (Uri.directory · |>.toOption)
  | _ => none

def load? (call : Call) (root : Option Path) : Option Load :=
  match call.request with
  | .start _ _ => call.root?.map (Load.mk call.files)
  | .refresh => root.map (Load.mk call.files)
  | _ => none

theorem load?_of_ne_refresh {call : Call} (h : call.request ≠ .refresh) (a b : Option Path) :
    call.load? a = call.load? b := by
  obtain ⟨files, request⟩ := call
  cases request with
  | refresh => exact absurd rfl h
  | start uri folders => rfl
  | openDocument uri text => rfl
  | complete uri line column trigger => rfl

def document? (call : Call) : Option (Path × Text) :=
  match call.request with
  | .openDocument uri text => (Uri.document uri).toOption.map (·, text)
  | _ => none

theorem document?_of_load?_eq_some {call : Call} {root : Option Path} {load : Load}
    (h : call.load? root = some load) : call.document? = none := by
  obtain ⟨files, request⟩ := call
  cases request with
  | openDocument uri text => cases h
  | start uri folders => rfl
  | refresh => rfl
  | complete uri line column trigger => rfl

end Call

def loads (root : Option Path) : List Call → List Load
  | [] => []
  | call :: rest => (call.load? root).toList ++ loads (call.root?.or root) rest

/-- The last of what the reads of a session gave. -/
def lastRead? {α : Type} (part : Load → Option α) (root : Option Path) (history : List Call) :
    Option α :=
  ((loads root history).filterMap part).getLast?

theorem lastRead?_cons {α : Type} (part : Load → Option α) (root : Option Path) (call : Call)
    (rest : List Call) :
    lastRead? part root (call :: rest) =
      (lastRead? part (call.root?.or root) rest).or ((call.load? root).bind part) := by
  have hFirst : ((call.load? root).toList.filterMap part).getLast? =
      (call.load? root).bind part := by
    rcases call.load? root with _ | load
    · rfl
    · cases hPart : part load <;> simp [hPart]
  rw [lastRead?, loads, List.filterMap_append, List.getLast?_append, hFirst, lastRead?]

def openDocuments (history : List Call) : List (Path × Text) :=
  (history.filterMap Call.document?).foldl (Keyed.put Prod.fst) []

def Engine.itemsAt (engine : Engine) (document : Except RequestError Text) (line column : Int)
    (trigger : Option Text) : Except RequestError (List Item) :=
  match PositionFault.find? line column with
  | some fault => .error (.position fault)
  | none => document.map fun text =>
    (engine.complete (Server.query text line column trigger)).map Candidate.item

namespace Server

def adopt (server : Server) (load : Option Load) : Server :=
  { server with
    config := (load.bind Load.config?).or server.config
    engine := (load.bind Load.engine?).getD server.engine
    threshold := ((load.bind Load.config?).map Config.level).or server.threshold }

/-- What a load does, and why it fails, is up to the root and the files. -/
theorem load_eq (server : Server) (files : Files) :
    server.load files =
      (server.adopt (server.root.map (Load.mk files)),
        (server.root.map (Load.mk files)).bind Load.error?) := by
  obtain ⟨root?, held, engine, threshold, documents⟩ := server
  cases root? with
  | none => rfl
  | some root =>
    simp only [load, adopt, Option.map_some, Option.bind_some, Load.error?, Load.engine?,
      Load.result?, Load.config?, Load.result]
    cases Config.load files root with
    | error error => rfl
    | ok config =>
      dsimp only [bind, Except.bind]
      cases Catalog.load files config.catalogDirectory <;> rfl

theorem loadNoting_server (event : LoadError → Event) (server : Server) (files : Files) :
    (server.loadNoting event files).server = server.adopt (server.root.map (Load.mk files)) := by
  rw [loadNoting, load_eq]
  rcases (server.root.map (Load.mk files)).bind Load.error? with _ | error
  · rfl
  · dsimp only
    split <;> rfl

theorem loadNoting_answer (event : LoadError → Event) (server : Server) (files : Files) :
    (server.loadNoting event files).answer =
      match (server.root.map (Load.mk files)).bind Load.error? with
      | none => .ok true
      | some error => if error.isReported then .ok false else .error error := by
  rw [loadNoting, load_eq]
  rcases (server.root.map (Load.mk files)).bind Load.error? with _ | error
  · rfl
  · dsimp only
    split <;> rfl

theorem loadNoting_answer_ne_true_iff (event : LoadError → Event) (server : Server)
    (files : Files) :
    (server.loadNoting event files).answer ≠ .ok true ↔
      ∃ load, server.root.map (Load.mk files) = some load ∧ load.engine? = none := by
  rw [loadNoting_answer]
  rcases server.root.map (Load.mk files) with _ | load
  · simp
  · have hError := load.error?_eq_none_iff
    rw [Option.bind_some]
    cases hLoad : load.error? with
    | none => simpa [hLoad, Option.isSome_iff_ne_none] using hError
    | some error =>
      have hNone : load.engine? = none := by simpa [hLoad] using hError
      dsimp only
      split <;> simp [hNone]

theorem start_server (server : Server) (files : Files) (uri : Option Text)
    (folders : List Text) :
    (server.start files uri folders).server =
      let call : Call := ⟨files, .start uri folders⟩
      { server with root := call.root?.or server.root }.adopt (call.load? server.root) := by
  simp only [start, Call.root?, Call.load?]
  rcases rootUri? uri folders with _ | uri
  · rfl
  · simp only [Option.map_some, Option.bind_some]
    rcases Uri.directory uri with fault | root
    · rfl
    · simp only [loadNoting_server]
      rfl

theorem handle_fst (server : Server) (call : Call) :
    (server.handle call).1 =
      { { server with root := call.root?.or server.root }.adopt (call.load? server.root) with
        documents := call.document?.toList.foldl (Keyed.put Prod.fst) server.documents } := by
  obtain ⟨files, request⟩ := call
  cases request with
  | start uri folders => exact start_server server files uri folders
  | refresh =>
    simp only [handle, refresh, loadNoting_server]
    rfl
  | openDocument uri text =>
    simp only [handle, openDocument, Call.document?]
    cases Uri.document uri <;> rfl
  | complete uri line column trigger =>
    simp only [handle, complete]
    cases PositionFault.find? line column with
    | some fault => rfl
    | none => cases server.documentText files uri <;> rfl

theorem engine_after (server : Server) (history : List Call) :
    (server.after history).engine =
      (lastRead? Load.engine? server.root history).getD server.engine := by
  induction history generalizing server with
  | nil => rfl
  | cons call rest ih =>
    rw [after, ih, handle_fst, lastRead?_cons, Option.getD_or]
    rfl

theorem config_after (server : Server) (history : List Call) :
    (server.after history).config =
      (lastRead? Load.config? server.root history).or server.config := by
  induction history generalizing server with
  | nil => rfl
  | cons call rest ih =>
    rw [after, ih, handle_fst, lastRead?_cons, Option.or_assoc]
    rfl

theorem documents_after (server : Server) (history : List Call) :
    (server.after history).documents =
      (history.filterMap Call.document?).foldl (Keyed.put Prod.fst) server.documents := by
  induction history generalizing server with
  | nil => rfl
  | cons call rest ih =>
    rw [after, ih, handle_fst]
    cases hDocument : call.document? <;> simp [hDocument]

theorem isFailedLoad_iff (server : Server) (call : Call) :
    (server.handle call).2.isFailedLoad = true ↔
      ∃ load, call.load? server.root = some load ∧ load.engine? = none := by
  obtain ⟨files, request⟩ := call
  cases request with
  | start uri folders =>
    simp only [handle, start, Call.load?, Call.root?]
    rcases rootUri? uri folders with _ | uri
    · simp [Answer.isFailedLoad]
    · simp only [Option.map_some, Option.bind_some]
      rcases Uri.directory uri with fault | root
      · simp [Answer.isFailedLoad, Except.toOption]
      · rw [Answer.isFailedLoad_started_iff, loadNoting_answer_ne_true_iff]
        rfl
  | refresh =>
    simp only [handle, refresh]
    rw [Answer.isFailedLoad_refreshed_iff, loadNoting_answer_ne_true_iff]
    rfl
  | openDocument uri text =>
    simp only [handle, Call.load?]
    cases server.openDocument uri text <;> simp [Answer.isFailedLoad]
  | complete uri line column trigger => simp [handle, Call.load?, Answer.isFailedLoad]

theorem complete_answer (server : Server) (files : Files) (uri : Text) (line column : Int)
    (trigger : Option Text) :
    (server.complete files uri line column trigger).answer =
      server.engine.itemsAt (server.documentText files uri) line column trigger := by
  rw [complete, Engine.itemsAt]
  cases PositionFault.find? line column with
  | some fault => rfl
  | none => cases server.documentText files uri <;> rfl

/-- Servers with the same engine and documents answer alike. Only a refresh asks for the root. -/
theorem handle_snd_congr {a b : Server} (hEngine : a.engine = b.engine)
    (hDocuments : a.documents = b.documents) {call : Call}
    (hRoot : a.root = b.root ∨ call.request ≠ .refresh) :
    (a.handle call).2 = (b.handle call).2 := by
  obtain ⟨files, request⟩ := call
  cases request with
  | start uri folders =>
    simp only [handle, start]
    rcases (rootUri? uri folders).map Uri.directory with _ | fault | root
    · rfl
    · rfl
    · simp only [loadNoting_answer]
  | refresh =>
    have hSame := hRoot.resolve_right (fun h => h rfl)
    simp only [handle, refresh, loadNoting_answer, hSame]
  | openDocument uri text =>
    simp only [handle, openDocument]
    cases Uri.document uri <;> rfl
  | complete uri line column trigger =>
    simp only [handle, complete_answer, documentText, hEngine, hDocuments]

theorem answers_congr {a b : Server} (hEngine : a.engine = b.engine)
    (hDocuments : a.documents = b.documents) {later : List Call}
    (hRoot : a.root = b.root ∨ ∀ call ∈ later, call.request ≠ .refresh) :
    a.answers later = b.answers later := by
  induction later generalizing a b with
  | nil => rfl
  | cons call rest ih =>
    have hFirst : a.root = b.root ∨ call.request ≠ .refresh :=
      hRoot.imp_right fun h => h call List.mem_cons_self
    have hLoad : call.load? a.root = call.load? b.root := by
      rcases hFirst with hSame | hOther
      · rw [hSame]
      · exact Call.load?_of_ne_refresh hOther _ _
    rw [answers, answers, handle_snd_congr hEngine hDocuments hFirst]
    congr 1
    apply ih
    · rw [handle_fst, handle_fst]
      simp only [adopt, hLoad, hEngine]
    · rw [handle_fst, handle_fst, hDocuments]
    · rw [handle_fst, handle_fst]
      refine hRoot.imp (fun hSame => ?_) fun h next hNext => h next (List.mem_cons_of_mem _ hNext)
      simp only [adopt, hSame]

theorem answers_after_failed_load {server : Server} {call : Call} {later : List Call}
    (hFailed : (server.handle call).2.isFailedLoad)
    (hRoot : (server.handle call).1.root = server.root ∨
      ∀ next ∈ later, next.request ≠ .refresh) :
    (server.handle call).1.answers later = server.answers later := by
  obtain ⟨load, hLoad, hNone⟩ := (isFailedLoad_iff _ _).mp hFailed
  apply answers_congr _ _ hRoot
  · rw [handle_fst]
    simp [adopt, hLoad, hNone]
  · rw [handle_fst, Call.document?_of_load?_eq_some hLoad]
    rfl

/-- Each completion comes from the engine of the last load that was completed, or from the empty one
if there was none. A load that fails changes no answer after it, as long as the workspace is not
read again in another directory. -/
theorem completions_from_last_load (history : List Call) :
    (∀ files uri line column trigger later,
      (answers {}
          (history ++ ⟨files, .complete uri line column trigger⟩ :: later))[history.length]? =
        some (.completed (((lastRead? Load.engine? none history).getD {}).itemsAt
          (documentText { documents := openDocuments history } files uri) line column trigger))) ∧
    ∀ call later, ((after {} history).handle call).2.isFailedLoad →
      (((after {} history).handle call).1.root = (after {} history).root ∨
        ∀ next ∈ later, next.request ≠ .refresh) →
      (after {} (history ++ [call])).answers later = (after {} history).answers later := by
  constructor
  · intro files uri line column trigger later
    rw [getElem?_answers]
    have hEngine := engine_after {} history
    have hDocuments := documents_after {} history
    simp only [handle, complete_answer, documentText, hEngine, hDocuments, openDocuments]
  · intro call later hFailed hRoot
    rw [after_append]
    exact answers_after_failed_load hFailed hRoot

theorem completion_after_broken_catalog :
    let workspace (actions : Text) : Files :=
      ⟨[(["w", ".rhino", "manifests.json"], .file (Text.Utf8.encode actions))]⟩
    let history : List Call :=
      [⟨workspace (Json.compact (.list [.object [("key", .text "Click")]])),
          .start (some "file:///w") []⟩,
        ⟨workspace "", .openDocument "file:///w/script" "[test-actions]\n1. "⟩]
    let broken : Call := ⟨workspace ['[', '{'], .refresh⟩
    let ask : Call := ⟨workspace "", .complete "file:///w/script" 1 3 none⟩
    ((after {} history).handle broken).2.isFailedLoad = true ∧
      ((lastRead? Load.engine? none (history ++ [broken])).map fun engine =>
        engine.catalog.actions.map Action.key) = some ["Click".toList] ∧
      (after {} (history ++ [broken])).answers [ask] = (after {} history).answers [ask] := by
  intro workspace history broken ask
  have hFailed : ((after {} history).handle broken).2.isFailedLoad = true := by decide +kernel
  refine ⟨hFailed, by decide +kernel, ?_⟩
  exact (completions_from_last_load history).2 broken [ask] hFailed (.inr (by simp [ask]))

end Server

end ScriptAssist
