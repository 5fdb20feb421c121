import ScriptAssist.Command.Run
import ScriptAssist.Proofs.FailedReload
import ScriptAssist.Proofs.Locality

/-!
# The server and the command line

The server answers from the text that an editor sends, the command line from the file with its line
breaks unified. On one workspace both have the same engine, so they offer the same completions.
-/

namespace ScriptAssist

theorem Load.loadEngine_eq (load : Load) :
    Command.loadEngine load.files load.root = load.result.map Prod.snd := by
  rw [Command.loadEngine, result]
  cases Config.load load.files load.root with
  | error error => rfl
  | ok config =>
    simp only [bind, Except.bind]
    cases Catalog.load load.files config.catalogDirectory <;> rfl

namespace Server

theorem loadEngine_of_load {server : Server} {files : Files} {root : Path}
    (hRoot : server.root = some root) (hLoad : (server.load files).2 = none) :
    Command.loadEngine files root = .ok (server.load files).1.engine := by
  rw [load_eq, hRoot, Option.map_some, Option.bind_some] at hLoad
  rw [load_eq, hRoot]
  have hSome := (Load.error?_eq_none_iff _).mp hLoad
  obtain ⟨engine, hEngine⟩ := Option.isSome_iff_exists.mp hSome
  obtain ⟨⟨config, read⟩, hResult, rfl⟩ := Option.map_eq_some_iff.mp hEngine
  have hLoaded := Load.loadEngine_eq ⟨files, root⟩
  rw [eq_ok_of_toOption hResult] at hLoaded
  rw [hLoaded]
  simp [adopt, hEngine, Except.map]

theorem beforeCursor_eq {text current : Text} {line : Nat} {column : Int}
    (hLine : (Text.lines text)[line]? = some current) (hColumn : column ≤ current.length) :
    beforeCursor text line column = Text.before current column := by
  rw [Text.lines, List.getElem?_map, Option.map_eq_some_iff] at hLine
  obtain ⟨part, hPart, rfl⟩ := hLine
  rw [Text.before_dropEndWhile hColumn, beforeCursor, if_neg (by omega), Int.toNat_natCast, hPart,
    Option.getD_some]

end Server

namespace Command

theorem run_complete {files : Files} {directory root file : Path} {project text : Text}
    {engine : Engine} (hProject : directory.resolve (Path.ofText project) = root)
    (hNull : '\x00' ∉ project) (hEngine : loadEngine files root = .ok engine)
    (hText : files.readText file = .ok text) (line column : Int) (kind : RequestKind)
    (json : Bool) :
    run files directory (.complete file line column kind project json) =
      runComplete engine text line column kind json := by
  simp [run, withProject, hNull, hProject, withEngine, hEngine, withText, hText]

end Command

namespace Server

/-- The items of the server are the candidates that the command prints, for the kind of request that
the typed character or the line up to the cursor makes. A position beyond the numbers of the
protocol cannot be asked for. -/
theorem complete_eq_command {server : Server} {files : Files} {root : Path}
    (hRoot : server.root = some root) (hLoad : (server.load files).2 = none)
    {directory : Path} {project : Text}
    (hProject : directory.resolve (Path.ofText project) = root) (hNull : '\x00' ∉ project)
    {uri text : Text} (hText : (server.load files).1.documentText files uri = .ok text)
    (hReturns : text.ReturnsBeforeFeeds) {file : Path}
    (hFile : files.readText file = .ok text.unifyNewlines) {line : Nat} {current : Text}
    (hLine : (Text.lines text)[line]? = some current) {column : Nat}
    (hColumn : column ≤ current.length) (trigger : Option Text) (json : Bool) :
    let kind := RequestKind.ofTrigger trigger (current.take column)
    (query text line column trigger).kind = kind ∧
    ∃ engine, Command.loadEngine files root = .ok engine ∧
      let candidates :=
        Command.candidatesAt engine text.unifyNewlines (line + 1) (column + 1) kind
      Command.run files directory (.complete file (line + 1) (column + 1) kind project json) =
        Command.runComplete engine text.unifyNewlines (line + 1) (column + 1) kind json ∧
      Command.run files directory (.complete file (line + 1) (column + 1) kind project true) =
        Command.printingJson (candidates.map Command.candidateJson) ∧
      ((server.load files).1.complete files uri line column trigger).answer =
        match PositionFault.find? line column with
        | some fault => .error (.position fault)
        | none => .ok (candidates.map Candidate.item) := by
  intro kind
  have hBefore : beforeCursor text line column = current.take column :=
    beforeCursor_eq hLine (by omega)
  have hKind : (query text line column trigger).kind = kind := by
    rw [query, hBefore]
  have hEngine := loadEngine_of_load hRoot hLoad
  have hRun := Command.run_complete hProject hNull hEngine hFile (line + 1) (column + 1) kind
  refine ⟨hKind, _, hEngine, hRun json, hRun true, ?_⟩
  have hLines := Text.lines_unifyNewlines hReturns
  have hCandidates : (server.load files).1.engine.complete (query text line column trigger) =
      Command.candidatesAt (server.load files).1.engine text.unifyNewlines (line + 1) (column + 1)
        kind := by
    have hQuery : query text line column trigger = ⟨some text, line, column, kind⟩ :=
      congrArg (Query.mk (some text) line column) hKind
    rw [hQuery, Command.candidatesAt, Int.add_sub_cancel, Int.add_sub_cancel]
    exact Engine.complete_congr _ (by rw [hLines]) column fun _ => hLines.symm
  rw [complete_answer, Engine.itemsAt, hText]
  cases PositionFault.find? line column with
  | some fault => rfl
  | none =>
    simp only [Except.map]
    rw [hCandidates]

theorem complete_eq_command_with_returns :
    let text : Text := "[test-actions]\r\n1. click --\r\n"
    let actions : Text := Json.compact
      (.list [.object [("key", .text "Click"),
        ("entity", .object [("cliArguments", .object [("wait", .int 1)])])]])
    let files : Files :=
      ⟨[(["w", ".rhino", "manifests.json"], .file (Text.Utf8.encode actions)),
        (["w", "script"], .file (Text.Utf8.encode text))]⟩
    let root : Path := ⟨1, ["w"]⟩
    let script : Path := ⟨1, ["w", "script"]⟩
    let server : Server := { root := some root, documents := [(script, text)] }
    let answer := ((server.load files).1.complete files "file:///w/script" 1 11 none).answer
    (answer.toOption.map fun items => items.map Item.label) = some ["wait".toList] ∧
      ∃ engine, Command.loadEngine files root = .ok engine ∧
        Command.run files root (.complete script 2 12 .parameter "." true) =
          Command.printingJson ((Command.candidatesAt engine text.unifyNewlines 2 12
            .parameter).map Command.candidateJson) ∧
        answer = .ok ((Command.candidatesAt engine text.unifyNewlines 2 12 .parameter).map
          Candidate.item) := by
  intro text actions files root script server answer
  have hRun : (server.load files).2 = none ∧
      ((server.load files).1.documentText files "file:///w/script").toOption = some text ∧
      (files.readText script).toOption = some text.unifyNewlines ∧
      (answer.toOption.map fun items => items.map Item.label) = some ["wait".toList] := by
    decide +kernel
  obtain ⟨hLoad, hText, hFile, hLabels⟩ := hRun
  have hReturns : text.ReturnsBeforeFeeds := by decide +kernel
  have hLine : (Text.lines text)[1]? = some "1. click --".toList := by decide +kernel
  have hProject : root.resolve (Path.ofText ['.']) = root := by decide
  have hKind : RequestKind.ofTrigger none ("1. click --".toList.take 11) = .parameter := by decide
  have hFault : PositionFault.find? (1 : Nat) (11 : Nat) = none := by decide
  have hAgree := complete_eq_command rfl hLoad hProject (by decide) (eq_ok_of_toOption hText)
    hReturns (eq_ok_of_toOption hFile) hLine (show 11 ≤ _ by decide) none true
  obtain ⟨-, engine, hEngine, -, hCommand, hAnswer⟩ := hAgree
  rw [hKind] at hCommand hAnswer
  rw [hFault] at hAnswer
  exact ⟨hLabels, engine, hEngine, hCommand, hAnswer⟩

end Server

end ScriptAssist
