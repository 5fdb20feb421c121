import ScriptAssist.Proofs.Session

/-!
# Reloads that fail

A reload that fails keeps the engine. It keeps the configuration only if the new one cannot be read
or is the one that is held: a catalog that cannot be read leaves the new configuration beside the
old engine. So what is held goes together exactly where the last configuration that was read is the
one of the last completed load.
-/

namespace ScriptAssist

theorem eq_ok_of_toOption {ε α : Type} {result : Except ε α} {value : α}
    (h : result.toOption = some value) : result = .ok value := by
  cases result with
  | error error => cases h
  | ok other =>
    cases h
    rfl

theorem Load.settings_eq {load : Load} {config : Config} {engine : Engine}
    (h : load.result? = some (config, engine)) : engine.settings = config.settings := by
  have hResult := eq_ok_of_toOption h
  rw [result] at hResult
  cases hConfig : Config.load load.files load.root with
  | error error => simp [hConfig, bind, Except.bind] at hResult
  | ok read =>
    cases hCatalog : Catalog.load load.files read.catalogDirectory with
    | error error => simp [hConfig, hCatalog, bind, Except.bind] at hResult
    | ok catalog =>
      simp only [hConfig, hCatalog, bind, Except.bind] at hResult
      cases hResult
      rfl

theorem exists_load_of_lastRead? {α : Type} {part : Load → Option α} {root : Option Path}
    {history : List Call} {result : α} (h : lastRead? part root history = some result) :
    ∃ load ∈ loads root history, part load = some result :=
  List.mem_filterMap.mp (List.mem_of_getLast? h)

theorem lastRead?_engine (root : Option Path) (history : List Call) :
    lastRead? Load.engine? root history =
      (lastRead? Load.result? root history).map Prod.snd := by
  have hEngine : Load.engine? = fun load => load.result?.map Prod.snd := rfl
  rw [lastRead?, lastRead?, hEngine, ← List.getLast?_map, List.map_filterMap]

namespace Server

theorem after_refresh (server : Server) (files : Files) :
    server.after [⟨files, .refresh⟩] = (server.refresh files).server :=
  rfl

theorem refresh_server (server : Server) (files : Files) :
    (server.refresh files).server = server.adopt (server.root.map (Load.mk files)) := by
  rw [refresh, loadNoting_server]

theorem config_refresh_eq_iff (server : Server) (files : Files) :
    (server.refresh files).server.config = server.config ↔
      ∀ root config, server.root = some root → Config.load files root = .ok config →
        server.config = some config := by
  rw [refresh_server]
  constructor
  · intro hKept root config hRoot hConfig
    rw [← hKept]
    simp [adopt, Load.config?, hRoot, hConfig, Except.toOption]
  · intro hSame
    rcases hRoot : server.root with _ | root
    · rfl
    · cases hConfig : Config.load files root with
      | error error => simp [adopt, Load.config?, hConfig, Except.toOption]
      | ok config =>
        simp [adopt, Load.config?, hConfig, Except.toOption, hSame root config hRoot hConfig]

theorem engine_refresh_of_ne_true {server : Server} {files : Files}
    (h : (server.refresh files).answer ≠ .ok true) :
    (server.refresh files).server.engine = server.engine := by
  obtain ⟨load, hLoad, hNone⟩ := (loadNoting_answer_ne_true_iff _ _ _).mp h
  rw [refresh_server, adopt, hLoad]
  simp [hNone]

theorem last_result_iff {history : List Call} {config : Config}
    (hConfig : (after {} history).config = some config) :
    (lastRead? Load.result? none history = some (config, (after {} history).engine) ∧
        (after {} history).engine.settings = config.settings) ↔
      lastRead? Load.config? none history =
        (lastRead? Load.result? none history).map Prod.fst := by
  have hRead : lastRead? Load.config? none history = some config := by
    rw [← hConfig, config_after]
    exact (Option.or_none).symm
  rw [engine_after, lastRead?_engine, hRead]
  constructor
  · rintro ⟨hResult, _⟩
    rw [hResult]
    rfl
  · intro hSame
    obtain ⟨⟨read, engine⟩, hResult, rfl⟩ := Option.map_eq_some_iff.mp hSame.symm
    obtain ⟨load, _, hLoad⟩ := exists_load_of_lastRead? hResult
    exact ⟨by simp [hResult], by simp [hResult, load.settings_eq hLoad]⟩

/-- A reload that fails keeps the engine, and keeps the configuration unless it reads another one.
The two that are held go together exactly where the configuration that was read last is the one of
the last completed load. -/
theorem failed_refresh_keeps_engine (history : List Call) :
    let server := after {} history
    (∀ files, (server.refresh files).answer = .ok false →
      (server.refresh files).server.engine = server.engine ∧
      ((server.refresh files).server.config = server.config ↔
        ∀ root config, server.root = some root → Config.load files root = .ok config →
          server.config = some config)) ∧
    ∀ config, server.config = some config →
      ((lastRead? Load.result? none history = some (config, server.engine) ∧
          server.engine.settings = config.settings) ↔
        lastRead? Load.config? none history =
          (lastRead? Load.result? none history).map Prod.fst) := by
  intro server
  refine ⟨?_, fun config => last_result_iff⟩
  intro files hFalse
  refine ⟨?_, config_refresh_eq_iff server files⟩
  apply engine_refresh_of_ne_true
  simp [hFalse]

theorem failed_refresh_under_same_config :
    let workspace (actions : Text) : Files :=
      ⟨[(["w", "rhino.toml"], .file (Text.Utf8.encode "[lsp]\nlog_level = \"error\"")),
        (["w", ".rhino", "manifests.json"], .file (Text.Utf8.encode actions))]⟩
    let history : List Call := [⟨workspace "[]", .start (some "file:///w") []⟩]
    let broken : Files := workspace ['[', '{']
    ((after {} history).refresh broken).answer = .ok false ∧
      ((after {} history).refresh broken).server.engine = (after {} history).engine ∧
      ((after {} history).refresh broken).server.config = (after {} history).config := by
  intro workspace history broken
  have hRun : ((after {} history).refresh broken).answer.toOption = some false ∧
      (Config.load broken ⟨1, ["w"]⟩).toOption = (after {} history).config ∧
      (after {} history).root = some ⟨1, ["w"]⟩ := by decide +kernel
  obtain ⟨hAnswer, hConfig, hRoot⟩ := hRun
  have hFailed := eq_ok_of_toOption hAnswer
  have hSame : ∀ root config, (after {} history).root = some root →
      Config.load broken root = .ok config → (after {} history).config = some config := by
    intro root config hSome hRead
    rw [hRoot] at hSome
    cases hSome
    rw [← hConfig, hRead]
    rfl
  have hKept := (failed_refresh_keeps_engine history).1 broken hFailed
  exact ⟨hFailed, hKept.1, hKept.2.mpr hSame⟩

/-- A catalog that cannot be read leaves a new configuration beside the old engine. -/
theorem config_beside_old_engine :
    (¬ ∀ (history : List Call) (files : Files),
      ((after {} history).refresh files).answer = .ok false →
        ((after {} history).refresh files).server.config = (after {} history).config ∧
        ((after {} history).refresh files).server.engine = (after {} history).engine) ∧
    ¬ ∀ (history : List Call) (config : Config), (after {} history).config = some config →
      (after {} history).engine.settings = config.settings := by
  let workspace (options actions : Text) : Files :=
    ⟨[(["w", "rhino.toml"], .file (Text.Utf8.encode options)),
      (["w", ".rhino", "manifests.json"], .file (Text.Utf8.encode actions))]⟩
  let start : Call :=
    ⟨workspace "[completion]\nactions_annotation = \"steps\"\n"
        (Json.compact (.list [.object [("key", .text "Click")]])),
      .start (some "file:///w") []⟩
  let broken : Files := workspace "" ['[', '{']
  have hRun : ((after {} [start]).refresh broken).answer.toOption = some false ∧
      ((after {} [start]).refresh broken).server.config = some { root := ⟨1, ["w"]⟩ } ∧
      (after {} [start]).config ≠ some { root := ⟨1, ["w"]⟩ } ∧
      ((after {} [start]).refresh broken).server.engine.settings ≠ {} := by decide +kernel
  obtain ⟨hAnswer, hConfig, hBefore, hSettings⟩ := hRun
  constructor
  · intro h
    have hKept := (h [start] broken (eq_ok_of_toOption hAnswer)).1
    exact hBefore (hKept.symm.trans hConfig)
  · intro h
    have hAfter : after {} ([start] ++ [⟨broken, .refresh⟩]) =
        ((after {} [start]).refresh broken).server := by
      rw [after_append, after_refresh]
    have hSame := h ([start] ++ [⟨broken, .refresh⟩]) { root := ⟨1, ["w"]⟩ }
    rw [hAfter] at hSame
    exact hSettings (hSame hConfig)

end Server

end ScriptAssist
