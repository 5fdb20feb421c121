import ScriptAssist.Proofs.FailedReload
import ScriptAssist.Proofs.UnsearchableRecords

/-!
# Errors of a reload

A reload answers that it failed where the error is one of the catalog or of the configuration. Any
other error ends the request. This is the case where the first document that cannot be loaded has no
text, or is beyond a limit of its reader, or holds an action whose properties cannot be searched.
-/

namespace ScriptAssist

open Json (Value)

/-- A result is an error that is not reported. -/
def Raises {α : Type} (result : Except LoadError α) (error : LoadError) : Prop :=
  result = .error error ∧ error.isReported = false

@[simp]
theorem not_raises_ok {α : Type} (value : α) (error : LoadError) : ¬Raises (.ok value) error := by
  simp [Raises]

@[simp]
theorem raises_error_iff {α : Type} {found error : LoadError} :
    Raises (.error found : Except LoadError α) error ↔
      found.isReported = false ∧ error = found := by
  simp only [Raises, Except.error.injEq]
  constructor
  · rintro ⟨rfl, hRaised⟩
    exact ⟨hRaised, rfl⟩
  · rintro ⟨hRaised, rfl⟩
    exact ⟨rfl, hRaised⟩

theorem errorOf?_eq_some_iff_raises {α : Type} {result : Except LoadError α} {error : LoadError}
    (hRaised : error.isReported = false) : errorOf? result = some error ↔ Raises result error := by
  rw [errorOf?_eq_some_iff, Raises, and_iff_left hRaised]

theorem raises_bind_iff {α β : Type} {first : Except LoadError α} {next : α → Except LoadError β}
    {error : LoadError} :
    Raises (first >>= next) error ↔
      Raises first error ∨ ∃ value, first = .ok value ∧ Raises (next value) error := by
  simp only [Raises, bind_eq_error_iff]
  constructor
  · rintro ⟨hFirst | ⟨value, hValue, hNext⟩, hRaised⟩
    · exact .inl ⟨hFirst, hRaised⟩
    · exact .inr ⟨value, hValue, hNext, hRaised⟩
  · rintro (⟨hFirst, hRaised⟩ | ⟨value, hValue, hNext, hRaised⟩)
    · exact ⟨.inl hFirst, hRaised⟩
    · exact ⟨.inr ⟨value, hValue, hNext⟩, hRaised⟩

/-- Why what is at a path has no text. -/
inductive Files.HasNoText (files : Files) (file : Path) : ReadFailure → Prop
  | nameTooLong (h : files.look file = .error .nameTooLong) :
    HasNoText files file (.lost .nameTooLong file.text)
  | directory (h : files.look file = .ok .directory) :
    HasNoText files file (.isDirectory file.text)
  | notUtf8 {bytes : List UInt8} (h : files.look file = .ok (.file bytes))
    (hBytes : Text.Utf8.decode? bytes = none) : HasNoText files file .notUtf8

theorem textIfThere_eq_error_iff {files : Files} {file : Path} {error : LoadError} :
    textIfThere files file = .error error ↔
      ∃ failure, files.HasNoText file failure ∧ error = .unreadable failure := by
  constructor
  · intro h
    rw [textIfThere, Files.find, Files.readText] at h
    cases hLook : files.look file with
    | error fault =>
      simp only [hLook] at h
      cases fault with
      | nameTooLong =>
        cases h
        exact ⟨_, .nameTooLong hLook, rfl⟩
      | missing | notDirectory | nullCharacter => cases h
    | ok entry =>
      simp only [hLook] at h
      cases entry with
      | directory =>
        cases h
        exact ⟨_, .directory hLook, rfl⟩
      | file bytes =>
        dsimp only at h
        cases hBytes : Text.Utf8.decode? bytes with
        | some text => simp [hBytes] at h
        | none =>
          simp only [hBytes] at h
          cases h
          exact ⟨_, .notUtf8 hLook hBytes, rfl⟩
  · rintro ⟨_, h | h | ⟨h, hBytes⟩, rfl⟩
    · simp only [textIfThere, Files.find, h]
    · simp only [textIfThere, Files.find, Files.readText, h]
    · simp only [textIfThere, Files.find, Files.readText, h, hBytes]

theorem textIfThere_eq_some_iff {files : Files} {file : Path} {text : Text} :
    textIfThere files file = .ok (some text) ↔ files.readText file = .ok text := by
  rw [textIfThere, Files.find]
  cases hLook : files.look file with
  | error fault =>
    simp only [Files.readText, hLook]
    cases fault <;> simp
  | ok entry =>
    dsimp only
    cases files.readText file <;> simp

theorem raises_textIfThere_iff {files : Files} {file : Path} {error : LoadError} :
    Raises (textIfThere files file) error ↔
      ∃ failure, files.HasNoText file failure ∧ error = .unreadable failure := by
  rw [Raises, textIfThere_eq_error_iff]
  constructor
  · exact And.left
  · rintro ⟨failure, h, rfl⟩
    exact ⟨⟨failure, h, rfl⟩, rfl⟩

namespace Catalog

/-- Why a document of the catalog is read with an error that is not reported. -/
inductive Escapes (files : Files) (file : Path) (holdsActions : Bool) : LoadError → Prop
  | unreadable {failure : ReadFailure} (h : files.HasNoText file failure) :
    Escapes files file holdsActions (.unreadable failure)
  | beyond {text : Text} {limit : Limit} (hText : files.readText file = .ok text)
    (hRead : Json.read text = .error (.beyond limit)) :
    Escapes files file holdsActions (.beyond limit)
  | unsearchable {text : Text} {payloads : List Value} {properties : Value}
    (hActions : holdsActions = true) (hText : files.readText file = .ok text)
    (hRead : Json.read text = .ok (.list payloads))
    (h : Action.FirstUnsearchable payloads properties) :
    Escapes files file holdsActions (.record (.notSearchable properties.kindName))

theorem raises_recordsOf_iff {file : Path} {text : Text} {error : LoadError} :
    Raises (recordsOf file text) error ↔
      ∃ limit, Json.read text = .error (.beyond limit) ∧ error = .beyond limit := by
  rw [recordsOf]
  cases Json.read text with
  | error fault => cases fault <;> simp [LoadError.isReported]
  | ok value => cases value <;> simp [LoadError.isReported]

theorem raises_readRecords_iff {files : Files} {file : Path} {error : LoadError} :
    Raises (readRecords files file) error ↔ Escapes files file false error := by
  rw [readRecords, raises_bind_iff, raises_textIfThere_iff]
  constructor
  · rintro (⟨failure, h, rfl⟩ | ⟨_ | text, hText, hRaised⟩)
    · exact .unreadable h
    · cases hRaised.1
    · obtain ⟨limit, hRead, rfl⟩ := raises_recordsOf_iff.mp hRaised
      exact .beyond (textIfThere_eq_some_iff.mp hText) hRead
  · rintro (h | ⟨hText, hRead⟩ | ⟨⟨⟩⟩)
    · exact .inl ⟨_, h, rfl⟩
    · exact .inr ⟨_, textIfThere_eq_some_iff.mpr hText, raises_recordsOf_iff.mpr ⟨_, hRead, rfl⟩⟩

theorem raises_readItems_iff {α : Type} {ofRecord : Value → Except RecordError α} {files : Files}
    {file : Path} {error : LoadError} :
    Raises (readItems ofRecord files file) error ↔ Escapes files file false error := by
  rw [readItems, raises_bind_iff, raises_readRecords_iff]
  constructor
  · rintro (h | ⟨records, _, hRaised⟩)
    · exact h
    · cases hItems : readAll ofRecord records <;>
        simp [hItems, LoadError.isReported] at hRaised
  · exact .inl

theorem readRecords_of_read {files : Files} {file : Path} {text : Text} {records : List Value}
    (hText : files.readText file = .ok text) (hRead : Json.read text = .ok (.list records)) :
    readRecords files file = .ok records := by
  rw [readRecords, textIfThere_eq_some_iff.mpr hText]
  change recordsOf file text = .ok records
  rw [recordsOf, hRead]

theorem exists_read_of_readRecords {files : Files} {file : Path} {records : List Value}
    (h : readRecords files file = .ok records) (hNe : records ≠ []) :
    ∃ text, files.readText file = .ok text ∧ Json.read text = .ok (.list records) := by
  rw [readRecords] at h
  cases hText : textIfThere files file with
  | error error => simp [hText, bind, Except.bind] at h
  | ok found =>
    rw [hText, ok_bind] at h
    cases found with
    | none =>
      cases h
      exact absurd rfl hNe
    | some text =>
      refine ⟨text, textIfThere_eq_some_iff.mp hText, ?_⟩
      dsimp only at h
      rw [recordsOf] at h
      cases hRead : Json.read text with
      | error fault => cases fault <;> simp [hRead] at h
      | ok value => cases value <;> simp_all

theorem raises_readActions_iff {files : Files} {file : Path} {error : LoadError} :
    Raises (readActions files file) error ↔ Escapes files file true error := by
  rw [readActions, raises_bind_iff, raises_readRecords_iff]
  constructor
  · rintro (h | ⟨payloads, hRecords, hRaised⟩)
    · cases h with
      | unreadable h => exact .unreadable h
      | beyond hText hRead => exact .beyond hText hRead
      | unsearchable hActions => cases hActions
    · cases hActions : Action.readPayloads payloads with
      | ok actions => simp [hActions] at hRaised
      | error fault =>
        rw [hActions] at hRaised
        cases hRaised.1
        obtain ⟨properties, hFirst, rfl⟩ := Action.readPayloads_eq_error_iff.mp hActions
        have hNe : payloads ≠ [] := by
          obtain ⟨front, payload, rest, rfl, -⟩ := hFirst
          simp
        obtain ⟨text, hText, hRead⟩ := exists_read_of_readRecords hRecords hNe
        exact .unsearchable rfl hText hRead hFirst
  · intro h
    cases h with
    | unreadable h => exact .inl (.unreadable h)
    | beyond hText hRead => exact .inl (.beyond hText hRead)
    | unsearchable _ hText hRead hFirst =>
      refine .inr ⟨_, readRecords_of_read hText hRead, ?_⟩
      rw [Action.readPayloads_eq_error_iff.mpr ⟨_, hFirst, rfl⟩]
      exact ⟨rfl, rfl⟩

inductive Document
  | actions
  | macros
  | locators
  | attributes
  | operators
  | assertions
  | headings
  deriving DecidableEq, Repr

namespace Document

def all : List Document :=
  [actions, macros, locators, attributes, operators, assertions, headings]

def name : Document → Text
  | actions => actionsFile
  | macros => macrosFile
  | locators => locatorsFile
  | attributes => attributesFile
  | operators => operatorsFile
  | assertions => assertionsFile
  | headings => headingsFile

example : all.map name = fileNames := rfl

def holdsActions : Document → Bool
  | actions => true
  | macros => true
  | _ => false

def error? (files : Files) (directory : Path) (document : Document) : Option LoadError :=
  let file := directory.file document.name
  match document with
  | actions => errorOf? (readActions files file)
  | macros => errorOf? (readActions files file)
  | locators => errorOf? (readItems Locator.ofRecord files file)
  | attributes => errorOf? (readItems ElementAttribute.ofRecord files file)
  | operators => errorOf? (readItems Operator.ofRecord files file)
  | assertions => errorOf? (readItems AssertionMethod.ofRecord files file)
  | headings => errorOf? (readItems Heading.ofRecord files file)

theorem error?_eq_some_iff {files : Files} {directory : Path} {document : Document}
    {error : LoadError} (hRaised : error.isReported = false) :
    document.error? files directory = some error ↔
      Escapes files (directory.file document.name) document.holdsActions error := by
  cases document with
  | actions | macros => exact (errorOf?_eq_some_iff_raises hRaised).trans raises_readActions_iff
  | locators | attributes | operators | assertions | headings =>
    exact (errorOf?_eq_some_iff_raises hRaised).trans raises_readItems_iff

/-- The first error in the order of the documents counts. -/
theorem errorOf?_readDocuments (files : Files) (directory : Path) :
    errorOf? (readDocuments files directory) = all.findSome? (error? files directory) := by
  have hFirst : ∀ document rest, List.findSome? (error? files directory) (document :: rest) =
      (error? files directory document).or (rest.findSome? (error? files directory)) := by
    intro document rest
    rw [List.findSome?_cons]
    cases error? files directory document <;> rfl
  rw [readDocuments, all]
  repeat
    rw [hFirst]
    apply errorOf?_bind
    intro _
  rfl

end Document

theorem Escapes.isReported {files : Files} {file : Path} {holdsActions : Bool} {error : LoadError}
    (h : Escapes files file holdsActions error) : error.isReported = false := by
  cases h <;> rfl

theorem raises_readDocuments_iff {files : Files} {directory : Path} {error : LoadError} :
    Raises (readDocuments files directory) error ↔ ∃ before document after,
      Document.all = before ++ document :: after ∧
      (∀ earlier ∈ before, earlier.error? files directory = none) ∧
      Escapes files (directory.file document.name) document.holdsActions error := by
  constructor
  · intro h
    have hFirst := (errorOf?_eq_some_iff_raises h.2).mpr h
    rw [Document.errorOf?_readDocuments, List.findSome?_eq_some_iff] at hFirst
    obtain ⟨before, document, after, hAll, hError, hBefore⟩ := hFirst
    exact ⟨before, document, after, hAll, hBefore, (Document.error?_eq_some_iff h.2).mp hError⟩
  · rintro ⟨before, document, after, hAll, hBefore, h⟩
    rw [← errorOf?_eq_some_iff_raises h.isReported, Document.errorOf?_readDocuments,
      List.findSome?_eq_some_iff]
    exact ⟨before, document, after, hAll, (Document.error?_eq_some_iff h.isReported).mpr h, hBefore⟩

theorem raises_load_iff {files : Files} {directory : Path} {error : LoadError} :
    Raises (Catalog.load files directory) error ↔
      (files.look directory = .error .nameTooLong ∧
        error = .unreadable (.lost .nameTooLong directory.text)) ∨
      files.look directory = .ok .directory ∧ Raises (readDocuments files directory) error := by
  rw [load, Files.find]
  cases files.look directory with
  | error fault =>
    cases fault with
    | nameTooLong => simp [LoadError.isReported]
    | missing | notDirectory | nullCharacter => simp
  | ok entry => cases entry <;> simp

end Catalog

theorem Config.raises_ofText_iff {root file : Path} {text : Text} {error : LoadError} :
    Raises (ofText root file text) error ↔
      ∃ limit, Toml.read text = .error (.beyond limit) ∧ error = .beyond limit := by
  rw [ofText]
  cases Toml.read text with
  | error fault => cases fault <;> simp [LoadError.isReported]
  | ok document =>
    dsimp only
    cases ofDocument root document <;> simp [LoadError.isReported]

namespace Load

/-- Why the workspace is read with an error that is not reported. -/
inductive Escapes (load : Load) : LoadError → Prop
  | unreadable {failure : ReadFailure}
    (h : load.files.HasNoText (load.root.file Config.fileName) failure) :
    Escapes load (.unreadable failure)
  | beyond {text : Text} {limit : Limit}
    (hText : load.files.readText (load.root.file Config.fileName) = .ok text)
    (hRead : Toml.read text = .error (.beyond limit)) :
    Escapes load (.beyond limit)
  | directory {config : Config} (hConfig : Config.load load.files load.root = .ok config)
    (h : load.files.look config.catalogDirectory = .error .nameTooLong) :
    Escapes load (.unreadable (.lost .nameTooLong config.catalogDirectory.text))
  | document {config : Config} (hConfig : Config.load load.files load.root = .ok config)
    (hDirectory : load.files.look config.catalogDirectory = .ok .directory)
    {before after : List Catalog.Document} {document : Catalog.Document}
    (hAll : Catalog.Document.all = before ++ document :: after)
    (hBefore : ∀ earlier ∈ before,
      earlier.error? load.files config.catalogDirectory = none) {error : LoadError}
    (h : Catalog.Escapes load.files (config.catalogDirectory.file document.name)
      document.holdsActions error) :
    Escapes load error

theorem raises_config_iff {files : Files} {root : Path} {error : LoadError} :
    Raises (Config.load files root) error ↔
      (∃ failure, files.HasNoText (root.file Config.fileName) failure ∧
        error = .unreadable failure) ∨
      ∃ text limit, files.readText (root.file Config.fileName) = .ok text ∧
        Toml.read text = .error (.beyond limit) ∧ error = .beyond limit := by
  rw [Config.load, raises_bind_iff, raises_textIfThere_iff]
  apply or_congr Iff.rfl
  constructor
  · rintro ⟨_ | text, hText, hRaised⟩
    · cases hRaised.1
    · obtain ⟨limit, hRead, rfl⟩ := Config.raises_ofText_iff.mp hRaised
      exact ⟨text, limit, textIfThere_eq_some_iff.mp hText, hRead, rfl⟩
  · rintro ⟨text, limit, hText, hRead, rfl⟩
    exact ⟨_, textIfThere_eq_some_iff.mpr hText, Config.raises_ofText_iff.mpr ⟨limit, hRead, rfl⟩⟩

theorem raises_result_iff {load : Load} {error : LoadError} :
    Raises load.result error ↔ load.Escapes error := by
  rw [result, raises_bind_iff, raises_config_iff]
  simp only [raises_bind_iff, Catalog.raises_load_iff, Catalog.raises_readDocuments_iff]
  constructor
  · rintro ((⟨failure, h, rfl⟩ | ⟨text, limit, hText, hRead, rfl⟩) | ⟨config, hConfig, h⟩)
    · exact .unreadable h
    · exact .beyond hText hRead
    · rcases h with (⟨hLook, rfl⟩ | ⟨hLook, before, document, after, hAll, hBefore, h⟩) | ⟨_, _, h⟩
      · exact .directory hConfig hLook
      · exact .document hConfig hLook hAll hBefore h
      · cases h.1
  · intro h
    cases h with
    | unreadable h => exact .inl (.inl ⟨_, h, rfl⟩)
    | beyond hText hRead => exact .inl (.inr ⟨_, _, hText, hRead, rfl⟩)
    | directory hConfig h => exact .inr ⟨_, hConfig, .inl (.inl ⟨h, rfl⟩)⟩
    | document hConfig hDirectory hAll hBefore h =>
      exact .inr ⟨_, hConfig, .inl (.inr ⟨hDirectory, _, _, _, hAll, hBefore, h⟩)⟩

theorem error?_eq (load : Load) : load.error? = errorOf? load.result := by
  rw [error?]
  cases load.result <;> rfl

end Load

namespace Server

section

variable {server : Server} {files : Files} {root : Path}

theorem refresh_of_result_eq_ok (hRoot : server.root = some root) {result : Config × Engine}
    (h : (Load.mk files root).result = .ok result) : (server.refresh files).answer = .ok true := by
  rw [refresh, loadNoting_answer, hRoot, Option.map_some, Option.bind_some, Load.error?_eq, h]
  rfl

theorem refresh_of_result_eq_error (hRoot : server.root = some root) {error : LoadError}
    (h : (Load.mk files root).result = .error error) :
    (server.refresh files).answer = if error.isReported then .ok false else .error error := by
  rw [refresh, loadNoting_answer, hRoot, Option.map_some, Option.bind_some, Load.error?_eq, h]
  rfl

end

/-- A reload raises exactly the errors that escape. Else it answers whether the workspace was read,
and what went wrong is an error of the catalog or of the configuration. -/
theorem refresh_raises_iff_escapes {server : Server} {root : Path}
    (hRoot : server.root = some root) (files : Files) :
    let load : Load := ⟨files, root⟩
    let answer := (server.refresh files).answer
    (∀ error, answer = .error error ↔ load.Escapes error) ∧
    (answer = .ok true ↔ ∃ result, load.result = .ok result) ∧
    (answer = .ok false ↔ ∃ file,
      (∃ fault, load.result = .error (.catalog file fault)) ∨
      ∃ fault, load.result = .error (.config file fault)) := by
  intro load answer
  simp only [← Load.raises_result_iff]
  cases hResult : load.result with
  | ok result =>
    have hAnswer : answer = .ok true := refresh_of_result_eq_ok hRoot hResult
    simp [hAnswer]
  | error error =>
    have hAnswer : answer = if error.isReported then .ok false else .error error :=
      refresh_of_result_eq_error hRoot hResult
    rw [hAnswer]
    cases error <;> simp [LoadError.isReported, eq_comm]

theorem refresh_reports_first_error :
    let files : Files :=
      ⟨[(["w", ".rhino", "locators.json"], .file (Text.Utf8.encode "[")),
        (["w", ".rhino", "operators.json"], .file [0xff])]⟩
    let load : Load := ⟨files, ⟨1, ["w"]⟩⟩
    let server : Server := { root := some load.root }
    (server.refresh files).answer = .ok false ∧ (∀ error, ¬load.Escapes error) ∧
      ∃ file, (∃ fault, load.result = .error (.catalog file fault)) ∨
        ∃ fault, load.result = .error (.config file fault) := by
  intro files load server
  have hRun : (server.refresh files).answer.toOption = some false := by decide +kernel
  have hFalse := eq_ok_of_toOption hRun
  obtain ⟨hRaised, -, hReported⟩ := @refresh_raises_iff_escapes server load.root rfl files
  refine ⟨hFalse, ?_, hReported.mp hFalse⟩
  intro error hEscapes
  cases hFalse.symm.trans ((hRaised error).mpr hEscapes)

/-- Properties that are a number, and bytes that are not UTF-8, end a reload without an answer. -/
theorem refresh_without_answer :
    let workspace (bytes : List UInt8) : Files :=
      ⟨[(["w", ".rhino", "manifests.json"], .file bytes)]⟩
    let start : Call := ⟨workspace (Text.Utf8.encode "[]"), .start (some "file:///w") []⟩
    let number : Text := Json.compact
      (.list [.object [("key", .text "Click"), ("entity", .object [("properties", .int 5)])]])
    errorOf? ((after {} [start]).refresh (workspace (Text.Utf8.encode number))).answer =
        some (.record (.notSearchable "int")) ∧
      errorOf? ((after {} [start]).refresh (workspace [0xff])).answer =
        some (.unreadable .notUtf8) ∧
      ¬∀ (history : List Call) (files : Files), (after {} history).root ≠ none →
        ∃ loaded, ((after {} history).refresh files).answer = .ok loaded := by
  intro workspace start number
  have hRun : errorOf? ((after {} [start]).refresh (workspace (Text.Utf8.encode number))).answer =
        some (.record (.notSearchable "int")) ∧
      errorOf? ((after {} [start]).refresh (workspace [0xff])).answer =
        some (.unreadable .notUtf8) ∧
      (after {} [start]).root ≠ none := by decide +kernel
  obtain ⟨hNumber, hBytes, hRoot⟩ := hRun
  refine ⟨hNumber, hBytes, ?_⟩
  intro h
  obtain ⟨loaded, hAnswer⟩ := h [start] (workspace [0xff]) hRoot
  rw [hAnswer] at hBytes
  cases hBytes

end Server

end ScriptAssist
