import ScriptAssist.Command.Basic
import ScriptAssist.Engine.Completion
import ScriptAssist.Json.Printer
import ScriptAssist.Layout.Markup
import ScriptAssist.Layout.Table
import ScriptAssist.Layout.Terminal
import ScriptAssist.Workspace.Load

/-!
# Running a command

A command reads the workspace and prints. Errors of the catalog and of the configuration are
printed; any other error ends the command.
-/

namespace ScriptAssist

inductive Crash
  | load (error : LoadError)
  | read (failure : ReadFailure)
  | markup (fault : Layout.MarkupFault)
  deriving DecidableEq, Repr

structure Output where
  code : Nat := 0
  out : Text := []
  err : Text := []
  crash : Option Crash := none
  deriving DecidableEq, Repr

def versionNumber : Text := "0.4.0"

namespace Command

open Json (Value)

def printing (text : Text) : Output :=
  { out := text }

def crashed (crash : Crash) (out : Text) : Output :=
  { code := 1, out, crash := some crash }

def printedPlain (text : Text) : Text :=
  Layout.printed (Layout.Emoji.replace text)

def failing (message : Text) : Output :=
  match Layout.Markup.shown ("[red]" ++ message ++ "[/red]") with
  | .ok shown => { code := 1, out := Layout.printed shown }
  | .error fault => crashed (.markup fault) []

def loadEngine (files : Files) (root : Path) : Except LoadError Engine := do
  let config ← Config.load files root
  let catalog ← Catalog.load files config.catalogDirectory
  pure ⟨catalog, config.settings⟩

def withEngine (files : Files) (root : Path) (run : Engine → Output) : Output :=
  match loadEngine files root with
  | .ok engine => run engine
  | .error error => if error.isReported then failing error.message else crashed (.load error) []

def candidateJson (candidate : Candidate) : Value :=
  .object [
    ("label", .text candidate.label),
    ("insert_text", .text candidate.insertText),
    ("documentation", .text candidate.documentation),
    ("detail", .text candidate.detail),
    ("kind", .text candidate.kind.name),
    ("is_snippet", .bool candidate.isSnippet)]

def snippetJson (snippet : Snippet) : Value :=
  .object [
    ("name", .text snippet.name),
    ("template", .text snippet.template),
    ("documentation", .text snippet.documentation),
    ("detail", .text snippet.detail)]

def printingJson (values : List Value) : Output :=
  printing (Json.indented 0 (.list values) ++ ['\n'])

/-- A cell shows its text, tags included. -/
def cell (text : Text) : Text :=
  Layout.withoutControls ((Layout.Markup.shown (Layout.Markup.escape text)).toOption.getD text)

def printingTable (table : Layout.Table) (summary : Text) : Output :=
  printing (table.lines.flatMap (· ++ ['\n']) ++ '\n' :: summary ++ ['\n'])

/-- The candidates at a place of a text, counted from one. -/
def candidatesAt (engine : Engine) (text : Text) (line column : Int) (kind : RequestKind) :
    List Candidate :=
  engine.complete ⟨some text, line - 1, column - 1, kind⟩

def runComplete (engine : Engine) (text : Text) (line column : Int) (kind : RequestKind)
    (json : Bool) : Output :=
  let candidates := candidatesAt engine text line column kind
  if json then printingJson (candidates.map candidateJson)
  else if candidates.isEmpty then printing "No completions.\n"
  else
    printingTable
      { title := "Completions (" ++ kind.name ++ ")"
        head := ["Label", "Insert", "Documentation"]
        rows := candidates.map fun candidate =>
          [cell candidate.label, cell candidate.insertText, cell candidate.documentation] }
      (Text.ofNat candidates.length ++ " candidate(s)")

def chosenActions (engine : Engine) (key : Text) : List Action :=
  if key.isEmpty then engine.actions else engine.actions.filter (·.key == key)

def runSnippets (engine : Engine) (key : Text) (json : Bool) : Output :=
  let actions := chosenActions engine key
  if !key.isEmpty && actions.isEmpty then failing ("Action not found: " ++ key)
  else
    let snippets :=
      Synthesis.allSnippets actions engine.catalog.locatorNames engine.catalog.attributeNames
    if json then printingJson (snippets.map snippetJson)
    else
      printingTable
        { title := "Snippets"
          head := ["Name", "Template", "Source"]
          rows := snippets.map fun snippet =>
            [cell snippet.name, cell snippet.template, cell snippet.detail] }
        (Text.ofNat snippets.length ++ " snippet(s) from " ++ Text.ofNat actions.length ++
          " action(s)")

def runSections (engine : Engine) (text heading : Text) : Output :=
  match engine.sectionLines text heading with
  | [] => { code := 1, out := printedPlain ("No [" ++ heading ++ "] section.") }
  | lines => printing (lines.flatMap printedPlain)

def line (label value : Text) : Text :=
  Layout.padRight 14 (label ++ ":") ++ Layout.withoutSequences value ++ ['\n']

def checkedCatalog (catalog : Catalog) : Text :=
  line "Actions" (Text.ofNat catalog.actions.length) ++
    line "Macros" (Text.ofNat catalog.macros.length) ++
    line "Locators" (Text.ofNat catalog.locators.length) ++
    line "Annotations" (Text.ofNat catalog.headings.length) ++
    "\nAll LSP dependencies installed. Workspace catalog loaded.\n"

def checkFailed (out : Text) (error : LoadError) : Output :=
  if error.isReported then
    { code := 1, out, err := Layout.withoutSequences ("Error: " ++ error.message ++ ['\n']) }
  else crashed (.load error) out

def checkCatalog (files : Files) (out : Text) (config : Config) : Output :=
  let directory := config.catalogDirectory
  let out := out ++ line "Catalog" directory.text
  match files.find directory with
  | .error failure => crashed (.read failure) out
  | .ok (some .directory) =>
    match Catalog.load files directory with
    | .error error => checkFailed out error
    | .ok catalog => printing (out ++ checkedCatalog catalog)
  | .ok _ => { code := 1, out, err := "Catalog directory not found.\n" }

def runCheck (files : Files) (root : Path) : Output :=
  let file := root.file Config.fileName
  let out := "\n" ++ line "Workspace" root.text
  match files.find file with
  | .error failure => crashed (.read failure) out
  | .ok found =>
    let out :=
      out ++ line "Config" (if found.isSome then file.text else "defaults (no rhino.toml)")
    match Config.load files root with
    | .error error => checkFailed out error
    | .ok config => checkCatalog files out config

def withText (files : Files) (file : Path) (run : Text → Output) : Output :=
  match files.readText file with
  | .ok text => run text
  | .error failure => crashed (.read failure) []

def unreadable (failure : ReadFailure) : Output :=
  crashed (.read failure) []

def withProject (directory : Path) (project : Text) (run : Path → Output) : Output :=
  if project.contains '\x00' then unreadable (.lost .nullCharacter project)
  else run (directory.resolve (Path.ofText project))

def run (files : Files) (directory : Path) : Command → Output
  | .version => printing ("rhinolsp " ++ versionNumber ++ "\n")
  | .complete file line column kind project json =>
    withProject directory project fun root =>
      withEngine files root fun engine =>
        withText files file fun text => runComplete engine text line column kind json
  | .snippets action project json =>
    withProject directory project fun root =>
      withEngine files root fun engine => runSnippets engine (action.getD []) json
  | .sections file heading project =>
    withProject directory project fun root =>
      withEngine files root fun engine =>
        withText files file fun text => runSections engine text heading
  | .check project => withProject directory project (runCheck files)

end Command

end ScriptAssist
