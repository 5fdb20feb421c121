import ScriptAssist.Catalog.Basic
import ScriptAssist.Config.Basic
import ScriptAssist.Document.Cursor
import ScriptAssist.Document.LiteralSearch
import ScriptAssist.Document.Section
import ScriptAssist.Place
import ScriptAssist.Text.Basic

/-!
# What to offer

An engine holds a catalog and settings. A query asks for one kind of completion at a place of a
script; the text around that place decides the mode, which says what is offered.
-/

namespace ScriptAssist

structure Engine where
  catalog : Catalog := {}
  settings : Settings := {}
  deriving DecidableEq, Repr

inductive RequestKind
  | action
  | parameter
  | heading
  | macroName
  | assertionMethod
  | testParameter
  deriving DecidableEq, Repr

namespace RequestKind

def name : RequestKind → Text
  | action => "action"
  | parameter => "parameter"
  | heading => "annotation"
  | macroName => "macro"
  | assertionMethod => "assertion_method"
  | testParameter => "test_parameter"

def all : List RequestKind :=
  [action, parameter, heading, macroName, assertionMethod, testParameter]

def ofName? (name : Text) : Option RequestKind :=
  all.find? (·.name == name)

end RequestKind

/-- A place in a script, counted from zero. The text may be unknown. -/
structure Query where
  text : Option Text
  line : Int
  column : Int
  kind : RequestKind
  deriving DecidableEq, Repr

inductive Mode
  | actions
  | assertions
  | methods
  | flags (action : Action)
  | macroNames
  | macroFlags (action : Action)
  | headings
  | testParameters
  | nothing
  deriving DecidableEq, Repr

def Mode.name : Mode → Text
  | actions => "action"
  | assertions => "assertion"
  | methods => "assertion_method"
  | flags _ => "parameter"
  | macroNames => "macro"
  | macroFlags _ => "macro_parameter"
  | headings => "annotation"
  | testParameters => "test_parameter"
  | nothing => "no_suggestion"

def Mode.action? : Mode → Option Action
  | flags action => some action
  | macroFlags action => some action
  | _ => none

inductive Unresolved
  | noActions
  | noLiteral
  | unknownKey (key : Text)
  deriving DecidableEq, Repr

inductive Failure
  | unresolved (line : Int) (cause : Unresolved)
  | noSuchLine
  | noText
  deriving DecidableEq, Repr

def Unresolved.message : Unresolved → Text
  | noActions => "No actions in catalog"
  | noLiteral => "No action literal found"
  | unknownKey key => "Unknown action '" ++ key ++ "'"

def Unresolved.key? : Unresolved → Option Text
  | unknownKey key => some key
  | _ => none

def Failure.message : Failure → Text
  | unresolved line cause =>
    Place.report (some { line := some (line + 1), key := cause.key? }) cause.message
  | noSuchLine => "list index out of range"
  | noText => "'NoneType' object has no attribute 'split'"

namespace Engine

def actions (engine : Engine) : List Action :=
  Action.index engine.catalog.actions

def literals (engine : Engine) : List Text :=
  (engine.actions.flatMap Action.literals).filter (!·.isEmpty)

def action? (engine : Engine) (key : Text) : Option Action :=
  engine.actions.find? (·.key == key)

/-- The last macro with this key in any case. -/
def macroNamed? (engine : Engine) (name : Text) : Option Action :=
  engine.catalog.macros.reverse.find? fun found => Text.lower found.key == Text.lower name

/-- The macro whose flags are typed: its name comes after the last opener before the cursor, and a
flag mark right before the cursor. -/
def macroAt? (engine : Engine) (line : Text) (column : Int) : Option Action := do
  if !Cursor.flagMark.isSuffixOf (Text.before line column) then none
  let name ← Cursor.macroName? line column
  engine.macroNamed? name

def logicalLine (engine : Engine) (lines : List Text) (line column : Int) :
    Except Failure LogicalLine :=
  match LogicalLine.at? lines engine.settings.continuationMarker line column with
  | some content => .ok content
  | none => .error .noSuchLine

def currentLine (lines : List Text) (line : Int) : Except Failure Text :=
  match LogicalLine.lineAt? lines line with
  | some current => .ok current
  | none => .error .noSuchLine

/-- The action that a text writes: the key of the first literal in it names the action. -/
def resolveText (engine : Engine) (text : Text) : Except Unresolved Action :=
  if engine.literals.isEmpty then .error .noActions
  else
    match LiteralSearch.search engine.literals text with
    | none => .error .noLiteral
    | some found =>
      let key := keyOfLiteral found.literal
      match engine.action? key with
      | some action => .ok action
      | none => .error (.unknownKey key)

def resolve (engine : Engine) (lines : List Text) (line column : Int) : Except Failure Action := do
  let content ← engine.logicalLine lines line column
  match engine.resolveText content.text with
  | .ok action => pure action
  | .error cause => throw (.unresolved line cause)

def sectionMode (engine : Engine) (lines : List Text) (line : Int) (current : Text)
    (column : Int) : Mode :=
  let keys := engine.catalog.headingKeys
  if Cursor.isPastBlock current column then .nothing
  else if Section.isUnder lines line engine.settings.actionsHeading keys then .actions
  else if Section.isUnder lines line engine.settings.assertionsHeading keys then
    if Cursor.isInMethodSlot current column then .nothing else .assertions
  else .nothing

def flagMode (engine : Engine) (lines : List Text) (line : Int) (current : Text)
    (column : Int) : Except Failure Mode :=
  match engine.macroAt? current column with
  | some action => .ok (.macroFlags action)
  | none =>
    match engine.resolve lines line column with
    | .ok action => .ok (.flags action)
    | .error (.unresolved _ _) => .ok .nothing
    | .error failure => .error failure

def modeAt (engine : Engine) (lines : List Text) (query : Query) (current : Text) :
    Except Failure Mode :=
  match query.kind with
  | .heading =>
    .ok (if Cursor.isAtHeading current query.column then .headings else .nothing)
  | .macroName =>
    .ok (if Text.occursIn opener (Text.before current query.column) then .macroNames else .nothing)
  | .assertionMethod =>
    .ok (if Cursor.isInMethodSlot current query.column then .methods else .nothing)
  | .testParameter => .ok .testParameters
  | .action => .ok (engine.sectionMode lines query.line current query.column)
  | .parameter => engine.flagMode lines query.line current query.column

def mode (engine : Engine) (query : Query) : Except Failure Mode :=
  match query.text with
  | none => .error .noText
  | some text =>
    let lines := Text.lines text
    if query.line < 0 then .ok .nothing
    else
      match lines[query.line.toNat]? with
      | none => .ok .nothing
      | some current => engine.modeAt lines query current

end Engine

end ScriptAssist
