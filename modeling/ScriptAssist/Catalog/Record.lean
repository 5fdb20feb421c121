import ScriptAssist.Action.Record
import ScriptAssist.Catalog.Basic

/-!
# Records of a catalog

One reader for each kind of record. Of the records of actions, those with an error are passed over,
and of several with one key the last one counts.
-/

namespace ScriptAssist

open Json (Value)

/-- Where a record has an entity and no description, the one of the entity is its description. -/
def withEntityDescription (fields : Fields) : Except RecordError Fields :=
  if (fields.get? "entity").isSome && (fields.get? "description").isNone then do
    let entity ← Action.membersOf "get" (givenOr (.object []) (fields.get? "entity"))
    pure (fields.set "description" (givenOr (.text []) (entity.get? "description")))
  else .ok fields

def Locator.ofRecord (record : Value) : Except RecordError Locator := do
  let fields ← Fields.ofValue .locator record
  (Locator.mk <$> fields.text "literal" <*> fields.optionalText "verb").toExcept .locator

def ElementAttribute.ofObject (record : Value) : Except RecordError ElementAttribute := do
  let fields ← Fields.ofValue .elementAttribute record
  (ElementAttribute.mk <$> fields.text "key").toExcept .elementAttribute

/-- The record of an attribute may be its name alone. -/
def ElementAttribute.ofRecord : Value → Except RecordError ElementAttribute
  | .text key => .ok ⟨key⟩
  | record => ofObject record

def Heading.ofRecord (record : Value) : Except RecordError Heading := do
  let fields ← Fields.ofValue .heading record
  let fields ← withEntityDescription fields
  (Heading.mk <$> fields.text "key" <*> fields.textOrEmpty "literal"
    <*> fields.textOrEmpty "description").toExcept .heading

def AssertionMethod.ofRecord (record : Value) : Except RecordError AssertionMethod := do
  let fields ← Fields.ofValue .assertionMethod record
  let fields ← withEntityDescription (withDefaultLiteral fields)
  (AssertionMethod.mk <$> fields.text "key" <*> fields.textOrEmpty "literal"
    <*> fields.textOrEmpty "description").toExcept .assertionMethod

def Operator.ofFields (fields : Fields) : Except RecordError Operator :=
  (Operator.mk <$> fields.text "literal" <*> fields.textOrEmpty "description").toExcept .operator

def Operator.ofObject (record : Value) : Except RecordError Operator := do
  let fields ← Fields.ofValue .operator record
  ofFields fields

def Operator.ofRecord : Value → Except RecordError Operator
  | .text literal => .ok { literal }
  | record => do
    let fields ← Fields.ofValue .operator record
    let fields ← withEntityDescription fields
    ofFields fields

def readAll {α : Type} (ofRecord : Value → Except RecordError α) :
    List Value → Except RecordError (List α)
  | [] => .ok []
  | record :: rest => do
    let item ← ofRecord record
    let items ← readAll ofRecord rest
    pure (item :: items)

namespace Action

def ofListed : Value → Except RecordError Action
  | .object members => ofPayload (.object members)
  | _ => .error .notObject

def accepted : List Value → Except RecordError (List Action)
  | [] => .ok []
  | payload :: rest =>
    match ofListed payload with
    | .ok action => (accepted rest).map (action :: ·)
    | .error error => if error.isSkipped then accepted rest else .error error

def readPayloads (payloads : List Value) : Except RecordError (List Action) :=
  (accepted payloads).map index

structure Skipped where
  key : Text
  error : RecordError
  deriving DecidableEq, Repr

def shownKey (payload : Value) : Text :=
  match payload.member? "key" with
  | some key => if key.isGiven then key.shown else "<unknown>"
  | none => "<unknown>"

/-- The payloads that are passed over, up to an error that is not. -/
def skipped : List Value → List Skipped
  | [] => []
  | payload :: rest =>
    match ofListed payload with
    | .ok _ => skipped rest
    | .error error => if error.isSkipped then ⟨shownKey payload, error⟩ :: skipped rest else []

end Action

namespace Catalog

structure Records where
  actions : List Value := []
  macros : List Value := []
  locators : List Value := []
  attributes : List Value := []
  operators : List Value := []
  assertions : List Value := []
  headings : List Value := []

def ofRecords (records : Records) : Except RecordError Catalog := do
  let actions ← Action.readPayloads records.actions
  let macros ← Action.readPayloads records.macros
  let locators ← readAll Locator.ofRecord records.locators
  let attributes ← readAll ElementAttribute.ofRecord records.attributes
  let operators ← readAll Operator.ofRecord records.operators
  let assertions ← readAll AssertionMethod.ofRecord records.assertions
  let headings ← readAll Heading.ofRecord records.headings
  pure { actions, macros, locators, attributes, operators, assertions, headings }

end Catalog

end ScriptAssist
