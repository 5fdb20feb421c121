import ScriptAssist.Action.Basic
import ScriptAssist.Record.Field

/-!
# Reading actions

`Action.ofRecord` takes a record with one field for each part of an action. `Action.ofPayload` takes
what a provider publishes: there the capabilities are named by the properties of an entity, and only
their presence matters.
-/

namespace ScriptAssist

open Json (Value)

def givenOr (other : Value) (value : Option Value) : Value :=
  match value with
  | some value => if value.isGiven then value else other
  | none => other

/-- A record with a key and no literal gets the literal of its key. -/
def withDefaultLiteral (fields : Fields) : Fields :=
  if fields.isGiven "literal" then fields
  else
    match fields.get? "key" with
    | some key =>
      if key.isGiven then
        fields.set "literal" (.text (literalOfKey (Text.strip key.shown)))
      else fields
    | none => fields

def checkedKey (fields : Fields) : Checked Text :=
  match fields.text "key" with
  | .valid key =>
    if (Text.strip key).isEmpty then Fields.fault [.field "key"] .emptyKey
    else .valid (Text.strip key)
  | faulty => faulty

namespace Action

def ofFields (fields : Fields) : Checked Action :=
  let fields := withDefaultLiteral fields
  Action.mk <$> checkedKey fields
    <*> fields.textOrEmpty "literal"
    <*> fields.optionalTexts "aliases"
    <*> fields.optionalText "verb"
    <*> fields.textOrEmpty "description"
    <*> fields.textOrEmpty "source"
    <*> fields.optionalNamedTexts "cli_arguments"
    <*> fields.boolean "argument"
    <*> fields.boolean "on_element"
    <*> fields.boolean "on_attribute"
    <*> fields.boolean "regex"

def ofRecord (record : Value) : Except RecordError Action := do
  let fields ← Fields.ofValue .action record
  (ofFields fields).toExcept .action

def membersOf (operation : Text) : Value → Except RecordError Fields
  | .object members => .ok members
  | value => .error (.lacksOperation value.kindName operation)

/-- Whether a property is there: as a member, as an item of a list, or as a part of a text. -/
def hasProperty (name : Text) : Value → Except RecordError Bool
  | .object members => .ok (members.lookup name).isSome
  | .list items => .ok (items.any fun item => match item with
    | .text s => s == name
    | _ => false)
  | .text s => .ok (Text.occursIn name s)
  | value => .error (.notSearchable value.kindName)

def flagsOf (entity : Fields) : Except RecordError Value :=
  match entity.get? "cliArguments" with
  | none => .ok .null
  | some .null => .ok .null
  | some value => do
    let members ← membersOf "items" value
    pure (.object (members.map fun (name, value) => (name, match value with
      | .null => .text []
      | value => .text value.shown)))

def payloadFields (payload : Value) : Except RecordError Fields := do
  let payload ← membersOf "get" payload
  let entity ← membersOf "get" (givenOr (.object []) (payload.get? "entity"))
  let properties := givenOr (.object []) (entity.get? "properties")
  let argument ← hasProperty "argument" properties
  let onElement ← hasProperty "elementToActOn" properties
  let onAttribute ← hasProperty "elementAttributeToActOn" properties
  let regex ← hasProperty "regularExpression" properties
  let flags ← flagsOf entity
  pure [
    ("key", (payload.get? "key").getD (.text [])),
    ("literal", givenOr (.text []) (payload.get? "literal")),
    ("aliases", (payload.get? "aliases").getD .null),
    ("verb", (payload.get? "verb").getD .null),
    ("description", givenOr (.text []) (entity.get? "description")),
    ("source", givenOr (.text []) (payload.get? "source")),
    ("cli_arguments", flags),
    ("argument", .bool argument),
    ("on_element", .bool onElement),
    ("on_attribute", .bool onAttribute),
    ("regex", .bool regex)]

def ofPayload (payload : Value) : Except RecordError Action := do
  let fields ← payloadFields payload
  (ofFields fields).toExcept .action

end Action

end ScriptAssist
