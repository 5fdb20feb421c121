import ScriptAssist.Action.Basic

/-!
# Catalogs

Everything that completions are made from: the actions and macros of the script language, and the
names that their arguments may take.
-/

namespace ScriptAssist

structure Locator where
  literal : Text
  verb : Option Text := none
  deriving DecidableEq, Repr

/-- The name that scripts use. Providers publish `xpath` in two words. -/
def Locator.name (locator : Locator) : Text :=
  if locator.literal = "x path" then "xpath" else locator.literal

structure ElementAttribute where
  key : Text
  deriving DecidableEq, Repr

/-- A name that opens a section of a script. -/
structure Heading where
  key : Text
  literal : Text := []
  description : Text := []
  deriving DecidableEq, Repr

structure AssertionMethod where
  key : Text
  literal : Text := []
  description : Text := []
  deriving DecidableEq, Repr

structure Operator where
  literal : Text
  description : Text := []
  deriving DecidableEq, Repr

def Operator.name (operator : Operator) : Text :=
  Text.lower operator.literal

structure Catalog where
  actions : List Action := []
  macros : List Action := []
  locators : List Locator := []
  attributes : List ElementAttribute := []
  operators : List Operator := []
  assertions : List AssertionMethod := []
  headings : List Heading := []
  deriving DecidableEq, Repr

namespace Catalog

def locatorNames (catalog : Catalog) : List Text :=
  catalog.locators.map Locator.name

def attributeNames (catalog : Catalog) : List Text :=
  catalog.attributes.map ElementAttribute.key

def operatorNames (catalog : Catalog) : List Text :=
  catalog.operators.map Operator.name

def headingKeys (catalog : Catalog) : List Text :=
  catalog.headings.map Heading.key

end Catalog

end ScriptAssist
