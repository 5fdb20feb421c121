import ScriptAssist.Snippet.Basic
import ScriptAssist.Snippet.Token

/-!
# Snippets of expected results

An expected result reads a value from an element and compares it. There are four forms: with or
without an attribute, with or without a regular expression.
-/

namespace ScriptAssist.AssertionSnippet

def subject : Text :=
  '[' :: placeholder 1 "step number" ++ "] verify that " ++ braced (placeholder 2 "method")

def element (locators : List Text) : Text :=
  "of " ++ braced (placeholder 3 "locator value") ++ " by " ++
    braced (choicePlaceholder 4 (Token.distinct locators) "locator")

def operator (operators : List Text) : Text :=
  choicePlaceholder 5 (Text.sortedSet operators) "operator"

def elementAttribute (stop : Int) (attributes : List Text) : Text :=
  braced (choicePlaceholder stop (Text.sortedSet attributes) "attribute")

def regex (stop : Int) : Text :=
  "with regex " ++ braced (placeholder stop ".*")

def expected (stop : Int) : Text :=
  braced (placeholder stop "expected result")

def ofParts (name : Text) (parts : List Text) : Snippet :=
  { name
    template := [' '].intercalate (subject :: parts)
    documentation := "Verify a value read from an element."
    detail := "code" }

/-- The tab stops up to five are the same in all forms; the others follow the order of the parts. -/
def all (locators attributes operators : List Text) : List Snippet :=
  let element := element locators
  let operator := operator operators
  [ofParts "assert w/ element" [element, operator, expected 6],
    ofParts "assert w/ element w/ attribute"
      [element, elementAttribute 6 attributes, operator, expected 7],
    ofParts "assert w/ element w/ regex" [element, regex 6, operator, expected 7],
    ofParts "assert w/ element w/ attribute w/ regex"
      [element, elementAttribute 6 attributes, regex 7, operator, expected 8]]

end ScriptAssist.AssertionSnippet
