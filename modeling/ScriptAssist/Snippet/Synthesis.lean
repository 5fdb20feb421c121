import ScriptAssist.Snippet.Basic
import ScriptAssist.Snippet.Token

/-!
# Snippets of actions

An action has a family of snippets: one for its first capability, one for the first two, and so on.
An action with flags has a second family, with a block of flags for the argument.
-/

namespace ScriptAssist

structure Layer where
  suffix : Text
  token : Text
  deriving DecidableEq, Repr

namespace Synthesis

inductive Family
  | argument
  | flagBlock
  deriving DecidableEq, Repr

def Family.layer : Family → Layer
  | argument => ⟨"w/ argument", Token.argument⟩
  | flagBlock => ⟨"w/ arguments", Token.flagBlock⟩

def families (action : Action) : List Family :=
  if action.takesFlags then [.argument, .flagBlock] else [.argument]

def elementSuffix : Text := "w/ element"

def elementLayers (action : Action) (locators : List Text) : List Layer :=
  if action.onElement then
    match Token.element action locators with
    | .ok token => [⟨elementSuffix, token⟩]
    | .error _ => []
  else []

def layers (action : Action) (family : Family) (locators attributes : List Text) : List Layer :=
  (if action.takesFlags || action.takesArgument then [family.layer] else []) ++
    elementLayers action locators ++
    (if action.onAttribute then [⟨"w/ attribute", Token.elementAttribute attributes⟩] else []) ++
    (if action.usesRegex then [⟨"w/ regex", Token.regex⟩] else [])

/-- One snippet for each layer, on top of the name and the template so far. -/
def stack (action : Action) (name template : Text) : List Layer → List Snippet
  | [] => []
  | layer :: rest =>
    let name := name ++ ' ' :: layer.suffix
    let template := template ++ ' ' :: layer.token
    { name, template, documentation := action.description, detail := action.source } ::
      stack action name template rest

def familySnippets (action : Action) (locators attributes : List Text) (family : Family) :
    List Snippet :=
  Keyed.dedupe Snippet.name
    (stack action (literalOfKey action.key) (Token.action action)
      (layers action family locators attributes))

def snippets (action : Action) (locators attributes : List Text) : List Snippet :=
  if action.hasCapabilities then
    Keyed.dedupe Snippet.name
      ((families action).flatMap (familySnippets action locators attributes))
  else []

def allSnippets (actions : List Action) (locators attributes : List Text) : List Snippet :=
  Keyed.dedupe Snippet.name (actions.flatMap (snippets · locators attributes))

structure SkippedLayer where
  suffix : Text
  key : Text
  cause : Token.Malformed
  deriving DecidableEq, Repr

/-- The layers that are missing from the snippets of an action, once for each family. -/
def skippedLayers (action : Action) (locators : List Text) : List SkippedLayer :=
  (families action).flatMap fun _ =>
    if action.onElement then
      match Token.element action locators with
      | .ok _ => []
      | .error cause => [⟨elementSuffix, action.key, cause⟩]
    else []

end Synthesis

end ScriptAssist
