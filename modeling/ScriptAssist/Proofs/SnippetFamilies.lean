import Mathlib.Data.List.Infix
import ScriptAssist.Proofs.LastOfEach
import ScriptAssist.Proofs.SnippetNames

/-!
# Families of snippets

An action shows what it can do one layer after the other, so a family has one snippet for each
non-empty beginning of the list of its usable capabilities. The names in a family grow, and those of
the two families differ right after the first layer; so no snippet of an action replaces another.
Between actions names may be shared. Leaving them out in each family and in each action first makes
no difference then: the last snippet of each name stays, where the name first came up.
-/

namespace ScriptAssist.Synthesis

/-- What a snippet can show of an action, in the order of its template. -/
inductive Capability
  | argument
  | element
  | elementAttribute
  | regex
  deriving DecidableEq, Repr

namespace Capability

def all : List Capability :=
  [argument, element, elementAttribute, regex]

def isUsable (action : Action) : Capability → Bool
  | argument => action.takesFlags || action.takesArgument
  | element => action.onElement && !(action.verb.getD []).isEmpty
  | elementAttribute => action.onAttribute
  | regex => action.usesRegex

def usable (action : Action) : List Capability :=
  all.filter (isUsable action)

def layer (action : Action) (family : Family) (locators attributes : List Text) :
    Capability → Layer
  | argument => family.layer
  | element => ⟨elementSuffix, (Token.element action locators).toOption.getD []⟩
  | elementAttribute => ⟨"w/ attribute", Token.elementAttribute attributes⟩
  | regex => ⟨"w/ regex", Token.regex⟩

end Capability

/-- The snippet that shows some layers: its name and its template are words with spaces between. -/
def showing (action : Action) (layers : List Layer) : Snippet :=
  { name := [' '].intercalate (literalOfKey action.key :: layers.map Layer.suffix)
    template := [' '].intercalate (Token.action action :: layers.map Layer.token)
    documentation := action.description
    detail := action.source }

/-- One snippet for each non-empty beginning of the usable capabilities. -/
def shown (action : Action) (locators attributes : List Text) (family : Family) : List Snippet :=
  (Capability.usable action).inits.tail.map fun capabilities =>
    showing action (capabilities.map (Capability.layer action family locators attributes))

/-- The snippets of an action as they come up, before any is left out. -/
def emitted (action : Action) (locators attributes : List Text) : List Snippet :=
  (families action).flatMap fun family =>
    stack action (literalOfKey action.key) (Token.action action)
      (layers action family locators attributes)

theorem inits_eq_cons {α : Type} (items : List α) : items.inits = [] :: items.inits.tail := by
  cases items <;> simp

theorem stack_eq (action : Action) (name template : Text) (layers : List Layer) :
    stack action name template layers = layers.inits.tail.map fun layers =>
      { name := [' '].intercalate (name :: layers.map Layer.suffix)
        template := [' '].intercalate (template :: layers.map Layer.token)
        documentation := action.description
        detail := action.source } := by
  induction layers generalizing name template with
  | nil => rfl
  | cons layer rest ih =>
    rw [stack, ih, List.inits_cons, List.tail_cons, List.map_map]
    conv_rhs => rw [inits_eq_cons, List.map_cons]
    refine congrArg₂ List.cons ?_ (List.map_congr_left fun layers _ => ?_) <;>
      simp [Text.intercalate_cons]

theorem element_eq_ok {action : Action} (h : action.verb.getD [] ≠ []) (locators : List Text) :
    Token.element action locators =
      .ok ((Token.element action locators).toOption.getD []) := by
  rw [Token.element]
  split
  · rename_i hVerb
    exact absurd hVerb h
  · rfl

theorem elementLayers_eq (action : Action) (family : Family) (locators attributes : List Text) :
    elementLayers action locators =
      if Capability.element.isUsable action then
        [Capability.element.layer action family locators attributes]
      else [] := by
  by_cases hVerb : action.verb.getD [] = []
  · have hError : Token.element action locators = .error .elementWithoutVerb := by
      rw [Token.element, hVerb]
    simp [elementLayers, hError, Capability.isUsable, hVerb]
  · have hOk := element_eq_ok hVerb locators
    have hUsable : Capability.element.isUsable action = action.onElement := by
      simp [Capability.isUsable, hVerb]
    rw [elementLayers, hUsable, hOk]
    rfl

theorem map_filter_eq_flatMap {α β : Type} (p : α → Bool) (f : α → β) (items : List α) :
    (items.filter p).map f = items.flatMap fun item => if p item then [f item] else [] := by
  induction items with
  | nil => rfl
  | cons item rest ih => by_cases h : p item = true <;> simp [h, ih]

theorem layers_eq (action : Action) (family : Family) (locators attributes : List Text) :
    layers action family locators attributes =
      (Capability.usable action).map (Capability.layer action family locators attributes) := by
  rw [Capability.usable, map_filter_eq_flatMap, layers,
    elementLayers_eq action family locators attributes]
  simp only [Capability.all, List.flatMap_cons, List.flatMap_nil, List.append_nil,
    List.append_assoc]
  rfl

theorem stack_layers (action : Action) (family : Family) (locators attributes : List Text) :
    stack action (literalOfKey action.key) (Token.action action)
        (layers action family locators attributes) =
      shown action locators attributes family := by
  rw [stack_eq, layers_eq, List.map_inits, ← List.map_tail, List.map_map]
  rfl

theorem emitted_eq (action : Action) (locators attributes : List Text) :
    emitted action locators attributes =
      (families action).flatMap (shown action locators attributes) := by
  simp only [emitted, stack_layers]

theorem length_lt_of_mem_stack {action : Action} {name template : Text} {layers : List Layer}
    {snippet : Snippet} (h : snippet ∈ stack action name template layers) :
    name.length < snippet.name.length := by
  induction layers generalizing name template with
  | nil => cases h
  | cons layer rest ih =>
    have hLonger : name.length < (name ++ ' ' :: layer.suffix).length := by
      simp
    rcases List.mem_cons.mp h with rfl | hRest
    · exact hLonger
    · exact hLonger.trans (ih hRest)

theorem nodup_names_stack (action : Action) (name template : Text) (layers : List Layer) :
    ((stack action name template layers).map Snippet.name).Nodup := by
  induction layers generalizing name template with
  | nil => exact List.nodup_nil
  | cons layer rest ih =>
    rw [stack, List.map_cons, List.nodup_cons]
    refine ⟨?_, ih _ _⟩
    intro hMem
    obtain ⟨snippet, hSnippet, hName⟩ := List.mem_map.mp hMem
    exact absurd (length_lt_of_mem_stack hSnippet) (by simp [hName])

theorem layers_of_takesFlags {action : Action} (h : action.takesFlags = true)
    (locators attributes : List Text) :
    ∃ others, ∀ family, layers action family locators attributes = family.layer :: others := by
  refine ⟨(layers action .argument locators attributes).tail, fun family => ?_⟩
  rw [layers, layers, h]
  rfl

theorem name_of_mem_stack_cons {action : Action} {name template : Text} {layer : Layer}
    {rest : List Layer} (hRest : ∀ other ∈ rest, ∃ more, other.suffix = 'w' :: '/' :: more)
    {snippet : Snippet} (h : snippet ∈ stack action name template (layer :: rest)) :
    ∃ more, snippet.name = name ++ ' ' :: (layer.suffix ++ more) ∧ more.head? ≠ some 's' := by
  rcases List.mem_cons.mp h with rfl | hStack
  · exact ⟨[], by simp, by simp⟩
  · obtain ⟨more, hName⟩ := extends_of_mem_stack hRest (.inl rfl) hStack
    exact ⟨' ' :: 'w' :: '/' :: more, by simp [hName], by simp⟩

/-- The names of the two families differ right after the first layer. -/
theorem name_ne_of_families {action : Action} (hFlags : action.takesFlags = true)
    {locators attributes : List Text} {name template : Text} {s t : Snippet}
    (hs : s ∈ stack action name template (layers action .argument locators attributes))
    (ht : t ∈ stack action name template (layers action .flagBlock locators attributes)) :
    s.name ≠ t.name := by
  obtain ⟨others, hLayers⟩ := layers_of_takesFlags hFlags locators attributes
  have hOthers : ∀ other ∈ others, ∃ more, other.suffix = 'w' :: '/' :: more := by
    intro other hOther
    have hMem : other ∈ layers action .argument locators attributes := by
      rw [hLayers]
      exact List.mem_cons_of_mem _ hOther
    exact suffix_of_mem_layers hMem
  rw [hLayers] at hs ht
  obtain ⟨more, hName, hHead⟩ := name_of_mem_stack_cons hOthers hs
  obtain ⟨rest, hOther, _⟩ := name_of_mem_stack_cons hOthers ht
  intro hSame
  rw [hName, hOther] at hSame
  have hPlural : Family.flagBlock.layer.suffix ++ rest =
      Family.argument.layer.suffix ++ 's' :: rest := rfl
  rw [hPlural] at hSame
  have hMore : more = 's' :: rest := by simpa using hSame
  exact hHead (by simp [hMore])

theorem nodup_names_emitted (action : Action) (locators attributes : List Text) :
    ((emitted action locators attributes).map Snippet.name).Nodup := by
  have hFamily := fun family => nodup_names_stack action (literalOfKey action.key)
    (Token.action action) (layers action family locators attributes)
  rw [emitted, families]
  split
  · rename_i hFlags
    simp only [List.flatMap_cons, List.flatMap_nil, List.append_nil, List.map_append]
    refine List.nodup_append.mpr ⟨hFamily .argument, hFamily .flagBlock, ?_⟩
    intro a ha b hb
    obtain ⟨s, hs, rfl⟩ := List.mem_map.mp ha
    obtain ⟨t, ht, rfl⟩ := List.mem_map.mp hb
    exact name_ne_of_families hFlags hs ht
  · simpa using hFamily .argument

theorem layers_of_not_hasCapabilities {action : Action} (h : action.hasCapabilities = false)
    (family : Family) (locators attributes : List Text) :
    layers action family locators attributes = [] := by
  simp only [Action.hasCapabilities, Bool.or_eq_false_iff] at h
  simp [layers, elementLayers, h]

theorem snippets_eq_dedupe (action : Action) (locators attributes : List Text) :
    snippets action locators attributes =
      Keyed.dedupe Snippet.name (emitted action locators attributes) := by
  have hFamilies := Keyed.dedupe_flatMap_dedupe Snippet.name (fun family =>
    stack action (literalOfKey action.key) (Token.action action)
      (layers action family locators attributes)) (families action)
  rw [snippets]
  split
  · exact hFamilies
  · rename_i hNone
    have hLayers := fun family => layers_of_not_hasCapabilities (by simpa using hNone) family
      locators attributes
    have hEmpty : emitted action locators attributes = [] := by
      simp [emitted, hLayers, stack, List.flatMap_eq_nil_iff]
    rw [hEmpty]
    rfl

theorem snippets_eq_emitted (action : Action) (locators attributes : List Text) :
    snippets action locators attributes = emitted action locators attributes := by
  rw [snippets_eq_dedupe]
  exact Keyed.dedupe_of_nodup Snippet.name _ (nodup_names_emitted action locators attributes)

theorem usable_without_verb {action : Action} (h : action.verb.getD [] = []) :
    Capability.usable { action with onElement := false } = Capability.usable action := by
  apply List.filter_congr
  intro capability _
  cases capability with
  | element => simp [Capability.isUsable, h]
  | argument | elementAttribute | regex => rfl

/-- An action has, for each form of its argument, one snippet for every non-empty beginning of its
usable capabilities. No two of them have one name, so none is left out. To work on an element
without a verb is not to work on an element. -/
theorem snippets_show_beginnings (action : Action) (locators attributes : List Text) :
    snippets action locators attributes =
      shown action locators attributes .argument ++
        (if action.takesFlags then shown action locators attributes .flagBlock else []) ∧
    ((emitted action locators attributes).map Snippet.name).Nodup ∧
    snippets action locators attributes = emitted action locators attributes ∧
    (Capability.element.isUsable action = true → Token.element action locators =
      .ok (Capability.element.layer action .argument locators attributes).token) ∧
    (action.verb.getD [] = [] → snippets action locators attributes =
      snippets { action with onElement := false } locators attributes) := by
  have hEmitted := snippets_eq_emitted action locators attributes
  refine ⟨?_, nodup_names_emitted action locators attributes, hEmitted, ?_, ?_⟩
  · rw [hEmitted, emitted_eq, families]
    split <;> simp
  · intro hUsable
    apply element_eq_ok
    rw [Capability.isUsable, Bool.and_eq_true] at hUsable
    simpa using hUsable.2
  · intro hVerb
    rw [hEmitted, snippets_eq_emitted, emitted_eq, emitted_eq]
    have hShown : shown { action with onElement := false } locators attributes =
        shown action locators attributes := by
      funext family
      rw [shown, usable_without_verb hVerb]
      rfl
    rw [hShown]
    rfl

theorem snippets_of_hover :
    let hover : Action := {
      key := "Hover", literal := "hover over", aliases := some ["Point"], verb := some []
      onElement := true, usesRegex := true
      flags := some (NamedTexts.ofEntries [("wait", "")]) }
    hover.verb.getD [] = [] ∧
      snippets hover ["xpath"] [] = snippets { hover with onElement := false } ["xpath"] [] ∧
      (snippets hover ["xpath"] []).map Snippet.name =
        ["hover w/ argument", "hover w/ argument w/ regex", "hover w/ arguments",
          "hover w/ arguments w/ regex"] ∧
      ((snippets hover ["xpath"] []).map Snippet.template)[1]? =
        some (braced ('$' :: braced "1|hover,point|") ++ " " ++
          braced ('$' :: braced "1:argument value") ++ " with regex " ++
          braced ('$' :: braced "8:.*")) := by
  intro hover
  obtain ⟨hShown, _, _, _, hSame⟩ := snippets_show_beginnings hover ["xpath"] []
  refine ⟨rfl, hSame rfl, ?_⟩
  rw [hShown]
  exact ⟨by decide, by decide⟩

theorem allSnippets_eq_dedupe (actions : List Action) (locators attributes : List Text) :
    allSnippets actions locators attributes =
      Keyed.dedupe Snippet.name (actions.flatMap (emitted · locators attributes)) := by
  simp only [allSnippets, snippets_eq_dedupe, Keyed.dedupe_flatMap_dedupe]

theorem nodup_names_allSnippets (actions : List Action) (locators attributes : List Text) :
    ((allSnippets actions locators attributes).map Snippet.name).Nodup :=
  Keyed.nodup_dedupe Snippet.name _

theorem complete_eq_map_allSnippets {engine : Engine} {query : Query}
    (h : engine.mode query = .ok .actions) :
    engine.complete query =
      (allSnippets engine.actions engine.catalog.locatorNames engine.catalog.attributeNames).map
        (Snippet.candidate .action) := by
  rw [Engine.complete_of_candidates h rfl, Engine.actionCandidates]
  apply Keyed.dedupe_of_nodup
  rw [List.map_map]
  exact nodup_names_allSnippets engine.actions _ _

/-- Of all snippets that come up the last one of each name stays, where the name first came up,
though repeated names are left out of each family and of each action before. To leave them out once
more, as a completion does, changes nothing. -/
theorem allSnippets_last_of_each (actions : List Action) (locators attributes : List Text) :
    allSnippets actions locators attributes =
      Keyed.lastOfEach Snippet.name (actions.flatMap (emitted · locators attributes)) ∧
    Keyed.dedupe Snippet.name (allSnippets actions locators attributes) =
      allSnippets actions locators attributes ∧
    ∀ (engine : Engine) (query : Query), engine.mode query = .ok .actions →
      engine.complete query =
        (allSnippets engine.actions engine.catalog.locatorNames engine.catalog.attributeNames).map
          (Snippet.candidate .action) := by
  refine ⟨?_, ?_, fun engine query hMode => complete_eq_map_allSnippets hMode⟩
  · rw [allSnippets_eq_dedupe, Keyed.dedupe_eq_lastOfEach]
  · exact Keyed.dedupe_of_nodup Snippet.name _ (nodup_names_allSnippets actions locators attributes)

theorem allSnippets_of_repeated_click :
    let first : Action := {
      key := "Click", literal := "click", takesArgument := true, usesRegex := true
      description := "first" }
    let tap : Action := { key := "Tap", literal := "tap", takesArgument := true }
    let second : Action := {
      key := "click", literal := "click", takesArgument := true, onAttribute := true
      description := "second" }
    let engine : Engine := {
      catalog := { actions := [first, tap, second], headings := [⟨"test-actions", [], []⟩] } }
    let query : Query := ⟨some "[test-actions]\n", 1, 0, .action⟩
    engine.mode query = .ok .actions ∧
      (engine.complete query).map Candidate.label =
        ["click w/ argument", "click w/ argument w/ regex", "tap w/ argument",
          "click w/ argument w/ attribute"] ∧
      (engine.complete query).map Candidate.documentation = ["second", "first", "", "second"] := by
  intro first tap second engine query
  have hMode : engine.mode query = .ok .actions := by decide
  have hActions : engine.actions = [first, tap, second] := by decide
  obtain ⟨hLast, _, hComplete⟩ := allSnippets_last_of_each [first, tap, second] [] []
  refine ⟨hMode, ?_⟩
  rw [hComplete engine query hMode, hActions, show engine.catalog.locatorNames = [] from rfl,
    show engine.catalog.attributeNames = [] from rfl, hLast]
  exact ⟨by decide, by decide⟩

end ScriptAssist.Synthesis
