import ScriptAssist.Proofs.FlagCompletion

/-!
# Names of snippets

The name of a snippet is the words of its action and the suffixes of its layers. No slash stands in
the words of a key, so the first slash of the name shows where they end, and the words give back the
key. Actions with different keys therefore share no name, and no snippet replaces one of another
action.
-/

namespace ScriptAssist

theorem slash_not_mem_literalOfKey {key : Text} (h : IsPascal key) : '/' ∉ literalOfKey key := by
  intro hSlash
  rcases mem_literalOfKey h hSlash with hSpace | hAlphanum
  · cases hSpace
  · exact absurd hAlphanum (by decide)

namespace Synthesis

/-- A name goes on after some words with a suffix. -/
def Extends (words name : Text) : Prop :=
  ∃ rest, name = words ++ ' ' :: 'w' :: '/' :: rest

theorem Extends.words_eq {a b name : Text} (ha : Extends a name) (hb : Extends b name)
    (hSlashA : '/' ∉ a) (hSlashB : '/' ∉ b) : a = b := by
  have hUpToSlash : ∀ words : Text, Extends words name → '/' ∉ words →
      name.takeWhile (· != '/') = words ++ [' ', 'w'] := by
    rintro words ⟨rest, rfl⟩ hSlash
    rw [List.takeWhile_append_of_pos]
    · rfl
    · intro c hc
      simpa using ne_of_mem_of_not_mem hc hSlash
  have hSame := (hUpToSlash a ha hSlashA).symm.trans (hUpToSlash b hb hSlashB)
  exact List.append_cancel_right hSame

theorem suffix_of_mem_layers {action : Action} {family : Family} {locators attributes : List Text}
    {layer : Layer} (h : layer ∈ layers action family locators attributes) :
    ∃ rest, layer.suffix = 'w' :: '/' :: rest := by
  simp only [layers, elementLayers, List.mem_append, List.mem_ite_nil_right,
    List.mem_singleton] at h
  rcases h with ((⟨_, rfl⟩ | ⟨_, hElement⟩) | ⟨_, rfl⟩) | ⟨_, rfl⟩
  · cases family <;> exact ⟨_, rfl⟩
  · split at hElement
    · rw [List.mem_singleton.mp hElement]
      exact ⟨_, rfl⟩
    · cases hElement
  · exact ⟨_, rfl⟩
  · exact ⟨_, rfl⟩

theorem extends_of_mem_stack {action : Action} {words name template : Text} {layers : List Layer}
    (hLayers : ∀ layer ∈ layers, ∃ rest, layer.suffix = 'w' :: '/' :: rest)
    (hName : name = words ∨ Extends words name) {snippet : Snippet}
    (h : snippet ∈ stack action name template layers) : Extends words snippet.name := by
  induction layers generalizing name template with
  | nil => cases h
  | cons layer rest ih =>
    obtain ⟨more, hSuffix⟩ := hLayers layer List.mem_cons_self
    have hNext : Extends words (name ++ ' ' :: layer.suffix) := by
      rcases hName with rfl | ⟨tail, rfl⟩
      · exact ⟨more, by rw [hSuffix]⟩
      · exact ⟨tail ++ ' ' :: layer.suffix, by simp⟩
    rcases List.mem_cons.mp h with rfl | hRest
    · exact hNext
    · exact ih (fun other hOther => hLayers other (List.mem_cons_of_mem _ hOther)) (.inr hNext)
        hRest

theorem extends_of_mem_snippets {action : Action} {locators attributes : List Text}
    {snippet : Snippet} (h : snippet ∈ snippets action locators attributes) :
    Extends (literalOfKey action.key) snippet.name := by
  rw [snippets] at h
  split at h
  · obtain ⟨family, _, hFamily⟩ := List.mem_flatMap.mp (Keyed.mem_of_mem_dedupe h)
    exact extends_of_mem_stack (fun _ => suffix_of_mem_layers) (.inl rfl)
      (Keyed.mem_of_mem_dedupe hFamily)
  · cases h

theorem key_eq_of_name_eq {a b : Action} (ha : IsPascal a.key) (hb : IsPascal b.key)
    {locators attributes : List Text} {s t : Snippet} (hs : s ∈ snippets a locators attributes)
    (ht : t ∈ snippets b locators attributes) (hName : s.name = t.name) : a.key = b.key := by
  apply literalOfKey_injective ha.isKey hb.isKey
  exact (extends_of_mem_snippets hs).words_eq (hName ▸ extends_of_mem_snippets ht)
    (slash_not_mem_literalOfKey ha) (slash_not_mem_literalOfKey hb)

theorem nodup_names_snippets (action : Action) (locators attributes : List Text) :
    ((snippets action locators attributes).map Snippet.name).Nodup := by
  rw [snippets]
  split
  · exact Keyed.nodup_dedupe Snippet.name _
  · exact List.nodup_nil

section

variable {actions : List Action} (hKeys : ∀ action ∈ actions, IsPascal action.key)
  (hDistinct : (actions.map Action.key).Nodup) (locators attributes : List Text)
include hKeys hDistinct

theorem nodup_names_flatMap :
    ((actions.flatMap (snippets · locators attributes)).map Snippet.name).Nodup := by
  rw [List.map_flatMap, List.nodup_flatMap]
  refine ⟨fun action _ => nodup_names_snippets action locators attributes, ?_⟩
  apply (List.pairwise_map.mp hDistinct).imp_of_mem
  intro a b ha hb hKey name hFirst hSecond
  obtain ⟨s, hs, rfl⟩ := List.mem_map.mp hFirst
  obtain ⟨t, ht, hName⟩ := List.mem_map.mp hSecond
  exact hKey (key_eq_of_name_eq (hKeys a ha) (hKeys b hb) hs ht hName.symm)

theorem allSnippets_eq_flatMap :
    allSnippets actions locators attributes = actions.flatMap (snippets · locators attributes) :=
  Keyed.dedupe_of_nodup Snippet.name _ (nodup_names_flatMap hKeys hDistinct locators attributes)

end

end Synthesis

namespace Engine

variable {engine : Engine}

theorem actionCandidates_eq (hKeys : ∀ action ∈ engine.catalog.actions, IsPascal action.key)
    (hDistinct : engine.HasDistinctKeys) :
    engine.actionCandidates =
      (engine.catalog.actions.flatMap (Synthesis.snippets · engine.catalog.locatorNames
        engine.catalog.attributeNames)).map (Snippet.candidate .action) := by
  rw [actionCandidates, actions_eq hDistinct, Synthesis.allSnippets_eq_flatMap hKeys hDistinct]

theorem complete_of_mode_actions (hKeys : ∀ action ∈ engine.catalog.actions, IsPascal action.key)
    (hDistinct : engine.HasDistinctKeys) {query : Query}
    (hMode : engine.mode query = .ok .actions) :
    engine.complete query = engine.actionCandidates := by
  rw [complete_of_candidates hMode rfl]
  apply Keyed.dedupe_of_nodup
  rw [actionCandidates_eq hKeys hDistinct, List.map_map]
  exact Synthesis.nodup_names_flatMap hKeys hDistinct _ _

end Engine

namespace Synthesis

/-- The snippets of actions with different keys are the snippets of each action in turn; so are the
candidates for the start of a step. -/
theorem allSnippets_concatenates {actions : List Action}
    (hKeys : ∀ action ∈ actions, IsPascal action.key)
    (hDistinct : (actions.map Action.key).Nodup) (locators attributes : List Text) :
    (∀ a ∈ actions, ∀ b ∈ actions, a ≠ b → ∀ s ∈ snippets a locators attributes,
      ∀ t ∈ snippets b locators attributes, s.name ≠ t.name) ∧
    allSnippets actions locators attributes = actions.flatMap (snippets · locators attributes) ∧
    ∀ engine : Engine, engine.catalog.actions = actions →
      engine.actionCandidates = (actions.flatMap (snippets · engine.catalog.locatorNames
        engine.catalog.attributeNames)).map (Snippet.candidate .action) ∧
      ∀ query, engine.mode query = .ok .actions →
        engine.complete query = engine.actionCandidates := by
  refine ⟨?_, allSnippets_eq_flatMap hKeys hDistinct locators attributes, ?_⟩
  · intro a ha b hb hNe s hs t ht hName
    apply hNe
    exact List.inj_on_of_nodup_map hDistinct ha hb
      (key_eq_of_name_eq (hKeys a ha) (hKeys b hb) hs ht hName)
  · rintro engine rfl
    exact ⟨Engine.actionCandidates_eq hKeys hDistinct,
      fun query hMode => Engine.complete_of_mode_actions hKeys hDistinct hMode⟩

theorem allSnippets_of_click_keys :
    let click : Action := {
      key := "Click", literal := "click", verb := some "on", onElement := true
      flags := some (NamedTexts.ofEntries [("wait", "")]) }
    let clickW : Action := { key := "ClickW", literal := "click", takesArgument := true }
    let clickW2 : Action := { key := "ClickW2", literal := "click w", usesRegex := true }
    let actions := [click, clickW, clickW2]
    let engine : Engine := { catalog := { actions, headings := [⟨"test-actions", [], []⟩] } }
    (∀ action ∈ actions, IsPascal action.key) ∧ (actions.map Action.key).Nodup ∧
      allSnippets actions ["xpath"] [] = actions.flatMap (snippets · ["xpath"] []) ∧
      (engine.complete ⟨some "[test-actions]\n", 1, 0, .action⟩).map Candidate.label =
        ["click w/ argument", "click w/ argument w/ element", "click w/ arguments",
          "click w/ arguments w/ element", "click w w/ argument", "click w2 w/ regex"] := by
  intro click clickW clickW2 actions engine
  have hKeys : ∀ action ∈ actions, IsPascal action.key := by decide
  have hDistinct : (actions.map Action.key).Nodup := by decide
  obtain ⟨_, hAll, hEngine⟩ := allSnippets_concatenates hKeys hDistinct ["xpath"] []
  obtain ⟨hCandidates, hComplete⟩ := hEngine engine rfl
  refine ⟨hKeys, hDistinct, hAll, ?_⟩
  rw [hComplete _ (by decide), hCandidates]
  decide

end Synthesis

end ScriptAssist
