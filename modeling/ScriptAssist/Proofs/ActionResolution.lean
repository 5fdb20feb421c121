import Mathlib.Data.List.Nodup
import ScriptAssist.Engine.Mode
import ScriptAssist.Proofs.KeyWords
import ScriptAssist.Proofs.LiteralSearch

/-!
# The action of a logical line

A line is searched for every way to write an action, but the action is looked up by a key that is
made from the words found. So what is found decides the key, and the key alone decides the action:
who declared the words does not matter.
-/

namespace ScriptAssist.Engine

open LiteralSearch (Found IsFirst)

variable {engine : Engine}

def HasDistinctKeys (engine : Engine) : Prop :=
  (engine.catalog.actions.map Action.key).Nodup

theorem actions_eq (h : engine.HasDistinctKeys) : engine.actions = engine.catalog.actions :=
  Keyed.dedupe_of_nodup Action.key engine.catalog.actions h

theorem action?_eq_some_iff (h : engine.HasDistinctKeys) (key : Text) (action : Action) :
    engine.action? key = some action ↔ action ∈ engine.catalog.actions ∧ action.key = key := by
  rw [action?, actions_eq h]
  constructor
  · intro hFind
    exact ⟨List.mem_of_find?_eq_some hFind, by simpa using List.find?_some hFind⟩
  · rintro ⟨hMem, rfl⟩
    have hSome : (engine.catalog.actions.find? (·.key == action.key)).isSome :=
      List.find?_isSome.mpr ⟨action, hMem, by simp⟩
    obtain ⟨other, hOther⟩ := Option.isSome_iff_exists.mp hSome
    have hKey : other.key = action.key := by simpa using List.find?_some hOther
    rw [hOther, List.inj_on_of_nodup_map h (List.mem_of_find?_eq_some hOther) hMem hKey]

theorem action?_eq_none_iff (h : engine.HasDistinctKeys) (key : Text) :
    engine.action? key = none ↔ ∀ action ∈ engine.catalog.actions, action.key ≠ key := by
  rw [action?, actions_eq h]
  simp

theorem mem_literals_of_mem (h : engine.HasDistinctKeys) {action : Action}
    (hAction : action ∈ engine.catalog.actions) {literal : Text}
    (hLiteral : literal ∈ action.literals) (hNonempty : literal ≠ []) :
    literal ∈ engine.literals := by
  rw [literals, actions_eq h]
  have hMem := List.mem_flatMap.mpr ⟨action, hAction, hLiteral⟩
  exact List.mem_filter.mpr ⟨hMem, by simpa using hNonempty⟩

theorem exists_action_of_mem_literals (h : engine.HasDistinctKeys) {literal : Text}
    (hLiteral : literal ∈ engine.literals) :
    ∃ action ∈ engine.catalog.actions, literal ∈ action.literals := by
  rw [literals, actions_eq h] at hLiteral
  exact List.mem_flatMap.mp (List.mem_filter.mp hLiteral).1

theorem resolveText_of_isFirst {text : Text} {found : Found}
    (h : IsFirst engine.literals none text found) :
    engine.resolveText text =
      match engine.action? (keyOfLiteral found.literal) with
      | some action => .ok action
      | none => .error (.unknownKey (keyOfLiteral found.literal)) := by
  have hNonempty : engine.literals.isEmpty = false :=
    List.isEmpty_eq_false_iff.mpr (List.ne_nil_of_mem h.declared)
  have hSearch := (LiteralSearch.search_eq_some_iff _ _ _).mpr h
  rw [resolveText, if_neg (by simp [hNonempty])]
  cases hAction : engine.action? (keyOfLiteral found.literal) with
  | none => simp only [hSearch, hAction]
  | some action => simp only [hSearch, hAction]

theorem resolve_of_logicalLine {lines : List Text} {line column : Int} {content : LogicalLine}
    (h : engine.logicalLine lines line column = .ok content) :
    engine.resolve lines line column =
      (engine.resolveText content.text).mapError (.unresolved line) := by
  rw [resolve, h]
  dsimp only [bind, Except.bind]
  cases engine.resolveText content.text <;> rfl

theorem resolve_eq_ok_iff (hKeys : engine.HasDistinctKeys) {lines : List Text} {line column : Int}
    {content : LogicalLine} (hContent : engine.logicalLine lines line column = .ok content)
    {found : Found} (hFound : IsFirst engine.literals none content.text found) (action : Action) :
    engine.resolve lines line column = .ok action ↔
      action ∈ engine.catalog.actions ∧ action.key = keyOfLiteral found.literal := by
  rw [resolve_of_logicalLine hContent, resolveText_of_isFirst hFound, ← action?_eq_some_iff hKeys]
  cases engine.action? (keyOfLiteral found.literal) with
  | none => exact iff_of_false (fun h => by cases h) (fun h => by cases h)
  | some other =>
    change Except.ok other = Except.ok action ↔ _
    rw [Except.ok.injEq, Option.some.injEq]

theorem resolve_eq_unknownKey_iff (hKeys : engine.HasDistinctKeys) {lines : List Text}
    {line column : Int} {content : LogicalLine}
    (hContent : engine.logicalLine lines line column = .ok content) {found : Found}
    (hFound : IsFirst engine.literals none content.text found) :
    engine.resolve lines line column =
        .error (.unresolved line (.unknownKey (keyOfLiteral found.literal))) ↔
      ∀ action ∈ engine.catalog.actions, action.key ≠ keyOfLiteral found.literal := by
  rw [resolve_of_logicalLine hContent, resolveText_of_isFirst hFound, ← action?_eq_none_iff hKeys]
  cases engine.action? (keyOfLiteral found.literal) with
  | none => exact iff_of_true rfl rfl
  | some other => exact iff_of_false (fun h => by cases h) (fun h => by cases h)

/-- A line whose first literal is one that `action` declares resolves by the key made from the words
alone. So the action itself is found only where that key is its own: always for the words of its
key, for another literal only if it spells the key, and for an alias in the usual form only if the
alias is the key. -/
theorem resolve_first_literal_by_key (hKeys : engine.HasDistinctKeys) {lines : List Text}
    {line column : Int} {content : LogicalLine}
    (hContent : engine.logicalLine lines line column = .ok content) {found : Found}
    (hFound : IsFirst engine.literals none content.text found) {action : Action}
    (hAction : action ∈ engine.catalog.actions) (hDeclares : found.literal ∈ action.literals) :
    (∀ other, engine.resolve lines line column = .ok other ↔
      other ∈ engine.catalog.actions ∧ other.key = keyOfLiteral found.literal) ∧
    (engine.resolve lines line column =
        .error (.unresolved line (.unknownKey (keyOfLiteral found.literal))) ↔
      ∀ other ∈ engine.catalog.actions, other.key ≠ keyOfLiteral found.literal) ∧
    (found.literal = literalOfKey action.key → IsKey action.key →
      engine.resolve lines line column = .ok action) ∧
    (found.literal = action.literal ∧
        (engine.resolve lines line column = .ok action ↔
          action.key = keyOfLiteral action.literal) ∨
      ∃ key ∈ action.aliases.getD [], found.literal = literalOfKey key ∧
        (IsKey key → (engine.resolve lines line column = .ok action ↔ action.key = key))) := by
  have hOk := resolve_eq_ok_iff hKeys hContent hFound
  refine ⟨hOk, resolve_eq_unknownKey_iff hKeys hContent hFound, ?_, ?_⟩
  · intro hWords hKey
    exact (hOk action).mpr ⟨hAction, by rw [hWords, keyOfLiteral_literalOfKey hKey]⟩
  · rcases List.mem_cons.mp hDeclares with hLiteral | hAlias
    · refine .inl ⟨hLiteral, ?_⟩
      rw [hOk, and_iff_right hAction, hLiteral]
    · obtain ⟨key, hMem, hWords⟩ := List.mem_map.mp hAlias
      refine .inr ⟨key, hMem, hWords.symm, ?_⟩
      intro hKey
      rw [hOk, and_iff_right hAction, ← hWords, keyOfLiteral_literalOfKey hKey]

/-- The words of a key that only another action declares, as an alias, still name the action with
that key. -/
theorem resolve_click_by_key :
    let click : Action := { key := "Click", literal := "press on" }
    let tap : Action := { key := "Tap", literal := "tap", aliases := some ["Click"] }
    let engine : Engine := { catalog := { actions := [click, tap] } }
    engine.HasDistinctKeys ∧ IsFirst engine.literals none "1. click".toList ⟨3, "click"⟩ ∧
      "click".toList ∈ tap.literals ∧ engine.resolve ["1. click"] 0 8 = .ok click := by
  intro click tap engine
  have hKeys : engine.HasDistinctKeys := by unfold HasDistinctKeys; decide
  have hFound : IsFirst engine.literals none "1. click".toList ⟨3, "click"⟩ :=
    (LiteralSearch.search_eq_some_iff _ _ _).mp (by decide)
  have hDeclares : "click".toList ∈ tap.literals := by decide
  have hContent : engine.logicalLine ["1. click"] 0 8 = .ok ⟨"1. click", 8, 0⟩ := rfl
  have hResolve := (resolve_first_literal_by_key hKeys hContent hFound (by decide) hDeclares).1
  exact ⟨hKeys, hFound, hDeclares, (hResolve click).mpr (by decide)⟩

/-- Not every way to write an action leads to it: an alias makes a key that no action has. -/
theorem alias_words_unresolved :
    ¬ ∀ (engine : Engine), engine.HasDistinctKeys →
      engine.catalog.actions.Pairwise (fun a b => a.literals.Disjoint b.literals) →
      ∀ (lines : List Text) (line column : Int) (content : LogicalLine) (found : Found),
        engine.logicalLine lines line column = .ok content →
        IsFirst engine.literals none content.text found →
        ∀ action ∈ engine.catalog.actions, found.literal ∈ action.literals →
          engine.resolve lines line column = .ok action := by
  intro h
  let sendKeys : Action :=
    { key := "SendKeys", literal := "send keys", aliases := some ["TypeText"] }
  let engine : Engine := { catalog := { actions := [sendKeys] } }
  have hFound : IsFirst engine.literals none "type text".toList ⟨0, "type text"⟩ :=
    (LiteralSearch.search_eq_some_iff _ _ _).mp (by decide)
  have hResolved := h engine (by unfold HasDistinctKeys; decide) (List.pairwise_singleton _ _)
    ["type text"] 0 0 ⟨"type text", 0, 0⟩ ⟨0, "type text"⟩ rfl hFound sendKeys (by decide)
    (by decide)
  have hUnknown : engine.resolve ["type text"] 0 0 =
      .error (.unresolved 0 (.unknownKey "TypeText")) := rfl
  rw [hUnknown] at hResolved
  cases hResolved

end ScriptAssist.Engine
