import ScriptAssist.Proofs.CheckedActions
import ScriptAssist.Proofs.FailedReload
import ScriptAssist.Proofs.LastOfEach
import ScriptAssist.Proofs.UnsearchableRecords

/-!
# Which records of a list become actions

A record that cannot be read as an action is passed over, and the other records are read as if it
was not there. The one exception is a record whose properties cannot be searched: it ends the
reading, so the list has no actions at all.

Keys that differ only in the blanks around them are one key. The actions are in the order of the
first record of each key and are taken from the last one, so a record that comes later changes an
action but not its place.
-/

namespace ScriptAssist.Action

open Json (Value)

/-- The action of a payload that is read on its own. -/
def alone? (payload : Value) : Option Action :=
  (ofPayload payload).toOption

theorem alone?_eq_some_iff {payload : Value} {action : Action} :
    alone? payload = some action ↔ ofPayload payload = .ok action := by
  rw [alone?]
  cases ofPayload payload <;> simp [Except.toOption]

theorem exists_members_of_ofPayload {payload : Value} {action : Action}
    (h : ofPayload payload = .ok action) : ∃ members, payload = .object members := by
  cases payload with
  | object members => exact ⟨members, rfl⟩
  | _ => cases h

theorem toOption_ofListed (payload : Value) : (ofListed payload).toOption = alone? payload := by
  cases payload <;> rfl

def AllSearchable (payloads : List Value) : Prop :=
  ∀ payload ∈ payloads, ∀ properties, ¬Unsearchable payload properties

theorem accepted_cons (payload : Value) (rest : List Value) :
    accepted (payload :: rest) =
      match raised? payload with
      | some error => .error error
      | none => (accepted rest).map ((alone? payload).toList ++ ·) := by
  rw [accepted, ← toOption_ofListed, raised?]
  cases ofListed payload with
  | ok action => rfl
  | error error =>
    cases hSkipped : error.isSkipped with
    | true =>
      simp only [errorOf?, Option.filter_some, hSkipped]
      cases accepted rest <;> rfl
    | false => simp [errorOf?, Option.filter_some, hSkipped]

theorem accepted_of_allSearchable {payloads : List Value} (h : AllSearchable payloads) :
    accepted payloads = .ok (payloads.filterMap alone?) := by
  induction payloads with
  | nil => rfl
  | cons payload rest ih =>
    have hPayload := raised?_eq_none_iff.mpr (h payload List.mem_cons_self)
    have hRest := ih fun other hOther => h other (List.mem_cons_of_mem _ hOther)
    rw [accepted_cons, hPayload, hRest, List.filterMap_cons]
    cases alone? payload <;> rfl

theorem allSearchable_of_accepted {payloads : List Value} {actions : List Action}
    (h : accepted payloads = .ok actions) : AllSearchable payloads := by
  have hNone := errorOf?_accepted payloads
  rw [h] at hNone
  intro payload hPayload
  exact raised?_eq_none_iff.mp (List.findSome?_eq_none_iff.mp hNone.symm payload hPayload)

theorem accepted_of_passedOver {payload : Value} (hAlone : alone? payload = none)
    (hSearchable : ∀ properties, ¬Unsearchable payload properties) (front back : List Value) :
    accepted (front ++ payload :: back) = accepted (front ++ back) := by
  induction front with
  | nil =>
    have hRaised := raised?_eq_none_iff.mpr hSearchable
    rw [List.nil_append, List.nil_append, accepted_cons, hRaised, hAlone]
    cases accepted back <;> rfl
  | cons first rest ih =>
    rw [List.cons_append, accepted_cons, ih, ← accepted_cons, List.cons_append]

theorem readPayloads_eq_ok_iff {payloads : List Value} {actions : List Action} :
    readPayloads payloads = .ok actions ↔ AllSearchable payloads ∧
      actions = Keyed.lastOfEach Action.key (payloads.filterMap alone?) := by
  constructor
  · intro h
    cases hAccepted : accepted payloads with
    | error error =>
      rw [readPayloads, hAccepted] at h
      cases h
    | ok found =>
      have hAll := allSearchable_of_accepted hAccepted
      rw [readPayloads, accepted_of_allSearchable hAll] at h
      cases h
      exact ⟨hAll, Keyed.dedupe_eq_lastOfEach Action.key _⟩
  · rintro ⟨hAll, rfl⟩
    rw [readPayloads, accepted_of_allSearchable hAll, ← Keyed.dedupe_eq_lastOfEach]
    rfl

/-- The actions of a list of payloads are the last one of each key among the payloads that are read
on their own, and a payload that is refused changes nothing. But where the properties of a payload
cannot be searched, the list has no actions. -/
theorem readPayloads_skips_refused (payloads : List Value) :
    (∀ actions, readPayloads payloads = .ok actions ↔ AllSearchable payloads ∧
      actions = Keyed.lastOfEach Action.key (payloads.filterMap alone?)) ∧
    (∀ error, readPayloads payloads = .error error ↔ ∃ properties,
      FirstUnsearchable payloads properties ∧ error = .notSearchable properties.kindName) ∧
    (∀ payload action, alone? payload = some action ↔
      (∃ members, payload = .object members) ∧ ofPayload payload = .ok action) ∧
    ∀ front payload back, payloads = front ++ payload :: back → alone? payload = none →
      ((∀ properties, ¬Unsearchable payload properties) →
        readPayloads payloads = readPayloads (front ++ back)) ∧
      ∀ properties, Unsearchable payload properties →
        ∃ error, readPayloads payloads = .error error := by
  refine ⟨fun _ => readPayloads_eq_ok_iff, fun _ => readPayloads_eq_error_iff, ?_, ?_⟩
  · intro payload action
    rw [alone?_eq_some_iff]
    exact ⟨fun h => ⟨exists_members_of_ofPayload h, h⟩, And.right⟩
  · rintro front payload back rfl hAlone
    constructor
    · intro hSearchable
      rw [readPayloads, accepted_of_passedOver hAlone hSearchable, ← readPayloads]
    · intro properties hUnsearchable
      cases hRead : readPayloads (front ++ payload :: back) with
      | error error => exact ⟨error, rfl⟩
      | ok actions =>
        have hAll := (readPayloads_eq_ok_iff.mp hRead).1
        exact absurd hUnsearchable (hAll payload (by simp) properties)

/-- One payload with a number for its properties takes the action of another one with it. -/
theorem readPayloads_loses_accepted :
    let click : Value := .object [("key", .text "Click")]
    let tap : Value :=
      .object [("key", .text "Tap"), ("entity", .object [("properties", .int 5)])]
    (readPayloads [click]).toOption = some [{ key := "Click", literal := "click" }] ∧
      alone? tap = none ∧
      errorOf? (readPayloads [click, tap]) = some (.notSearchable "int") ∧
      (¬∀ payloads, ∃ actions, readPayloads payloads = .ok actions) ∧
      ¬∀ front payload back, alone? payload = none →
        readPayloads (front ++ payload :: back) = readPayloads (front ++ back) := by
  intro click tap
  have hRun : (readPayloads [click]).toOption = some [{ key := "Click", literal := "click" }] ∧
      alone? tap = none ∧
      errorOf? (readPayloads [click, tap]) = some (.notSearchable "int") := by decide +kernel
  obtain ⟨hClick, hTap, hError⟩ := hRun
  refine ⟨hClick, hTap, hError, ?_, ?_⟩
  · intro h
    obtain ⟨actions, hActions⟩ := h [click, tap]
    rw [hActions] at hError
    cases hError
  · intro h
    have hSame : readPayloads [click, tap] = readPayloads [click] := h [click] tap [] hTap
    rw [hSame, errorOf?_eq_some_iff] at hError
    rw [hError] at hClick
    cases hClick

/-! ### Keys of records -/

def keyOf? (payload : Value) : Option Text :=
  (alone? payload).map Action.key

theorem get?_key_of_payloadFields {payload : Value} {fields : Fields}
    (h : payloadFields payload = .ok fields) :
    fields.get? "key" = some ((payload.member? "key").getD (.text [])) := by
  rw [payloadFields] at h
  obtain ⟨members, hMembers, h⟩ := bind_eq_ok_iff.mp h
  obtain ⟨entity, -, h⟩ := bind_eq_ok_iff.mp h
  iterate 5 obtain ⟨_, -, h⟩ := bind_eq_ok_iff.mp h
  cases h
  rw [membersOf_eq_ok_iff.mp hMembers]
  rfl

theorem exists_fields_of_alone? {payload : Value} {action : Action}
    (h : alone? payload = some action) :
    ∃ fields, payloadFields payload = .ok fields ∧ ofFields fields = .valid action := by
  rw [alone?_eq_some_iff, ofPayload] at h
  obtain ⟨fields, hFields, hAction⟩ := bind_eq_ok_iff.mp h
  refine ⟨fields, hFields, ?_⟩
  cases hChecked : ofFields fields with
  | faulty faults =>
    rw [hChecked] at hAction
    cases hAction
  | valid found =>
    rw [hChecked] at hAction
    cases hAction
    rfl

theorem isSound_of_alone? {payload : Value} {action : Action} (h : alone? payload = some action) :
    action.IsSound := by
  obtain ⟨fields, -, hAction⟩ := exists_fields_of_alone? h
  exact isSound_of_ofFields hAction

theorem keyOf?_eq_some {payload : Value} {key : Text} (h : keyOf? payload = some key) :
    ∃ text, payload.member? "key" = some (.text text) ∧ key = Text.strip text := by
  obtain ⟨action, hAlone, rfl⟩ := Option.map_eq_some_iff.mp h
  obtain ⟨fields, hFields, hAction⟩ := exists_fields_of_alone? hAlone
  obtain ⟨text, hText, hNe, hKey⟩ := exists_text_of_ofFields hAction
  rw [get?_key_of_payloadFields hFields] at hText
  cases hMember : payload.member? "key" with
  | none =>
    rw [hMember] at hText
    cases hText
    exact absurd rfl hNe
  | some value =>
    rw [hMember] at hText
    cases hText
    exact ⟨text, rfl, hKey⟩

structure Represents (actions : List Action) (payloads : List Value) : Prop where
  distinct : (actions.map Action.key).Nodup
  sound : ∀ action ∈ actions, action.IsSound
  keys_iff : ∀ key, key ∈ actions.map Action.key ↔ ∃ payload ∈ payloads, keyOf? payload = some key
  ordered : (actions.map Action.key).Pairwise fun a b =>
    Keyed.firstAt keyOf? payloads a < Keyed.firstAt keyOf? payloads b
  last : ∀ action ∈ actions, ∃ front payload back, payloads = front ++ payload :: back ∧
    alone? payload = some action ∧ ∀ later ∈ back, keyOf? later ≠ some action.key

theorem represents_lastOfEach (payloads : List Value) :
    Represents (Keyed.lastOfEach Action.key (payloads.filterMap alone?)) payloads := by
  constructor
  · rw [← Keyed.dedupe_eq_lastOfEach]
    exact Keyed.nodup_dedupe Action.key _
  · intro action hAction
    obtain ⟨earlier, later, hRead, -⟩ := Keyed.exists_last_of_mem Action.key hAction
    have hMem : action ∈ payloads.filterMap alone? := by simp [hRead]
    obtain ⟨payload, -, hAlone⟩ := List.mem_filterMap.mp hMem
    exact isSound_of_alone? hAlone
  · intro key
    rw [Keyed.mem_map_lastOfEach, List.map_filterMap, List.mem_filterMap]
    rfl
  · exact Keyed.pairwise_lastOfEach_filterMap Action.key alone? payloads
  · intro action hAction
    obtain ⟨earlier, later, hRead, hLater⟩ := Keyed.exists_last_of_mem Action.key hAction
    obtain ⟨front, rest, rfl, -, hRest⟩ := List.filterMap_eq_append_iff.mp hRead
    obtain ⟨passed, payload, back, rfl, -, hAlone, hBack⟩ := List.filterMap_eq_cons_iff.mp hRest
    refine ⟨front ++ passed, payload, back, by simp, hAlone, ?_⟩
    intro other hOther hKey
    obtain ⟨found, hFound, hSame⟩ := Option.map_eq_some_iff.mp hKey
    exact hLater found (hBack ▸ List.mem_filterMap.mpr ⟨other, hOther, hFound⟩) hSame

/-- The actions that are read have distinct keys without blanks around them and a literal each.
They are in the order of the first payload of each key, and each comes from the last payload of its
key. An engine that gets them offers just these. -/
theorem readPayloads_represents {payloads : List Value} {actions : List Action}
    (h : readPayloads payloads = .ok actions) :
    Represents actions payloads ∧
      (∀ payload ∈ payloads, ∀ key, keyOf? payload = some key →
        ∃ text, payload.member? "key" = some (.text text) ∧ key = Text.strip text) ∧
      ∀ (engine : Engine) (catalog : Catalog), catalog.actions = actions →
        ({ engine with catalog } : Engine).actions = actions := by
  obtain ⟨-, rfl⟩ := readPayloads_eq_ok_iff.mp h
  have hRepresents := represents_lastOfEach payloads
  refine ⟨hRepresents, fun payload _ key => keyOf?_eq_some, ?_⟩
  rintro engine catalog hCatalog
  rw [Engine.actions, index, hCatalog]
  exact Keyed.dedupe_of_nodup Action.key _ hRepresents.distinct

theorem readPayloads_represents_blanks :
    let payloads : List Value := [
      .object [("key", .text "\u2003Click")],
      .object [("key", .text "Tap"), ("literal", .text " "), ("aliases", .list [.text ""])],
      .text "Click",
      .object [("key", .text "Click \n"), ("literal", .text ""), ("verb", .text "on")],
      .object [("key", .text "Click"), ("verb", .int 5)],
      .object [("key", .text " ")]]
    let actions : List Action := [
      { key := "Click", literal := "click", verb := some "on" },
      { key := "Tap", literal := " ", aliases := some [[]] }]
    readPayloads payloads = .ok actions ∧ Represents actions payloads ∧
      ({ catalog := { actions } } : Engine).actions = actions := by
  intro payloads actions
  have hRun : (readPayloads payloads).toOption = some actions := by decide +kernel
  have hRead := eq_ok_of_toOption hRun
  obtain ⟨hRepresents, -, hEngine⟩ := readPayloads_represents hRead
  exact ⟨hRead, hRepresents, hEngine {} { actions } rfl⟩

end ScriptAssist.Action
