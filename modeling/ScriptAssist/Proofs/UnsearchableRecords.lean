import ScriptAssist.Catalog.Record

/-!
# Records that cannot be searched

A record that cannot be read as an action is passed over. The one exception is a record whose
properties count as given and are a number or a truth value: they cannot be searched for what the
action takes, and this is the error of the whole list.
-/

namespace ScriptAssist

open Json (Value)

def errorOf? {ε α : Type} : Except ε α → Option ε
  | .ok _ => none
  | .error error => some error

theorem errorOf?_eq_some_iff {ε α : Type} {result : Except ε α} {error : ε} :
    errorOf? result = some error ↔ result = .error error := by
  cases result <;> simp [errorOf?]

theorem ok_bind {ε α β : Type} (value : α) (next : α → Except ε β) :
    (Except.ok value >>= next) = next value :=
  rfl

theorem bind_eq_error_iff {ε α β : Type} {first : Except ε α} {next : α → Except ε β} {error : ε} :
    first >>= next = .error error ↔
      first = .error error ∨ ∃ value, first = .ok value ∧ next value = .error error := by
  cases first <;> simp [bind, Except.bind]

theorem bind_eq_ok_iff {ε α β : Type} {first : Except ε α} {next : α → Except ε β} {result : β} :
    first >>= next = .ok result ↔ ∃ value, first = .ok value ∧ next value = .ok result := by
  cases first <;> simp [bind, Except.bind]

theorem errorOf?_bind {ε α β : Type} {first : Except ε α} {next : α → Except ε β} {later : Option ε}
    (h : ∀ value, errorOf? (next value) = later) :
    errorOf? (first >>= next) = (errorOf? first).or later := by
  cases first with
  | error error => rfl
  | ok value => exact h value

theorem givenOr_eq {other found : Value} {value : Option Value} (h : givenOr other value = found) :
    found = other ∨ value = some found ∧ found.isGiven = true := by
  cases value with
  | none => exact .inl h.symm
  | some value =>
    by_cases hGiven : value.isGiven = true
    · rw [givenOr, if_pos hGiven] at h
      exact .inr ⟨congrArg some h, h ▸ hGiven⟩
    · rw [givenOr, if_neg hGiven] at h
      exact .inl h.symm

theorem givenOr_of_isGiven (other : Value) {value : Value} (h : value.isGiven = true) :
    givenOr other (some value) = value := by
  simp [givenOr, h]

namespace Action

def isScalar : Value → Bool
  | .bool _ => true
  | .int _ => true
  | .float _ => true
  | _ => false

/-- The properties of the entity of a payload, where they are not passed over and cannot be
searched. -/
structure Unsearchable (payload properties : Value) : Prop where
  member : (payload.member? "entity").bind (·.member? "properties") = some properties
  given : properties.isGiven = true
  scalar : isScalar properties = true

theorem hasProperty_of_isScalar (name : Text) {properties : Value}
    (h : isScalar properties = true) :
    hasProperty name properties = .error (.notSearchable properties.kindName) := by
  cases properties with
  | bool b | int n | float x => rfl
  | null | text s | list items | object members => cases h

theorem membersOf_eq_ok_iff {operation : Text} {value : Value} {members : Fields} :
    membersOf operation value = .ok members ↔ value = .object members := by
  cases value <;> simp [membersOf]

theorem isSkipped_of_membersOf {operation : Text} {value : Value} {error : RecordError}
    (h : membersOf operation value = .error error) : error.isSkipped = true := by
  cases value <;> cases h <;> rfl

theorem isSkipped_of_flagsOf {entity : Fields} {error : RecordError}
    (h : flagsOf entity = .error error) : error.isSkipped = true := by
  rw [flagsOf] at h
  split at h
  · cases h
  · cases h
  · rcases bind_eq_error_iff.mp h with hMembers | ⟨_, _, hPure⟩
    · exact isSkipped_of_membersOf hMembers
    · cases hPure

theorem payloadFields_of_unsearchable {payload properties : Value}
    (h : Unsearchable payload properties) :
    payloadFields payload = .error (.notSearchable properties.kindName) := by
  obtain ⟨entity, hEntity, hProperties⟩ := Option.bind_eq_some_iff.mp h.member
  cases payload with
  | object members =>
    cases entity with
    | object entries =>
      have hGiven : (Value.object entries).isGiven = true := by
        cases entries with
        | nil => cases hProperties
        | cons entry rest => rfl
      have hEntity' : Fields.get? members "entity" = some (.object entries) := hEntity
      have hProperties' : Fields.get? entries "properties" = some properties := hProperties
      rw [payloadFields, membersOf]
      change membersOf "get" (givenOr _ (Fields.get? members "entity")) >>= _ = _
      rw [hEntity', givenOr_of_isGiven _ hGiven, membersOf]
      change hasProperty "argument" (givenOr _ (Fields.get? entries "properties")) >>= _ = _
      rw [hProperties', givenOr_of_isGiven _ h.given, hasProperty_of_isScalar _ h.scalar]
      rfl
    | _ => cases hProperties
  | _ => cases hEntity

theorem exists_hasProperty_eq_ok (name : Text) {entity : Fields}
    (h : isScalar (givenOr (.object []) (entity.get? "properties")) = false) :
    ∃ found, hasProperty name (givenOr (.object []) (entity.get? "properties")) = .ok found := by
  rcases givenOr_eq rfl with hNone | ⟨_, hGiven⟩
  · rw [hNone]
    exact ⟨_, rfl⟩
  · generalize givenOr (.object []) (entity.get? "properties") = properties at h hGiven
    cases properties with
    | null => cases hGiven
    | bool b | int n | float x => cases h
    | text s | list items | object members => exact ⟨_, rfl⟩

theorem exists_unsearchable {payload : Value} {error : RecordError}
    (h : payloadFields payload = .error error) (hError : error.isSkipped = false) :
    ∃ properties, Unsearchable payload properties ∧
      error = .notSearchable properties.kindName := by
  have hSkipped : error.isSkipped ≠ true := by simp [hError]
  rw [payloadFields] at h
  rcases bind_eq_error_iff.mp h with hPayload | ⟨members, hMembers, h⟩
  · exact absurd (isSkipped_of_membersOf hPayload) hSkipped
  rcases bind_eq_error_iff.mp h with hEntity | ⟨entity, hEntity, h⟩
  · exact absurd (isSkipped_of_membersOf hEntity) hSkipped
  rw [membersOf_eq_ok_iff] at hMembers hEntity
  dsimp only at h
  cases hScalar : isScalar (givenOr (.object []) (entity.get? "properties")) with
  | true =>
    rcases givenOr_eq rfl with hNone | ⟨hProperties, hGiven⟩
    · rw [hNone] at hScalar
      cases hScalar
    rcases givenOr_eq hEntity with hEmpty | ⟨hEntity, _⟩
    · cases hEmpty
      cases hProperties
    rw [hasProperty_of_isScalar _ hScalar] at h
    refine ⟨_, ⟨?_, hGiven, hScalar⟩, (Except.error.inj h).symm⟩
    rw [hMembers]
    exact Option.bind_eq_some_iff.mpr ⟨_, hEntity, hProperties⟩
  | false =>
    obtain ⟨argument, hArgument⟩ := exists_hasProperty_eq_ok "argument" hScalar
    obtain ⟨onElement, hElement⟩ := exists_hasProperty_eq_ok "elementToActOn" hScalar
    obtain ⟨onAttribute, hAttribute⟩ := exists_hasProperty_eq_ok "elementAttributeToActOn" hScalar
    obtain ⟨regex, hRegex⟩ := exists_hasProperty_eq_ok "regularExpression" hScalar
    simp only [hArgument, hElement, hAttribute, hRegex, ok_bind] at h
    rcases bind_eq_error_iff.mp h with hFlags | ⟨_, _, hPure⟩
    · exact absurd (isSkipped_of_flagsOf hFlags) hSkipped
    · cases hPure

def raised? (payload : Value) : Option RecordError :=
  (errorOf? (ofListed payload)).filter (!·.isSkipped)

theorem raised?_eq_some_iff {payload : Value} {error : RecordError} :
    raised? payload = some error ↔ ∃ properties, Unsearchable payload properties ∧
      error = .notSearchable properties.kindName := by
  simp only [raised?, Option.filter_eq_some_iff, errorOf?_eq_some_iff, Bool.not_eq_true']
  constructor
  · rintro ⟨hError, hSkipped⟩
    cases payload with
    | object members =>
      rcases bind_eq_error_iff.mp hError with hFields | ⟨fields, _, hChecked⟩
      · exact exists_unsearchable hFields hSkipped
      · cases hAction : ofFields fields with
        | valid action => simp [hAction, Checked.toExcept] at hChecked
        | faulty faults =>
          rw [hAction, Checked.toExcept] at hChecked
          cases hChecked
          cases hSkipped
    | _ =>
      cases hError
      cases hSkipped
  · rintro ⟨properties, h, rfl⟩
    cases payload with
    | object members =>
      refine ⟨?_, rfl⟩
      rw [ofListed, ofPayload, payloadFields_of_unsearchable h]
      rfl
    | _ => cases h.member

theorem raised?_eq_none_iff {payload : Value} :
    raised? payload = none ↔ ∀ properties, ¬Unsearchable payload properties := by
  rw [Option.eq_none_iff_forall_ne_some]
  simp only [ne_eq, raised?_eq_some_iff]
  constructor
  · intro h properties hProperties
    exact h _ ⟨properties, hProperties, rfl⟩
  · rintro h _ ⟨properties, hProperties, rfl⟩
    exact h properties hProperties

theorem errorOf?_accepted (payloads : List Value) :
    errorOf? (accepted payloads) = payloads.findSome? raised? := by
  induction payloads with
  | nil => rfl
  | cons payload rest ih =>
    rw [List.findSome?_cons, accepted, raised?]
    cases ofListed payload with
    | ok action =>
      dsimp only [errorOf?, Option.filter_none]
      rw [← ih]
      cases accepted rest <;> rfl
    | error error =>
      cases hSkipped : error.isSkipped with
      | true => simpa [errorOf?, Option.filter_some, hSkipped] using ih
      | false => simp [errorOf?, Option.filter_some, hSkipped]

def FirstUnsearchable (payloads : List Value) (properties : Value) : Prop :=
  ∃ front payload rest, payloads = front ++ payload :: rest ∧ Unsearchable payload properties ∧
    ∀ other ∈ front, ∀ given, ¬Unsearchable other given

theorem readPayloads_eq_error_iff {payloads : List Value} {error : RecordError} :
    readPayloads payloads = .error error ↔
      ∃ properties, FirstUnsearchable payloads properties ∧
        error = .notSearchable properties.kindName := by
  have hAccepted : readPayloads payloads = .error error ↔ accepted payloads = .error error := by
    rw [readPayloads]
    cases accepted payloads <;> simp [Except.map]
  rw [hAccepted, ← errorOf?_eq_some_iff, errorOf?_accepted, List.findSome?_eq_some_iff]
  simp only [raised?_eq_some_iff, raised?_eq_none_iff, FirstUnsearchable]
  constructor
  · rintro ⟨front, payload, rest, hPayloads, ⟨properties, h, hError⟩, hFront⟩
    exact ⟨properties, ⟨front, payload, rest, hPayloads, h, hFront⟩, hError⟩
  · rintro ⟨properties, ⟨front, payload, rest, hPayloads, h, hFront⟩, hError⟩
    exact ⟨front, payload, rest, hPayloads, ⟨properties, h, hError⟩, hFront⟩

end Action

end ScriptAssist
