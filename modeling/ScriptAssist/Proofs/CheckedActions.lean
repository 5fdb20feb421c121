import ScriptAssist.Action.Record
import ScriptAssist.Proofs.KeyWords

/-!
# Actions that pass their checks

An action is made only of valid fields, so its key and its literal can be traced back to the record.
The blanks around the key are dropped after a missing literal was filled in; since something is left
of the key, the literal has words in both cases.
-/

namespace ScriptAssist

open Json (Value)

namespace Checked

variable {α β : Type}

theorem map_eq_valid_iff {f : α → β} {x : Checked α} {value : β} :
    f <$> x = .valid value ↔ ∃ a, x = .valid a ∧ f a = value := by
  change map f x = .valid value ↔ _
  cases x <;> simp [map]

theorem seq_eq_valid_iff {f : Checked (α → β)} {x : Checked α} {value : β} :
    f <*> x = .valid value ↔ ∃ g a, f = .valid g ∧ x = .valid a ∧ g a = value := by
  change seq f x = .valid value ↔ _
  cases f <;> cases x <;> simp [seq]

theorem forall_of_seq {f : Checked (α → β)} {x : Checked α} {P : β → Prop}
    (h : ∀ g, f = .valid g → ∀ a, P (g a)) : ∀ value, f <*> x = .valid value → P value := by
  intro value hValue
  obtain ⟨g, a, hFunction, -, rfl⟩ := seq_eq_valid_iff.mp hValue
  exact h g hFunction a

end Checked

theorem Fields.textValue_eq_valid_iff {steps : List Step} {value : Value} {text : Text} :
    textValue steps value = .valid text ↔ value = .text text := by
  cases value <;> simp [textValue, fault]

theorem Fields.text_eq_valid_iff {fields : Fields} {name text : Text} :
    fields.text name = .valid text ↔ fields.get? name = some (.text text) := by
  rw [Fields.text]
  cases fields.get? name with
  | none => simp [fault]
  | some value => rw [textValue_eq_valid_iff, Option.some.injEq]

theorem checkedKey_eq_valid_iff {fields : Fields} {key : Text} :
    checkedKey fields = .valid key ↔
      ∃ text, fields.get? "key" = some (.text text) ∧ Text.strip text ≠ [] ∧
        key = Text.strip text := by
  simp only [← Fields.text_eq_valid_iff]
  rw [checkedKey]
  cases fields.text "key" with
  | faulty faults => simp
  | valid text =>
    by_cases hBlank : Text.strip text = []
    · simp [hBlank, Fields.fault]
    · simp only [List.isEmpty_iff, if_neg hBlank]
      constructor
      · rintro ⟨⟩
        exact ⟨text, rfl, hBlank, rfl⟩
      · rintro ⟨_, ⟨⟩, -, rfl⟩
        rfl

theorem get?_key_withDefaultLiteral (fields : Fields) :
    (withDefaultLiteral fields).get? "key" = fields.get? "key" := by
  rw [withDefaultLiteral]
  split
  · rfl
  · split
    · split <;> rfl
    · rfl

theorem literal_ne_nil_of_withDefaultLiteral {fields : Fields} {text literal : Text}
    (hKey : fields.get? "key" = some (.text text)) (hText : Text.strip text ≠ [])
    (h : (withDefaultLiteral fields).textOrEmpty "literal" = .valid literal) : literal ≠ [] := by
  by_cases hGiven : fields.isGiven "literal" = true
  · rw [withDefaultLiteral, if_pos hGiven, Fields.textOrEmpty] at h
    rw [Fields.isGiven] at hGiven
    cases hValue : fields.get? "literal" with
    | none =>
      rw [hValue] at hGiven
      cases hGiven
    | some value =>
      rw [hValue] at h hGiven
      cases Fields.textValue_eq_valid_iff.mp h
      simpa [Value.isGiven] using hGiven
  · have hNe : text ≠ [] := by
      rintro rfl
      exact hText rfl
    have hKeyGiven : (Value.text text).isGiven = true := by simpa [Value.isGiven] using hNe
    have hSet : withDefaultLiteral fields =
        fields.set "literal" (.text (literalOfKey (Text.strip text))) := by
      rw [withDefaultLiteral, if_neg hGiven, hKey]
      exact if_pos hKeyGiven
    rw [hSet] at h
    cases h
    rw [Ne, literalOfKey_eq_nil_iff, Text.strip_strip]
    exact hText

namespace Action

theorem fields_of_ofFields {fields : Fields} :
    ∀ action, ofFields fields = .valid action →
      checkedKey (withDefaultLiteral fields) = .valid action.key ∧
        (withDefaultLiteral fields).textOrEmpty "literal" = .valid action.literal := by
  rw [ofFields]
  iterate 9 apply Checked.forall_of_seq
  intro make hMake
  obtain ⟨makeKeyed, literal, hKeyed, hLiteral, rfl⟩ := Checked.seq_eq_valid_iff.mp hMake
  obtain ⟨key, hKey, rfl⟩ := Checked.map_eq_valid_iff.mp hKeyed
  intros
  exact ⟨hKey, hLiteral⟩

/-- What every action that is read can be relied on for. -/
structure IsSound (action : Action) : Prop where
  key_ne_nil : action.key ≠ []
  key_stripped : Text.strip action.key = action.key
  literal_ne_nil : action.literal ≠ []

theorem exists_text_of_ofFields {fields : Fields} {action : Action}
    (h : ofFields fields = .valid action) :
    ∃ text, fields.get? "key" = some (.text text) ∧ Text.strip text ≠ [] ∧
      action.key = Text.strip text := by
  obtain ⟨hKey, -⟩ := fields_of_ofFields action h
  rw [checkedKey_eq_valid_iff, get?_key_withDefaultLiteral] at hKey
  exact hKey

theorem isSound_of_ofFields {fields : Fields} {action : Action}
    (h : ofFields fields = .valid action) : action.IsSound := by
  obtain ⟨text, hText, hNe, hKey⟩ := exists_text_of_ofFields h
  obtain ⟨-, hLiteral⟩ := fields_of_ofFields action h
  exact {
    key_ne_nil := hKey ▸ hNe
    key_stripped := by rw [hKey, Text.strip_strip]
    literal_ne_nil := literal_ne_nil_of_withDefaultLiteral hText hNe hLiteral }

end Action

end ScriptAssist
