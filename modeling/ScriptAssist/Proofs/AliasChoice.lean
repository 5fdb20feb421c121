import Mathlib.Data.Char
import Mathlib.Data.Finset.Sort
import Mathlib.Data.List.Lex
import ScriptAssist.Proofs.KeyWords
import ScriptAssist.Snippet.Token

/-!
# The choice among the names of an action

The choice lists the literal of the key and then those of the aliases, each once and in order of
code points. So it depends on which literals the aliases have and on nothing else. An alias of
blanks has no words. It is left out of the choice, but only after the choice was made: where an
action has no other alias, its template is a choice of one.
-/

namespace ScriptAssist

namespace Text

theorem mem_insertSorted {text other : Text} {texts : List Text} :
    other ∈ insertSorted text texts ↔ other = text ∨ other ∈ texts := by
  induction texts with
  | nil => simp [insertSorted]
  | cons first rest ih =>
    rw [insertSorted]
    split
    · simp
    · split
      · rename_i hSame
        simp [hSame]
      · rw [List.mem_cons, ih, List.mem_cons]
        exact or_left_comm

theorem pairwise_insertSorted {text : Text} {texts : List Text} (h : texts.Pairwise (· < ·)) :
    (insertSorted text texts).Pairwise (· < ·) := by
  induction texts with
  | nil => exact List.pairwise_singleton _ _
  | cons first rest ih =>
    obtain ⟨hFirst, hRest⟩ := List.pairwise_cons.mp h
    rw [insertSorted]
    split
    · rename_i hLess
      refine List.pairwise_cons.mpr ⟨?_, h⟩
      intro other hOther
      rcases List.mem_cons.mp hOther with rfl | hLater
      · exact hLess
      · exact lt_trans hLess (hFirst other hLater)
    · rename_i hLess
      split
      · exact h
      · rename_i hNe
        refine List.pairwise_cons.mpr ⟨?_, ih hRest⟩
        intro other hOther
        rcases mem_insertSorted.mp hOther with rfl | hLater
        · exact lt_of_le_of_ne (not_lt.mp hLess) (Ne.symm hNe)
        · exact hFirst other hLater

theorem mem_sortedSet {text : Text} {texts : List Text} :
    text ∈ sortedSet texts ↔ text ∈ texts := by
  induction texts with
  | nil => rfl
  | cons first rest ih =>
    change text ∈ insertSorted first (sortedSet rest) ↔ _
    rw [mem_insertSorted, ih, List.mem_cons]

theorem pairwise_sortedSet (texts : List Text) : (sortedSet texts).Pairwise (· < ·) := by
  induction texts with
  | nil => exact List.Pairwise.nil
  | cons first rest ih => exact pairwise_insertSorted ih

end Text

namespace Token

/-- The literals of the aliases that are not empty. -/
def namedLiterals (action : Action) : Finset Text :=
  (((action.aliases.getD []).filter (!·.isEmpty)).map literalOfKey).toFinset

/-- The literals of all aliases, without the empty one and that of the key. -/
def otherLiterals (action : Action) : Finset Text :=
  ((action.aliases.getD []).map literalOfKey).toFinset \ {[], literalOfKey action.key}

def choiceAmong (literal : Text) (others : Finset Text) : Text :=
  ['{', '$', '{', '1', '|'] ++ [','].intercalate (literal :: others.sort) ++ ['|', '}', '}']

def choiceOf (literal : Text) (others : Finset Text) : Text :=
  if others = ∅ then literal else choiceAmong literal others

theorem choiceAmong_ne (literal : Text) (others : Finset Text) :
    choiceAmong literal others ≠ literal := by
  intro h
  have hLength := congrArg List.length h
  rw [choiceAmong, Text.intercalate_cons] at hLength
  simp only [List.length_append, List.length_cons] at hLength
  omega

section

variable {action : Action} {literal : Text}

theorem mem_namedLiterals : literal ∈ namedLiterals action ↔
    ∃ name ∈ action.aliases.getD [], name ≠ [] ∧ literalOfKey name = literal := by
  simp [namedLiterals, and_assoc]

theorem nil_mem_namedLiterals : [] ∈ namedLiterals action ↔
    ∃ name ∈ action.aliases.getD [], name ≠ [] ∧ Text.strip name = [] := by
  simp only [mem_namedLiterals, literalOfKey_eq_nil_iff]

theorem mem_otherLiterals : literal ∈ otherLiterals action ↔
    literal ∈ namedLiterals action ∧ literal ≠ [] ∧ literal ≠ literalOfKey action.key := by
  rw [mem_namedLiterals, otherLiterals, Finset.mem_sdiff, List.mem_toFinset, List.mem_map]
  simp only [Finset.mem_insert, Finset.mem_singleton, not_or]
  constructor
  · rintro ⟨⟨name, hName, rfl⟩, hNe, hKey⟩
    refine ⟨⟨name, hName, ?_, rfl⟩, hNe, hKey⟩
    rintro rfl
    exact hNe rfl
  · rintro ⟨⟨name, hName, -, rfl⟩, hNe, hKey⟩
    exact ⟨⟨name, hName, rfl⟩, hNe, hKey⟩

theorem mem_aliasLiterals : literal ∈ aliasLiterals action ↔
    literal ∈ namedLiterals action ∧ literal ≠ literalOfKey action.key := by
  simp only [aliasLiterals, Text.mem_sortedSet, List.mem_filter, bne_iff_ne, namedLiterals,
    List.mem_toFinset]

theorem pairwise_aliasLiterals : (aliasLiterals action).Pairwise (· < ·) :=
  Text.pairwise_sortedSet _

theorem filter_aliasLiterals :
    (aliasLiterals action).filter (!·.isEmpty) = (otherLiterals action).sort := by
  apply (pairwise_aliasLiterals.filter _).sortedLT.eq_of_mem_iff (Finset.sortedLT_sort _)
  intro literal
  rw [Finset.mem_sort, List.mem_filter, mem_aliasLiterals, mem_otherLiterals, and_assoc]
  apply and_congr_right
  intro _
  simpa using and_comm

variable (hKey : Text.strip action.key ≠ [])
include hKey

theorem aliasLiterals_eq_nil_iff :
    aliasLiterals action = [] ↔ otherLiterals action = ∅ ∧ [] ∉ namedLiterals action := by
  have hLiteral : literalOfKey action.key ≠ [] := mt literalOfKey_eq_nil_iff.mp hKey
  rw [List.eq_nil_iff_forall_not_mem, Finset.eq_empty_iff_forall_notMem]
  simp only [mem_aliasLiterals, mem_otherLiterals]
  constructor
  · intro h
    refine ⟨?_, fun hNil => h [] ⟨hNil, Ne.symm hLiteral⟩⟩
    rintro literal ⟨hNamed, -, hNe⟩
    exact h literal ⟨hNamed, hNe⟩
  · rintro ⟨hOthers, hNil⟩ literal ⟨hNamed, hNe⟩
    refine hOthers literal ⟨hNamed, ?_, hNe⟩
    rintro rfl
    exact hNil hNamed

/-- Whether there is a choice is decided before the empty literal is left out. -/
theorem action_eq : Token.action action =
    if otherLiterals action = ∅ ∧ [] ∉ namedLiterals action then literalOfKey action.key
    else choiceAmong (literalOfKey action.key) (otherLiterals action) := by
  have hLiteral : literalOfKey action.key ≠ [] := mt literalOfKey_eq_nil_iff.mp hKey
  have hChoices : (literalOfKey action.key :: aliasLiterals action).filter (!·.isEmpty) =
      literalOfKey action.key :: (otherLiterals action).sort := by
    rw [List.filter_cons_of_pos (by simpa using hLiteral), filter_aliasLiterals]
  have hNil := aliasLiterals_eq_nil_iff hKey
  rw [Token.action]
  cases hAliases : aliasLiterals action with
  | nil => rw [if_pos (hNil.mp hAliases)]
  | cons first rest =>
    rw [hAliases] at hChoices hNil
    rw [if_neg (mt hNil.mpr (List.cons_ne_nil first rest))]
    have hStop : Text.ofInt 1 = ['1'] := by decide
    simp only [choicePlaceholder, hChoices]
    simp [braced, choiceAmong, hStop]

end

theorem action_congr {a b : Action} (hKey : a.key = b.key)
    (h : namedLiterals a = namedLiterals b) : Token.action a = Token.action b := by
  have hAliases : aliasLiterals a = aliasLiterals b := by
    apply pairwise_aliasLiterals.sortedLT.eq_of_mem_iff pairwise_aliasLiterals.sortedLT
    intro literal
    rw [mem_aliasLiterals, mem_aliasLiterals, h, hKey]
  rw [Token.action, Token.action, hAliases, hKey]

/-- The template of an action is the choice among the literals of its aliases, unless there is
nothing to choose and an alias is made of blanks: then it is a choice of one. In any case it depends
only on the key and on the literals of the aliases that are not empty. -/
theorem action_eq_choiceOf_iff {action : Action} (hKey : Text.strip action.key ≠ []) :
    (Token.action action = choiceOf (literalOfKey action.key) (otherLiterals action) ↔
      otherLiterals action ≠ ∅ ∨
        ∀ name ∈ action.aliases.getD [], Text.strip name = [] → name = []) ∧
    (otherLiterals action = ∅ →
      (∃ name ∈ action.aliases.getD [], name ≠ [] ∧ Text.strip name = []) →
        Token.action action = choiceAmong (literalOfKey action.key) ∅) ∧
    ∀ other : Action, other.key = action.key → namedLiterals other = namedLiterals action →
      Token.action other = Token.action action := by
  have hBlank : [] ∉ namedLiterals action ↔
      ∀ name ∈ action.aliases.getD [], Text.strip name = [] → name = [] := by
    rw [nil_mem_namedLiterals]
    grind
  refine ⟨?_, ?_, fun other => action_congr⟩
  · rw [action_eq hKey, ← hBlank, choiceOf]
    by_cases hOthers : otherLiterals action = ∅
    · by_cases hNil : [] ∈ namedLiterals action
      · simp [hOthers, hNil, choiceAmong_ne]
      · simp [hOthers, hNil]
    · simp [hOthers]
  · intro hOthers hNames
    have hNil := nil_mem_namedLiterals.mpr hNames
    rw [action_eq hKey, if_neg fun h => h.2 hNil, hOthers]

theorem action_eq_choiceOf_of_click :
    let click : Action := {
      key := "Click", literal := "press"
      aliases := some ["Tap", " ", "DoubleTap", "", "Click", "tap"] }
    Token.action click = braced ('$' :: braced "1|click,double tap,tap|") ∧
      Token.action click = choiceOf (literalOfKey "Click") (otherLiterals click) ∧
      ∀ aliases, namedLiterals { click with aliases } = namedLiterals click →
        Token.action { click with literal := [], aliases } = Token.action click := by
  intro click
  have hKey : Text.strip click.key ≠ [] := by decide
  have hTap : ['t', 'a', 'p'] ∈ otherLiterals click := by decide
  obtain ⟨hCanonical, -, hCongr⟩ := action_eq_choiceOf_iff hKey
  refine ⟨by decide, hCanonical.mpr (.inl (Finset.ne_empty_of_mem hTap)), ?_⟩
  intro aliases hNamed
  exact hCongr { click with literal := [], aliases } rfl hNamed

/-- An alias of blanks leaves a choice of one, though it has the literal of an empty alias. -/
theorem blank_alias_leaves_choice :
    let blank : Action := { key := "Click", literal := "click", aliases := some [" "] }
    let empty : Action := { key := "Click", literal := "click", aliases := some [""] }
    Token.action blank = braced ('$' :: braced "1|click|") ∧
      (¬∀ action : Action, Text.strip action.key ≠ [] →
        Token.action action = choiceOf (literalOfKey action.key) (otherLiterals action)) ∧
      otherLiterals blank = otherLiterals empty ∧ Token.action blank ≠ Token.action empty := by
  intro blank empty
  have hToken : Token.action blank = braced ('$' :: braced "1|click|") := by decide
  have hOthers : otherLiterals blank = ∅ := by decide
  refine ⟨hToken, ?_, by decide, by decide⟩
  intro h
  have hPlain : choiceOf (literalOfKey blank.key) (otherLiterals blank) = literalOfKey blank.key :=
    if_pos hOthers
  exact absurd (hToken.symm.trans ((h blank (by decide)).trans hPlain)) (by decide)

end Token

end ScriptAssist
