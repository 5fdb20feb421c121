import ScriptAssist.Proofs.CheckedActions
import ScriptAssist.Proofs.Locality

/-!
# Flags of a macro

A macro is written as its name right after an opener, with its arguments after a blank. At a flag
mark among the arguments the flags of that macro are offered, before any action of the line is
looked for. Names count without regard to case, and of several macros with one name the last one
counts.
-/

namespace ScriptAssist

theorem Action.key_ne_nil_of_ofFields {fields : Fields} :
    ∀ action, ofFields fields = .valid action → action.key ≠ [] := by
  intro action h
  exact (isSound_of_ofFields h).key_ne_nil

section

variable {α : Type} {pattern front rest : List α} {c : α}

theorem prefix_of_prefix_append_cons (hc : c ∉ pattern) (h : pattern <+: front ++ c :: rest) :
    pattern <+: front := by
  rcases List.prefix_or_prefix_of_prefix h (List.prefix_append front (c :: rest)) with
    hFront | ⟨more, hMore⟩
  · exact hFront
  · cases more with
    | nil => simp [← hMore]
    | cons d more =>
      rw [← hMore, List.prefix_append_right_inj, List.cons_prefix_cons] at h
      exact absurd (by simp [← hMore, h.1]) hc

theorem infix_of_infix_append_cons (hc : c ∉ pattern) (h : pattern <:+: front ++ c :: rest) :
    pattern <:+: front ∨ pattern <:+: rest := by
  induction front with
  | nil =>
    rcases List.infix_cons_iff.mp h with hPrefix | hRest
    · exact .inl (prefix_of_prefix_append_cons hc hPrefix).isInfix
    · exact .inr hRest
  | cons d front ih =>
    rcases List.infix_cons_iff.mp h with hPrefix | hInfix
    · exact .inl (prefix_of_prefix_append_cons hc hPrefix).isInfix
    · exact (ih hInfix).imp_left fun hFront => List.infix_cons_iff.mpr (.inr hFront)

end

namespace Text

theorem dropEndWhile_append_cons {p : Char → Bool} {c : Char} (hc : p c = false)
    (front rest : Text) :
    dropEndWhile p (front ++ c :: rest) = front ++ c :: dropEndWhile p rest := by
  rw [← dropEndWhile_cons p hc]
  have hKept : ((c :: rest).reverse.dropWhile p).isEmpty = false := by
    rw [← List.isEmpty_reverse]
    change (dropEndWhile p (c :: rest)).isEmpty = false
    rw [dropEndWhile_cons p hc]
    rfl
  simp only [dropEndWhile, List.reverse_append, List.dropWhile_append, hKept]
  simp

end Text

/-- A line up to a flag mark: after the last opener a name stands, then a blank. -/
structure MacroCall where
  front : Text
  name : Text
  arguments : Text
  named : name ≠ []
  solid : ∀ c ∈ name, Text.isBlank c = false ∧ c ≠ '}'
  noOpener_name : ¬opener <:+: name
  blank : ∃ c rest, arguments = c :: rest ∧ Text.isBlank c
  noOpener_arguments : ¬opener <:+: arguments

namespace MacroCall

def upToMark (call : MacroCall) : Text :=
  call.front ++ (opener ++ (call.name ++ (call.arguments ++ Cursor.flagMark)))

theorem not_opener_infix (call : MacroCall) :
    ¬opener <:+: call.name ++ (call.arguments ++ Cursor.flagMark) := by
  obtain ⟨c, rest, hArguments, hBlank⟩ := call.blank
  have hc : c ∉ opener := by
    rintro hMem
    simp only [opener, List.mem_cons, List.not_mem_nil, or_false] at hMem
    rcases hMem with rfl | rfl | rfl <;> exact absurd hBlank (by decide)
  intro h
  rw [hArguments, List.cons_append] at h
  rcases infix_of_infix_append_cons hc h with hName | hRest
  · exact call.noOpener_name hName
  rcases infix_of_infix_append_cons (by decide) hRest with hArgument | hMark
  · exact call.noOpener_arguments (hArguments ▸ List.infix_cons_iff.mpr (.inr hArgument))
  · exact absurd hMark (by decide)

theorem macroName?_eq (call : MacroCall) (rest : Text) :
    Cursor.macroName? (call.upToMark ++ rest) call.upToMark.length = some call.name := by
  obtain ⟨c, more, hArguments, hBlank⟩ := call.blank
  have hInside : call.arguments ++ Cursor.flagMark = c :: (more ++ Cursor.flagMark) := by
    rw [hArguments, List.cons_append]
  have hBefore : Text.before (call.upToMark ++ rest) call.upToMark.length =
      call.front ++ (opener ++ (call.name ++ c :: (more ++ Cursor.flagMark))) := by
    rw [Text.before, Int.toNat_natCast, List.take_left, upToMark, hInside]
  rw [Cursor.macroName?_eq hBefore call.solid hBlank (hInside ▸ call.not_opener_infix),
    if_neg (by simpa using call.named)]

theorem macroAt?_eq (call : MacroCall) (engine : Engine) (rest : Text) :
    engine.macroAt? (call.upToMark ++ rest) call.upToMark.length =
      engine.macroNamed? call.name := by
  have hMark : Cursor.flagMark.isSuffixOf
      (Text.before (call.upToMark ++ rest) call.upToMark.length) = true := by
    rw [Text.before, Int.toNat_natCast, List.take_left, List.isSuffixOf_iff_suffix]
    exact ⟨call.front ++ (opener ++ (call.name ++ call.arguments)), by simp [upToMark]⟩
  simp [Engine.macroAt?, hMark, call.macroName?_eq rest]

theorem getElem?_lines (call : MacroCall) {text rest : Text} {line : Nat}
    (h : (Text.splitOn '\n' text)[line]? = some (call.upToMark ++ rest)) :
    ∃ kept, (Text.lines text)[line]? = some (call.upToMark ++ kept) := by
  let front := call.front ++ (opener ++ (call.name ++ (call.arguments ++ ['-'])))
  have hFront (tail : Text) : call.upToMark ++ tail = front ++ '-' :: tail := by
    simp [upToMark, front, Cursor.flagMark]
  refine ⟨Text.dropEndWhile (· == '\r') rest, ?_⟩
  rw [Text.lines, List.getElem?_map, h, Option.map_some, hFront, hFront,
    Text.dropEndWhile_append_cons (by decide)]

end MacroCall

/-- No macro after this one has the name, in any case. -/
def Catalog.IsLastNamed (catalog : Catalog) (name : Text) (found : Action) : Prop :=
  ∃ earlier later, catalog.macros = earlier ++ found :: later ∧
    Text.lower found.key = Text.lower name ∧
    ∀ other ∈ later, Text.lower other.key ≠ Text.lower name

namespace Engine

variable {engine : Engine}

theorem macroNamed?_eq_some_iff (name : Text) (found : Action) :
    engine.macroNamed? name = some found ↔ engine.catalog.IsLastNamed name found := by
  rw [macroNamed?, List.find?_eq_some_iff_append]
  simp only [beq_iff_eq, Bool.not_eq_true', beq_eq_false_iff_ne, Catalog.IsLastNamed]
  constructor
  · rintro ⟨hKey, later, earlier, hMacros, hLater⟩
    refine ⟨earlier.reverse, later.reverse, ?_, hKey, ?_⟩
    · simpa using congrArg List.reverse hMacros
    · intro other hOther
      exact hLater other (List.mem_reverse.mp hOther)
  · rintro ⟨earlier, later, hMacros, hKey, hLater⟩
    refine ⟨hKey, later.reverse, earlier.reverse, by simp [hMacros], ?_⟩
    intro other hOther
    exact hLater other (List.mem_reverse.mp hOther)

theorem exists_macroNamed? {named : Action} (h : named ∈ engine.catalog.macros) :
    ∃ found, engine.macroNamed? named.key = some found := by
  apply Option.isSome_iff_exists.mp
  rw [macroNamed?, List.find?_isSome]
  exact ⟨named, List.mem_reverse.mpr h, by simp⟩

/-- At a flag mark among the arguments of a macro its flags are offered, whatever else the line and
the lines above it hold. -/
theorem complete_macro_call {call : MacroCall} {named : Action}
    (hNamed : named ∈ engine.catalog.macros) (hName : call.name = named.key) {text rest : Text}
    {line : Nat} (hLine : (Text.splitOn '\n' text)[line]? = some (call.upToMark ++ rest)) :
    let query : Query := ⟨some text, line, call.upToMark.length, .parameter⟩
    ∃ found, engine.catalog.IsLastNamed named.key found ∧
      ((∀ other ∈ engine.catalog.macros, Text.lower other.key = Text.lower named.key →
        other = named) → found = named) ∧
      engine.mode query = .ok (.macroFlags found) ∧
      engine.complete query = found.flagEntries.map fun (name, description) =>
        Candidate.plain .parameter name description found.key := by
  intro query
  obtain ⟨found, hFound⟩ := exists_macroNamed? hNamed
  obtain ⟨kept, hKept⟩ := call.getElem?_lines hLine
  have hMacro : engine.macroAt? (call.upToMark ++ kept) call.upToMark.length = some found := by
    rw [call.macroAt?_eq, hName, hFound]
  have hMode := mode_of_macroAt? hKept hMacro
  have hLast := (macroNamed?_eq_some_iff _ _).mp hFound
  refine ⟨found, hLast, fun hOnly => ?_, hMode, ?_⟩
  · obtain ⟨earlier, later, hMacros, hKey, _⟩ := hLast
    exact hOnly found (by simp [hMacros]) hKey
  · rw [complete_of_candidates hMode rfl, dedupe_flagCandidates]
    rfl

theorem complete_get_data_call :
    let fields : Fields := [("key", .text "GetData "), ("argument", .bool true)]
    let early : Action := { key := "GetData", literal := "get data", takesArgument := true }
    let late : Action := {
      key := "GETDATA", literal := "get data",
      flags := some (NamedTexts.ofEntries [("key", "What to read."), ("from", "")]) }
    let click : Action := {
      key := "Click", literal := "click", flags := some (NamedTexts.ofEntries [("wait", "")]) }
    let engine : Engine := { catalog := { actions := [click], macros := [early, late, click] } }
    let call : MacroCall := {
      front := "  click " ++ opener ++ " --a " ++ opener ++ "click --" ++ closer ++ " "
      name := early.key, arguments := "\t" ++ ['{', '}'] ++ " --b "
      named := Action.key_ne_nil_of_ofFields early (show Action.ofFields fields = _ from rfl)
      solid := fun c hc => by
        simpa using List.all_eq_true.mp
          (show ("GetData".toList.all fun c => !Text.isBlank c && c != '}') = true by decide)
          c hc
      noOpener_name := Text.fromLast?_eq_none_iff.mp (by decide), blank := ⟨_, _, rfl, by decide⟩
      noOpener_arguments := Text.fromLast?_eq_none_iff.mp (by decide) }
    let query : Query :=
      ⟨some ("1. click `\n".toList ++ call.upToMark ++ opener ++ " \r\n".toList), 1,
        call.upToMark.length, .parameter⟩
    engine.mode query = .ok (.macroFlags late) ∧
      engine.complete query = [Candidate.plain .parameter "key" "What to read." "GETDATA",
        Candidate.plain .parameter "from" "" "GETDATA"] := by
  intro fields early late click engine call query
  have hLine : (Text.splitOn '\n' (query.text.getD []))[1]? =
      some (call.upToMark ++ (opener ++ " \r".toList)) := by decide
  have hNamed : early ∈ engine.catalog.macros := by simp [engine]
  obtain ⟨found, hLast, _, hMode, hComplete⟩ := complete_macro_call hNamed rfl hLine
  have hFound : some found = some late := by
    rw [← (macroNamed?_eq_some_iff _ _).mpr hLast]
    decide
  cases hFound
  refine ⟨hMode, hComplete.trans ?_⟩
  decide

end Engine

end ScriptAssist
