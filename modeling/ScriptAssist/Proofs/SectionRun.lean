import ScriptAssist.Document.Section

/-!
# Sections as runs of lines

There are two ways to read a section: upwards from a line to the nearest one that opens a section,
and downwards from the first line that opens it. If no key holds a closing bracket, a line opens the
section of at most one key. Then the lines that are read downwards are the first run of lines that
belong to the section when read upwards.
-/

namespace ScriptAssist.Section

/-- The first numbers in a row with a property, from `start` up to `finish`, out of `count`. -/
structure IsFirstRun (p : Nat → Prop) (count start finish : Nat) : Prop where
  nonempty : start < finish
  bounded : finish ≤ count
  before : ∀ i < start, ¬p i
  inside : ∀ i, start ≤ i → i < finish → p i
  maximal : finish < count → ¬p finish

theorem eq_of_opens {first second line : Text} (hFirst : ']' ∉ first) (hSecond : ']' ∉ second)
    (h : opens first line = true) (h' : opens second line = true) : first = second := by
  rw [opens, List.isPrefixOf_iff_prefix] at h h'
  obtain ⟨rest, rfl⟩ := h
  obtain ⟨rest', hLine⟩ := h'
  simp only [List.cons_append, List.append_assoc, List.cons.injEq, true_and] at hLine
  have hTake := congrArg (List.takeWhile (· != ']')) hLine
  have hAll : ∀ key : Text, ']' ∉ key → ∀ c ∈ key, (c != ']') = true := by
    intro key hKey c hc
    simpa using ne_of_mem_of_not_mem hc hKey
  rw [List.takeWhile_append_of_pos (hAll second hSecond),
    List.takeWhile_append_of_pos (hAll first hFirst)] at hTake
  simpa using hTake.symm

section

variable {lines keys : List Text} {heading : Text}

theorem isUnder_eq_false {i : Nat}
    (h : ∀ line ∈ lines.take (i + 1), opens heading line = false) :
    isUnder lines i heading keys = false := by
  have hHere : ((i : Int) + 1).toNat = i + 1 := by omega
  rw [isUnder, hHere]
  cases hFind : (lines.take (i + 1)).reverse.find? (opensAny keys) with
  | none => rfl
  | some line => exact h line (List.mem_reverse.mp (List.mem_of_find?_eq_some hFind))

theorem isUnder_of_getElem? {i : Nat} {line : Text} (h : lines[i]? = some line) :
    isUnder lines i heading keys =
      if opensAny keys line then opens heading line
      else isUnder lines ((i : Int) - 1) heading keys := by
  have hAbove : ((i : Int) - 1 + 1).toNat = i := by omega
  have hHere : ((i : Int) + 1).toNat = i + 1 := by omega
  rw [isUnder, isUnder, hAbove, hHere, List.take_add_one, h]
  by_cases hOpens : opensAny keys line <;> simp [hOpens]

theorem opensAny_eq_or (hMem : heading ∈ keys) (hNe : heading ≠ []) (line : Text) :
    opensAny keys line = (opens heading line || opensAny (keys.filter (· != heading)) line) := by
  rw [Bool.eq_iff_iff]
  simp only [opensAny, Bool.or_eq_true, List.any_eq_true, List.mem_filter, Bool.and_eq_true,
    bne_iff_ne, ne_eq]
  constructor
  · rintro ⟨key, hKey, hGiven, hOpens⟩
    by_cases hEq : key = heading
    · exact .inl (hEq ▸ hOpens)
    · exact .inr ⟨key, ⟨hKey, hEq⟩, hGiven, hOpens⟩
  · rintro (hOpens | ⟨key, ⟨hKey, _⟩, hGiven, hOpens⟩)
    · exact ⟨heading, hMem, by simpa using hNe, hOpens⟩
    · exact ⟨key, hKey, hGiven, hOpens⟩

/-- Whether a line belongs to a section is up to the line itself if it opens one, and else to the
line above. -/
theorem isUnder_step (hMem : heading ∈ keys) (hNe : heading ≠ []) {i : Nat} {line : Text}
    (h : lines[i]? = some line) :
    isUnder lines i heading keys =
      (opens heading line ||
        (!opensAny (keys.filter (· != heading)) line &&
          isUnder lines ((i : Int) - 1) heading keys)) := by
  rw [isUnder_of_getElem? h, opensAny_eq_or hMem hNe]
  by_cases hOpens : opens heading line
  · simp [hOpens]
  · cases hOther : opensAny (keys.filter (· != heading)) line <;> simp [hOpens]

theorem not_opens_of_opensAny (hKeys : ∀ key ∈ keys, ']' ∉ key) (hMem : heading ∈ keys)
    {line : Text} (h : opensAny (keys.filter (· != heading)) line = true) :
    opens heading line = false := by
  simp only [opensAny, List.any_eq_true, List.mem_filter, Bool.and_eq_true, bne_iff_ne, ne_eq] at h
  obtain ⟨key, ⟨hKey, hOther⟩, -, hOpens⟩ := h
  rw [Bool.eq_false_iff]
  intro hHeading
  exact hOther (eq_of_opens (hKeys key hKey) (hKeys heading hMem) hOpens hHeading)

end

/-- A document that is cut before the first line that opens a section and where another section is
opened after it. -/
structure Cut (heading : Text) (keys : List Text) where
  above : List Text
  header : Text
  body : List Text
  below : List Text
  above_opens : ∀ line ∈ above, opens heading line = false
  header_opens : opens heading header = true
  body_opens : ∀ line ∈ body, opensAny (keys.filter (· != heading)) line = false
  below_opens : ∀ line, below.head? = some line →
    opensAny (keys.filter (· != heading)) line = true

namespace Cut

variable {heading : Text} {keys : List Text} (cut : Cut heading keys)

def lines : List Text :=
  cut.above ++ cut.header :: (cut.body ++ cut.below)

def start : Nat :=
  cut.above.length

def finish : Nat :=
  cut.above.length + (cut.body.length + 1)

theorem exists_of_linesOf_ne_nil {lines : List Text} (h : linesOf lines heading keys ≠ []) :
    ∃ cut : Cut heading keys, cut.lines = lines := by
  have hLines := List.takeWhile_append_dropWhile (p := (!opens heading ·)) (l := lines)
  have hAbove := List.all_takeWhile (p := (!opens heading ·)) (l := lines)
  have hHeader := List.head?_dropWhile_not (!opens heading ·) lines
  rw [linesOf] at h
  cases hDrop : lines.dropWhile (!opens heading ·) with
  | nil => simp [hDrop] at h
  | cons header rest =>
    rw [hDrop] at hLines hHeader
    have hBody := List.all_takeWhile
      (p := (!opensAny (keys.filter (· != heading)) ·)) (l := rest)
    have hBelow := List.head?_dropWhile_not (!opensAny (keys.filter (· != heading)) ·) rest
    refine ⟨{
      above := lines.takeWhile (!opens heading ·)
      header := header
      body := rest.takeWhile (!opensAny (keys.filter (· != heading)) ·)
      below := rest.dropWhile (!opensAny (keys.filter (· != heading)) ·)
      above_opens := ?_
      header_opens := by simpa using hHeader
      body_opens := ?_
      below_opens := ?_ }, ?_⟩
    · intro line hLine
      simpa using List.all_eq_true.mp hAbove line hLine
    · intro line hLine
      simpa using List.all_eq_true.mp hBody line hLine
    · intro line hLine
      simpa [hLine] using hBelow
    · rw [Cut.lines, List.takeWhile_append_dropWhile, hLines]

theorem slice_lines : (cut.lines.take cut.finish).drop cut.start = cut.header :: cut.body := by
  simp [lines, finish, start, List.take_length_add_append]

theorem linesOf_lines : linesOf cut.lines heading keys = cut.header :: cut.body := by
  have hDrop : cut.lines.dropWhile (!opens heading ·) = cut.header :: (cut.body ++ cut.below) := by
    rw [lines, List.dropWhile_append_of_pos (by simpa using cut.above_opens)]
    simp [cut.header_opens]
  have hBelow : cut.below.takeWhile (!opensAny (keys.filter (· != heading)) ·) = [] := by
    cases hHead : cut.below with
    | nil => rfl
    | cons line rest => simp [cut.below_opens line (by simp [hHead])]
  rw [linesOf, hDrop]
  dsimp only
  rw [List.takeWhile_append_of_pos (by simpa using cut.body_opens), hBelow, List.append_nil]

theorem getElem?_start : cut.lines[cut.start]? = some cut.header := by
  simp [lines, start]

theorem getElem?_body {i : Nat} (hStart : cut.start < i) (hFinish : i < cut.finish) :
    ∃ line ∈ cut.body, cut.lines[i]? = some line := by
  obtain ⟨k, rfl⟩ : ∃ k, i = cut.above.length + (k + 1) :=
    ⟨i - cut.above.length - 1, by rw [start] at hStart; omega⟩
  have hBody : k < cut.body.length := by
    rw [finish] at hFinish
    omega
  refine ⟨cut.body[k], List.getElem_mem hBody, ?_⟩
  rw [lines, List.getElem?_append_right (by omega), Nat.add_sub_cancel_left,
    List.getElem?_cons_succ, List.getElem?_append_left hBody, List.getElem?_eq_getElem hBody]

theorem getElem?_finish : cut.lines[cut.finish]? = cut.below.head? := by
  rw [lines, finish, List.getElem?_append_right (by omega), Nat.add_sub_cancel_left,
    List.getElem?_cons_succ, List.getElem?_append_right (Nat.le_refl _), Nat.sub_self,
    List.head?_eq_getElem?]

theorem isUnder_of_lt_start {i : Nat} (h : i < cut.start) :
    isUnder cut.lines i heading keys = false := by
  apply isUnder_eq_false
  intro line hLine
  rw [lines, List.take_append_of_le_length h] at hLine
  exact cut.above_opens line (List.mem_of_mem_take hLine)

theorem isUnder_of_lt_finish (hMem : heading ∈ keys) (hNe : heading ≠ []) (i : Nat)
    (hStart : cut.start ≤ i) (hFinish : i < cut.finish) :
    isUnder cut.lines i heading keys = true := by
  obtain ⟨k, rfl⟩ := Nat.exists_eq_add_of_le hStart
  clear hStart
  induction k with
  | zero => rw [Nat.add_zero, isUnder_step hMem hNe cut.getElem?_start, cut.header_opens,
      Bool.true_or]
  | succ k ih =>
    obtain ⟨line, hLine, hGet⟩ := cut.getElem?_body (by omega) hFinish
    have hPred : ((cut.start + (k + 1) : Nat) : Int) - 1 = (cut.start + k : Nat) := by omega
    rw [isUnder_step hMem hNe hGet, cut.body_opens line hLine, hPred, ih (by omega)]
    simp

theorem isUnder_finish (hKeys : ∀ key ∈ keys, ']' ∉ key) (hMem : heading ∈ keys)
    (hNe : heading ≠ []) (h : cut.finish < cut.lines.length) :
    isUnder cut.lines cut.finish heading keys = false := by
  have hGet := List.getElem?_eq_getElem h
  have hOther := cut.below_opens _ (cut.getElem?_finish.symm.trans hGet)
  rw [isUnder_step hMem hNe hGet, hOther, not_opens_of_opensAny hKeys hMem hOther]
  rfl

theorem isFirstRun (hKeys : ∀ key ∈ keys, ']' ∉ key) (hMem : heading ∈ keys)
    (hNe : heading ≠ []) :
    IsFirstRun (fun i => isUnder cut.lines i heading keys = true) cut.lines.length cut.start
      cut.finish where
  nonempty := by
    rw [start, finish]
    omega
  bounded := by
    simp only [finish, lines, List.length_append, List.length_cons]
    omega
  before i hi := by simp [cut.isUnder_of_lt_start hi]
  inside i hStart hFinish := cut.isUnder_of_lt_finish hMem hNe i hStart hFinish
  maximal h := by simp [cut.isUnder_finish hKeys hMem hNe h]

end Cut

theorem opens_eq_false_of_linesOf_eq_nil {lines keys : List Text} {heading : Text}
    (h : linesOf lines heading keys = []) : ∀ line ∈ lines, opens heading line = false := by
  rw [linesOf] at h
  cases hDrop : lines.dropWhile (!opens heading ·) with
  | nil =>
    have hAll := List.all_takeWhile (p := (!opens heading ·)) (l := lines)
    have hLines := List.takeWhile_append_dropWhile (p := (!opens heading ·)) (l := lines)
    rw [hDrop, List.append_nil] at hLines
    rw [hLines] at hAll
    simpa using hAll
  | cons header rest => simp [hDrop] at h

theorem exists_isFirstRun {lines keys : List Text} {heading : Text}
    (hKeys : ∀ key ∈ keys, ']' ∉ key) (hMem : heading ∈ keys) (hNe : heading ≠ [])
    (h : linesOf lines heading keys ≠ []) :
    ∃ start finish,
      IsFirstRun (fun i => isUnder lines i heading keys = true) lines.length start finish ∧
        linesOf lines heading keys = (lines.take finish).drop start := by
  obtain ⟨cut, rfl⟩ := Cut.exists_of_linesOf_ne_nil h
  exact ⟨cut.start, cut.finish, cut.isFirstRun hKeys hMem hNe,
    cut.linesOf_lines.trans cut.slice_lines.symm⟩

/-- The lines of a section are the first run of lines that belong to it. There are none exactly
where no line does. -/
theorem linesOf_first_run (lines keys : List Text) (heading : Text)
    (hKeys : ∀ key ∈ keys, ']' ∉ key) (hMem : heading ∈ keys) (hNe : heading ≠ []) :
    (linesOf lines heading keys = [] ↔
      ∀ i : Nat, i < lines.length → isUnder lines i heading keys = false) ∧
    (linesOf lines heading keys ≠ [] → ∃ start finish,
      IsFirstRun (fun i => isUnder lines i heading keys = true) lines.length start finish ∧
        linesOf lines heading keys = (lines.take finish).drop start) := by
  refine ⟨⟨?_, ?_⟩, exists_isFirstRun hKeys hMem hNe⟩
  · intro hNil i _
    apply isUnder_eq_false
    intro line hLine
    exact opens_eq_false_of_linesOf_eq_nil hNil line (List.mem_of_mem_take hLine)
  · intro hNone
    apply Classical.byContradiction
    intro h
    obtain ⟨start, finish, run, -⟩ := exists_isFirstRun hKeys hMem hNe h
    have hFirst := run.inside start (Nat.le_refl _) run.nonempty
    simp [hNone start (Nat.lt_of_lt_of_le run.nonempty run.bounded)] at hFirst

/-- A section goes on after a second header of its own and is not taken up again. -/
theorem linesOf_reopened :
    let lines : List Text := ["a", "[ab]", "[a] b", "c", "[a]", "d", "[ab]", "e", "[a]"]
    let keys : List Text := ["a", "", "ab"]
    linesOf lines "a" keys = ["[a] b", "c", "[a]", "d"].map String.toList ∧
      ∃ start finish,
        IsFirstRun (fun i => isUnder lines i "a" keys = true) lines.length start finish ∧
          linesOf lines "a" keys = (lines.take finish).drop start := by
  intro lines keys
  refine ⟨by decide, ?_⟩
  exact (linesOf_first_run lines keys "a" (by decide) (by decide) (by decide)).2 (by decide)

end ScriptAssist.Section
