import Mathlib.Data.List.Nodup
import ScriptAssist.Proofs.SectionRun

/-!
# Sections as parts of a document

Each section is read by a scan of its own. Where no two lines open the same section, these scans
take the document apart: from the first header on every line is in one section, and before it in
none. Both are said of line numbers, since a document may have the same line in several places.
-/

namespace ScriptAssist.Section

/-- Known keys that can be told apart, and each opened by one line at most. -/
structure HeadedOnce (lines keys : List Text) : Prop where
  given : ∀ key ∈ keys, key ≠ []
  closed : ∀ key ∈ keys, ']' ∉ key
  once : ∀ key ∈ keys, lines.countP (opens key) ≤ 1

/-- The number of the first line that opens the section of a key, or the number of all lines. -/
def headerOf (lines : List Text) (key : Text) : Nat :=
  lines.findIdx (opens key)

def firstHeader (lines keys : List Text) : Nat :=
  lines.findIdx (opensAny keys)

def numbersOf (lines : List Text) (key : Text) (keys : List Text) : List Nat :=
  List.range' (headerOf lines key) (linesOf lines key keys).length

/-- The known keys that have a header, in the order of their headers. -/
structure InHeaderOrder (lines keys order : List Text) : Prop where
  mem_iff : ∀ key, key ∈ order ↔ key ∈ keys ∧ ∃ line ∈ lines, opens key line = true
  ordered : order.Pairwise fun a b => headerOf lines a < headerOf lines b

theorem InHeaderOrder.eq {lines keys order other : List Text} (h : InHeaderOrder lines keys order)
    (hOther : InHeaderOrder lines keys other) : order = other := by
  have hNodup : ∀ {found}, InHeaderOrder lines keys found → found.Nodup := by
    intro found hFound
    apply hFound.ordered.imp
    rintro a b hLess rfl
    exact Nat.lt_irrefl _ hLess
  apply List.Perm.eq_of_pairwise _ h.ordered hOther.ordered
  · rw [List.perm_ext_iff_of_nodup (hNodup h) (hNodup hOther)]
    intro key
    rw [h.mem_iff, hOther.mem_iff]
  · intro a b _ _ hLess hGreater
    exact absurd hGreater (Nat.lt_asymm hLess)

/-! ### The numbers of the lines of a section -/

theorem map_getElem?_range' {α : Type} {items part : List α} {start : Nat}
    (h : part <+: items.drop start) :
    (List.range' start part.length).map (items[·]?) = part.map some := by
  obtain ⟨rest, hRest⟩ := h
  apply List.ext_getElem?
  intro i
  by_cases hi : i < part.length
  · have hItem : items[start + i]? = part[i]? := by
      rw [← List.getElem?_drop, ← hRest, List.getElem?_append_left hi]
    simp [hItem, hi]
  · simp [hi]

theorem length_takeWhile_not {α : Type} {p q : α → Bool} {items : List α}
    (h : ∀ item ∈ items, p item = !q item) : (items.takeWhile p).length = items.findIdx q := by
  induction items with
  | nil => rfl
  | cons item rest ih =>
    have hItem := h item List.mem_cons_self
    have hRest := ih fun other hOther => h other (List.mem_cons_of_mem _ hOther)
    cases hq : q item <;> simp [List.findIdx_cons, hItem, hq, hRest]

theorem linesOf_at_header (lines : List Text) (key : Text) (keys : List Text) :
    linesOf lines key keys <+: lines.drop (headerOf lines key) := by
  have hDrop : lines.dropWhile (!opens key ·) = lines.drop (headerOf lines key) := by
    simp [List.dropWhile_eq_drop_findIdx_not, headerOf]
  rw [← hDrop, linesOf]
  cases lines.dropWhile (!opens key ·) with
  | nil => exact List.nil_prefix
  | cons header rest => exact List.cons_prefix_cons.mpr ⟨rfl, List.takeWhile_prefix _⟩

theorem map_numbersOf (lines : List Text) (key : Text) (keys : List Text) :
    (numbersOf lines key keys).map (lines[·]?) = (linesOf lines key keys).map some :=
  map_getElem?_range' (linesOf_at_header lines key keys)

theorem exists_opens_of_mem_numbersOf {lines keys : List Text} {key : Text} {i : Nat}
    (h : i ∈ numbersOf lines key keys) : ∃ line ∈ lines, opens key line = true := by
  have hNe : linesOf lines key keys ≠ [] := by
    rintro hNil
    simp [numbersOf, hNil] at h
  obtain ⟨cut, rfl⟩ := Cut.exists_of_linesOf_ne_nil hNe
  exact ⟨cut.header, by simp [Cut.lines], cut.header_opens⟩

/-! ### One line in front of a document -/

variable {line key : Text} {rest keys : List Text}

theorem headerOf_cons_of_opens (h : opens key line = true) : headerOf (line :: rest) key = 0 := by
  simp [headerOf, List.findIdx_cons, h]

theorem headerOf_cons (h : opens key line = false) :
    headerOf (line :: rest) key = headerOf rest key + 1 := by
  simp [headerOf, List.findIdx_cons, h]

theorem numbersOf_cons (h : opens key line = false) :
    numbersOf (line :: rest) key keys = (numbersOf rest key keys).map (1 + ·) := by
  have hLines : linesOf (line :: rest) key keys = linesOf rest key keys := by simp [linesOf, h]
  rw [numbersOf, numbersOf, List.map_add_range', hLines, headerOf_cons h, Nat.add_comm]

namespace HeadedOnce

theorem tail (h : HeadedOnce (line :: rest) keys) : HeadedOnce rest keys where
  given := h.given
  closed := h.closed
  once key hKey := by
    have hOnce := h.once key hKey
    rw [List.countP_cons] at hOnce
    omega

theorem not_opens (h : HeadedOnce (line :: rest) keys) (hKey : key ∈ keys)
    (hOpens : opens key line = true) : ∀ other ∈ rest, opens key other = false := by
  have hOnce := h.once key hKey
  rw [List.countP_cons_of_pos hOpens] at hOnce
  have hNone : rest.countP (opens key) = 0 := by omega
  simpa using hNone

theorem numbersOf_cons_of_opens (h : HeadedOnce (line :: rest) keys) (hKey : key ∈ keys)
    (hOpens : opens key line = true) :
    numbersOf (line :: rest) key keys = List.range' 0 (firstHeader rest keys + 1) := by
  have hBody : (rest.takeWhile (!opensAny (keys.filter (· != key)) ·)).length =
      firstHeader rest keys := by
    apply length_takeWhile_not
    intro other hOther
    rw [opensAny_eq_or hKey (h.given key hKey), h.not_opens hKey hOpens other hOther,
      Bool.false_or]
  rw [numbersOf, headerOf_cons_of_opens hOpens]
  simp [linesOf, hOpens, hBody]

end HeadedOnce

/-! ### The headers in their order -/

/-- The keys that the lines of a document open, one after the other. -/
def opened (lines keys : List Text) : List Text :=
  lines.filterMap fun line => keys.find? (opens · line)

theorem opens_of_find? (h : keys.find? (opens · line) = some key) : opens key line = true :=
  List.find?_some (p := (opens · line)) h

theorem find?_opens_eq_some_iff (hKeys : ∀ key ∈ keys, ']' ∉ key) :
    keys.find? (opens · line) = some key ↔ key ∈ keys ∧ opens key line = true := by
  constructor
  · intro hFind
    exact ⟨List.mem_of_find?_eq_some hFind, opens_of_find? hFind⟩
  · rintro ⟨hKey, hOpens⟩
    obtain ⟨found, hFound⟩ : ∃ found, keys.find? (opens · line) = some found := by
      rw [← Option.isSome_iff_exists, List.find?_isSome]
      exact ⟨key, hKey, hOpens⟩
    have hSame := eq_of_opens (hKeys found (List.mem_of_find?_eq_some hFound)) (hKeys key hKey)
      (opens_of_find? hFound) hOpens
    rw [hFound, hSame]

theorem mem_opened_iff {lines : List Text} (hKeys : ∀ key ∈ keys, ']' ∉ key) :
    key ∈ opened lines keys ↔ key ∈ keys ∧ ∃ line ∈ lines, opens key line = true := by
  simp only [opened, List.mem_filterMap, find?_opens_eq_some_iff hKeys]
  constructor
  · rintro ⟨line, hLine, hKey, hOpens⟩
    exact ⟨hKey, line, hLine, hOpens⟩
  · rintro ⟨hKey, line, hLine, hOpens⟩
    exact ⟨line, hLine, hKey, hOpens⟩

theorem opensAny_eq_isSome (hKeys : ∀ key ∈ keys, key ≠ []) :
    opensAny keys line = (keys.find? (opens · line)).isSome := by
  rw [Bool.eq_iff_iff, List.find?_isSome, opensAny, List.any_eq_true]
  constructor
  · rintro ⟨key, hKey, hOpens⟩
    exact ⟨key, hKey, (Bool.and_eq_true_iff.mp hOpens).2⟩
  · rintro ⟨key, hKey, hOpens⟩
    exact ⟨key, hKey, by simp [hKeys key hKey, hOpens]⟩

theorem opened_cons_of_none (h : keys.find? (opens · line) = none) :
    opened (line :: rest) keys = opened rest keys := by
  simp [opened, h]

theorem opened_cons_of_some (h : keys.find? (opens · line) = some key) :
    opened (line :: rest) keys = key :: opened rest keys := by
  simp [opened, h]

theorem firstHeader_cons_of_none (hKeys : ∀ key ∈ keys, key ≠ [])
    (h : keys.find? (opens · line) = none) :
    firstHeader (line :: rest) keys = firstHeader rest keys + 1 := by
  simp [firstHeader, List.findIdx_cons, opensAny_eq_isSome hKeys, h]

theorem firstHeader_cons_of_some (hKeys : ∀ key ∈ keys, key ≠ [])
    (h : keys.find? (opens · line) = some key) : firstHeader (line :: rest) keys = 0 := by
  simp [firstHeader, List.findIdx_cons, opensAny_eq_isSome hKeys, h]

namespace HeadedOnce

theorem not_opens_of_mem_opened (h : HeadedOnce (line :: rest) keys)
    (hMem : key ∈ opened rest keys) : opens key line = false := by
  obtain ⟨hKey, other, hOther, hOpens⟩ := (mem_opened_iff h.closed).mp hMem
  by_contra hLine
  rw [h.not_opens hKey (by simpa using hLine) other hOther] at hOpens
  cases hOpens

theorem ordered_opened {lines : List Text} (h : HeadedOnce lines keys) :
    (opened lines keys).Pairwise fun a b => headerOf lines a < headerOf lines b := by
  induction lines with
  | nil => exact List.Pairwise.nil
  | cons line rest ih =>
    have hRest : (opened rest keys).Pairwise fun a b =>
        headerOf (line :: rest) a < headerOf (line :: rest) b := by
      apply (ih h.tail).imp_of_mem
      intro a b ha hb hLess
      rw [headerOf_cons (h.not_opens_of_mem_opened ha),
        headerOf_cons (h.not_opens_of_mem_opened hb)]
      omega
    cases hFind : keys.find? (opens · line) with
    | none =>
      rw [opened_cons_of_none hFind]
      exact hRest
    | some key =>
      rw [opened_cons_of_some hFind]
      refine List.pairwise_cons.mpr ⟨?_, hRest⟩
      intro other hOther
      rw [headerOf_cons_of_opens (opens_of_find? hFind),
        headerOf_cons (h.not_opens_of_mem_opened hOther)]
      omega

theorem inHeaderOrder {lines : List Text} (h : HeadedOnce lines keys) :
    InHeaderOrder lines keys (opened lines keys) where
  mem_iff _ := mem_opened_iff h.closed
  ordered := h.ordered_opened

theorem flatMap_numbersOf {lines : List Text} (h : HeadedOnce lines keys) :
    (opened lines keys).flatMap (numbersOf lines · keys) =
      List.range' (firstHeader lines keys) (lines.length - firstHeader lines keys) := by
  induction lines with
  | nil => rfl
  | cons line rest ih =>
    have hBound : firstHeader rest keys ≤ rest.length := List.findIdx_le_length
    have hRest : (opened rest keys).flatMap (numbersOf (line :: rest) · keys) =
        List.range' (firstHeader rest keys + 1) (rest.length - firstHeader rest keys) := by
      calc (opened rest keys).flatMap (numbersOf (line :: rest) · keys)
          = (opened rest keys).flatMap fun key => (numbersOf rest key keys).map (1 + ·) :=
            List.flatMap_congr fun key hKey => numbersOf_cons (h.not_opens_of_mem_opened hKey)
        _ = ((opened rest keys).flatMap (numbersOf rest · keys)).map (1 + ·) :=
            List.map_flatMap.symm
        _ = _ := by rw [ih h.tail, List.map_add_range', Nat.add_comm]
    cases hFind : keys.find? (opens · line) with
    | none =>
      rw [opened_cons_of_none hFind, hRest, firstHeader_cons_of_none h.given hFind,
        List.length_cons, Nat.add_sub_add_right]
    | some key =>
      have hKey := List.mem_of_find?_eq_some hFind
      have hAll : firstHeader rest keys + 1 + (rest.length - firstHeader rest keys) =
          rest.length + 1 := by omega
      have hJoin := List.range'_append_1 (s := 0) (m := firstHeader rest keys + 1)
        (n := rest.length - firstHeader rest keys)
      rw [Nat.zero_add, hAll] at hJoin
      rw [opened_cons_of_some hFind, List.flatMap_cons,
        h.numbersOf_cons_of_opens hKey (opens_of_find? hFind), hRest,
        firstHeader_cons_of_some h.given hFind, List.length_cons, Nat.sub_zero, hJoin]

theorem flatMap_linesOf {lines : List Text} (h : HeadedOnce lines keys) :
    (opened lines keys).flatMap (linesOf lines · keys) = lines.drop (firstHeader lines keys) := by
  apply List.map_injective_iff.mpr fun _ _ => Option.some.inj
  calc ((opened lines keys).flatMap (linesOf lines · keys)).map some
      = (opened lines keys).flatMap fun key => (numbersOf lines key keys).map (lines[·]?) := by
        simp only [List.map_flatMap, map_numbersOf]
    _ = (List.range' (firstHeader lines keys)
          (lines.drop (firstHeader lines keys)).length).map (lines[·]?) := by
        rw [← List.map_flatMap, h.flatMap_numbersOf, List.length_drop]
    _ = (lines.drop (firstHeader lines keys)).map some := map_getElem?_range' List.prefix_rfl

theorem firstHeader_le {lines : List Text} (h : HeadedOnce lines keys) (hKey : key ∈ keys) {i : Nat}
    (hi : i ∈ numbersOf lines key keys) : firstHeader lines keys ≤ i := by
  have hOpened : key ∈ opened lines keys :=
    (mem_opened_iff h.closed).mpr ⟨hKey, exists_opens_of_mem_numbersOf hi⟩
  have hAll : i ∈ (opened lines keys).flatMap (numbersOf lines · keys) :=
    List.mem_flatMap.mpr ⟨key, hOpened, hi⟩
  rw [h.flatMap_numbersOf, List.mem_range'_1] at hAll
  exact hAll.1

end HeadedOnce

/-- The sections of the keys that have a header, in the order of their headers, make up the document
from the first header on. Each line number from there on is in one section, and none before it is in
any. -/
theorem sections_partition_lines {lines keys : List Text} (h : HeadedOnce lines keys) :
    (∃! order, InHeaderOrder lines keys order) ∧
    ∀ order, InHeaderOrder lines keys order →
      order.flatMap (linesOf lines · keys) = lines.drop (firstHeader lines keys) ∧
      order.flatMap (numbersOf lines · keys) =
        List.range' (firstHeader lines keys) (lines.length - firstHeader lines keys) ∧
      ∀ key ∈ keys,
        (numbersOf lines key keys).map (lines[·]?) = (linesOf lines key keys).map some ∧
        ∀ i ∈ numbersOf lines key keys, firstHeader lines keys ≤ i := by
  refine ⟨⟨opened lines keys, h.inHeaderOrder, fun order hOrder => hOrder.eq h.inHeaderOrder⟩, ?_⟩
  intro order hOrder
  rw [hOrder.eq h.inHeaderOrder]
  refine ⟨h.flatMap_linesOf, h.flatMap_numbersOf, ?_⟩
  intro key hKey
  exact ⟨map_numbersOf lines key keys, fun i => h.firstHeader_le hKey⟩

theorem sections_partition_nested_names :
    let lines : List Text := ["x", "[ab] y", "1", "", "[a]", "1", "[c", "[b]"]
    let keys : List Text := ["a", "b", "a", "ab", "c"]
    let order : List Text := ["ab", "a", "b"]
    HeadedOnce lines keys ∧ InHeaderOrder lines keys order ∧
      order.map (linesOf lines · keys) =
        [["[ab] y", "1", ""], ["[a]", "1", "[c"], ["[b]"]].map (·.map String.toList) ∧
      order.flatMap (linesOf lines · keys) = lines.drop 1 ∧
      order.flatMap (numbersOf lines · keys) = [1, 2, 3, 4, 5, 6, 7] := by
  intro lines keys order
  have hOnce : HeadedOnce lines keys := ⟨by decide, by decide, by decide⟩
  have hOrder : InHeaderOrder lines keys order := hOnce.inHeaderOrder
  obtain ⟨hLines, hNumbers, -⟩ := (sections_partition_lines hOnce).2 order hOrder
  exact ⟨hOnce, hOrder, by decide, hLines, hNumbers⟩

end ScriptAssist.Section
