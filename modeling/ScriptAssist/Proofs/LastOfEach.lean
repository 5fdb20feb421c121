import Mathlib.Data.List.Basic
import Mathlib.Data.List.Induction
import ScriptAssist.Keyed

/-!
# The last item of each key

What is left of a list without repeated keys: for each key, where it is first seen, the last item
with it. The list is built by putting one item after the other in its place, so both halves are read
off its last step. Lists that are already free of repeated keys can be put together and treated so
again: the result is that of all items at once.
-/

namespace ScriptAssist.Keyed

variable {α κ : Type} [DecidableEq κ]

def last? (key : α → κ) (items : List α) (k : κ) : Option α :=
  items.reverse.find? (key · = k)

def lastOfEach (key : α → κ) (items : List α) : List α :=
  (items.map key).eraseDups.filterMap (last? key items)

variable (key : α → κ)

theorem last?_snoc (items : List α) (item : α) (k : κ) :
    last? key (items ++ [item]) k = if key item = k then some item else last? key items k := by
  rw [last?, List.reverse_append, List.reverse_singleton, List.singleton_append, List.find?_cons]
  by_cases h : key item = k <;> simp [h, last?]

theorem key_of_last? {items : List α} {k : κ} {item : α} (h : last? key items k = some item) :
    key item = k := by
  simpa using List.find?_some h

theorem exists_last? {items : List α} {k : κ} (h : k ∈ items.map key) :
    ∃ item, last? key items k = some item := by
  apply Option.isSome_iff_exists.mp
  rw [last?, List.find?_isSome]
  obtain ⟨item, hItem, hKey⟩ := List.mem_map.mp h
  exact ⟨item, List.mem_reverse.mpr hItem, by simpa using hKey⟩

theorem eraseDups_snoc (keys : List κ) (k : κ) :
    (keys ++ [k]).eraseDups = if k ∈ keys then keys.eraseDups else keys.eraseDups ++ [k] := by
  rw [List.eraseDups_append]
  by_cases h : k ∈ keys <;> simp [List.removeAll, List.eraseDups_cons, h]

theorem dedupe_snoc (items : List α) (item : α) :
    dedupe key (items ++ [item]) = put key (dedupe key items) item := by
  simp [dedupe]

theorem map_dedupe (items : List α) : (dedupe key items).map key = (items.map key).eraseDups := by
  induction items using List.reverseRecOn with
  | nil => rfl
  | append_singleton items item ih =>
    have hMem : key item ∈ (dedupe key items).map key ↔ key item ∈ items.map key := by
      rw [ih, List.mem_eraseDups]
    rw [dedupe_snoc, List.map_append, List.map_singleton, eraseDups_snoc]
    split
    · rename_i hSeen
      rw [map_put_of_mem key _ item (hMem.mpr hSeen), ih]
    · rename_i hNew
      rw [put_of_not_mem key _ item (mt hMem.mp hNew), List.map_append, ih, List.map_singleton]

theorem filterMap_ite_of_not_mem {keys : List κ} {k : κ} (h : k ∉ keys) (found : κ → Option α)
    (item : α) :
    keys.filterMap (fun other => if k = other then some item else found other) =
      keys.filterMap found := by
  apply List.filterMap_congr
  intro other hOther
  have hNe : k ≠ other := fun hSame => h (hSame ▸ hOther)
  exact if_neg hNe

theorem put_filterMap {keys : List κ} (hKeys : keys.Nodup) {found : κ → Option α}
    (hFound : ∀ k item, found k = some item → key item = k) {item old : α}
    (hMem : key item ∈ keys) (hOld : found (key item) = some old) :
    put key (keys.filterMap found) item =
      keys.filterMap fun k => if key item = k then some item else found k := by
  induction keys with
  | nil => cases hMem
  | cons k rest ih =>
    obtain ⟨hNew, hRest⟩ := List.nodup_cons.mp hKeys
    rw [List.filterMap_cons, List.filterMap_cons]
    by_cases hHere : key item = k
    · have hPut : key old = key item := hFound _ old hOld
      rw [← hHere] at hNew ⊢
      rw [hOld, if_pos rfl, filterMap_ite_of_not_mem hNew]
      simp [put, hPut]
    · have hLater : key item ∈ rest := (List.mem_cons.mp hMem).resolve_left hHere
      rw [if_neg hHere]
      cases hKept : found k with
      | none => exact ih hRest hLater
      | some kept =>
        have hOther : key kept ≠ key item := by
          rw [hFound k kept hKept]
          exact Ne.symm hHere
        simp only [put, if_neg hOther, ih hRest hLater]

/-- One item for every key: the last one, where the key was first seen. -/
theorem dedupe_eq_lastOfEach (items : List α) : dedupe key items = lastOfEach key items := by
  induction items using List.reverseRecOn with
  | nil => rfl
  | append_singleton items item ih =>
    have hKeys : (items.map key).eraseDups.Nodup := by
      rw [← map_dedupe]
      exact nodup_dedupe key items
    have hLast : last? key (items ++ [item]) =
        fun k => if key item = k then some item else last? key items k := by
      funext k
      exact last?_snoc key items item k
    rw [dedupe_snoc, ih, lastOfEach, lastOfEach, hLast, List.map_append, List.map_singleton,
      eraseDups_snoc]
    by_cases hSeen : key item ∈ items.map key
    · obtain ⟨old, hOld⟩ := exists_last? key hSeen
      rw [if_pos hSeen]
      exact put_filterMap key hKeys (fun k found => key_of_last? key)
        (List.mem_eraseDups.mpr hSeen) hOld
    · have hNew : key item ∉ (items.map key).eraseDups := mt List.mem_eraseDups.mp hSeen
      have hPut : key item ∉ (lastOfEach key items).map key := by
        rw [← ih, map_dedupe]
        exact hNew
      rw [lastOfEach] at hPut
      rw [if_neg hSeen, put_of_not_mem key _ item hPut, List.filterMap_append,
        filterMap_ite_of_not_mem hNew]
      simp

theorem exists_last_of_mem {items : List α} {item : α} (h : item ∈ lastOfEach key items) :
    ∃ earlier later, items = earlier ++ item :: later ∧ ∀ other ∈ later, key other ≠ key item := by
  obtain ⟨k, -, hLast⟩ := List.mem_filterMap.mp h
  cases key_of_last? key hLast
  obtain ⟨-, later, earlier, hItems, hLater⟩ := List.find?_eq_some_iff_append.mp hLast
  refine ⟨earlier.reverse, later.reverse, ?_, ?_⟩
  · simpa using congrArg List.reverse hItems
  · intro other hOther
    simpa using hLater other (List.mem_reverse.mp hOther)

theorem map_lastOfEach (items : List α) :
    (lastOfEach key items).map key = (items.map key).eraseDups := by
  rw [← dedupe_eq_lastOfEach, map_dedupe]

theorem mem_map_lastOfEach {items : List α} {k : κ} :
    k ∈ (lastOfEach key items).map key ↔ k ∈ items.map key := by
  rw [map_lastOfEach, List.mem_eraseDups]

section

variable {β : Type} (keyOf? : β → Option κ)

/-- The place where a key is first seen among items, some of which have no key. -/
def firstAt (items : List β) (k : κ) : Nat :=
  items.findIdx (keyOf? · = some k)

theorem firstAt_lt_length {items : List β} {k : κ} (h : k ∈ items.filterMap keyOf?) :
    firstAt keyOf? items k < items.length := by
  obtain ⟨item, hItem, hKey⟩ := List.mem_filterMap.mp h
  exact List.findIdx_lt_length_of_exists ⟨item, hItem, by simpa using hKey⟩

theorem firstAt_snoc_of_mem {items : List β} {k : κ} (h : k ∈ items.filterMap keyOf?) (item : β) :
    firstAt keyOf? (items ++ [item]) k = firstAt keyOf? items k := by
  rw [firstAt, List.findIdx_append]
  exact if_pos (firstAt_lt_length keyOf? h)

theorem firstAt_snoc_of_not_mem {items : List β} {item : β} {k : κ}
    (h : k ∉ items.filterMap keyOf?) (hItem : keyOf? item = some k) :
    firstAt keyOf? (items ++ [item]) k = items.length := by
  have hNone : items.findIdx (keyOf? · = some k) = items.length := by
    rw [List.findIdx_eq_length]
    intro other hOther
    have hNe : keyOf? other ≠ some k := fun hKey => h (List.mem_filterMap.mpr ⟨other, hOther, hKey⟩)
    simpa using hNe
  rw [firstAt, List.findIdx_append, hNone, if_neg (Nat.lt_irrefl _)]
  simp [List.findIdx_cons, hItem]

theorem pairwise_firstAt (items : List β) :
    (items.filterMap keyOf?).eraseDups.Pairwise fun a b =>
      firstAt keyOf? items a < firstAt keyOf? items b := by
  induction items using List.reverseRecOn with
  | nil => exact List.Pairwise.nil
  | append_singleton items item ih =>
    have hSame : ∀ k ∈ (items.filterMap keyOf?).eraseDups,
        firstAt keyOf? (items ++ [item]) k = firstAt keyOf? items k := by
      intro k hk
      exact firstAt_snoc_of_mem keyOf? (List.mem_eraseDups.mp hk) item
    have hOld : (items.filterMap keyOf?).eraseDups.Pairwise fun a b =>
        firstAt keyOf? (items ++ [item]) a < firstAt keyOf? (items ++ [item]) b := by
      refine ih.imp_of_mem ?_
      intro a b ha hb hab
      rwa [hSame a ha, hSame b hb]
    rw [List.filterMap_append]
    cases hItem : keyOf? item with
    | none => simpa [hItem] using hOld
    | some k =>
      have hLast : [item].filterMap keyOf? = [k] := by simp [hItem]
      rw [hLast, eraseDups_snoc]
      split
      · exact hOld
      · rename_i hNew
        rw [List.pairwise_append]
        refine ⟨hOld, List.pairwise_singleton _ _, ?_⟩
        intro a ha b hb
        rw [List.mem_singleton.mp hb, hSame a ha, firstAt_snoc_of_not_mem keyOf? hNew hItem]
        exact firstAt_lt_length keyOf? (List.mem_eraseDups.mp ha)

end

theorem pairwise_lastOfEach_filterMap {β : Type} (read : β → Option α) (items : List β) :
    ((lastOfEach key (items.filterMap read)).map key).Pairwise fun a b =>
      firstAt (fun item => (read item).map key) items a <
        firstAt (fun item => (read item).map key) items b := by
  rw [map_lastOfEach, List.map_filterMap]
  exact pairwise_firstAt _ items

theorem mem_map_put (items : List α) (item : α) {k : κ} (h : k ∈ items.map key) :
    k ∈ (put key items item).map key := by
  by_cases hMem : key item ∈ items.map key
  · rwa [map_put_of_mem key items item hMem]
  · rw [put_of_not_mem key items item hMem, List.map_append]
    exact List.mem_append_left _ h

theorem key_mem_map_put (items : List α) (item : α) : key item ∈ (put key items item).map key := by
  by_cases hMem : key item ∈ items.map key
  · exact mem_map_put key items item hMem
  · simp [put_of_not_mem key items item hMem]

theorem put_put_of_eq (items : List α) {a b : α} (h : key a = key b) :
    put key (put key items a) b = put key items b := by
  induction items with
  | nil => simp [put, h]
  | cons other rest ih =>
    by_cases hHere : key other = key a
    · simp [put, hHere, h]
    · have hNext : key other ≠ key b := h ▸ hHere
      simp [put, hHere, hNext, ih]

theorem put_put_comm {items : List α} {a b : α} (hNe : key a ≠ key b)
    (hMem : key b ∈ items.map key) :
    put key (put key items a) b = put key (put key items b) a := by
  induction items with
  | nil => cases hMem
  | cons other rest ih =>
    by_cases hA : key other = key a
    · simp [put, hA, hNe]
    · by_cases hB : key other = key b
      · simp [put, hB, hNe.symm]
      · have hRest : key b ∈ rest.map key := (List.mem_cons.mp hMem).resolve_left (Ne.symm hB)
        simp [put, hA, hB, ih hRest]

theorem put_foldl_put {items found : List α} {item : α} (hFound : key item ∈ found.map key)
    (hItems : key item ∉ items.map key) :
    put key (items.foldl (put key) found) item = items.foldl (put key) (put key found item) := by
  induction items generalizing found with
  | nil => rfl
  | cons first rest ih =>
    rw [List.map_cons, List.mem_cons, not_or] at hItems
    rw [List.foldl_cons, List.foldl_cons, ih (mem_map_put key found first hFound) hItems.2,
      put_put_comm key (Ne.symm hItems.1) hFound]

theorem foldl_put_put {items : List α} (h : (items.map key).Nodup) (found : List α) (item : α) :
    (put key items item).foldl (put key) found = put key (items.foldl (put key) found) item := by
  induction items generalizing found with
  | nil => rfl
  | cons first rest ih =>
    obtain ⟨hNew, hRest⟩ := List.nodup_cons.mp h
    rw [put]
    split
    · rename_i hHere
      have hIn : key item ∈ (put key found first).map key :=
        hHere ▸ key_mem_map_put key found first
      rw [List.foldl_cons, List.foldl_cons, put_foldl_put key hIn (hHere ▸ hNew),
        put_put_of_eq key found hHere]
    · rw [List.foldl_cons, List.foldl_cons, ih hRest]

theorem foldl_put_dedupe (items found : List α) :
    (dedupe key items).foldl (put key) found = items.foldl (put key) found := by
  induction items using List.reverseRecOn with
  | nil => rfl
  | append_singleton items item ih =>
    rw [dedupe_snoc, foldl_put_put key (nodup_dedupe key items), ih, List.foldl_append]
    rfl

/-- Repeated keys may be left out of each part first. -/
theorem dedupe_flatMap_dedupe {β : Type} (part : β → List α) (items : List β) :
    dedupe key (items.flatMap fun item => dedupe key (part item)) =
      dedupe key (items.flatMap part) := by
  have hFold : ∀ found, (items.flatMap fun item => dedupe key (part item)).foldl (put key) found =
      (items.flatMap part).foldl (put key) found := by
    induction items with
    | nil => exact fun found => rfl
    | cons item rest ih =>
      intro found
      rw [List.flatMap_cons, List.flatMap_cons, List.foldl_append, List.foldl_append,
        foldl_put_dedupe, ih]
  exact hFold []

end ScriptAssist.Keyed
