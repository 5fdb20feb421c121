import ScriptAssist.Text.Basic

/-!
# Lists without repeated keys

Where items share a key, the last of them stays, at the place of the first.
-/

namespace ScriptAssist.Keyed

variable {α κ : Type} [DecidableEq κ]

def put (key : α → κ) (items : List α) (item : α) : List α :=
  match items with
  | [] => [item]
  | other :: rest => if key other = key item then item :: rest else other :: put key rest item

/-- One item for every key: the last one, where the key was first seen. -/
def dedupe (key : α → κ) (items : List α) : List α :=
  items.foldl (put key) []

theorem map_put_of_mem (key : α → κ) (items : List α) (item : α) (h : key item ∈ items.map key) :
    (put key items item).map key = items.map key := by
  induction items with
  | nil => cases h
  | cons other rest ih =>
    by_cases hKey : key other = key item
    · simp [put, hKey]
    · have hRest : key item ∈ rest.map key := by
        rcases List.mem_cons.mp h with hItem | hRest
        · exact absurd hItem.symm hKey
        · exact hRest
      simp [put, hKey, ih hRest]

theorem put_of_not_mem (key : α → κ) (items : List α) (item : α) (h : key item ∉ items.map key) :
    put key items item = items ++ [item] := by
  induction items with
  | nil => rfl
  | cons other rest ih =>
    simp only [List.map_cons, List.mem_cons, not_or] at h
    simp [put, Ne.symm h.1, ih h.2]

theorem mem_of_mem_put {key : α → κ} {items : List α} {item found : α}
    (h : found ∈ put key items item) : found = item ∨ found ∈ items := by
  induction items with
  | nil => exact .inl (List.mem_singleton.mp h)
  | cons other rest ih =>
    rw [put] at h
    split at h
    · exact (List.mem_cons.mp h).imp_right (List.mem_cons_of_mem _)
    · rcases List.mem_cons.mp h with hOther | hRest
      · exact .inr (hOther ▸ List.mem_cons_self)
      · exact (ih hRest).imp_right (List.mem_cons_of_mem _)

theorem mem_of_mem_foldl_put {key : α → κ} {items found : List α} {item : α}
    (h : item ∈ items.foldl (put key) found) : item ∈ found ∨ item ∈ items := by
  induction items generalizing found with
  | nil => exact .inl h
  | cons first rest ih =>
    rcases ih h with hFound | hRest
    · exact (mem_of_mem_put hFound).elim (fun hFirst => .inr (hFirst ▸ List.mem_cons_self)) .inl
    · exact .inr (List.mem_cons_of_mem _ hRest)

theorem mem_of_mem_dedupe {key : α → κ} {items : List α} {item : α}
    (h : item ∈ dedupe key items) : item ∈ items :=
  (mem_of_mem_foldl_put h).resolve_left List.not_mem_nil

theorem nodup_put (key : α → κ) (items : List α) (item : α) (h : (items.map key).Nodup) :
    ((put key items item).map key).Nodup := by
  by_cases hMem : key item ∈ items.map key
  · rwa [map_put_of_mem key items item hMem]
  · rw [put_of_not_mem key items item hMem, List.map_append, List.nodup_append]
    refine ⟨h, by simp, ?_⟩
    intro a ha b hb hab
    simp only [List.map_cons, List.map_nil, List.mem_singleton] at hb
    exact hMem (hb ▸ hab ▸ ha)

theorem nodup_foldl_put (key : α → κ) (items found : List α) (h : (found.map key).Nodup) :
    ((items.foldl (put key) found).map key).Nodup := by
  induction items generalizing found with
  | nil => exact h
  | cons item rest ih => exact ih _ (nodup_put key found item h)

theorem nodup_dedupe (key : α → κ) (items : List α) : ((dedupe key items).map key).Nodup :=
  nodup_foldl_put key items [] List.nodup_nil

theorem foldl_put_of_nodup (key : α → κ) (items found : List α)
    (h : ((found ++ items).map key).Nodup) : items.foldl (put key) found = found ++ items := by
  induction items generalizing found with
  | nil => simp
  | cons item rest ih =>
    rw [List.append_cons] at h
    have hNew : key item ∉ found.map key := by
      rw [List.append_assoc, List.map_append, List.nodup_append] at h
      intro hMem
      exact h.2.2 _ hMem _ (by simp) rfl
    rw [List.foldl_cons, put_of_not_mem key found item hNew, ih _ h, ← List.append_cons]

theorem dedupe_of_nodup (key : α → κ) (items : List α) (h : (items.map key).Nodup) :
    dedupe key items = items :=
  foldl_put_of_nodup key items [] h

end ScriptAssist.Keyed

namespace ScriptAssist

/-- Texts under names. Each name stands once, at the place where it came first. -/
structure NamedTexts where
  entries : List (Text × Text)
  distinct : (entries.map Prod.fst).Nodup
  deriving DecidableEq, Repr

instance : CoeOut NamedTexts (List (Text × Text)) := ⟨NamedTexts.entries⟩

/-- Of a repeated name the last text counts. -/
def NamedTexts.ofEntries (entries : List (Text × Text)) : NamedTexts :=
  ⟨Keyed.dedupe Prod.fst entries, Keyed.nodup_dedupe Prod.fst entries⟩

end ScriptAssist
