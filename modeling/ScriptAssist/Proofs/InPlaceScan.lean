import Mathlib.Data.List.Nodup
import ScriptAssist.Proofs.BlockScan

/-!
# The scan of a block in place

The scan of a block can also be written with the list of blocks that it changes in place: a block is
listed at its opener, and its end is filled in when the closer comes. The opener is looked up by the
depth of the closer. No look-up misses, no block is left without its end, and the list is that of
the scope.
-/

namespace ScriptAssist.Scope

open Lexeme (width width_append)

structure Entry where
  start : Nat
  finish : Option Nat
  deriving DecidableEq, Repr

def Entry.ofSpan (span : Span) : Entry :=
  ⟨span.start, some span.finish⟩

def listed (scope : Scope) : Span × List Entry :=
  (scope.outer, scope.inner.map .ofSpan)

def fillIn (first finish : Nat) (entries : List Entry) : List Entry :=
  entries.map fun entry => if entry.start = first then ⟨first, some finish⟩ else entry

/-- The scan of a block that lists each block inside at its opener. At a closer the last opener of
its depth is looked up, and the end of that block is filled in. -/
def closeInPlace? (start depth : Nat) (opened : List (Nat × Nat)) (entries : List Entry) :
    List (Bracket × Nat) → Option (Option (Span × List Entry))
  | [] => some none
  | (.opening, offset) :: rest =>
    closeInPlace? start (depth + 1) ((depth + 1, offset) :: opened) (entries ++ [⟨offset, none⟩])
      rest
  | (.closing, offset) :: rest =>
    match depth with
    | 0 => some (some (⟨start, offset⟩, entries))
    | outside + 1 => do
      let first ← opened.lookup (outside + 1)
      closeInPlace? start outside opened (fillIn first offset entries) rest

def findInPlace? : List (Bracket × Nat) → Option (Option (Span × List Entry))
  | [] => some none
  | (.opening, offset) :: rest => closeInPlace? offset 0 [] [] rest
  | (.closing, _) :: rest => findInPlace? rest

/-- The open blocks, the innermost first, are those under their depths. -/
def Tracks (opened : List (Nat × Nat)) : List Nat → Prop
  | [] => True
  | first :: others => opened.lookup (others.length + 1) = some first ∧ Tracks opened others

theorem Tracks.cons {opened : List (Nat × Nat)} {pending : List Nat} (h : Tracks opened pending)
    {depth : Nat} (hDepth : pending.length < depth) (offset : Nat) :
    Tracks ((depth, offset) :: opened) pending := by
  induction pending with
  | nil => trivial
  | cons first others ih =>
    have hOther : (others.length + 1 == depth) = false := by
      rw [List.length_cons] at hDepth
      exact beq_eq_false_iff_ne.mpr (Nat.ne_of_lt hDepth)
    refine ⟨?_, ih h.2 (by rw [List.length_cons] at hDepth; omega)⟩
    rw [List.lookup_cons, hOther]
    exact h.1

/-- The blocks that are listed: the open ones without an end, the closed ones with theirs. -/
structure Lists (entries : List Entry) (pending : List Nat) (inner : List Span) : Prop where
  ordered : entries.Pairwise (·.start < ·.start)
  mem_iff : ∀ entry, entry ∈ entries ↔ (entry.finish = none ∧ entry.start ∈ pending) ∨
    ∃ span ∈ inner, entry = .ofSpan span

namespace Lists

variable {entries : List Entry} {seen : List Lexeme} {start : Nat} {pending : List Nat}
  {inner : List Span}

theorem start_lt (h : Lists entries pending inner) (hSeen : Scanned seen start pending inner)
    {entry : Entry} (hEntry : entry ∈ entries) : entry.start < width seen := by
  rcases (h.mem_iff entry).mp hEntry with ⟨-, hPending⟩ | ⟨span, hSpan, rfl⟩
  · have hBounds := hSeen.unclosed.bounds hPending
    omega
  · have hBounds := (hSeen.block span hSpan).bounds
    dsimp only [Entry.ofSpan]
    omega

theorem opening (h : Lists entries pending inner) (hSeen : Scanned seen start pending inner) :
    Lists (entries ++ [⟨width seen, none⟩]) (width seen :: pending) inner where
  ordered := by
    refine List.pairwise_append.mpr ⟨h.ordered, List.pairwise_singleton _ _, ?_⟩
    intro entry hEntry last hLast
    rw [List.mem_singleton.mp hLast]
    exact h.start_lt hSeen hEntry
  mem_iff entry := by
    rw [List.mem_append, h.mem_iff, List.mem_singleton, List.mem_cons, Entry.mk.injEq]
    constructor
    · rintro ((⟨hOpen, hPending⟩ | hClosed) | ⟨hStart, hOpen⟩)
      · exact .inl ⟨hOpen, .inr hPending⟩
      · exact .inr hClosed
      · exact .inl ⟨hOpen, .inl hStart⟩
    · rintro (⟨hOpen, hStart | hPending⟩ | hClosed)
      · exact .inr ⟨hStart, hOpen⟩
      · exact .inl (.inl ⟨hOpen, hPending⟩)
      · exact .inl (.inr hClosed)

section

variable {first : Nat} {others : List Nat}

theorem mem_fillIn_iff {finish : Nat} {entry : Entry} (hFirst : ⟨first, none⟩ ∈ entries) :
    entry ∈ fillIn first finish entries ↔
      entry = ⟨first, some finish⟩ ∨ entry ∈ entries ∧ entry.start ≠ first := by
  rw [fillIn, List.mem_map]
  constructor
  · rintro ⟨listed, hListed, rfl⟩
    split
    · exact .inl rfl
    · rename_i hOther
      exact .inr ⟨hListed, hOther⟩
  · rintro (rfl | ⟨hEntry, hOther⟩)
    · exact ⟨⟨first, none⟩, hFirst, if_pos rfl⟩
    · exact ⟨entry, hEntry, if_neg hOther⟩

theorem pairwise_fillIn {finish : Nat} (h : entries.Pairwise (·.start < ·.start)) :
    (fillIn first finish entries).Pairwise (·.start < ·.start) := by
  have hStart : ∀ entry : Entry,
      (if entry.start = first then ⟨first, some finish⟩ else entry : Entry).start =
        entry.start := by
    intro entry
    split
    · rename_i hFirst
      exact hFirst.symm
    · rfl
  refine List.pairwise_map.mpr (h.imp ?_)
  intro a b hLess
  rwa [hStart, hStart]

theorem closing (h : Lists entries (first :: others) inner)
    (hSeen : Scanned seen start (first :: others) inner) :
    Lists (fillIn first (width seen) entries) others
      (insertSpan ⟨first, width seen⟩ inner) where
  ordered := pairwise_fillIn h.ordered
  mem_iff entry := by
    have hFirst : ⟨first, none⟩ ∈ entries := (h.mem_iff _).mpr (.inl ⟨rfl, List.mem_cons_self⟩)
    rw [mem_fillIn_iff hFirst, h.mem_iff]
    simp only [mem_insertSpan]
    constructor
    · rintro (rfl | ⟨⟨hOpen, hPending⟩ | ⟨span, hSpan, rfl⟩, hOther⟩)
      · exact .inr ⟨_, .inl rfl, rfl⟩
      · exact .inl ⟨hOpen, (List.mem_cons.mp hPending).resolve_left hOther⟩
      · exact .inr ⟨span, .inr hSpan, rfl⟩
    · rintro (⟨hOpen, hOthers⟩ | ⟨span, rfl | hSpan, rfl⟩)
      · have hBefore := hSeen.add_le_first hOthers
        exact .inr ⟨.inl ⟨hOpen, List.mem_cons_of_mem _ hOthers⟩, by omega⟩
      · exact .inl rfl
      · refine .inr ⟨.inr ⟨span, hSpan, rfl⟩, ?_⟩
        have hBounds := (hSeen.block span hSpan).bounds
        have hApart := hSeen.apart span hSpan first List.mem_cons_self
        dsimp only [Entry.ofSpan]
        omega

end

theorem eq_map_ofSpan (h : Lists entries [] inner) (hSeen : Scanned seen start [] inner) :
    entries = inner.map .ofSpan := by
  have hInner : (inner.map Entry.ofSpan).Pairwise (·.start < ·.start) := by
    refine List.pairwise_map.mpr (hSeen.ordered.imp ?_)
    intro s t hPrecedes
    have hOpens := hPrecedes.opens
    dsimp only [Entry.ofSpan]
    omega
  have hNodup : ∀ {list : List Entry}, list.Pairwise (·.start < ·.start) → list.Nodup := by
    intro list hList
    refine hList.imp ?_
    rintro a b hLess rfl
    omega
  have hPerm : entries.Perm (inner.map .ofSpan) := by
    rw [List.perm_ext_iff_of_nodup (hNodup h.ordered) (hNodup hInner)]
    intro entry
    rw [h.mem_iff, List.mem_map]
    simp [eq_comm]
  refine hPerm.eq_of_pairwise ?_ h.ordered hInner
  intro a b _ _ hLess hGreater
  omega

end Lists

theorem closeInPlace?_eq {seen : List Lexeme} {start : Nat} {pending : List Nat}
    {inner : List Span} (hSeen : Scanned seen start pending inner) {opened : List (Nat × Nat)}
    (hOpened : Tracks opened pending) {entries : List Entry}
    (hEntries : Lists entries pending inner) (lexemes : List Lexeme) :
    closeInPlace? start pending.length opened entries (Lexeme.brackets (width seen) lexemes) =
      some ((close? start pending inner (Lexeme.brackets (width seen) lexemes)).map listed) := by
  induction lexemes generalizing seen pending inner opened entries with
  | nil => rfl
  | cons lexeme rest ih =>
    cases lexeme with
    | opening =>
      have hPushed : Tracks ((pending.length + 1, width seen) :: opened) (width seen :: pending) :=
        ⟨by simp, hOpened.cons (Nat.lt_succ_self _) _⟩
      have hRest := ih hSeen.opening hPushed (hEntries.opening hSeen)
      rwa [width_append] at hRest
    | closing =>
      cases pending with
      | nil =>
        rw [Lexeme.brackets, List.length_nil, closeInPlace?, close?, Option.map_some, listed,
          hEntries.eq_map_ofSpan hSeen]
      | cons first others =>
        have hRest := ih hSeen.closing hOpened.2 (hEntries.closing hSeen)
        rw [width_append] at hRest
        rw [Lexeme.brackets, List.length_cons, closeInPlace?, hOpened.1]
        exact hRest
    | other c =>
      have hRest := ih (hSeen.other c) hOpened hEntries
      rwa [width_append] at hRest

theorem findInPlace?_eq {before : List Lexeme} (hBefore : .opening ∉ before)
    (lexemes : List Lexeme) :
    findInPlace? (Lexeme.brackets (width before) lexemes) =
      some ((ofBrackets? (Lexeme.brackets (width before) lexemes)).map listed) := by
  induction lexemes generalizing before with
  | nil => rfl
  | cons lexeme rest ih =>
    cases lexeme with
    | opening =>
      have hNone : Lists [] [] [] := ⟨List.Pairwise.nil, by simp⟩
      have hRest := closeInPlace?_eq (.outer hBefore) (show Tracks [] [] from trivial) hNone rest
      rwa [width_append] at hRest
    | closing =>
      have hRest := ih (show .opening ∉ before ++ [.closing] by simpa using hBefore)
      rwa [width_append] at hRest
    | other c =>
      have hRest := ih (show .opening ∉ before ++ [.other c] by simpa using hBefore)
      rwa [width_append] at hRest

theorem findInPlace?_brackets (text : Text) :
    findInPlace? (brackets 0 text) = some ((find? text).map listed) := by
  obtain ⟨lexemes, hLexed⟩ := Lexed.exists_lexemes text
  have hInPlace := findInPlace?_eq List.not_mem_nil lexemes
  rwa [Lexeme.width_nil, ← hLexed.brackets_eq] at hInPlace

end ScriptAssist.Scope
