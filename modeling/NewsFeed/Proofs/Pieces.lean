/-
Texts in pieces.

A text is cut into pieces at the characters that separate them, and the pieces are read one by one;
if one of them cannot be read, nothing is.

* `mapM_eq_map`, `mapM_map_eq_some`, `exists_of_mapM_eq_some` — reading one by one;
* `Text.split_intercalate` — cutting what was joined.
-/
import Mathlib.Data.List.Basic
import NewsFeed.Text.Basic

namespace NewsFeed

/-! ### Reading one by one -/

section

variable {α β : Type}

/-- Look-ups that all find something give the list of what they find. -/
theorem mapM_eq_map {find : α → Option β} {value : α → β} {items : List α}
    (h : ∀ item ∈ items, find item = some (value item)) :
    items.mapM find = some (items.map value) := by
  induction items with
  | nil => rfl
  | cons item items ih =>
    obtain ⟨hitem, hitems⟩ := List.forall_mem_cons.mp h
    rw [List.mapM_cons, hitem, ih hitems]
    rfl

/-- What is written one by one and can be read is read back. -/
theorem mapM_map_eq_some {read : β → Option α} {write : α → β} {items : List α}
    (h : ∀ item ∈ items, read (write item) = some item) :
    (items.map write).mapM read = some items := by
  rw [List.mapM_map]
  exact (mapM_eq_map h).trans (congrArg some (List.map_id' items))

/-- What is read one by one comes from what it is read from. -/
theorem exists_of_mapM_eq_some {read : α → Option β} {texts : List α} {items : List β}
    (h : texts.mapM read = some items) : ∀ item ∈ items, ∃ text ∈ texts, read text = some item := by
  induction texts generalizing items with
  | nil =>
    obtain rfl := Option.some.inj h
    exact List.forall_mem_nil _
  | cons text rest ih =>
    rw [List.mapM_cons] at h
    obtain ⟨first, hfirst, h⟩ := Option.bind_eq_some_iff.mp h
    obtain ⟨others, hothers, h⟩ := Option.bind_eq_some_iff.mp h
    obtain rfl := Option.some.inj h
    refine List.forall_mem_cons.mpr ⟨⟨text, List.mem_cons_self, hfirst⟩, fun item hmem => ?_⟩
    obtain ⟨text, htext, hread⟩ := ih hothers item hmem
    exact ⟨text, List.mem_cons_of_mem _ htext, hread⟩

theorem eq_nil_of_mapM_eq_some_nil {read : α → Option β} {texts : List α}
    (h : texts.mapM read = some []) : texts = [] := by
  cases texts with
  | nil => rfl
  | cons text rest =>
    rw [List.mapM_cons] at h
    obtain ⟨first, -, h⟩ := Option.bind_eq_some_iff.mp h
    obtain ⟨others, -, h⟩ := Option.bind_eq_some_iff.mp h
    cases h

end

/-! ### Cutting and joining -/

namespace Text

theorem split_eq_splitOnP (separates : Char → Bool) (text : List Char) :
    split separates text = text.splitOnP separates := by
  induction text with
  | nil => rfl
  | cons c rest ih =>
    rw [List.splitOnP_cons_eq_if_modifyHead, ← ih, split, List.foldr_cons, ← split]
    obtain ⟨piece, pieces, hpieces⟩ := List.exists_cons_of_ne_nil
      (ih ▸ List.splitOnP_ne_nil separates rest)
    rw [hpieces]
    rfl

theorem split_ne_nil (separates : Char → Bool) (text : List Char) : split separates text ≠ [] := by
  rw [split_eq_splitOnP]
  exact List.splitOnP_ne_nil _ _

/-- Pieces of a text are made of its characters, apart from those that separate them. -/
theorem mem_of_mem_split {separates : Char → Bool} {text piece : List Char}
    (hpiece : piece ∈ split separates text) {c : Char} (hc : c ∈ piece) :
    c ∈ text ∧ separates c = false := by
  induction text generalizing piece with
  | nil =>
    obtain rfl := List.mem_singleton.mp hpiece
    cases hc
  | cons d rest ih =>
    obtain ⟨first, others, hrest⟩ := List.exists_cons_of_ne_nil (split_ne_nil separates rest)
    rw [split, List.foldr_cons, ← split, hrest] at hpiece
    rw [hrest] at ih
    -- a separator begins a new piece, and another character joins the first one
    split at hpiece
    · rcases List.mem_cons.mp hpiece with rfl | hpiece
      · cases hc
      · exact (ih hpiece hc).imp_left (List.mem_cons_of_mem _)
    · next hd =>
      rcases List.mem_cons.mp hpiece with rfl | hpiece
      · rcases List.mem_cons.mp hc with rfl | hc
        · exact ⟨List.mem_cons_self, by simpa using hd⟩
        · exact (ih List.mem_cons_self hc).imp_left (List.mem_cons_of_mem _)
      · exact (ih (List.mem_cons_of_mem _ hpiece) hc).imp_left (List.mem_cons_of_mem _)

/-- Pieces without the separator, joined by it, are found again. -/
theorem split_intercalate {separator : Char} {pieces : List (List Char)}
    (h : ∀ piece ∈ pieces, separator ∉ piece) (hne : pieces ≠ []) :
    split (· = separator) ([separator].intercalate pieces) = pieces := by
  rw [split_eq_splitOnP]
  exact List.splitOn_intercalate separator h hne

theorem mem_of_mem_intercalate {separator : Char} {pieces : List (List Char)} {c : Char}
    (h : c ∈ [separator].intercalate pieces) : c = separator ∨ ∃ piece ∈ pieces, c ∈ piece := by
  induction pieces with
  | nil => cases h
  | cons piece rest ih =>
    cases rest with
    | nil => exact .inr ⟨piece, List.mem_cons_self, by simpa using h⟩
    | cons next rest =>
      rw [List.intercalate_cons_cons] at h
      rcases List.mem_append.mp h with h | h
      · rcases List.mem_append.mp h with h | h
        · exact .inr ⟨piece, List.mem_cons_self, h⟩
        · exact .inl (List.mem_singleton.mp h)
      · refine (ih h).imp_right fun ⟨found, hfound, hc⟩ => ⟨found, ?_, hc⟩
        exact List.mem_cons_of_mem _ hfound

end Text

end NewsFeed
