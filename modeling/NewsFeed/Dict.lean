/-
Maps from strings, kept in ascending order of their keys.

The order is part of the type, so two maps with the same entries are equal and a map has one written
form. Strings are compared by code point, which is also the order of their UTF-8 bytes.

* `get?_insert` — an inserted value is found under its key, other keys are left alone;
* `ext_get?` — maps that agree on every key are equal.
-/
namespace NewsFeed

/-- A map from strings to `α`. -/
structure Dict (α : Type) where
  /-- The entries, smallest key first. -/
  entries : List (String × α) := []
  /-- No key stands twice and the keys ascend. -/
  ascending : entries.Pairwise (fun a b => a.1 < b.1) := by exact .nil

namespace Dict

variable {α β : Type}

instance : EmptyCollection (Dict α) := ⟨{}⟩
instance : Inhabited (Dict α) := ⟨∅⟩

/-- Puts `value` under `key` in an ascending list of entries. -/
def insertEntry (key : String) (value : α) : List (String × α) → List (String × α)
  | [] => [(key, value)]
  | entry :: rest =>
    if key < entry.1 then (key, value) :: entry :: rest
    else if entry.1 < key then entry :: insertEntry key value rest
    else (key, value) :: rest

private theorem fst_of_mem_insertEntry {key : String} {value : α} {entries : List (String × α)}
    {entry : String × α} (h : entry ∈ insertEntry key value entries) :
    entry.1 = key ∨ entry ∈ entries := by
  induction entries with
  | nil => simp_all [insertEntry]
  | cons first rest ih =>
    unfold insertEntry at h
    split at h
    · rcases List.mem_cons.1 h with h | h
      · exact .inl (by rw [h])
      · exact .inr h
    · split at h
      · rcases List.mem_cons.1 h with h | h
        · exact .inr (by rw [h]; exact List.mem_cons_self)
        · exact (ih h).imp id (List.mem_cons_of_mem _)
      · rcases List.mem_cons.1 h with h | h
        · exact .inl (by rw [h])
        · exact .inr (List.mem_cons_of_mem _ h)

private theorem eq_of_not_lt_of_not_lt {a b : String} (h : ¬ a < b) (h' : ¬ b < a) : a = b :=
  String.le_antisymm (String.not_lt.1 h') (String.not_lt.1 h)

private theorem pairwise_insertEntry {key : String} {value : α} {entries : List (String × α)}
    (h : entries.Pairwise (fun a b => a.1 < b.1)) :
    (insertEntry key value entries).Pairwise (fun a b => a.1 < b.1) := by
  induction entries with
  | nil => simp [insertEntry]
  | cons first rest ih =>
    have hfirst := (List.pairwise_cons.1 h).1
    have hrest := (List.pairwise_cons.1 h).2
    unfold insertEntry
    split
    · rename_i hlt
      refine List.pairwise_cons.2 ⟨fun entry hentry => ?_, h⟩
      rcases List.mem_cons.1 hentry with rfl | hmem
      · exact hlt
      · exact String.lt_trans hlt (hfirst entry hmem)
    · split
      · rename_i hlt
        refine List.pairwise_cons.2 ⟨fun entry hentry => ?_, ih hrest⟩
        rcases fst_of_mem_insertEntry hentry with heq | hmem
        · rw [heq]; exact hlt
        · exact hfirst entry hmem
      · rename_i hle hge
        have heq := eq_of_not_lt_of_not_lt hle hge
        exact List.pairwise_cons.2 ⟨fun entry hentry => heq ▸ hfirst entry hentry, hrest⟩

/-- Puts `value` under `key`, in place of what stood there. -/
def insert (dict : Dict α) (key : String) (value : α) : Dict α where
  entries := insertEntry key value dict.entries
  ascending := pairwise_insertEntry dict.ascending

/-- The value under `key` in a list of entries. -/
def valueOf? (key : String) : List (String × α) → Option α
  | [] => none
  | entry :: rest => if entry.1 = key then some entry.2 else valueOf? key rest

/-- The value under `key`. -/
def get? (dict : Dict α) (key : String) : Option α :=
  valueOf? key dict.entries

/-- The map of a list of entries, in which a later entry replaces an earlier one of the same key. -/
def ofList (entries : List (String × α)) : Dict α :=
  entries.foldl (fun dict entry => dict.insert entry.1 entry.2) ∅

/-- The entries, smallest key first. -/
def toList (dict : Dict α) : List (String × α) :=
  dict.entries

/-- The keys, ascending. -/
def keys (dict : Dict α) : List String :=
  dict.entries.map (·.1)

/-- The values, by ascending key. -/
def values (dict : Dict α) : List α :=
  dict.entries.map (·.2)

/-- Whether there is no entry. -/
def isEmpty (dict : Dict α) : Bool :=
  dict.entries.isEmpty

/-! ### Looking up -/

private theorem valueOf?_insertEntry (key key' : String) (value : α)
    (entries : List (String × α)) :
    valueOf? key' (insertEntry key value entries) =
      if key = key' then some value else valueOf? key' entries := by
  induction entries with
  | nil => simp [insertEntry, valueOf?]
  | cons first rest ih =>
    unfold insertEntry
    split
    · simp [valueOf?]
    · split
      · rename_i hlt
        have hne : first.1 ≠ key := fun h => String.lt_irrefl _ (h ▸ hlt)
        by_cases hfirst : first.1 = key'
        · have : key ≠ key' := fun h => hne (hfirst.trans h.symm)
          simp [valueOf?, hfirst, this]
        · simp [valueOf?, hfirst, ih]
      · rename_i hle hge
        have heq := eq_of_not_lt_of_not_lt hle hge
        by_cases hkey : key = key' <;> simp [valueOf?, ← heq, hkey]

@[simp] theorem get?_empty (key : String) : (∅ : Dict α).get? key = none := rfl

theorem get?_insert (dict : Dict α) (key key' : String) (value : α) :
    (dict.insert key value).get? key' = if key = key' then some value else dict.get? key' :=
  valueOf?_insertEntry key key' value dict.entries

private theorem lt_of_valueOf? {key : String} {value : α} {bound : String}
    {entries : List (String × α)} (hbound : ∀ entry ∈ entries, bound < entry.1)
    (h : valueOf? key entries = some value) : bound < key := by
  induction entries with
  | nil => simp [valueOf?] at h
  | cons first rest ih =>
    by_cases hfirst : first.1 = key
    · exact hfirst ▸ hbound first List.mem_cons_self
    · exact ih (fun entry hentry => hbound entry (List.mem_cons_of_mem _ hentry))
        (by simpa [valueOf?, hfirst] using h)

private theorem valueOf?_cons_self (entry : String × α) (rest : List (String × α)) :
    valueOf? entry.1 (entry :: rest) = some entry.2 := by
  simp [valueOf?]

private theorem entries_ext {entries entries' : List (String × α)}
    (h : entries.Pairwise (fun a b => a.1 < b.1)) (h' : entries'.Pairwise (fun a b => a.1 < b.1))
    (heq : ∀ key, valueOf? key entries = valueOf? key entries') : entries = entries' := by
  induction entries generalizing entries' with
  | nil =>
    cases entries' with
    | nil => rfl
    | cons first rest =>
      have := heq first.1
      rw [valueOf?_cons_self] at this
      simp [valueOf?] at this
  | cons first rest ih =>
    cases entries' with
    | nil =>
      have := heq first.1
      rw [valueOf?_cons_self] at this
      simp [valueOf?] at this
    | cons first' rest' =>
      have hlt := (List.pairwise_cons.1 h).1
      have hlt' := (List.pairwise_cons.1 h').1
      -- the smaller of the two first keys would be missing from the other list, whose keys all lie
      -- above its own first
      have hkey : first.1 = first'.1 := by
        apply eq_of_not_lt_of_not_lt
        · intro hless
          have hfound := (heq first.1).symm.trans (valueOf?_cons_self first rest)
          have hne : first'.1 ≠ first.1 := fun h => String.lt_irrefl _ (h ▸ hless)
          rw [valueOf?, if_neg hne] at hfound
          exact String.lt_asymm hless (lt_of_valueOf? hlt' hfound)
        · intro hless
          have hfound := (heq first'.1).trans (valueOf?_cons_self first' rest')
          have hne : first.1 ≠ first'.1 := fun h => String.lt_irrefl _ (h ▸ hless)
          rw [valueOf?, if_neg hne] at hfound
          exact String.lt_asymm hless (lt_of_valueOf? hlt hfound)
      have hvalue : first.2 = first'.2 := by
        have := heq first.1
        rw [valueOf?_cons_self, hkey, valueOf?_cons_self] at this
        exact Option.some.inj this
      -- behind the first entries, neither list knows the first key, and on all others the lists
      -- agree
      have hrest : rest = rest' := by
        refine ih (List.pairwise_cons.1 h).2 (List.pairwise_cons.1 h').2 fun key => ?_
        by_cases hfirst : first.1 = key
        · have hnone : ∀ {tail : List (String × α)}, (∀ entry ∈ tail, first.1 < entry.1) →
              valueOf? key tail = none := by
            intro tail htail
            cases hfind : valueOf? key tail with
            | none => rfl
            | some value => exact absurd (hfirst ▸ lt_of_valueOf? htail hfind) (String.lt_irrefl _)
          rw [hnone hlt, hnone (hkey ▸ hlt')]
        · have := heq key
          rwa [valueOf?, if_neg hfirst, valueOf?, if_neg (hkey ▸ hfirst)] at this
      rw [hrest, show first = first' from Prod.ext hkey hvalue]

/-- Maps that agree on every key are equal. -/
theorem ext_get? {dict dict' : Dict α} (h : ∀ key, dict.get? key = dict'.get? key) :
    dict = dict' := by
  have hentries := entries_ext dict.ascending dict'.ascending h
  cases dict
  cases dict'
  simp_all

end Dict

end NewsFeed
