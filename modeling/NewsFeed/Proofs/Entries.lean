/-
Maps and lists of entries.

A list of entries makes a map in which the last entry of a key counts.  The entries of a map have
different keys, so they make the same map again, in whatever order they are taken.

* `get?_ofList` — the last entry of a key is the one that is found;
* `get?_eq_some_iff` — what is found under a key is an entry;
* `toList_ofList_perm` — entries with different keys are the entries of their map;
* `ofList_toList` — a map is the map of its entries.
-/
import Mathlib.Data.List.Induction
import Mathlib.Data.List.Nodup
import NewsFeed.Dict

namespace NewsFeed.Dict

variable {α : Type} {key : String} {value : α} {entries : List (String × α)} {dict : Dict α}

/-- The last entry of a key is the one that is found. -/
theorem get?_ofList (entries : List (String × α)) (key : String) :
    (ofList entries).get? key = valueOf? key entries.reverse := by
  induction entries using List.reverseRecOn with
  | nil => rfl
  | append_singleton entries entry ih =>
    have hlast : ofList (entries ++ [entry]) = (ofList entries).insert entry.1 entry.2 :=
      List.foldl_append
    rw [hlast, get?_insert, ih, List.reverse_append, List.reverse_singleton,
      List.singleton_append, valueOf?]

theorem isSome_valueOf?_iff : (valueOf? key entries).isSome = true ↔ key ∈ entries.map Prod.fst := by
  induction entries with
  | nil => simp [valueOf?]
  | cons first rest ih =>
    rw [valueOf?, List.map_cons, List.mem_cons, ← ih]
    by_cases hfirst : first.1 = key
    · simp [hfirst]
    · simp [hfirst, Ne.symm hfirst]

/-- Among entries with different keys, each one is found. -/
theorem valueOf?_eq_some_iff (hnodup : (entries.map Prod.fst).Nodup) :
    valueOf? key entries = some value ↔ (key, value) ∈ entries := by
  induction entries with
  | nil => simp [valueOf?]
  | cons first rest ih =>
    obtain ⟨hnotMem, hrest⟩ := List.nodup_cons.mp hnodup
    rw [valueOf?, List.mem_cons]
    split_ifs with hfirst
    · have hbehind : (key, value) ∉ rest := fun hmem => hnotMem (by
        rw [hfirst]
        exact List.mem_map_of_mem hmem)
      rw [or_iff_left hbehind, ← hfirst, Option.some_inj]
      exact ⟨fun h => by rw [← h], fun h => (congrArg Prod.snd h).symm⟩
    · rw [ih hrest, or_iff_right fun h => hfirst (congrArg Prod.fst h).symm]

theorem nodup_keys (dict : Dict α) : (dict.entries.map Prod.fst).Nodup :=
  List.pairwise_map.mpr (dict.ascending.imp fun {first later} hlt (heq : first.1 = later.1) =>
    String.lt_irrefl _ (heq ▸ hlt))

/-- What is found under a key is an entry. -/
theorem get?_eq_some_iff : dict.get? key = some value ↔ (key, value) ∈ dict.toList :=
  valueOf?_eq_some_iff dict.nodup_keys

theorem mem_values_of_get? (h : dict.get? key = some value) : value ∈ dict.values :=
  List.mem_map_of_mem (get?_eq_some_iff.mp h)

theorem exists_get?_of_mem_values (h : value ∈ dict.values) : ∃ key, dict.get? key = some value := by
  obtain ⟨entry, hmem, rfl⟩ := List.mem_map.mp h
  exact ⟨entry.1, get?_eq_some_iff.mpr hmem⟩

theorem mem_values_of_mem_insert {value' : α} (h : value' ∈ (dict.insert key value).values) :
    value' = value ∨ value' ∈ dict.values := by
  obtain ⟨key', hget⟩ := exists_get?_of_mem_values h
  rw [get?_insert] at hget
  split_ifs at hget
  · exact .inl (Option.some.inj hget).symm
  · exact .inr (mem_values_of_get? hget)

/-- Entries with different keys may be taken in any order. -/
theorem ofList_of_perm (h : entries.Perm dict.toList) : ofList entries = dict := by
  have hnodup : (entries.reverse.map Prod.fst).Nodup :=
    ((entries.reverse_perm.trans h).map _).nodup_iff.mpr dict.nodup_keys
  refine ext_get? fun key => Option.ext fun value => ?_
  rw [get?_ofList, valueOf?_eq_some_iff hnodup, get?_eq_some_iff]
  exact (entries.reverse_perm.trans h).mem_iff

/-- Entries with different keys are the entries of their map, in another order. -/
theorem toList_ofList_perm (hnodup : (entries.map Prod.fst).Nodup) :
    (ofList entries).toList.Perm entries := by
  have hreverse : (entries.reverse.map Prod.fst).Nodup :=
    (entries.reverse_perm.map _).nodup_iff.mpr hnodup
  have hentries : (ofList entries).toList.Nodup :=
    List.Nodup.of_map Prod.fst (ofList entries).nodup_keys
  refine (List.perm_ext_iff_of_nodup hentries (List.Nodup.of_map Prod.fst hnodup)).mpr ?_
  rintro ⟨key, value⟩
  rw [← get?_eq_some_iff, get?_ofList, valueOf?_eq_some_iff hreverse, List.mem_reverse]

/-- A map is the map of its entries. -/
theorem ofList_toList (dict : Dict α) : ofList dict.toList = dict :=
  ofList_of_perm (List.Perm.refl _)

end NewsFeed.Dict
