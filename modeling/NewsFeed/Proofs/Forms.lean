/-
Values and the trees they are read from.

A written record has its fields in the order of declaration; a tree whose keys have been put in
ascending order has them in another.  A reader of records fills its slots in whatever order it meets
the fields (`Slots.after`), so it reads the same from both.  `Tree.Takes` says that a reader takes a
tree for a value in either order of the keys and in every setting; there is one lemma for each shape
of values.

* `Tree.record_of_perm` — the fields of a record may stand in any order;
* `Tree.tagged_of_perm` — the tag of a choice may stand anywhere among them;
* `Tree.takes_record`, `Tree.takes_tagged`, `Tree.takes_list`, `Tree.takes_dict` — what is taken for
  the parts is taken for the whole.
-/
import Mathlib.Data.List.Perm.Basic
import NewsFeed.Json.Tree
import NewsFeed.Proofs.Entries
import NewsFeed.Proofs.Stamps

namespace NewsFeed.Json

/-! ### Ascending keys -/

theorem normalizedItems_eq (items : List Json) : normalizedItems items = items.map normalized := by
  induction items with
  | nil => rw [normalizedItems, List.map_nil]
  | cons item rest ih => rw [normalizedItems, ih, List.map_cons]

theorem normalizedEntries_eq (entries : List (String × Json)) :
    normalizedEntries entries = entries.map (Prod.map id normalized) := by
  induction entries with
  | nil => rw [normalizedEntries, List.map_nil]
  | cons entry rest ih => rw [normalizedEntries, ih, List.map_cons, Prod.map, id]

theorem normalized_array (items : List Json) :
    (array items).normalized = .array (items.map normalized) := by
  rw [normalized, normalizedItems_eq]

/-- Entries with different keys keep their values. -/
theorem exists_normalized_object (entries : List (String × Json))
    (hnodup : (entries.map Prod.fst).Nodup) :
    ∃ entries', entries'.Perm (entries.map (Prod.map id normalized)) ∧
      (object entries).normalized = .object entries' := by
  refine ⟨_, Dict.toList_ofList_perm ?_, by rw [normalized, normalizedEntries_eq]⟩
  rw [List.map_map]
  exact hnodup

/-! ### Records -/

variable {α : Type}

namespace Fields

variable {m : Type → Type}

/-- The names of the fields. -/
def names : {τs : List Type} → Fields m τs → List String
  | _, .nil => []
  | _, .cons name _ _ rest => name :: rest.names

/-- The entries are the fields in the order of declaration, and `reads` relates each reader, what
stands under its name and its value. -/
def Written (reads : ∀ τ : Type, Tree τ → Json → τ → Prop) :
    {τs : List Type} → Fields Tree τs → List (String × Json) → Values τs → Prop
  | _, .nil, entries, _ => entries = []
  | _, .cons name read _ rest, entries, (value, values) =>
    ∃ json others, entries = (name, json) :: others ∧ reads _ read json value ∧
      rest.Written reads others values

theorem Written.map {reads reads' : ∀ τ : Type, Tree τ → Json → τ → Prop} {f : Json → Json}
    (h : ∀ τ read json value, reads τ read json value → reads' τ read (f json) value)
    {τs : List Type} {fields : Fields Tree τs} {entries : List (String × Json)}
    {values : Values τs} (hwritten : fields.Written reads entries values) :
    fields.Written reads' (entries.map (Prod.map id f)) values := by
  induction fields generalizing entries with
  | nil =>
    cases hwritten
    rfl
  | cons name read absent rest ih =>
    obtain ⟨value, values⟩ := values
    obtain ⟨json, others, rfl, hread, hrest⟩ := hwritten
    exact ⟨f json, _, rfl, h _ _ _ _ hread, ih hrest⟩

theorem Written.keys_eq {reads : ∀ τ : Type, Tree τ → Json → τ → Prop} {τs : List Type}
    {fields : Fields Tree τs} {entries : List (String × Json)} {values : Values τs}
    (hwritten : fields.Written reads entries values) : entries.map Prod.fst = fields.names := by
  induction fields generalizing entries with
  | nil =>
    cases hwritten
    rfl
  | cons name read absent rest ih =>
    obtain ⟨value, values⟩ := values
    obtain ⟨json, others, rfl, -, hrest⟩ := hwritten
    rw [List.map_cons, ih hrest, names]

/-- The slots once the fields in `seen` have been read. -/
def slotsAfter (seen : List String) : {τs : List Type} → Fields m τs → Values τs → Slots τs
  | _, .nil, _ => ()
  | _, .cons name _ _ rest, (value, values) =>
    (if name ∈ seen then some value else none, rest.slotsAfter seen values)

theorem slotsAfter_nil {τs : List Type} (fields : Fields m τs) (values : Values τs) :
    fields.slotsAfter [] values = Slots.blank τs := by
  induction fields with
  | nil => rfl
  | cons name read absent rest ih =>
    obtain ⟨value, values⟩ := values
    rw [slotsAfter, ih, if_neg List.not_mem_nil, Slots.blank]

theorem slotsAfter_cons_of_ne {τ : Type} {key name : String} {read : m τ} {absent : Option τ}
    {seen : List String} {τs : List Type} {rest : Fields m τs} {value : τ} {values : Values τs}
    (hne : key ≠ name) :
    (cons name read absent rest).slotsAfter (key :: seen) (value, values) =
      (if name ∈ seen then some value else none, rest.slotsAfter (key :: seen) values) := by
  have hmem : name ∈ key :: seen ↔ name ∈ seen := List.mem_cons.trans (or_iff_right hne.symm)
  rw [slotsAfter, if_congr hmem rfl rfl]

theorem slotsAfter_cons_of_notMem {key : String} {seen : List String} {τs : List Type}
    {fields : Fields m τs} (values : Values τs) (hkey : key ∉ fields.names) :
    fields.slotsAfter (key :: seen) values = fields.slotsAfter seen values := by
  induction fields with
  | nil => rfl
  | cons name read absent rest ih =>
    obtain ⟨value, values⟩ := values
    obtain ⟨hname, hrest⟩ := List.ne_and_not_mem_of_not_mem_cons hkey
    rw [slotsAfter_cons_of_ne hname, ih values hrest, slotsAfter]

/-- A record is complete once all its fields have been read. -/
theorem complete_slotsAfter {ε : Type} {missing : ℕ → String → ε} {seen : List String}
    {τs : List Type} {fields : Fields m τs} (values : Values τs) (place : ℕ)
    (hseen : ∀ name ∈ fields.names, name ∈ seen) :
    fields.complete missing place (fields.slotsAfter seen values) = .ok values := by
  induction fields generalizing place with
  | nil => rfl
  | cons name read absent rest ih =>
    obtain ⟨value, values⟩ := values
    have hname : name ∈ seen := hseen name List.mem_cons_self
    have hrest := ih values (place + 1) fun name hmem => hseen name (List.mem_cons_of_mem _ hmem)
    simp only [slotsAfter, if_pos hname, complete, Option.some_or, hrest]

end Fields

namespace Tree

theorem addField_cons_self {τ : Type} {setting : Setting} {name : String} {read : Tree τ}
    {absent : Option τ} {τs : List Type} {rest : Fields Tree τs} {others : Slots τs} {json : Json} :
    addField (.cons name read absent rest) setting (none, others) (name, json) =
      (read setting json).map fun value => (some value, others) := by
  simp only [addField, Fields.lookup]
  rfl

theorem addField_cons_of_ne {τ : Type} {setting : Setting} {name : String} {read : Tree τ}
    {absent here : Option τ} {τs : List Type} {rest : Fields Tree τs} {others : Slots τs}
    {entry : String × Json} (hne : entry.1 ≠ name) :
    addField (.cons name read absent rest) setting (here, others) entry =
      (addField rest setting others entry).map fun others => (here, others) := by
  simp only [addField, Fields.lookup, if_neg hne]
  cases rest.lookup entry.1 others with
  | unknown => rfl
  | repeated => rfl
  | fill read put =>
    show (read setting entry.2).map _ = ((read setting entry.2).map put).map _
    cases read setting entry.2 <;> rfl

/-- An entry fills the slot of its name and leaves the others alone. -/
theorem addField_slotsAfter {setting : Setting} {seen : List String} {τs : List Type}
    {fields : Fields Tree τs} {entries : List (String × Json)} {values : Values τs}
    (hwritten : fields.Written (fun _ read json value => read setting json = .ok value) entries
      values)
    (hnodup : fields.names.Nodup) {entry : String × Json} (hmem : entry ∈ entries)
    (hseen : entry.1 ∉ seen) :
    addField fields setting (fields.slotsAfter seen values) entry =
      .ok (fields.slotsAfter (entry.1 :: seen) values) := by
  induction fields generalizing entries with
  | nil =>
    cases hwritten
    cases hmem
  | cons name read absent rest ih =>
    obtain ⟨value, values⟩ := values
    obtain ⟨json, others, rfl, hread, hrest⟩ := hwritten
    obtain ⟨hname, hnodup⟩ := List.nodup_cons.mp hnodup
    rcases List.mem_cons.mp hmem with rfl | hmem
    · -- the entry is the one of this field, whose slot is still empty
      rw [Fields.slotsAfter, if_neg hseen, addField_cons_self, hread, Fields.slotsAfter,
        if_pos List.mem_cons_self, Fields.slotsAfter_cons_of_notMem values hname]
      rfl
    · -- the entry belongs to a later field, so this slot does not change
      have hkey : entry.1 ∈ rest.names := hrest.keys_eq ▸ List.mem_map_of_mem hmem
      have hne : entry.1 ≠ name := fun heq => hname (heq ▸ hkey)
      rw [Fields.slotsAfter, addField_cons_of_ne hne, ih hrest hnodup hmem,
        Fields.slotsAfter_cons_of_ne hne]
      rfl

theorem foldlM_addField {setting : Setting} {τs : List Type} {fields : Fields Tree τs}
    {entries : List (String × Json)} {values : Values τs}
    (hwritten : fields.Written (fun _ read json value => read setting json = .ok value) entries
      values)
    (hnodup : fields.names.Nodup) {others : List (String × Json)} (hothers : others ⊆ entries)
    (hkeys : (others.map Prod.fst).Nodup) (seen : List String)
    (hseen : ∀ entry ∈ others, entry.1 ∉ seen) :
    others.foldlM (addField fields setting) (fields.slotsAfter seen values) =
      .ok (fields.slotsAfter ((others.map Prod.fst).reverse ++ seen) values) := by
  induction others generalizing seen with
  | nil => rfl
  | cons entry rest ih =>
    obtain ⟨hentry, hrest⟩ := List.nodup_cons.mp hkeys
    rw [List.foldlM_cons, addField_slotsAfter hwritten hnodup (hothers List.mem_cons_self)
      (hseen entry List.mem_cons_self)]
    refine (ih (fun _ hmem => hothers (List.mem_cons_of_mem _ hmem)) hrest
      (entry.1 :: seen) ?_).trans ?_
    · -- no key comes twice, so the ones to come are not seen yet
      intro other hmem hother
      rcases List.mem_cons.mp hother with heq | hother
      · exact hentry (heq ▸ List.mem_map_of_mem hmem)
      · exact hseen other (List.mem_cons_of_mem _ hmem) hother
    · rw [List.map_cons, List.reverse_cons, List.append_assoc, List.singleton_append]

/-- The fields of a record may stand in any order. -/
theorem record_of_perm {setting : Setting} {τs : List Type} {title : String}
    {fields : Fields Tree τs} {build : Values τs → α} {entries others : List (String × Json)}
    {values : Values τs}
    (hwritten : fields.Written (fun _ read json value => read setting json = .ok value) entries
      values)
    (hnodup : fields.names.Nodup) (hperm : others.Perm entries) :
    record title fields build setting (.object others) = .ok (build values) := by
  have hkeys : (others.map Prod.fst).Perm fields.names := hwritten.keys_eq ▸ hperm.map _
  have hslots := foldlM_addField hwritten hnodup hperm.subset (hkeys.nodup_iff.mpr hnodup) []
    fun _ _ => List.not_mem_nil
  rw [Fields.slotsAfter_nil] at hslots
  -- every field was among the entries, whatever their order
  have hcomplete : fields.complete (fun _ name => .missingField name) 0
      (fields.slotsAfter ((others.map Prod.fst).reverse ++ []) values) =
        (.ok values : Except Fault (Values τs)) := by
    refine Fields.complete_slotsAfter values 0 fun name hmem => ?_
    rw [List.append_nil, List.mem_reverse]
    exact hkeys.mem_iff.mpr hmem
  rw [record, hslots]
  show (do return build (← fields.complete _ 0 _)) = _
  rw [hcomplete]
  rfl

/-! ### Choices by tag -/

theorem foldlM_addTagged {setting : Setting} {variants : List (String × α)}
    {entries : List (String × Json)} (htype : "type" ∉ entries.map Prod.fst) (tag : Option α)
    (before : List (String × Json)) :
    entries.foldlM (addTagged variants setting) (tag, before) = .ok (tag, before ++ entries) := by
  induction entries generalizing before with
  | nil =>
    rw [List.append_nil]
    rfl
  | cons entry rest ih =>
    obtain ⟨hentry, hrest⟩ := List.ne_and_not_mem_of_not_mem_cons htype
    rw [List.foldlM_cons, addTagged, if_neg hentry.symm]
    refine (ih hrest (before ++ [entry])).trans ?_
    rw [List.append_assoc, List.singleton_append]

/-- The tag of a choice may stand anywhere among the other entries. -/
theorem tagged_of_perm (setting : Setting) (name : String) {tag : String}
    {variants : List (String × Tree α)} {read : Tree α} {entries others : List (String × Json)}
    (hread : variants.lookup tag = some read) (htype : "type" ∉ entries.map Prod.fst)
    (hperm : others.Perm (("type", .string tag) :: entries)) :
    ∃ rest, rest.Perm entries ∧
      tagged name variants setting (.object others) = read .setAside (.object rest) := by
  obtain ⟨before, behind, rfl⟩ := List.append_of_mem (hperm.mem_iff.mpr List.mem_cons_self)
  have hrest : (before ++ behind).Perm entries :=
    (List.perm_middle.symm.trans hperm).cons_inv
  have hnotMem : "type" ∉ (before ++ behind).map Prod.fst := fun hmem =>
    htype ((hrest.map Prod.fst).mem_iff.mp hmem)
  rw [List.map_append, List.mem_append, not_or] at hnotMem
  refine ⟨before ++ behind, hrest, ?_⟩
  -- the entries before the tag are set aside, then the tag is read, then the others are set aside
  have hfold : (before ++ ("type", .string tag) :: behind).foldlM (addTagged variants setting)
      (none, []) = .ok (some read, before ++ behind) := by
    rw [List.foldlM_append, foldlM_addTagged hnotMem.1]
    have htag : addTagged variants setting (none, before) ("type", .string tag) =
        .ok (some read, before) := by
      simp [addTagged, ofTag, variant, hread]
      rfl
    show (do
      let seen ← addTagged variants setting (none, before) ("type", .string tag)
      behind.foldlM (addTagged variants setting) seen) = _
    rw [htag]
    exact foldlM_addTagged hnotMem.2 (some read) before
  rw [tagged, hfold]
  rfl

/-! ### Trees that are taken for values -/

/-- The reader takes the tree for the value in every setting, with its keys as they stand and in
ascending order. -/
def Takes (read : Tree α) (json : Json) (value : α) : Prop :=
  ∀ setting, read setting json = .ok value ∧ read setting json.normalized = .ok value

theorem takes_string {expected : Expected} {take : String → Except Fault α} {text : String}
    {value : α} (h : take text = .ok value) :
    Takes (Source.string expected take) (.string text) value :=
  fun _ => ⟨h, h⟩

theorem takes_text (text : String) : Takes Source.text (.string text) text :=
  takes_string rfl

theorem takes_bool (value : Bool) : Takes Source.bool (.bool value) value :=
  fun _ => ⟨rfl, rfl⟩

theorem takes_natural (kind : WholeKind) (n : UInt64) : Takes (Source.natural kind) (ofWord n) n :=
  fun _ => ⟨rfl, rfl⟩

theorem takes_integer (n : Int64) : Takes Source.integer (ofInt64 n) n := by
  rw [ofInt64]
  split
  case isTrue => exact fun _ => ⟨rfl, rfl⟩
  case isFalse hnonneg =>
    have hsmall : n.toUInt64 < 0x8000000000000000 := by
      have hle : 0 ≤ n := Int64.not_lt.mp hnonneg
      rw [UInt64.lt_iff_toNat_lt, Int64.toNat_toUInt64_of_le hle]
      have hbound := n.toInt_lt
      show n.toInt.toNat < 9223372036854775808
      omega
    have htake : (if n.toUInt64 < 0x8000000000000000 then .ok n.toUInt64.toInt64
        else .error (.wrongValue (.number (.natural n.toUInt64)) (.whole .integer))) =
        (.ok n : Except Fault Int64) := by
      rw [if_pos hsmall, Int64.toInt64_toUInt64]
    exact fun _ => ⟨htake, htake⟩

theorem takes_float {x : Float} (hx : x.isFinite = true) : Takes Source.float (ofFloat x) x := by
  rw [ofFloat, if_pos hx]
  exact fun _ => ⟨rfl, rfl⟩

theorem takes_stamp (t : Time.Instant) :
    Takes Source.stamp (.string (Time.Instant.write t)) t :=
  takes_string (by rw [Time.Instant.read_write])

theorem takes_choice {variants : List (String × α)} {name : String} {value : α}
    (h : variants.lookup name = some value) :
    Takes (Source.choice variants) (.string name) value := by
  have hread : variant variants name = .ok value := by rw [variant, h]
  exact fun _ => ⟨hread, hread⟩

/-- A value that may be missing, whose reader does not take `null` for any other. -/
theorem takes_option {read : Tree α} {write : α → Json} {value : Option α}
    (hnull : ∀ setting value, read setting .null ≠ .ok value)
    (h : ∀ present ∈ value, Takes read (write present) present) :
    Takes (Source.option read) (ofOption write value) value := by
  cases value with
  | none => exact fun _ => ⟨rfl, rfl⟩
  | some present =>
    have hpresent : ∀ setting json, read setting json = .ok present →
        Tree.option read setting json = .ok (some present) := by
      intro setting json hread
      cases json
      case null => exact absurd hread (hnull setting present)
      all_goals exact congrArg (Except.map some) hread
    exact fun setting => (h present rfl setting).imp (hpresent setting _) (hpresent setting _)

theorem mapM_map_eq_ok {ε β : Type} {read : β → Except ε α} {write : α → β} {items : List α}
    (h : ∀ item ∈ items, read (write item) = .ok item) :
    (items.map write).mapM read = .ok items := by
  induction items with
  | nil => rfl
  | cons item rest ih =>
    rw [List.map_cons, List.mapM_cons, h item List.mem_cons_self,
      ih fun other hmem => h other (List.mem_cons_of_mem _ hmem)]
    rfl

theorem takes_list {read : Tree α} {write : α → Json} {items : List α}
    (h : ∀ item ∈ items, Takes read (write item) item) :
    Takes (Source.list read) (ofList write items) items := by
  refine fun setting => ⟨mapM_map_eq_ok fun item hmem => (h item hmem setting).1, ?_⟩
  rw [ofList, normalized_array, List.map_map]
  exact mapM_map_eq_ok fun item hmem => (h item hmem setting).2

theorem dict_of_forall {setting : Setting} {read : Tree α} (write : α → Json) {dict : Dict α}
    (h : ∀ entry ∈ dict.toList, read setting (write entry.2) = .ok entry.2) :
    Tree.dict read setting (.object (dict.toList.map (Prod.map id write))) = .ok dict := by
  have hfold : ∀ (entries : List (String × α)) (before : Dict α),
      (∀ entry ∈ entries, read setting (write entry.2) = .ok entry.2) →
      (entries.map (Prod.map id write)).foldlM (addEntry read setting) before =
        .ok (entries.foldl (fun dict entry => dict.insert entry.1 entry.2) before) := by
    -- generalised over the entries read before, which the fold carries along
    intro entries
    induction entries with
    | nil => exact fun _ _ => rfl
    | cons entry rest ih =>
      intro before hentries
      have hentry : addEntry read setting before (Prod.map id write entry) =
          .ok (before.insert entry.1 entry.2) := by
        rw [addEntry, Prod.map_snd, hentries entry List.mem_cons_self]
        rfl
      rw [List.map_cons, List.foldlM_cons, hentry]
      exact ih _ fun other hmem => hentries other (List.mem_cons_of_mem _ hmem)
  exact (hfold dict.toList ∅ h).trans (congrArg Except.ok dict.ofList_toList)

/-- A map has ascending keys as it stands. -/
theorem normalized_ofDict (write : α → Json) (dict : Dict α) :
    (ofDict write dict).normalized = ofDict (fun value => (write value).normalized) dict := by
  have hascending : (dict.toList.map fun entry => (entry.1, (write entry.2).normalized)).Pairwise
      fun entry other => entry.1 < other.1 :=
    List.pairwise_map.mpr dict.ascending
  have hmap := Dict.ofList_toList ⟨_, hascending⟩
  rw [ofDict, normalized, normalizedEntries_eq, List.map_map]
  exact congrArg (fun dict => Json.object dict.toList) hmap

theorem takes_dict {read : Tree α} {write : α → Json} {dict : Dict α}
    (h : ∀ entry ∈ dict.toList, Takes read (write entry.2) entry.2) :
    Takes (Source.dict read) (ofDict write dict) dict := by
  refine fun setting => ⟨dict_of_forall write fun entry hmem => (h entry hmem setting).1, ?_⟩
  rw [normalized_ofDict]
  exact dict_of_forall (fun value => (write value).normalized) fun entry hmem =>
    (h entry hmem setting).2

/-- What the fields of a written record are read as, in either order of the keys. -/
theorem written_forms {τs : List Type} {fields : Fields Tree τs} {entries : List (String × Json)}
    {values : Values τs} (hwritten : fields.Written (fun _ => Takes) entries values)
    (setting : Setting) :
    fields.Written (fun _ read json value => read setting json = .ok value) entries values ∧
      fields.Written (fun _ read json value => read setting json = .ok value)
        (entries.map (Prod.map id normalized)) values := by
  refine ⟨?_, hwritten.map fun _ _ _ _ h => (h setting).2⟩
  have hsame : fields.Written (fun _ read json value => read setting json = .ok value)
      (entries.map (Prod.map id id)) values :=
    hwritten.map fun _ _ _ _ h => (h setting).1
  rwa [Prod.map_id, List.map_id] at hsame

theorem takes_record {τs : List Type} {title : String} {fields : Fields Tree τs}
    {build : Values τs → α} {entries : List (String × Json)} {value : α} (values : Values τs)
    (hnodup : fields.names.Nodup) (hwritten : fields.Written (fun _ => Takes) entries values)
    (hbuild : build values = value) :
    Takes (Source.record title fields build) (.object entries) value := by
  subst hbuild
  intro setting
  obtain ⟨hplain, hnormalized⟩ := written_forms hwritten setting
  refine ⟨record_of_perm hplain hnodup (.refl _), ?_⟩
  obtain ⟨others, hperm, heq⟩ := exists_normalized_object entries (hwritten.keys_eq ▸ hnodup)
  rw [heq]
  exact record_of_perm hnormalized hnodup hperm

/-- A choice by tag, whose variant is read from the other entries in any order. -/
theorem takes_tagged_of {name tag : String} {variants : List (String × Tree α)} {read : Tree α}
    {entries : List (String × Json)} {value : α} (hread : variants.lookup tag = some read)
    (hnodup : ("type" :: entries.map Prod.fst).Nodup)
    (h : ∀ rest, rest.Perm entries ∨ rest.Perm (entries.map (Prod.map id normalized)) →
      read .setAside (.object rest) = .ok value) :
    Takes (Source.tagged name variants) (.object (("type", .string tag) :: entries)) value := by
  obtain ⟨htype, hentries⟩ := List.nodup_cons.mp hnodup
  intro setting
  constructor
  · obtain ⟨rest, hperm, heq⟩ := tagged_of_perm setting name hread htype (.refl _)
    exact heq.trans (h rest (.inl hperm))
  · -- normalizing sorts the entries, and so moves the tag
    obtain ⟨others, hothers, heq⟩ := exists_normalized_object (("type", .string tag) :: entries)
      hnodup
    have hkeys : (entries.map (Prod.map id normalized)).map Prod.fst = entries.map Prod.fst := by
      rw [List.map_map]
      rfl
    rw [heq]
    obtain ⟨rest, hperm, heq⟩ := tagged_of_perm setting name hread (hkeys ▸ htype) hothers
    exact heq.trans (h rest (.inr hperm))

theorem takes_tagged {name tag title : String} {variants : List (String × Tree α)}
    {τs : List Type} {fields : Fields Tree τs} {build : Values τs → α}
    {entries : List (String × Json)} {value : α}
    (hread : variants.lookup tag = some (Source.record title fields build)) (values : Values τs)
    (hnodup : ("type" :: fields.names).Nodup)
    (hwritten : fields.Written (fun _ => Takes) entries values) (hbuild : build values = value) :
    Takes (Source.tagged name variants) (.object (("type", .string tag) :: entries)) value := by
  subst hbuild
  obtain ⟨hplain, hnormalized⟩ := written_forms hwritten .setAside
  refine takes_tagged_of hread (hwritten.keys_eq ▸ hnodup) fun rest hrest => ?_
  rcases hrest with hperm | hperm
  · exact record_of_perm hplain hnodup.of_cons hperm
  · exact record_of_perm hnormalized hnodup.of_cons hperm

/-- A choice by tag that has nothing else. -/
theorem takes_tagged_empty {name tag : String} {variants : List (String × Tree α)} {value : α}
    (hread : variants.lookup tag = some (emptyRecord value)) :
    Takes (Source.tagged name variants) (.object [("type", .string tag)]) value := by
  refine takes_tagged_of hread (List.nodup_singleton _) fun rest hrest => ?_
  rfl

/-- A choice by tag and content, of which the content comes first in ascending order. -/
theorem takes_labelled {name tag : String} {variants : List (String × (String → α))}
    {build : String → α} (hread : variants.lookup tag = some build) (content : String) :
    Takes (Source.labelled name variants)
      (.object [("type", .string tag), ("id", .string content)]) (build content) := by
  have hchoice := takes_choice hread
  -- normalizing puts the content before the tag, and then it must be kept until the tag is read
  have hascending : (Dict.ofList [("type", Json.string tag), ("id", .string content)]).toList =
      [("id", .string content), ("type", .string tag)] := by
    have hlt : "id" < "type" := by decide
    show Dict.insertEntry "id" _ [("type", _)] = _
    rw [Dict.insertEntry, if_pos hlt]
  have hnormalized : (object [("type", .string tag), ("id", .string content)]).normalized =
      .object [("id", .string content), ("type", .string tag)] := by
    rw [normalized, normalizedEntries_eq]
    exact congrArg object hascending
  intro setting
  have hvariant : choice variants setting (.string tag) = .ok build := (hchoice setting).1
  rw [hnormalized]
  constructor
  · -- as written: the tag first
    have htag : addLabelled variants setting .nothing ("type", .string tag) =
        .ok (.variant build) := by
      rw [addLabelled, if_pos rfl, hvariant]
      rfl
    show labelled name variants setting _ = _
    rw [labelled, List.foldlM_cons, htag]
    rfl
  · -- normalized: the content first
    have htag : addLabelled variants setting (.content (.string content)) ("type", .string tag) =
        .ok (.whole (build content)) := by
      rw [addLabelled, if_pos rfl, hvariant]
      rfl
    have hcontent : addLabelled variants setting .nothing ("id", .string content) =
        .ok (.content (.string content)) := rfl
    show labelled name variants setting _ = _
    rw [labelled, List.foldlM_cons, hcontent]
    show ([("type", Json.string tag)].foldlM (addLabelled variants setting)
      (.content (.string content)) >>= Labelled.complete) = _
    rw [List.foldlM_cons, htag]
    rfl

end Tree

end NewsFeed.Json
