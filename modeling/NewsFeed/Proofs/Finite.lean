/-
Finite numbers only.

Texts cannot name an infinite number, and a number that is too large for a float stops the reader;
so whatever is read from JSON has finite floats.  A source is `Careful` if that holds for each of its
shapes: what the readers of the parts guarantee of their values is guaranteed of the whole.  For a
record the guarantees of its fields form a `Promise`, which the slots keep while they are filled in
any order.

* `Number.isFinite_toFloat` — numbers that are finite are so as floats;
* `Fields.Give.of_lookup`, `Fields.Give.of_complete` — the slots keep a promise while they are
  filled, and so do the values at the end;
* `Tree.instCareful` — trees of finite numbers are careful.
-/
import NewsFeed.Json.Text
import NewsFeed.Proofs.Entries
import NewsFeed.Proofs.Wholes

namespace NewsFeed

namespace Json

/-! ### Finite values -/

/-- The number is not infinite and not NaN, which only a float can be. -/
def Number.IsFinite : Number → Prop
  | .real value => value.isFinite = true
  | _ => True

theorem Number.isFinite_toFloat {n : Number} (h : n.IsFinite) : n.toFloat.isFinite = true := by
  cases n with
  | natural value => exact (Binary64.toFloat_spec value).1
  | negative value => exact Binary64.isFinite_ofInt value
  | real value => exact h

mutual

/-- All numbers of the value are finite. -/
def IsFinite : Json → Prop
  | .number n => n.IsFinite
  | .array items => ItemsFinite items
  | .object entries => EntriesFinite entries
  | _ => True

/-- `IsFinite` for the items of an array. -/
def ItemsFinite : List Json → Prop
  | [] => True
  | item :: rest => item.IsFinite ∧ ItemsFinite rest

/-- `IsFinite` for the values of an object. -/
def EntriesFinite : List (String × Json) → Prop
  | [] => True
  | (_, value) :: rest => value.IsFinite ∧ EntriesFinite rest

end

theorem isFinite_array_iff {items : List Json} :
    (array items).IsFinite ↔ ∀ item ∈ items, item.IsFinite := by
  rw [IsFinite]
  induction items with
  | nil => simp [ItemsFinite]
  | cons item rest ih => rw [ItemsFinite, ih, List.forall_mem_cons]

theorem isFinite_object_iff {entries : List (String × Json)} :
    (object entries).IsFinite ↔ ∀ entry ∈ entries, entry.2.IsFinite := by
  rw [IsFinite]
  induction entries with
  | nil => simp [EntriesFinite]
  | cons entry rest ih => rw [EntriesFinite, ih, List.forall_mem_cons]

/-! ### Promises -/

/-- What is guaranteed of each value of a record. -/
def Promise : List Type → Type
  | [] => Unit
  | τ :: τs => (τ → Prop) × Promise τs

namespace Promise

/-- The values are as promised. -/
def Holds : {τs : List Type} → Promise τs → Values τs → Prop
  | [], _, _ => True
  | _ :: _, (P, promise), (value, values) => P value ∧ promise.Holds values

/-- The values seen so far are as promised. -/
def HoldsSoFar : {τs : List Type} → Promise τs → Slots τs → Prop
  | [], _, _ => True
  | _ :: _, (P, promise), (here, others) => (∀ value ∈ here, P value) ∧ promise.HoldsSoFar others

theorem holdsSoFar_blank {τs : List Type} (promise : Promise τs) :
    promise.HoldsSoFar (Slots.blank τs) := by
  induction τs with
  | nil => trivial
  | cons τ τs ih => exact ⟨fun _ hnone => (nomatch hnone), ih promise.2⟩

end Promise

section

variable {m : Type → Type} (gives : ∀ {α : Type}, m α → (α → Prop) → Prop)

/-- The readers of the fields and what stands for missing ones keep the promise. -/
def Fields.Give : {τs : List Type} → Fields m τs → Promise τs → Prop
  | _, .nil, _ => True
  | _, .cons _ read absent rest, (P, promise) =>
    gives read P ∧ (∀ value ∈ absent, P value) ∧ rest.Give promise

variable {gives}

/-- What is put into a slot keeps the promise. -/
theorem Fields.Give.of_lookup {τs : List Type} {fields : Fields m τs} {promise : Promise τs}
    (hgive : fields.Give gives promise) {key : String} {slots : Slots τs}
    (hslots : promise.HoldsSoFar slots) {τ : Type} {read : m τ} {put : τ → Slots τs}
    (hlookup : fields.lookup key slots = .fill read put) :
    ∃ P, gives read P ∧ ∀ value, P value → promise.HoldsSoFar (put value) := by
  induction fields generalizing τ with
  | nil => cases hlookup
  | cons name readHere absent rest ih =>
    obtain ⟨P, promise⟩ := promise
    obtain ⟨here, others⟩ := slots
    obtain ⟨hread, -, hrest⟩ := hgive
    obtain ⟨hhere, hothers⟩ := hslots
    rw [lookup] at hlookup
    split_ifs at hlookup with hname hsome
    · cases hlookup
      exact ⟨P, hread, fun value hvalue => ⟨fun _ heq => Option.some.inj heq ▸ hvalue, hothers⟩⟩
    · -- the key names a later field, and what fills that one leaves this one alone
      cases hfound : rest.lookup key others with
      | unknown => rw [hfound] at hlookup; cases hlookup
      | repeated => rw [hfound] at hlookup; cases hlookup
      | fill readOther putOther =>
        rw [hfound] at hlookup
        cases hlookup
        obtain ⟨Q, hother, hput⟩ := ih hrest hothers hfound
        exact ⟨Q, hother, fun value hvalue => ⟨hhere, hput value hvalue⟩⟩

theorem Fields.Give.of_complete {ε : Type} {missing : ℕ → String → ε} {τs : List Type}
    {fields : Fields m τs} {promise : Promise τs} (hgive : fields.Give gives promise)
    {slots : Slots τs} (hslots : promise.HoldsSoFar slots) {place : ℕ} {values : Values τs}
    (hcomplete : fields.complete missing place slots = .ok values) : promise.Holds values := by
  induction fields generalizing place with
  | nil => trivial
  | cons name read absent rest ih =>
    obtain ⟨P, promise⟩ := promise
    obtain ⟨here, others⟩ := slots
    obtain ⟨-, habsent, hrest⟩ := hgive
    obtain ⟨hhere, hothers⟩ := hslots
    rw [complete] at hcomplete
    cases hvalue : here.or absent with
    | none => rw [hvalue] at hcomplete; cases hcomplete
    | some value =>
      rw [hvalue] at hcomplete
      -- the value was either read or stands for a missing one
      have hP : P value := by
        rcases Option.or_eq_some_iff.mp hvalue with hsome | ⟨-, hsome⟩
        · exact hhere value hsome
        · exact habsent value hsome
      cases hcompleted : rest.complete missing (place + 1) others with
      | error fault => simp only [hcompleted] at hcomplete; cases hcomplete
      | ok others' =>
        simp only [hcompleted] at hcomplete
        cases hcomplete
        exact ⟨hP, ih hrest hothers hcompleted⟩

end

/-- What a reader of trees guarantees of the values it reads from finite trees. -/
def Tree.Gives {α : Type} (read : Tree α) (P : α → Prop) : Prop :=
  ∀ setting json value, json.IsFinite → read setting json = .ok value → P value

/-- A source of finite numbers only: `Gives` says what a reader guarantees of its values, and what is
guaranteed of the parts is guaranteed of the whole. -/
class Careful (m : Type → Type) [Source m] where
  Gives : ∀ {α : Type}, m α → (α → Prop) → Prop
  of_forall : ∀ {α : Type} {read : m α} {P : α → Prop}, (∀ value, P value) → Gives read P
  float : Gives (Source.float : m Float) fun x => x.isFinite = true
  list : ∀ {α : Type} {read : m α} {P : α → Prop}, Gives read P →
    Gives (Source.list read) fun items => ∀ item ∈ items, P item
  dict : ∀ {α : Type} {read : m α} {P : α → Prop}, Gives read P →
    Gives (Source.dict read) fun dict => ∀ value ∈ dict.values, P value
  record : ∀ {α : Type} {τs : List Type} {title : String} {fields : Fields m τs}
    {build : Values τs → α} {promise : Promise τs} {P : α → Prop}, fields.Give Gives promise →
    (∀ values, promise.Holds values → P (build values)) → Gives (Source.record title fields build) P
  tagged : ∀ {α : Type} {name : String} {variants : List (String × Tree α)} {P : α → Prop},
    (∀ variant ∈ variants, variant.2.Gives P) → Gives (Source.tagged name variants) P

namespace Careful

variable {m : Type → Type} [Source m] [Careful m] {τs : List Type} {rest : Fields m τs}
  {promise : Promise τs} {name : String}

theorem give_nil : (Fields.nil : Fields m []).Give Gives (() : Promise []) :=
  trivial

theorem give_cons {τ : Type} {read : m τ} {absent : Option τ} {P : τ → Prop} (hread : Gives read P)
    (habsent : ∀ value ∈ absent, P value) (hrest : rest.Give Gives promise) :
    (Fields.cons name read absent rest).Give Gives (P, promise) :=
  ⟨hread, habsent, hrest⟩

/-- A field that must not be missing. -/
theorem give_needed {τ : Type} {read : m τ} {P : τ → Prop} (hread : Gives read P)
    (hrest : rest.Give Gives promise) :
    (Fields.cons name read none rest).Give Gives (P, promise) :=
  give_cons hread (fun _ hnone => (nomatch hnone)) hrest

/-- A field of which nothing is promised. -/
theorem give_any {τ : Type} {read : m τ} {absent : Option τ} (hrest : rest.Give Gives promise) :
    (Fields.cons name read absent rest).Give Gives (fun _ => True, promise) :=
  give_cons (of_forall fun _ => trivial) (fun _ _ => trivial) hrest

theorem give_float {absent : Float} (habsent : absent.isFinite = true)
    (hrest : rest.Give Gives promise) :
    (Fields.cons name Source.float (some absent) rest).Give Gives
      (fun x => x.isFinite = true, promise) :=
  give_cons float (fun _ hsome => Option.some.inj hsome ▸ habsent) hrest

end Careful

namespace Tree

variable {α : Type} {P : α → Prop} {read : Tree α}

theorem gives_number {expected : Expected} {take : Number → Except Fault α}
    (h : ∀ n value, n.IsFinite → take n = .ok value → P value) :
    Gives (number expected take) P := by
  intro setting json value hfinite hread
  cases json
  case number n => exact h n value hfinite hread
  all_goals cases hread

theorem exists_of_bind {β ε : Type} {x : Except ε α} {f : α → Except ε β} {result : β}
    (h : x >>= f = .ok result) : ∃ value, x = .ok value ∧ f value = .ok result := by
  cases x with
  | error fault => cases h
  | ok value => exact ⟨value, rfl, h⟩

theorem exists_of_map {β ε : Type} {x : Except ε α} {f : α → β} {result : β}
    (h : x.map f = .ok result) : ∃ value, x = .ok value ∧ f value = result := by
  cases x with
  | error fault => cases h
  | ok value => exact ⟨value, rfl, Except.ok.inj h⟩

theorem exists_of_mapM {β ε : Type} {f : β → Except ε α} {items : List β} {values : List α}
    (h : items.mapM f = .ok values) : ∀ value ∈ values, ∃ item ∈ items, f item = .ok value := by
  induction items generalizing values with
  | nil =>
    cases h
    simp
  | cons item rest ih =>
    rw [List.mapM_cons] at h
    obtain ⟨first, hitem, h⟩ := exists_of_bind h
    obtain ⟨others, hrest, h⟩ := exists_of_bind h
    cases h
    intro value hmem
    rcases List.mem_cons.mp hmem with rfl | hmem
    · exact ⟨item, List.mem_cons_self, hitem⟩
    · obtain ⟨other, hother, hvalue⟩ := ih hrest value hmem
      exact ⟨other, List.mem_cons_of_mem _ hother, hvalue⟩

theorem gives_list (h : read.Gives P) : (list read).Gives fun items => ∀ item ∈ items, P item := by
  intro setting json values hfinite hread
  cases json
  case array items =>
    intro value hmem
    obtain ⟨item, hitem, hvalue⟩ := exists_of_mapM hread value hmem
    exact h setting item value (isFinite_array_iff.mp hfinite item hitem) hvalue
  all_goals cases hread

/-- What a step keeps is kept by going through all entries. -/
theorem foldlM_keeps {σ β ε : Type} {step : σ → β → Except ε σ} (Keep : σ → Prop)
    {entries : List β}
    (hstep : ∀ state entry next, entry ∈ entries → Keep state → step state entry = .ok next →
      Keep next) {state last : σ} (hstate : Keep state)
    (h : entries.foldlM step state = .ok last) : Keep last := by
  induction entries generalizing state with
  | nil =>
    cases h
    exact hstate
  | cons entry rest ih =>
    rw [List.foldlM_cons] at h
    obtain ⟨next, hentry, h⟩ := exists_of_bind h
    exact ih (fun state other next hmem => hstep state other next (List.mem_cons_of_mem _ hmem))
      (hstep state entry next List.mem_cons_self hstate hentry) h

theorem gives_dict (h : read.Gives P) : (dict read).Gives fun dict => ∀ value ∈ dict.values, P value := by
  intro setting json values hfinite hread
  cases json
  case object entries =>
    refine foldlM_keeps (fun dict : Dict α => ∀ value ∈ dict.values, P value) ?_ ?_ hread
    · intro before entry next hmem hbefore hnext
      obtain ⟨value, hvalue, rfl⟩ := exists_of_map hnext
      intro other hother
      rcases Dict.mem_values_of_mem_insert hother with rfl | hother
      · exact h setting entry.2 other (isFinite_object_iff.mp hfinite entry hmem) hvalue
      · exact hbefore other hother
    · exact fun _ hnone => (nomatch hnone)
  all_goals cases hread

theorem holdsSoFar_addField {setting : Setting} {τs : List Type} {fields : Fields Tree τs}
    {promise : Promise τs} (hgive : fields.Give Tree.Gives promise) {slots next : Slots τs}
    {entry : String × Json} (hentry : entry.2.IsFinite) (hslots : promise.HoldsSoFar slots)
    (hnext : addField fields setting slots entry = .ok next) : promise.HoldsSoFar next := by
  rw [addField] at hnext
  cases hlookup : fields.lookup entry.1 slots with
  | unknown =>
    rw [hlookup] at hnext
    cases hnext
    exact hslots
  | repeated => rw [hlookup] at hnext; cases hnext
  | fill read put =>
    obtain ⟨Q, hread, hput⟩ := hgive.of_lookup hslots hlookup
    simp only [hlookup] at hnext
    obtain ⟨value, hvalue, rfl⟩ := exists_of_map hnext
    exact hput value (hread setting entry.2 value hentry hvalue)

theorem holdsSoFar_fillRow {setting : Setting} {τs : List Type} {fields : Fields Tree τs}
    {promise : Promise τs} (hgive : fields.Give Tree.Gives promise) {items : List Json}
    (hitems : ∀ item ∈ items, item.IsFinite) {slots : Slots τs}
    (hrow : fillRow setting fields items = .ok slots) : promise.HoldsSoFar slots := by
  induction fields generalizing items with
  | nil => trivial
  | cons name read absent rest ih =>
    obtain ⟨Q, promise⟩ := promise
    obtain ⟨hread, -, hrest⟩ := hgive
    cases items with
    | nil =>
      cases hrow
      -- the row ends early, and the other slots stay empty
      exact ⟨fun _ hnone => (nomatch hnone), promise.holdsSoFar_blank⟩
    | cons item items =>
      obtain ⟨hitem, hitems⟩ := List.forall_mem_cons.mp hitems
      rw [fillRow] at hrow
      cases hvalue : read setting item with
      | error fault => simp only [hvalue] at hrow; cases hrow
      | ok value =>
        simp only [hvalue] at hrow
        obtain ⟨others, hothers, rfl⟩ := exists_of_map hrow
        refine ⟨fun _ hsome => ?_, ih hrest hitems hothers⟩
        exact Option.some.inj hsome ▸ hread setting item value hitem hvalue

theorem gives_record {τs : List Type} {title : String} {fields : Fields Tree τs}
    {build : Values τs → α} {promise : Promise τs} (hgive : fields.Give Tree.Gives promise)
    (hbuild : ∀ values, promise.Holds values → P (build values)) :
    (record title fields build).Gives P := by
  intro setting json value hfinite hread
  cases json
  case object entries =>
    rw [record] at hread
    obtain ⟨slots, hslots, hread⟩ := exists_of_bind hread
    obtain ⟨values, hvalues, hread⟩ := exists_of_bind hread
    cases hread
    -- entry by entry, each slot holds nothing or what its field promises
    have hsoFar : promise.HoldsSoFar slots :=
      foldlM_keeps promise.HoldsSoFar (fun _ entry _ hmem hslots hnext =>
        holdsSoFar_addField hgive (isFinite_object_iff.mp hfinite entry hmem) hslots hnext)
        promise.holdsSoFar_blank hslots
    exact hbuild values (hgive.of_complete hsoFar hvalues)
  case array items =>
    rw [record] at hread
    obtain ⟨slots, hslots, hread⟩ := exists_of_bind hread
    obtain ⟨values, hvalues, hread⟩ := exists_of_bind hread
    -- a row of values in the order of the fields
    have hsoFar := holdsSoFar_fillRow hgive (isFinite_array_iff.mp hfinite) hslots
    split at hread
    · cases hread
    · cases hread
      exact hbuild values (hgive.of_complete hsoFar hvalues)
  all_goals cases hread

theorem gives_emptyRecord {value : α} (h : P value) : (emptyRecord value).Gives P := by
  intro setting json result hfinite hread
  rw [emptyRecord.eq_def] at hread
  split at hread
  · cases hread
  · cases hread
    exact h

theorem mem_of_variant {β : Type} {variants : List (String × β)} {name : String} {value : β}
    (h : variant variants name = .ok value) : ∃ entry ∈ variants, entry.2 = value := by
  rw [variant] at h
  cases hlookup : variants.lookup name with
  | none => rw [hlookup] at h; cases h
  | some found =>
    rw [hlookup] at h
    cases h
    obtain ⟨before, behind, rfl, -⟩ := List.lookup_eq_some_iff.mp hlookup
    exact ⟨_, List.mem_append_right _ List.mem_cons_self, rfl⟩

theorem mem_of_ofTag {β : Type} {variants : List (String × β)} {setting : Setting} {json : Json}
    {value : β} (h : ofTag variants setting json = .ok value) :
    ∃ entry ∈ variants, entry.2 = value := by
  rw [ofTag.eq_def] at h
  split at h
  · exact mem_of_variant h
  · rename_i place
    cases hplace : variants[place.toNat]? with
    | none => simp only [hplace] at h; cases h
    | some entry =>
      simp only [hplace] at h
      exact ⟨entry, List.mem_of_getElem? hplace, Except.ok.inj h⟩
  · cases h

/-- The tag, if it has been seen, is that of one of the variants, and the other entries are finite. -/
def TagSeen {β : Type} (variants : List (String × β)) (seen : Option β × List (String × Json)) :
    Prop :=
  (∀ value ∈ seen.1, ∃ variant ∈ variants, variant.2 = value) ∧
    ∀ entry ∈ seen.2, entry.2.IsFinite

theorem tagSeen_nothing {β : Type} (variants : List (String × β)) : TagSeen variants (none, []) :=
  ⟨by rintro _ ⟨⟩, by rintro _ ⟨⟩⟩

theorem tagSeen_addTagged {β : Type} {variants : List (String × β)} {setting : Setting}
    {seen next : Option β × List (String × Json)} {entry : String × Json}
    (hentry : entry.2.IsFinite) (hseen : TagSeen variants seen)
    (hnext : addTagged variants setting seen entry = .ok next) : TagSeen variants next := by
  rw [addTagged] at hnext
  split_ifs at hnext
  · obtain ⟨value, hvalue, rfl⟩ := exists_of_map hnext
    exact ⟨fun _ hsome => Option.some.inj hsome ▸ mem_of_ofTag hvalue, hseen.2⟩
  · cases hnext
    exact ⟨hseen.1, List.forall_mem_append.mpr ⟨hseen.2, List.forall_mem_singleton.mpr hentry⟩⟩

theorem gives_tagged {name : String} {variants : List (String × Tree α)}
    (h : ∀ variant ∈ variants, variant.2.Gives P) : (tagged name variants).Gives P := by
  intro setting json value hfinite hread
  cases json
  case object entries =>
    rw [tagged] at hread
    -- the entries before and after the tag are set aside, and they are read once the tag is known
    obtain ⟨⟨tag, others⟩, hseen, hread⟩ := exists_of_bind hread
    obtain ⟨htag, hothers⟩ : TagSeen variants (tag, others) :=
      foldlM_keeps (TagSeen variants) (fun _ entry _ hmem hseen hnext =>
        tagSeen_addTagged (isFinite_object_iff.mp hfinite entry hmem) hseen hnext)
        (tagSeen_nothing variants) hseen
    cases tag with
    | none => cases hread
    | some read =>
      obtain ⟨variant, hmem, rfl⟩ := htag read rfl
      exact h variant hmem .setAside _ value (isFinite_object_iff.mpr hothers) hread
  case array items =>
    have hitems := isFinite_array_iff.mp hfinite
    cases items with
    | nil => cases hread
    -- in an array the tag comes first
    | cons tag items =>
      rw [tagged] at hread
      obtain ⟨read, htag, hread⟩ := exists_of_bind hread
      obtain ⟨variant, hmem, rfl⟩ := mem_of_ofTag htag
      exact h variant hmem .setAside _ value
        (isFinite_array_iff.mpr fun item hitem => hitems item (List.mem_cons_of_mem _ hitem)) hread
  all_goals cases hread

instance instCareful : Careful Tree where
  Gives := Gives
  of_forall h := fun _ _ value _ _ => h value
  float := gives_number fun _ _ hn htake => Except.ok.inj htake ▸ Number.isFinite_toFloat hn
  list := gives_list
  dict := gives_dict
  record := gives_record
  tagged := gives_tagged

end Tree

end Json

end NewsFeed
