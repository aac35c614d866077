/-
Finite numbers from texts.

A reader of text moves a cursor, and what it guarantees of its values does not depend on where it
stands.  The guarantee goes through sequences of readers, and through the loops over the elements of
a list and the entries of an object as an invariant of what has been read so far.  Numbers are the
one place where it starts: `Reading.number` stops at a numeral that has no finite value.

* `Reading.gives_number` — no infinite number is read;
* `Reading.gives_tree` — nor a value that has one inside;
* `Reading.instCareful` — texts are careful.
-/
import NewsFeed.Proofs.Numerals

namespace NewsFeed.Json.Reading

variable {α β : Type}

/-- What a reader of text guarantees of the values it reads. -/
def Gives (read : Reading α) (P : α → Prop) : Prop :=
  ∀ cursor value after, read cursor = .ok value after → P value

variable {P : α → Prop} {Q : β → Prop} {read : Reading α}

theorem gives_of_forall (h : ∀ value, P value) : Gives read P :=
  fun _ value _ _ => h value

theorem gives_pure {value : α} (h : P value) : Gives (pure value) P := by
  intro cursor result after hread
  cases hread
  exact h

theorem Gives.bind {next : α → Reading β} (h : Gives read P)
    (hnext : ∀ value, P value → Gives (next value) Q) : Gives (read >>= next) Q := by
  intro cursor result after hread
  simp only [Bind.bind, EStateM.bind] at hread
  cases hvalue : read cursor with
  | error problem mid => rw [hvalue] at hread; cases hread
  | ok value mid =>
    rw [hvalue] at hread
    exact hnext value (h cursor value mid hvalue) mid result after hread

/-- A reader whose value does not matter for what comes after it. -/
theorem gives_bind {next : α → Reading β} (hnext : ∀ value, Gives (next value) Q) :
    Gives (read >>= next) Q :=
  Gives.bind (P := fun _ => True) (gives_of_forall fun _ => trivial) fun value _ => hnext value

theorem gives_throw {problem : Problem} : Gives (throw problem : Reading α) P := by
  intro cursor value after hread
  cases hread

theorem gives_stop {cause : Malformed} : Gives (stop cause) P :=
  gives_bind fun _ => gives_throw

theorem gives_stopAhead {cause : Malformed} : Gives (stopAhead cause) P :=
  gives_bind fun _ => gives_throw

theorem gives_refuse {fault : Fault} : Gives (refuse fault) P :=
  gives_throw

theorem gives_ofCheck {check : Except Fault α} (h : ∀ value, check = .ok value → P value) :
    Gives (ofCheck check) P := by
  cases check with
  | error fault => exact gives_refuse
  | ok value => exact gives_pure (h value rfl)

theorem gives_located (h : Gives read P) : Gives (located read) P := by
  intro cursor value after hread
  rw [located] at hread
  cases hvalue : read cursor with
  | error problem mid =>
    rw [hvalue] at hread
    obtain ⟨fault, position⟩ := problem
    cases position <;> cases hread
  | ok result mid =>
    rw [hvalue] at hread
    cases hread
    exact h cursor _ _ hvalue

theorem gives_enclosed {close : Reading Unit} (h : Gives read P) :
    Gives (enclosed close read) P := by
  refine gives_bind fun cursor => ?_
  extract_lets levels inside
  have hinside : Gives (inside ⟨⟩) P := by
    refine gives_bind fun _ => gives_bind fun _ => ?_
    intro cursor result after hread
    cases hvalue : read cursor with
    | error problem mid =>
      -- the closing bracket is tried all the same, but it cannot turn a problem into a value
      simp only [hvalue] at hread
      cases hclose : close { mid with levels } <;> simp only [hclose] at hread <;> cases hread
    | ok value mid =>
      simp only [hvalue] at hread
      have hclosed : Gives (close *> pure value) P :=
        gives_bind fun _ => gives_pure (h cursor value mid hvalue)
      exact hclosed _ result after hread
  split
  · exact Gives.bind (P := fun _ => False) gives_stopAhead fun _ hnever => hnever.elim
  · exact hinside

/-- An invariant of what has been read so far holds at the end of an object. -/
theorem gives_entriesFrom {σ : Type} {add : σ → String → Reading σ} {Keep : σ → Prop}
    (hadd : ∀ seen name, Keep seen → Gives (add seen name) Keep) (turns : ℕ) {start : σ}
    (hstart : Keep start) (first : Bool) : Gives (entriesFrom add start first turns) Keep := by
  induction turns generalizing start first with
  | zero => exact gives_stop
  | succ turns ih =>
    refine gives_bind fun more => ?_
    split
    · refine gives_bind fun name => (hadd start name hstart).bind fun next hnext => ?_
      exact ih hnext false
    · exact gives_pure hstart

theorem gives_entries {σ : Type} {add : σ → String → Reading σ} {Keep : σ → Prop}
    (hadd : ∀ seen name, Keep seen → Gives (add seen name) Keep) {start : σ}
    (hstart : Keep start) : Gives (entries add start) Keep :=
  gives_bind fun turns => gives_entriesFrom hadd turns hstart true

theorem gives_elementsFrom (h : Gives read P) (turns : ℕ) {before : List α}
    (hbefore : ∀ value ∈ before, P value) (first : Bool) :
    Gives (elementsFrom read before first turns) fun values => ∀ value ∈ values, P value := by
  induction turns generalizing before first with
  | zero => exact gives_stop
  | succ turns ih =>
    refine gives_bind fun more => ?_
    split
    · refine h.bind fun value hvalue => ih ?_ false
      exact List.forall_mem_append.mpr ⟨hbefore, List.forall_mem_singleton.mpr hvalue⟩
    · exact gives_pure hbefore

theorem gives_elements (h : Gives read P) :
    Gives (elements read) fun values => ∀ value ∈ values, P value :=
  gives_bind fun turns => gives_elementsFrom h turns (by rintro _ ⟨⟩) true

/-! ### Numbers -/

/-- No infinite number is read. -/
theorem gives_number (negative : Bool) : Gives (number negative) Number.IsFinite := by
  refine gives_bind fun numeral => ?_
  split
  · rename_i value hvalue
    exact gives_pure (Numeral.isFinite_of_value? hvalue)
  · exact gives_stop

/-- No scalar has an infinite number. -/
theorem gives_scalar? (ahead : UInt8) :
    Gives (scalar? ahead) fun found => ∀ json ∈ found, json.IsFinite := by
  have hplain : ∀ json : Json, json.IsFinite → Gives (pure (some json))
      fun found => ∀ json ∈ found, json.IsFinite :=
    fun json hjson => gives_pure fun other hother => Option.some.inj hother ▸ hjson
  rw [scalar?]
  split_ifs
  · exact gives_bind fun _ => gives_bind fun _ => hplain .null trivial
  · exact gives_bind fun _ => gives_bind fun _ => hplain (.bool true) trivial
  · exact gives_bind fun _ => gives_bind fun _ => hplain (.bool false) trivial
  · exact gives_bind fun _ => gives_bind fun text => hplain (.string text) trivial
  · exact gives_bind fun _ => (gives_number true).bind fun n hn => hplain (.number n) hn
  · exact (gives_number false).bind fun n hn => hplain (.number n) hn
  · exact gives_pure (by rintro _ ⟨⟩)

/-- No value with an infinite number inside is read. -/
theorem gives_treeWithin (levels : ℕ) : Gives (treeWithin levels) Json.IsFinite := by
  induction levels with
  | zero => exact gives_stopAhead
  | succ levels ih =>
    -- one level down: the elements and entries are finite by the induction
    refine gives_located (gives_bind fun ahead => ?_)
    split
    · exact gives_stopAhead
    · split_ifs
      · refine (gives_enclosed (gives_elements ih)).bind fun items hitems => gives_pure ?_
        exact isFinite_array_iff.mpr hitems
      · have hentries : Gives (enclosed closeObject (entries (fun before name => do
            colon
            return before ++ [(name, ← treeWithin levels)]) []))
            fun entries : List (String × Json) => ∀ entry ∈ entries, entry.2.IsFinite := by
          refine gives_enclosed (gives_entries (fun before name hbefore => ?_) (by rintro _ ⟨⟩))
          refine gives_bind fun _ => ih.bind fun json hjson => gives_pure ?_
          exact List.forall_mem_append.mpr ⟨hbefore, List.forall_mem_singleton.mpr hjson⟩
        exact hentries.bind fun entries hfinite => gives_pure (isFinite_object_iff.mpr hfinite)
      · refine (gives_scalar? _).bind fun found hfound => ?_
        split
        · exact gives_pure (hfound _ rfl)
        · exact gives_stopAhead

theorem gives_tree : Gives tree Json.IsFinite :=
  gives_bind fun cursor => gives_treeWithin cursor.levels

/-! ### Shapes -/

/-- The first byte of a value is looked at and nothing is read. -/
theorem gives_refuseAhead {ahead : UInt8} {expected : Expected} :
    Gives (refuseAhead ahead expected) P := by
  refine gives_located ?_
  split_ifs
  · exact gives_refuse
  · exact gives_refuse
  · refine gives_bind fun found => ?_
    split
    · exact gives_refuse
    · exact gives_stopAhead

theorem gives_string {expected : Expected} {take : String → Except Fault α}
    (h : ∀ text value, take text = .ok value → P value) : Gives (string expected take) P := by
  refine gives_bind fun ahead => ?_
  split
  · exact gives_bind fun _ => gives_bind fun text => gives_located (gives_ofCheck (h text))
  · exact gives_refuseAhead

theorem gives_numberValue {expected : Expected} {take : Number → Except Fault α}
    (h : ∀ n value, n.IsFinite → take n = .ok value → P value) :
    Gives (numberValue expected take) P := by
  refine gives_bind fun ahead => ?_
  split_ifs
  · refine gives_bind fun _ => (gives_number true).bind fun n hn => ?_
    exact gives_located (gives_ofCheck fun value => h n value hn)
  · refine (gives_number false).bind fun n hn => ?_
    exact gives_located (gives_ofCheck fun value => h n value hn)
  · exact gives_refuseAhead

theorem gives_list (h : read.Gives P) : (list read).Gives fun items => ∀ item ∈ items, P item := by
  refine gives_located (gives_bind fun ahead => ?_)
  split
  · exact gives_enclosed (gives_elements h)
  · exact gives_refuseAhead

theorem gives_dict (h : read.Gives P) :
    (dict read).Gives fun dict => ∀ value ∈ dict.values, P value := by
  refine gives_located (gives_bind fun ahead => ?_)
  split
  · refine gives_enclosed (gives_entries (fun before name hbefore => ?_) (by rintro _ ⟨⟩))
    refine gives_bind fun _ => h.bind fun value hvalue => gives_pure fun other hother => ?_
    rcases Dict.mem_values_of_mem_insert hother with rfl | hother
    · exact hvalue
    · exact hbefore other hother
  · exact gives_refuseAhead

theorem gives_addField {τs : List Type} {fields : Fields Reading τs} {promise : Promise τs}
    (hgive : fields.Give Gives promise) {slots : Slots τs} (hslots : promise.HoldsSoFar slots)
    (name : String) : Gives (addField fields slots name) promise.HoldsSoFar := by
  rw [addField]
  cases hlookup : fields.lookup name slots with
  | unknown => exact gives_bind fun _ => gives_bind fun _ => gives_pure hslots
  | repeated => exact gives_refuse
  | fill read put =>
    obtain ⟨Q, hread, hput⟩ := hgive.of_lookup hslots hlookup
    exact gives_bind fun _ => hread.bind fun value hvalue => gives_pure (hput value hvalue)

theorem gives_fillRow {τs : List Type} {fields : Fields Reading τs} {promise : Promise τs}
    (hgive : fields.Give Gives promise) (first : Bool) :
    Gives (fillRow fields first) promise.HoldsSoFar := by
  induction fields generalizing first with
  | nil => exact gives_pure trivial
  | cons name read absent rest ih =>
    obtain ⟨Q, promise⟩ := promise
    obtain ⟨hread, -, hrest⟩ := hgive
    refine gives_bind fun more => ?_
    cases more with
    | true =>
      refine Gives.bind hread fun value hvalue => (ih hrest false).bind fun others hothers => ?_
      exact gives_pure ⟨fun _ hsome => Option.some.inj hsome ▸ hvalue, hothers⟩
    | false => exact gives_pure ⟨by rintro _ ⟨⟩, promise.holdsSoFar_blank⟩

theorem gives_record {τs : List Type} {title : String} {fields : Fields Reading τs}
    {build : Values τs → α} {promise : Promise τs} (hgive : fields.Give Gives promise)
    (hbuild : ∀ values, promise.Holds values → P (build values)) :
    (record title fields build).Gives P := by
  have hcomplete : ∀ (missing : ℕ → String → Fault) (slots : Slots τs), promise.HoldsSoFar slots →
      Gives (do return build (← ofCheck (fields.complete missing 0 slots))) P := by
    intro missing slots hslots
    refine (gives_ofCheck fun values hvalues => hgive.of_complete hslots hvalues).bind ?_
    exact fun values hvalues => gives_pure (hbuild values hvalues)
  refine gives_located (gives_bind fun ahead => ?_)
  split_ifs
  · refine gives_enclosed ((gives_entries (fun slots name hslots => ?_)
      promise.holdsSoFar_blank).bind fun slots hslots => hcomplete _ slots hslots)
    exact gives_addField hgive hslots name
  · exact gives_enclosed ((gives_fillRow hgive true).bind fun slots hslots =>
      hcomplete _ slots hslots)
  · exact gives_refuseAhead

/-! ### Choices by tag -/

/-- A tag that is read is the tag of one of the variants. -/
theorem gives_variant (variants : List (String × β)) :
    Gives (string .variantName (Tree.variant variants)) fun value =>
      ∃ variant ∈ variants, variant.2 = value :=
  gives_string fun _ _ hvariant => Tree.mem_of_variant hvariant

/-- Next to the tag, only finite numbers are set aside. -/
theorem gives_tagAndRest {name : String} (variants : List (String × β)) :
    Gives (tagAndRest name variants) fun seen =>
      (∃ variant ∈ variants, variant.2 = seen.1) ∧ seen.2.IsFinite := by
  refine gives_located (gives_bind fun ahead => ?_)
  split_ifs
  · have hseen : Gives (entries (addTagged variants) (none, [])) (Tree.TagSeen variants) := by
      refine gives_entries (fun seen name hseen => ?_) (Tree.tagSeen_nothing variants)
      rw [addTagged]
      split_ifs
      · -- a second tag is refused, whatever else was seen
        exact Gives.bind (P := fun _ => False) gives_refuse fun _ hnever => hnever.elim
      · refine gives_bind fun _ => (gives_variant variants).bind fun value hvalue => gives_pure ?_
        exact ⟨fun _ hsome => Option.some.inj hsome ▸ hvalue, hseen.2⟩
      · refine gives_bind fun _ => gives_tree.bind fun json hjson => gives_pure ⟨hseen.1, ?_⟩
        exact List.forall_mem_append.mpr ⟨hseen.2, List.forall_mem_singleton.mpr hjson⟩
    refine gives_enclosed (hseen.bind fun seen hseen => ?_)
    -- an object without a tag is refused as well
    obtain ⟨tag, others⟩ := seen
    cases tag with
    | none => exact gives_refuse
    | some value => exact gives_pure ⟨hseen.1 value rfl, isFinite_object_iff.mpr hseen.2⟩
  · refine gives_enclosed (gives_bind fun more => ?_)
    split_ifs
    · -- in an array the tag comes first
      refine (gives_variant variants).bind fun value hvalue => gives_bind fun turns => ?_
      refine (gives_elementsFrom gives_tree turns (by rintro _ ⟨⟩) false).bind fun items hitems => ?_
      exact gives_pure ⟨hvalue, isFinite_array_iff.mpr hitems⟩
    · exact gives_refuse
  · exact gives_refuseAhead

theorem gives_tagged {name : String} {variants : List (String × Tree α)}
    (h : ∀ variant ∈ variants, variant.2.Gives P) : Gives (tagged name variants) P := by
  refine (gives_tagAndRest variants).bind fun seen hseen => ?_
  obtain ⟨⟨variant, hmem, hread⟩, hfinite⟩ := hseen
  exact gives_ofCheck fun value hvalue =>
    h variant hmem .setAside seen.2 value hfinite (hread ▸ hvalue)

instance instCareful : Careful Reading where
  Gives := Gives
  of_forall := gives_of_forall
  float := gives_numberValue fun _ _ hn htake => Except.ok.inj htake ▸ Number.isFinite_toFloat hn
  list := gives_list
  dict := gives_dict
  record := gives_record
  tagged := gives_tagged

/-- What a reader guarantees holds of the value of a whole text. -/
theorem Gives.of_readText (h : Gives read P) {text : String} {value : α}
    (hread : readText read text = .ok value) : P value := by
  have hwhole : Gives (read <* finish) P :=
    h.bind fun value hvalue => gives_bind fun _ => gives_pure hvalue
  rw [readText] at hread
  split at hread
  · cases hread
    exact hwhole _ _ _ ‹_›
  · cases hread

end NewsFeed.Json.Reading
