/-
Settings from variables that need not be text.

Variables are read one after the other.  The reading ends with a fault at a variable that its field
does not take, and without any result at a variable that is not text; which of the two it is depends
on what comes first.  Settings that have been read at all come from variables that are all text, so
the second reading of the same variables, for other settings, never ends without a result.

* `values_eq_none_iff` — when a record cannot be read, not even with a fault;
* `isSome_texts_of_values` — a record that has been read comes from texts;
* `Settings.ofEnvironment_eq_none_iff`, `Settings.ofEnvironment_eq_ok` — the same for the settings
  for feeds;
* `Settings.signalSettings_ne_none` — after them, those for signals are read or refused.
-/
import Mathlib.Data.List.Basic
import NewsFeed.FeedError

namespace NewsFeed

open Json (Fields Slots Values)

/-! ### Attempts -/

namespace Attempt

variable {ε α β : Type} {attempt : Attempt ε α} {next : α → Attempt ε β}

theorem run_ofExcept (check : Except ε α) : (ofExcept check : Attempt ε α).run = some check := by
  cases check <;> rfl

theorem run_bind_of_ok {value : α} (h : attempt.run = some (.ok value)) :
    (attempt >>= next).run = (next value).run := by
  rw [ExceptT.run_bind, h]
  rfl

theorem run_bind_of_error {fault : ε} (h : attempt.run = some (.error fault)) :
    (attempt >>= next).run = some (.error fault) := by
  rw [ExceptT.run_bind, h]
  rfl

theorem run_bind_of_none (h : attempt.run = none) : (attempt >>= next).run = none := by
  rw [ExceptT.run_bind, h]
  rfl

theorem run_adapt_of_ok {ε' : Type} {wrap : ε → ε'} {value : α}
    (h : attempt.run = some (.ok value)) : (attempt.adapt wrap).run = some (.ok value) :=
  congrArg (Option.map (Except.mapError wrap)) h

theorem run_adapt_of_error {ε' : Type} {wrap : ε → ε'} {fault : ε}
    (h : attempt.run = some (.error fault)) :
    (attempt.adapt wrap).run = some (.error (wrap fault)) :=
  congrArg (Option.map (Except.mapError wrap)) h

theorem run_adapt_of_none {ε' : Type} {wrap : ε → ε'} (h : attempt.run = none) :
    (attempt.adapt wrap).run = none :=
  congrArg (Option.map (Except.mapError wrap)) h

end Attempt

namespace Environment

variable {environment : Environment} {lead : String} {τs : List Type} {fields : Fields Variable τs}
  {entry : Entry} {entries rest : List Entry} {slots : Slots τs}

/-! ### One variable after the other -/

theorem addEntries_of_not_text (h : entry.texts? = none) :
    (addEntries lead fields (entry :: rest) slots).run = none := by
  rw [addEntries, h]
  exact Attempt.run_bind_of_none rfl

theorem addEntries_of_texts {name value : String} (h : entry.texts? = some (name, value)) :
    addEntries lead fields (entry :: rest) slots =
      liftM (addVariable lead fields slots name value) >>= addEntries lead fields rest := by
  rw [addEntries, h]
  rfl

theorem addEntries_of_ok {name value : String} {slots' : Slots τs}
    (h : entry.texts? = some (name, value))
    (hadd : addVariable lead fields slots name value = .ok slots') :
    (addEntries lead fields (entry :: rest) slots).run =
      (addEntries lead fields rest slots').run := by
  rw [addEntries_of_texts h, hadd]
  exact Attempt.run_bind_of_ok rfl

theorem addEntries_of_error {name value : String} {fault : EnvironmentFault}
    (h : entry.texts? = some (name, value))
    (hadd : addVariable lead fields slots name value = .error fault) :
    (addEntries lead fields (entry :: rest) slots).run = some (.error fault) := by
  rw [addEntries_of_texts h, hadd]
  exact Attempt.run_bind_of_error rfl

/-- If the first variable is text, then it comes before one that is not. -/
theorem exists_cons_of_not_text {other : Entry} {before after : List Entry}
    {texts : String × String} (h : entry.texts? = some texts) (hother : other.texts? = none)
    (hentries : entry :: rest = before ++ other :: after) :
    ∃ earlier, before = entry :: earlier ∧ rest = earlier ++ other :: after := by
  rcases List.cons_eq_append_iff.mp hentries with ⟨-, heq⟩ | hearlier
  · obtain ⟨rfl, -⟩ := List.cons.inj heq
    cases hother.symm.trans h
  · exact hearlier

/-- The reading has no result exactly if it comes to a variable that is not text, with no fault
before. -/
theorem addEntries_eq_none_iff :
    (addEntries lead fields entries slots).run = none ↔
      ∃ before entry after, entries = before ++ entry :: after ∧ entry.texts? = none ∧
        ∃ slots', (addEntries lead fields before slots).run = some (.ok slots') := by
  induction entries generalizing slots with
  | nil => exact iff_of_false nofun (by simp)
  | cons entry rest ih =>
    cases htexts : entry.texts? with
    | none =>
      exact iff_of_true (addEntries_of_not_text htexts) ⟨[], entry, rest, rfl, htexts, slots, rfl⟩
    | some texts =>
      obtain ⟨name, value⟩ := texts
      cases hadd : addVariable lead fields slots name value with
      | error fault =>
        rw [addEntries_of_error htexts hadd]
        refine iff_of_false nofun ?_
        -- the fault comes before any variable that is not text
        rintro ⟨before, other, after, hentries, hother, slots', hbefore⟩
        obtain ⟨earlier, rfl, -⟩ := exists_cons_of_not_text htexts hother hentries
        rw [addEntries_of_error htexts hadd] at hbefore
        cases hbefore
      | ok slots' =>
        rw [addEntries_of_ok htexts hadd, ih]
        constructor
        · rintro ⟨before, other, after, rfl, hother, hbefore⟩
          refine ⟨entry :: before, other, after, rfl, hother, ?_⟩
          rwa [addEntries_of_ok htexts hadd]
        · rintro ⟨before, other, after, hentries, hother, hbefore⟩
          obtain ⟨earlier, rfl, rfl⟩ := exists_cons_of_not_text htexts hother hentries
          rw [addEntries_of_ok htexts hadd] at hbefore
          exact ⟨earlier, other, after, rfl, hother, hbefore⟩

/-- Variables that have been read without a fault are all text. -/
theorem isSome_texts_of_addEntries {slots' : Slots τs}
    (h : (addEntries lead fields entries slots).run = some (.ok slots')) :
    ∀ entry ∈ entries, entry.texts?.isSome = true := by
  induction entries generalizing slots with
  | nil => exact List.forall_mem_nil _
  | cons entry rest ih =>
    cases htexts : entry.texts? with
    -- the fold stops at an entry that is not text
    | none =>
      rw [addEntries_of_not_text htexts] at h
      cases h
    | some texts =>
      obtain ⟨name, value⟩ := texts
      cases hadd : addVariable lead fields slots name value with
      | error fault =>
        rw [addEntries_of_error htexts hadd] at h
        cases h
      | ok slots' =>
        rw [addEntries_of_ok htexts hadd] at h
        exact List.forall_mem_cons.mpr ⟨Option.isSome_of_eq_some htexts, ih h⟩

/-! ### Records -/

/-- Whether the reading of a record comes to a variable that is not text, with no fault before. -/
def Stumbles (environment : Environment) (lead : String) (fields : Fields Variable τs) : Prop :=
  ∃ before entry after, environment.entries = before ++ entry :: after ∧ entry.texts? = none ∧
    ∃ slots, (addEntries lead fields before (Slots.blank τs)).run = some (.ok slots)

/-- A record cannot be read, not even with a fault, exactly if its reading stumbles. -/
theorem values_eq_none_iff :
    (environment.values lead fields).run = none ↔ environment.Stumbles lead fields := by
  rw [Stumbles, ← addEntries_eq_none_iff, values]
  rcases hrun : (addEntries lead fields environment.entries (Slots.blank τs)).run with
    _ | fault | slots
  · exact iff_of_true (Attempt.run_bind_of_none hrun) rfl
  · rw [Attempt.run_bind_of_error hrun]
    exact iff_of_false nofun nofun
  · rw [Attempt.run_bind_of_ok hrun, Attempt.run_ofExcept]
    exact iff_of_false nofun nofun

/-- A record that has been read comes from texts. -/
theorem isSome_texts_of_values {values : Values τs}
    (h : (environment.values lead fields).run = some (.ok values)) :
    ∀ entry ∈ environment.entries, entry.texts?.isSome = true := by
  rw [Environment.values] at h
  rcases hrun : (addEntries lead fields environment.entries (Slots.blank τs)).run with
    _ | fault | slots
  · rw [Attempt.run_bind_of_none hrun] at h
    cases h
  · rw [Attempt.run_bind_of_error hrun] at h
    cases h
  · exact isSome_texts_of_addEntries hrun

theorem not_stumbles_of_texts
    (h : ∀ entry ∈ environment.entries, entry.texts?.isSome = true) :
    ¬ environment.Stumbles lead fields := by
  rintro ⟨before, entry, after, hentries, hentry, -⟩
  have htexts := h entry (hentries ▸ List.mem_append_right _ List.mem_cons_self)
  rw [hentry] at htexts
  cases htexts

end Environment

/-! ### Settings -/

namespace Settings

variable {environment : Environment} {settings : Settings}

/-- The settings for feeds are read and then checked. -/
theorem run_ofEnvironment (environment : Environment) :
    (ofEnvironment environment).run = (environment.values "FEED_" fields).run.map fun result =>
      (result.mapError FeedError.environment).bind fun values =>
        ((ofValues values).check.mapError FeedError.settings).map fun _ => ofValues values := by
  rw [ofEnvironment, Environment.settings]
  rcases environment.values "FEED_" fields with _ | fault | values
  · rfl
  · rfl
  · show (ofExcept ((ofValues values).check.mapError FeedError.settings) >>= fun _ =>
      (pure (ofValues values) : Attempt FeedError Settings)).run = _
    dsimp only [ExceptT.run, Option.map_some, Except.mapError, Except.bind]
    cases (ofValues values).check <;> rfl

/-- There are neither settings for feeds nor a fault exactly if the reading stumbles. -/
theorem ofEnvironment_eq_none_iff :
    (ofEnvironment environment).run = none ↔ environment.Stumbles "FEED_" fields := by
  rw [run_ofEnvironment, Option.map_eq_none_iff, Environment.values_eq_none_iff]

/-- Settings from an environment come from texts, and they have been checked. -/
theorem ofEnvironment_eq_ok (h : (ofEnvironment environment).run = some (.ok settings)) :
    settings.check = .ok () ∧
      ∀ entry ∈ environment.entries, entry.texts?.isSome = true := by
  rw [run_ofEnvironment] at h
  obtain ⟨result, hrun, h⟩ := Option.map_eq_some_iff.mp h
  cases result with
  | error fault => cases h
  | ok values =>
    refine ⟨?_, Environment.isSome_texts_of_values hrun⟩
    cases hcheck : (ofValues values).check with
    | error fault =>
      rw [Except.mapError, Except.bind, hcheck] at h
      cases h
    | ok =>
      rw [Except.mapError, Except.bind, hcheck] at h
      obtain rfl := Except.ok.inj h
      exact hcheck

/-- Where settings for feeds have been read, settings for signals are read or refused. -/
theorem signalSettings_ne_none (h : (ofEnvironment environment).run = some (.ok settings)) :
    environment.signalSettings.run ≠ none := by
  have hrun : environment.signalSettings.run =
      (environment.values "FEED_SIGNALS_" SignalSettings.fields).run.map
        (·.map SignalSettings.ofValues) := by
    rw [Environment.signalSettings]
    rcases environment.values "FEED_SIGNALS_" SignalSettings.fields with _ | fault | values <;> rfl
  rw [hrun, Ne, Option.map_eq_none_iff, Environment.values_eq_none_iff]
  exact Environment.not_stumbles_of_texts (ofEnvironment_eq_ok h).2

end Settings

end NewsFeed
