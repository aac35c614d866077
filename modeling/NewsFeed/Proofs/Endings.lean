/-
How the program ends.

It prints the feed of a request, or it reports why there is none, or it aborts.  What can be wrong
with the settings for feeds, with the form of the settings for signals, and with the request is all
reported.  But the window of freshness is taken as it comes, and a window that starts outside of the
range of time has no start: if signals have to be derived and an article of a known publisher has a
time of publication, the program aborts.  The other ways to abort are a file of assignments that
cannot be made, a variable or an argument that is not text, and a normal draw that outlasts the
patience of the tape.

* `hoursBefore?_eq_none_iff` — which moments lie outside of the range;
* `complete?_eq_none_iff`, `complete?_isSome` — when signals cannot be derived, and windows for
  which they always can;
* `outcome_of_finds`, `outcome_of_refuses` — what the program does with a request, and that it
  reports why there is none;
* `ends_outcome`, `outcome_eq_iff` — the ways to end cover everything and exclude each other;
* `outcome_classified` — exactly when the program aborts, reports and prints.
-/
import NewsFeed.Command
import NewsFeed.Proofs.Pacing
import NewsFeed.Proofs.Variables

namespace NewsFeed

/-! ### Moments in range -/

namespace Time

/-- Whether a second, counted from the start of 1970, lies in the range of time. -/
def InRange (second : ℤ) : Prop :=
  firstDay * 86400 ≤ second ∧ second < (lastDay + 1) * 86400

instance (second : ℤ) : Decidable (InRange second) := by
  unfold InRange
  infer_instance

namespace Instant

/-- The second that a leap second counts for when going back from it, which starts at its end. -/
def leapBefore (t : Instant) (hours : ℤ) : ℤ :=
  if t.isLeap ∧ 0 < hours then 1 else 0

theorem leapBefore_cases (t : Instant) (hours : ℤ) :
    t.leapBefore hours = 0 ∨ 0 < hours ∧ t.leapBefore hours = 1 := by
  unfold leapBefore
  split_ifs with h
  · exact .inr ⟨h.2, rfl⟩
  · exact .inl rfl

/-- The second `hours` before an instant, counted from the start of 1970. -/
def secondBefore (t : Instant) (hours : ℤ) : ℤ :=
  t.day * 86400 + t.second + t.leapBefore hours - hours * 3600

theorem of?_eq_none_iff {day : ℤ} {second nano : ℕ} :
    of? day second nano = none ↔ ¬ ((firstDay ≤ day ∧ day ≤ lastDay) ∧ second < 86400 ∧
      nano < 2000000000 ∧ (1000000000 ≤ nano → second % 60 = 59)) := by
  unfold of?
  split_ifs with h
  · exact iff_of_false nofun (not_not_intro h)
  · exact iff_of_true rfl h

/-- What is left of a leap second is an ordinary one. -/
theorem ordinary_nano (t : Instant) :
    (if t.isLeap then t.nano - 1000000000 else t.nano) < 1000000000 := by
  have hnano := t.nano_lt
  rw [isLeap]
  split_ifs with hleap
  · omega
  · simpa using hleap

/-- There is no instant so many hours earlier exactly if it would lie outside of the range of time.
The longest span of time that can be asked for is longer than the range. -/
theorem hoursBefore?_eq_none_iff {t : Instant} {hours : ℤ} :
    t.hoursBefore? hours = none ↔ ¬ InRange (t.secondBefore hours) := by
  have hsecond := t.second_lt
  have hnano := t.ordinary_nano
  have hleap := t.leapBefore_cases hours
  have hstart : (if t.isLeap ∧ 0 < hours * 3600 then (t.second : ℤ) + 1 else t.second) =
      t.second + t.leapBefore hours := by
    have hforward : 0 < hours * 3600 ↔ 0 < hours := by omega
    simp only [hforward, leapBefore]
    split_ifs <;> omega
  obtain ⟨hfirst, hlast⟩ := t.day_range
  rw [firstDay] at hfirst
  rw [lastDay] at hlast
  rw [hoursBefore?, InRange, secondBefore, firstDay, lastDay]
  dsimp only
  rw [hstart]
  generalize (if t.isLeap then t.nano - 1000000000 else t.nano) = nano at hnano ⊢
  by_cases hspan : maxSpanMillis < ((hours * 3600 * 1000).natAbs : ℤ)
  · rw [if_pos hspan]
    rw [maxSpanMillis] at hspan
    exact iff_of_true rfl (by omega)
  by_cases hzero : hours * 3600 = 0
  · rw [if_neg hspan, if_pos hzero]
    exact iff_of_false nofun (by omega)
  -- the time of day is always right, so that only the day can be outside
  rw [if_neg hspan, if_neg hzero, of?_eq_none_iff, not_iff_not, firstDay, lastDay]
  omega

/-- No window of up to 2^31 hours, either way, leads from the years 1970 to 9999 out of the range
of time. -/
theorem inRange_secondBefore {t : Instant} {hours : ℤ} (hday : 0 ≤ t.day ∧ t.day < 2932897)
    (hhours : |hours| ≤ 2 ^ 31) : InRange (t.secondBefore hours) := by
  have hsecond := t.second_lt
  have hleap := t.leapBefore_cases hours
  obtain ⟨hleast, hgreatest⟩ := abs_le.mp hhours
  rw [InRange, secondBefore, firstDay, lastDay]
  omega

end Instant

end Time

open Time (Instant InRange)

/-! ### Signals that cannot be derived -/

namespace Article

/-- Whether the age of an article matters: its publisher is known, and it has a time of
publication. -/
def IsDated (article : Article) (publishers : Dict Publisher) : Prop :=
  (publishers.get? article.publisherId).isSome = true ∧ article.publishTime.isSome = true

theorem popRecency_eq_none_iff {article : Article} {settings : SignalSettings} {now : Instant} :
    article.popRecency settings now = none ↔ article.publishTime.isSome = true ∧
      now.hoursBefore? settings.freshWindowHours.toInt = none := by
  unfold popRecency popRecencyWith
  cases article.publishTime with
  | none => simp
  | some published => simp

end Article

namespace Derivation

variable {derivation : Derivation} {totals : VisitTotals} {article : Article}
  {articles : List Article} {signals : Signals}

/-- The start of the window of freshness, if there is one. -/
def freshSince? (derivation : Derivation) : Option Instant :=
  derivation.now.hoursBefore? derivation.settings.freshWindowHours.toInt

theorem addArticle_eq_none_iff :
    derivation.addArticle totals signals article = none ↔
      article.IsDated derivation.publishers ∧ derivation.freshSince? = none := by
  unfold addArticle Article.IsDated freshSince?
  cases derivation.publishers.get? article.publisherId with
  | none => simp
  | some publisher =>
    simp only [Option.map_eq_none_iff, articleSignal?, Article.popRecency_eq_none_iff,
      Option.isSome_some, true_and]

/-- The signals of some articles cannot be derived if those of one of them cannot, whichever were
derived before. -/
theorem foldlM_addArticle_eq_none_iff :
    articles.foldlM (derivation.addArticle totals) signals = none ↔
      (∃ article ∈ articles, article.IsDated derivation.publishers) ∧
        derivation.freshSince? = none := by
  induction articles generalizing signals with
  | nil => simp
  | cons article articles ih =>
    rw [List.foldlM_cons, List.exists_mem_cons_iff, or_and_right, ← addArticle_eq_none_iff]
    cases derivation.addArticle totals signals article with
    | none => exact iff_of_true rfl (.inl rfl)
    | some later => exact ih.trans ⟨.inr, fun h => h.resolve_left nofun⟩

/-- Signals cannot be derived exactly if the age of one of the articles matters and the window of
freshness starts outside of the range of time. -/
theorem signals?_eq_none_iff :
    derivation.signals? articles = none ↔
      (∃ article ∈ articles, article.IsDated derivation.publishers) ∧
        ¬ InRange (derivation.now.secondBefore derivation.settings.freshWindowHours.toInt) := by
  rw [signals?, Option.map_eq_none_iff, foldlM_addArticle_eq_none_iff, freshSince?,
    Instant.hoursBefore?_eq_none_iff]

end Derivation

namespace Request

variable {request : Request} {settings : SignalSettings} {now : Instant}

/-- Whether signals have to be derived and the window of freshness, which matters for them, starts
outside of the range of time. -/
structure OutOfTime (request : Request) (settings : SignalSettings) (now : Instant) : Prop where
  bare : request.snapshot.signals.isEmpty = true
  dated : ∃ article ∈ request.snapshot.articles, article.IsDated request.snapshot.publishers
  outside : ¬ InRange (now.secondBefore settings.freshWindowHours.toInt)

/-- A request cannot be completed exactly if it is out of time. -/
theorem complete?_eq_none_iff :
    request.complete? settings now = none ↔ request.OutOfTime settings now := by
  have hderived : (request.derivation settings now).signals? request.snapshot.articles = none ↔
      (∃ article ∈ request.snapshot.articles, article.IsDated request.snapshot.publishers) ∧
        ¬ InRange (now.secondBefore settings.freshWindowHours.toInt) :=
    Derivation.signals?_eq_none_iff
  unfold complete?
  dsimp only
  -- only a request without signals has them derived
  by_cases hbare : request.snapshot.signals.isEmpty = true
  · rw [if_pos hbare]
    cases hsignals : (request.derivation settings now).signals? request.snapshot.articles with
    | none =>
      obtain ⟨hdated, houtside⟩ := hderived.mp hsignals
      exact iff_of_true rfl ⟨hbare, hdated, houtside⟩
    | some signals =>
      refine iff_of_false nofun fun h => ?_
      rw [hderived.mpr ⟨h.dated, h.outside⟩] at hsignals
      cases hsignals
  · rw [if_neg hbare]
    exact iff_of_false nofun fun h => hbare h.bare

/-- Every request can be completed between the years 1970 and 9999 if the window of freshness is no
longer than 2^31 hours. -/
theorem complete?_isSome (request : Request) (hday : 0 ≤ now.day ∧ now.day < 2932897)
    (hwindow : |settings.freshWindowHours.toInt| ≤ 2 ^ 31) :
    (request.complete? settings now).isSome = true := by
  refine Option.isSome_iff_ne_none.mpr fun hnone => ?_
  exact (complete?_eq_none_iff.mp hnone).outside (Instant.inRange_secondBefore hday hwindow)

end Request

/-- Settings that have been checked make a builder. -/
theorem Builder.new_eq_ok {settings : Settings} (h : settings.check = .ok ()) (entropy : UInt64) :
    Builder.new settings entropy =
      .ok { settings, tape := Tape.ofSeed (settings.seed.getD entropy) } := by
  rw [new, h]

namespace Command

variable {surroundings : Surroundings} {settings : Settings} {signalSettings : SignalSettings}
  {request : Request} {report : Report}

/-! ### What the program finds -/

/-- The settings that are found. -/
def Configures (surroundings : Surroundings) (settings : Settings)
    (signalSettings : SignalSettings) : Prop :=
  ∃ environment, environment? surroundings.inherited surroundings.assignments = some environment ∧
    (Settings.ofEnvironment environment).run = some (.ok settings) ∧
    environment.signalSettings.run = some (.ok signalSettings)

/-- What the program has to work with once everything is found and read. -/
structure Finds (surroundings : Surroundings) (settings : Settings)
    (signalSettings : SignalSettings) (request : Request) : Prop where
  configures : Configures surroundings settings signalSettings
  asked : ∃ input bytes text, input? surroundings.arguments = some input ∧
    surroundings.content = .ok bytes ∧ String.fromUTF8? bytes = some text ∧
    Json.readText Request.reader text = .ok request

/-- What could not be done if the request cannot be read. -/
def unread : Input → String
  | .file path => "Failed to read snapshot " ++ path
  | .stream => "Failed to read snapshot from stdin"

/-- What the program reports in place of a feed. -/
inductive Refuses (surroundings : Surroundings) : Report → Prop where
  | settings {environment : Environment} {error : FeedError}
      (found : environment? surroundings.inherited surroundings.assignments = some environment)
      (refused : (Settings.ofEnvironment environment).run = some (.error error)) :
      Refuses surroundings { context := "Failed to load feed config", causes := error.causes }
  | signalSettings {environment : Environment} {settings : Settings} {fault : EnvironmentFault}
      (found : environment? surroundings.inherited surroundings.assignments = some environment)
      (accepted : (Settings.ofEnvironment environment).run = some (.ok settings))
      (refused : environment.signalSettings.run = some (.error fault)) :
      Refuses surroundings
        { context := "Failed to load signals config"
          causes := (FeedError.environment fault).causes }
  | content {settings : Settings} {signalSettings : SignalSettings} {input : Input}
      {fault : ReadFault} (configures : Configures surroundings settings signalSettings)
      (named : input? surroundings.arguments = some input)
      (refused : surroundings.content = .error fault ∨ fault = .notText ∧
        ∃ bytes, surroundings.content = .ok bytes ∧ String.fromUTF8? bytes = none) :
      Refuses surroundings { context := unread input, causes := [fault.message] }
  | request {settings : Settings} {signalSettings : SignalSettings} {input : Input}
      {bytes : ByteArray} {text : String} {problem : Json.Problem}
      (configures : Configures surroundings settings signalSettings)
      (named : input? surroundings.arguments = some input)
      (read : surroundings.content = .ok bytes) (decoded : String.fromUTF8? bytes = some text)
      (refused : Json.readText Request.reader text = .error problem) :
      Refuses surroundings { context := "Invalid snapshot JSON", causes := [problem.message] }

/-- Once the settings and the place of the request are found, the program finds the request or it
reports why not. -/
theorem finds_or_refuses {input : Input}
    (hconfigures : Configures surroundings settings signalSettings)
    (hinput : input? surroundings.arguments = some input) :
    (∃ request, Finds surroundings settings signalSettings request) ∨
      ∃ report, Refuses surroundings report := by
  cases hcontent : surroundings.content with
  | error fault => exact .inr ⟨_, .content hconfigures hinput (.inl hcontent)⟩
  | ok bytes =>
    cases htext : String.fromUTF8? bytes with
    | none => exact .inr ⟨_, .content hconfigures hinput (.inr ⟨rfl, bytes, hcontent, htext⟩)⟩
    | some text =>
      cases hrequest : Json.readText Request.reader text with
      | error problem => exact .inr ⟨_, .request hconfigures hinput hcontent htext hrequest⟩
      | ok request =>
        exact .inl ⟨request, hconfigures, input, bytes, text, hinput, hcontent, htext, hrequest⟩

theorem text_eq_ok {bytes : ByteArray} {text : String} (input : Input)
    (htext : String.fromUTF8? bytes = some text) : Command.text input (.ok bytes) = .ok text := by
  unfold Command.text
  dsimp only
  rw [htext]
  rfl

theorem text_eq_error {content : Except ReadFault ByteArray} {fault : ReadFault} (input : Input)
    (h : content = .error fault ∨ fault = .notText ∧
      ∃ bytes, content = .ok bytes ∧ String.fromUTF8? bytes = none) :
    Command.text input content = .error { context := unread input, causes := [fault.message] } := by
  rcases h with rfl | ⟨rfl, bytes, rfl, htext⟩
  · cases input <;> rfl
  · unfold Command.text
    dsimp only
    rw [htext]
    cases input <;> rfl

/-! ### Stages -/

theorem outcome_of_unassigned
    (h : environment? surroundings.inherited surroundings.assignments = none) :
    outcome surroundings = .aborted := by
  have hrun : (attempt surroundings).run = none := by
    rw [attempt, h]
    exact Attempt.run_bind_of_none rfl
  rw [outcome, hrun]

/-- With variables, the attempt goes on with the settings in them. -/
theorem attempt_of_environment {environment : Environment}
    (h : environment? surroundings.inherited surroundings.assignments = some environment) :
    (attempt surroundings).run = (Command.settings environment >>= fun settings =>
      answer surroundings settings.1 settings.2).run := by
  rw [attempt, h]
  exact Attempt.run_bind_of_ok rfl

theorem outcome_of_not_text {environment : Environment}
    (hfound : environment? surroundings.inherited surroundings.assignments = some environment)
    (h : (Settings.ofEnvironment environment).run = none) : outcome surroundings = .aborted := by
  have hsettings : (Command.settings environment).run = none := by
    rw [Command.settings]
    exact Attempt.run_bind_of_none (Attempt.run_adapt_of_none h)
  rw [outcome, attempt_of_environment hfound, Attempt.run_bind_of_none hsettings]

theorem outcome_of_settings_eq_error {environment : Environment}
    (hfound : environment? surroundings.inherited surroundings.assignments = some environment)
    (h : (Command.settings environment).run = some (.error report)) :
    outcome surroundings = .refused report := by
  rw [outcome, attempt_of_environment hfound, Attempt.run_bind_of_error h]

/-- Once the settings are found, the answer counts. -/
theorem attempt_of_configures (h : Configures surroundings settings signalSettings) :
    (attempt surroundings).run = (answer surroundings settings signalSettings).run := by
  obtain ⟨environment, hfound, hsettings, hsignals⟩ := h
  have hboth : (Command.settings environment).run = some (.ok (settings, signalSettings)) := by
    rw [Command.settings, Attempt.run_bind_of_ok (Attempt.run_adapt_of_ok hsettings),
      Attempt.run_bind_of_ok (Attempt.run_adapt_of_ok hsignals)]
    rfl
  rw [attempt_of_environment hfound, Attempt.run_bind_of_ok hboth]

theorem outcome_of_unnamed (hconfigures : Configures surroundings settings signalSettings)
    (h : input? surroundings.arguments = none) : outcome surroundings = .aborted := by
  have hrun : (answer surroundings settings signalSettings).run = none := by
    rw [answer, h]
    exact Attempt.run_bind_of_none rfl
  rw [outcome, attempt_of_configures hconfigures, hrun]

/-- Once the place of the request is found as well, its text decides. -/
theorem answer_of_named {input : Input} (h : input? surroundings.arguments = some input) :
    (answer surroundings settings signalSettings).run =
      some (((Command.text input surroundings.content).bind Command.request).map fun request =>
        make settings signalSettings surroundings.now surroundings.entropy request) := by
  rw [answer, h]
  refine (Attempt.run_bind_of_ok rfl).trans ?_
  cases Command.text input surroundings.content with
  | error report => rfl
  | ok text =>
    refine (Attempt.run_bind_of_ok rfl).trans ?_
    rw [Except.bind]
    cases Command.request text <;> rfl

theorem outcome_of_refuses (h : Refuses surroundings report) :
    outcome surroundings = .refused report := by
  cases h with
  | settings found refused =>
    -- the settings of the run are read first
    refine outcome_of_settings_eq_error found ?_
    rw [Command.settings]
    exact Attempt.run_bind_of_error (Attempt.run_adapt_of_error refused)
  | signalSettings found accepted refused =>
    refine outcome_of_settings_eq_error found ?_
    rw [Command.settings, Attempt.run_bind_of_ok (Attempt.run_adapt_of_ok accepted)]
    exact Attempt.run_bind_of_error (Attempt.run_adapt_of_error refused)
  | content configures named refused =>
    rw [outcome, attempt_of_configures configures, answer_of_named named, text_eq_error _ refused]
    rfl
  | request configures named read decoded refused =>
    rw [outcome, attempt_of_configures configures, answer_of_named named, read,
      text_eq_ok _ decoded, Except.bind, Command.request, refused]
    rfl

/-- The program makes the feed of what it finds. -/
theorem outcome_of_finds (h : Finds surroundings settings signalSettings request) :
    outcome surroundings =
      make settings signalSettings surroundings.now surroundings.entropy request := by
  obtain ⟨input, bytes, text, hinput, hcontent, htext, hrequest⟩ := h.asked
  rw [outcome, attempt_of_configures h.configures, answer_of_named hinput, hcontent,
    text_eq_ok _ htext, Except.bind, Command.request, hrequest]
  rfl

/-! ### What the program makes of it -/

/-- The tape that a feed is drawn from. -/
def tape (surroundings : Surroundings) (settings : Settings) : Tape :=
  Tape.ofSeed (settings.seed.getD surroundings.entropy)

theorem Finds.new_eq_ok (h : Finds surroundings settings signalSettings request) :
    Builder.new settings surroundings.entropy =
      .ok { settings, tape := tape surroundings settings } := by
  obtain ⟨environment, -, hsettings, -⟩ := h.configures
  exact Builder.new_eq_ok (Settings.ofEnvironment_eq_ok hsettings).1 _

theorem make_of_complete? {snapshot : Snapshot}
    (h : Finds surroundings settings signalSettings request)
    (hcomplete : request.complete? signalSettings surroundings.now = some snapshot) :
    make settings signalSettings surroundings.now surroundings.entropy request =
      match Run.make snapshot settings (tape surroundings settings) with
      | none => .aborted
      | some (run, _) => .printed run.toJson.write := by
  unfold make Builder.build
  rw [hcomplete, h.new_eq_ok]
  dsimp only
  cases Run.make snapshot settings (tape surroundings settings) <;> rfl

/-- The ways in which the program can end. -/
inductive Ends (surroundings : Surroundings) : Outcome → Prop where
  | unassigned (h : environment? surroundings.inherited surroundings.assignments = none) :
      Ends surroundings .aborted
  | stumbled {environment : Environment}
      (found : environment? surroundings.inherited surroundings.assignments = some environment)
      (stumbles : environment.Stumbles "FEED_" Settings.fields) : Ends surroundings .aborted
  | unnamed {settings : Settings} {signalSettings : SignalSettings}
      (configures : Configures surroundings settings signalSettings)
      (unnamed : input? surroundings.arguments = none) : Ends surroundings .aborted
  | refused {report : Report} (refuses : Refuses surroundings report) :
      Ends surroundings (.refused report)
  | outOfTime {settings : Settings} {signalSettings : SignalSettings} {request : Request}
      (finds : Finds surroundings settings signalSettings request)
      (outOfTime : request.OutOfTime signalSettings surroundings.now) :
      Ends surroundings .aborted
  | undrawn {settings : Settings} {signalSettings : SignalSettings} {request : Request}
      {snapshot : Snapshot} {tape' : Tape}
      (finds : Finds surroundings settings signalSettings request)
      (completed : request.complete? signalSettings surroundings.now = some snapshot)
      (draw : Run.CountDraw snapshot settings (tape surroundings settings) tape')
      (undrawn : Block.inlineCount settings tape' = none) :
      Ends surroundings .aborted
  | printed {settings : Settings} {signalSettings : SignalSettings} {request : Request}
      {snapshot : Snapshot} {run : Run} {tape' : Tape}
      (finds : Finds surroundings settings signalSettings request)
      (completed : request.complete? signalSettings surroundings.now = some snapshot)
      (made : Run.make snapshot settings (tape surroundings settings) = some (run, tape')) :
      Ends surroundings (.printed run.toJson.write)

/-- What becomes of a request that has been found. -/
theorem ends_of_finds (h : Finds surroundings settings signalSettings request) :
    Ends surroundings (outcome surroundings) := by
  rw [outcome_of_finds h]
  cases hcomplete : request.complete? signalSettings surroundings.now with
  | none =>
    rw [make, hcomplete]
    exact .outOfTime h (Request.complete?_eq_none_iff.mp hcomplete)
  | some snapshot =>
    rw [make_of_complete? h hcomplete]
    cases hmake : Run.make snapshot settings (tape surroundings settings) with
    | none =>
      obtain ⟨tape', hdraw, hcount⟩ := Run.make_eq_none_iff.mp hmake
      exact .undrawn h hcomplete hdraw hcount
    | some made => exact .printed h hcomplete hmake

theorem ends_of_refuses (h : Refuses surroundings report) :
    Ends surroundings (outcome surroundings) := by
  rw [outcome_of_refuses h]
  exact .refused h

/-- The program ends in one of these ways. -/
theorem ends_outcome (surroundings : Surroundings) :
    Ends surroundings (outcome surroundings) := by
  -- in the order in which the program looks, so that what comes first decides
  cases hfound : environment? surroundings.inherited surroundings.assignments with
  | none =>
    rw [outcome_of_unassigned hfound]
    exact .unassigned hfound
  | some environment =>
    rcases hsettings : (Settings.ofEnvironment environment).run with _ | error | settings
    · rw [outcome_of_not_text hfound hsettings]
      exact .stumbled hfound (Settings.ofEnvironment_eq_none_iff.mp hsettings)
    · exact ends_of_refuses (.settings hfound hsettings)
    rcases hsignals : environment.signalSettings.run with _ | fault | signalSettings
    · exact absurd hsignals (Settings.signalSettings_ne_none hsettings)
    · exact ends_of_refuses (.signalSettings hfound hsettings hsignals)
    have hconfigures : Configures surroundings settings signalSettings :=
      ⟨environment, hfound, hsettings, hsignals⟩
    cases hinput : input? surroundings.arguments with
    | none =>
      rw [outcome_of_unnamed hconfigures hinput]
      exact .unnamed hconfigures hinput
    | some input =>
      rcases finds_or_refuses hconfigures hinput with ⟨request, hfinds⟩ | ⟨report, hrefuses⟩
      · exact ends_of_finds hfinds
      · exact ends_of_refuses hrefuses

/-- The ways to end exclude each other. -/
theorem outcome_eq_iff {result : Outcome} :
    outcome surroundings = result ↔ Ends surroundings result := by
  constructor
  · -- the cases are complete
    rintro rfl
    exact ends_outcome surroundings
  · intro h
    -- and each of them decides the outcome, so no two of them meet
    cases h with
    | unassigned h => exact outcome_of_unassigned h
    | stumbled found stumbles =>
      exact outcome_of_not_text found (Settings.ofEnvironment_eq_none_iff.mpr stumbles)
    | unnamed configures unnamed => exact outcome_of_unnamed configures unnamed
    | refused refuses => exact outcome_of_refuses refuses
    | outOfTime finds outOfTime =>
      rw [outcome_of_finds finds, make, Request.complete?_eq_none_iff.mpr outOfTime]
    | undrawn finds completed draw undrawn =>
      rw [outcome_of_finds finds, make_of_complete? finds completed,
        Run.make_eq_none_iff.mpr ⟨_, draw, undrawn⟩]
    | printed finds completed made =>
      rw [outcome_of_finds finds, make_of_complete? finds completed, made]

/-- The program aborts exactly if a file of assignments cannot be made, if the reading of the
settings for feeds comes to a variable that is not text, if an argument that it needs is not text,
if signals have to be derived for an article of a known publisher with a time of publication and the
window of freshness starts outside of the range of time, or if a number of inline articles does not
come out.  It refuses with an empty output exactly if the settings for feeds, those for signals, the
reading or the request give a report, and else prints the run of the completed request.  Making the
builder never fails. -/
theorem outcome_classified (surroundings : Surroundings) :
    (outcome surroundings = .aborted ↔
      environment? surroundings.inherited surroundings.assignments = none ∨
      (∃ environment,
        environment? surroundings.inherited surroundings.assignments = some environment ∧
        environment.Stumbles "FEED_" Settings.fields) ∨
      (∃ settings signalSettings, Configures surroundings settings signalSettings ∧
        input? surroundings.arguments = none) ∨
      ∃ settings signalSettings request, Finds surroundings settings signalSettings request ∧
        (request.OutOfTime signalSettings surroundings.now ∨
          ∃ snapshot tape', request.complete? signalSettings surroundings.now = some snapshot ∧
            Run.CountDraw snapshot settings (tape surroundings settings) tape' ∧
            Block.inlineCount settings tape' = none)) ∧
    (∀ report, outcome surroundings = .refused report ↔ Refuses surroundings report) ∧
    (∀ document, outcome surroundings = .printed document ↔
      ∃ settings signalSettings request snapshot run tape',
        Finds surroundings settings signalSettings request ∧
        request.complete? signalSettings surroundings.now = some snapshot ∧
        Run.make snapshot settings (tape surroundings settings) = some (run, tape') ∧
        document = run.toJson.write) ∧
    (∀ report, outcome surroundings = .refused report →
      (outcome surroundings).output = "" ∧ (outcome surroundings).exitCode = 1) ∧
    (∀ document, outcome surroundings = .printed document →
      (outcome surroundings).output = document ++ "\n" ∧ (outcome surroundings).exitCode = 0) ∧
    ∀ settings signalSettings request, Finds surroundings settings signalSettings request →
      Builder.new settings surroundings.entropy =
        .ok { settings, tape := tape surroundings settings } := by
  -- each kind of outcome is read off the ways to end, since the constructor fixes the kind
  refine ⟨outcome_eq_iff.trans ⟨fun h => ?_, fun h => ?_⟩, fun report => ?_, fun document => ?_,
    fun report h => ?_, fun document h => ?_, fun _ _ _ h => h.new_eq_ok⟩
  · cases h with
    | unassigned h => exact .inl h
    | stumbled found stumbles => exact .inr (.inl ⟨_, found, stumbles⟩)
    | unnamed configures unnamed => exact .inr (.inr (.inl ⟨_, _, configures, unnamed⟩))
    | outOfTime finds outOfTime => exact .inr (.inr (.inr ⟨_, _, _, finds, .inl outOfTime⟩))
    | undrawn finds completed draw undrawn =>
      exact .inr (.inr (.inr ⟨_, _, _, finds, .inr ⟨_, _, completed, draw, undrawn⟩⟩))
  · obtain h | ⟨_, hfound, hstumbles⟩ | ⟨_, _, hconfigures, hunnamed⟩ |
      ⟨_, _, _, hfinds, h | ⟨_, _, hcompleted, hdraw, hcount⟩⟩ := h
    · exact .unassigned h
    · exact .stumbled hfound hstumbles
    · exact .unnamed hconfigures hunnamed
    · exact .outOfTime hfinds h
    · exact .undrawn hfinds hcompleted hdraw hcount
  · refine outcome_eq_iff.trans ⟨fun h => ?_, .refused⟩
    cases h with
    | refused refuses => exact refuses
  · refine outcome_eq_iff.trans ⟨fun h => ?_, ?_⟩
    · cases h with
      | printed finds completed made => exact ⟨_, _, _, _, _, _, finds, completed, made, rfl⟩
    · rintro ⟨_, _, _, _, _, _, hfinds, hcompleted, hmade, rfl⟩
      exact .printed hfinds hcompleted hmade
  · rw [h]
    exact ⟨rfl, rfl⟩
  · rw [h]
    exact ⟨rfl, rfl⟩

/-- A request for one article, in an environment that sets the longest window of freshness. -/
def longestWindow : Surroundings where
  inherited :=
    { entries := [⟨"FEED_SEED", "1"⟩,
        ⟨"FEED_SIGNALS_FRESH_WINDOW_HOURS", "9223372036854775807"⟩] }
  assignments := none
  arguments := [some "feed-assembly"]
  content := .ok <| String.toUTF8 <|
    "\x7b\"publishers\": \x7b\"p\": " ++
    "\x7b\"publisher_id\": \"p\", \"publisher_name\": \"p\"\x7d\x7d, " ++
    "\"articles\": [\x7b\"id\": \"a\", \"publisher_id\": \"p\", " ++
    "\"url\": \"https://p.example/1\", \"score\": 1.0, " ++
    "\"publish_time\": \"2999-01-01T00:00:00Z\"\x7d]\x7d"
  now := ⟨20454, 36000, 500000000, by decide, by decide, by decide, by decide⟩
  entropy := 0

/-- The settings are accepted and the request is read, and the program aborts. -/
theorem outcome_classified_longestWindow :
    outcome longestWindow = .aborted ∧
    ∃ settings signalSettings request, Finds longestWindow settings signalSettings request ∧
      request.OutOfTime signalSettings longestWindow.now := by
  have haborted : outcome longestWindow = .aborted := by decide +kernel
  -- the request can be read, but not completed
  have hincomplete : ((longestWindow.inherited.signalSettings.run.bind Except.toOption).bind
      fun settings =>
        ((longestWindow.content.toOption.bind String.fromUTF8?).bind fun text =>
          (Json.readText Request.reader text).toOption).map fun request =>
            (request.complete? settings longestWindow.now).isNone) = some true := by
    decide +kernel
  refine ⟨haborted, ?_⟩
  obtain hnone | ⟨environment, hfound, hstumbles⟩ | ⟨_, _, -, hunnamed⟩ |
    ⟨settings, signalSettings, request, hfinds, houtside | ⟨_, _, hcompleted, -⟩⟩ :=
      (outcome_classified longestWindow).1.mp haborted
  · cases hnone
  · obtain rfl : longestWindow.inherited = environment := Option.some.inj hfound
    refine absurd hstumbles (Environment.not_stumbles_of_texts ?_)
    decide
  · cases hunnamed
  · exact ⟨settings, signalSettings, request, hfinds, houtside⟩
  · obtain ⟨environment, hfound, -, hsignals⟩ := hfinds.configures
    obtain ⟨input, bytes, text, -, hcontent, htext, hrequest⟩ := hfinds.asked
    obtain rfl : longestWindow.inherited = environment := Option.some.inj hfound
    simp [hsignals, hcontent, htext, hrequest, hcompleted, Except.toOption] at hincomplete

end Command

end NewsFeed
