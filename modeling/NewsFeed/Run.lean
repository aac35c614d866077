/-
Runs: the making of a whole feed.

Articles of no weight are left out at once. Then one step after the other takes from the pool until
it is empty. A run stops early, with articles left, when it has used up its iterations or when as
many steps in a row as the cycle has were idle, that is, took no article from the pool.

`Run.make` counts the iterations down from their limit, so it ends for every snapshot, settings and
tape.

A `Builder` has checked settings and the tape that feeds are drawn from. It makes any number of
feeds; each goes on where the one before stopped reading.
-/
import NewsFeed.Draw.ChaCha
import NewsFeed.Generators
import NewsFeed.Step

namespace NewsFeed

/-- What happened in one iteration. -/
structure StepTrace where
  iteration : Nat
  step : Step
  poolBefore : Nat
  poolAfter : Nat
  /-- How many elements the step added to the feed. -/
  produced : Nat
  deriving DecidableEq, Repr

/-- A feed and how it came about. -/
structure Run where
  elements : List Element := []
  iterations : Nat := 0
  /-- How many articles were taken from the pool. -/
  consumed : Nat := 0
  /-- How many articles were left out for having no weight. -/
  filteredOut : Nat := 0
  /-- Whether the run stopped with articles left in the pool. -/
  terminatedByBound : Bool := false
  steps : List StepTrace := []
  deriving DecidableEq, Repr

namespace Run

/-- Does one step: the elements it makes, and what it leaves. -/
def perform (step : Step) (iteration : Nat) (snapshot : Snapshot) (settings : Settings) :
    Draw (List Element × Snapshot) := do
  match step with
  | .opening | .default =>
    let (elements, snapshot) ← Block.generate snapshot .everything settings
    return (elements.map Element.ofArticleElement, snapshot)
  | .topNews =>
    let (elements, snapshot) ← Block.generate snapshot (.channel settings.topNewsChannel) settings
    return (elements.map Element.ofArticleElement, snapshot)
  | .cluster =>
    let (element, snapshot) ← Cluster.generateRandom snapshot settings
    return (element.toList, snapshot)
  | .specialCard =>
    let (element, snapshot) ← Card.generate snapshot iteration settings
    return (element.toList, snapshot)

/-- A run in the middle. -/
structure Progress where
  snapshot : Snapshot
  /-- The step to do next. -/
  step : Step := Step.initial
  /-- How many steps in a row took nothing from the pool. -/
  idle : Nat := 0
  /-- The feed so far. -/
  run : Run := {}

namespace Progress

/-- What is recorded of a step that made `produced` and left `snapshot'`. -/
def trace (progress : Progress) (produced : List Element) (snapshot' : Snapshot) : StepTrace where
  iteration := progress.run.iterations
  step := progress.step
  poolBefore := progress.snapshot.articles.length
  poolAfter := snapshot'.articles.length
  produced := produced.length

/-- The run after a step that made `produced` and left `snapshot'`. -/
def record (progress : Progress) (produced : List Element) (snapshot' : Snapshot) : Progress :=
  let { snapshot, step, idle, run } := progress
  let before := snapshot.articles.length
  let after := snapshot'.articles.length
  { snapshot := snapshot'
    step := step.next
    -- an element that holds no article, such as a card, does not count as progress
    idle := if after < before then 0 else idle + 1
    run := { run with
      elements := run.elements ++ produced
      iterations := run.iterations + 1
      consumed := run.consumed + (before - after)
      steps := run.steps ++ [progress.trace produced snapshot'] } }

/-- Does the next step and records it. -/
def advance (progress : Progress) (settings : Settings) : Draw Progress := do
  let (produced, snapshot) ←
    perform progress.step progress.run.iterations progress.snapshot settings
  return progress.record produced snapshot

/-- Whether there is something left to do and not every step of a cycle's worth was idle. -/
def isGoing (progress : Progress) : Bool :=
  !progress.snapshot.articles.isEmpty && decide (progress.idle < Step.cycle.length)

/-- The run as it stands when no more steps are done. -/
def close (progress : Progress) : Run :=
  { progress.run with terminatedByBound := !progress.snapshot.articles.isEmpty }

/-- Does at most `iterations` more steps. -/
def finish (settings : Settings) : (iterations : Nat) → Progress → Draw Run
  | 0, progress => return progress.close
  | iterations + 1, progress => do
    if progress.isGoing then finish settings iterations (← progress.advance settings)
    else return progress.close

end Progress

/-- The snapshot without the articles that have no weight. -/
def screened (snapshot : Snapshot) (settings : Settings) : Snapshot :=
  { snapshot with
    articles := snapshot.articles.filter fun article =>
      0.0 < article.weight snapshot.signals settings }

/-- A run before its first step. -/
def Progress.start (snapshot : Snapshot) (settings : Settings) : Progress :=
  let screened := screened snapshot settings
  { snapshot := screened
    run.filteredOut := snapshot.articles.length - screened.articles.length }

/-- Makes a feed. -/
def make (snapshot : Snapshot) (settings : Settings) : Draw Run :=
  (Progress.start snapshot settings).finish settings settings.maxIterations.toNat

end Run

namespace StepTrace

def toJson (trace : StepTrace) : Json :=
  .object
    [("iteration", Json.ofNat trace.iteration),
      ("step", .string trace.step.name),
      ("pool_before", Json.ofNat trace.poolBefore),
      ("pool_after", Json.ofNat trace.poolAfter),
      ("produced", Json.ofNat trace.produced)]

end StepTrace

namespace Run

def toJson (run : Run) : Json :=
  .object
    [("elements", Json.ofList Element.toJson run.elements),
      ("iterations", Json.ofNat run.iterations),
      ("consumed", Json.ofNat run.consumed),
      ("filtered_out", Json.ofNat run.filteredOut),
      ("terminated_by_bound", .bool run.terminatedByBound),
      ("steps", Json.ofList StepTrace.toJson run.steps)]

end Run

/-! ### Builders -/

/-- Settings that have been checked, and a tape. -/
structure Builder where
  settings : Settings
  tape : Tape

namespace Builder

/-- Checks the settings and takes the tape of their seed; without a seed, of `entropy`. -/
def new (settings : Settings) (entropy : UInt64) : Except SettingsFault Builder :=
  match settings.check with
  | .ok () => .ok { settings, tape := Tape.ofSeed (settings.seed.getD entropy) }
  | .error fault => .error fault

/-- Makes a feed: the feed, and the builder for the next one. -/
def build (builder : Builder) (snapshot : Snapshot) : Option (Run × Builder) :=
  (Run.make snapshot builder.settings builder.tape).map fun (run, tape) =>
    (run, { builder with tape })

end Builder

end NewsFeed
