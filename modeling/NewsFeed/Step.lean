/-
The steps in which a feed is made. The first two stand at the top of the feed; the other three
repeat.
-/
namespace NewsFeed

/-- A step in the making of a feed. -/
inductive Step where
  | opening
  | topNews
  | default
  | cluster
  | specialCard
  deriving DecidableEq, Repr

namespace Step

/-- The first step. -/
def initial : Step := .opening

/-- The step after a step. -/
def next : Step → Step
  | .opening => .topNews
  | .topNews => .default
  | .default => .cluster
  | .cluster => .specialCard
  | .specialCard => .default

/-- The number of a step. -/
def number : Step → Nat
  | .opening => 1
  | .topNews => 2
  | .default => 3
  | .cluster => 4
  | .specialCard => 5

/-- The written name of a step. -/
def name : Step → String
  | .opening => "opening"
  | .topNews => "top_news"
  | .default => "default"
  | .cluster => "cluster"
  | .specialCard => "special_card"

/-- All steps in order. -/
def all : List Step :=
  [.opening, .topNews, .default, .cluster, .specialCard]

/-- Each step with the step after it. -/
def transitions : List (Step × Step) :=
  all.map fun step => (step, step.next)

/-- The steps that repeat. -/
def cycle : List Step :=
  [.default, .cluster, .specialCard]

/-- The first `count` steps of a run. -/
def sequence (count : Nat) : List Step :=
  (List.range count).map fun n => Nat.repeat next n initial

end Step

end NewsFeed
