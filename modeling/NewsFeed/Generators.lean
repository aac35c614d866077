/-
The parts of a feed: blocks, clusters and special cards, made from what a snapshot has left.

A block is a leading article and some articles below it, drawn from the pool. Candidates are
articles together with their place in the pool, so that equal articles stay apart. A block draws the
number of its inline articles, then its hero by weight, then for each inline slot either a discovery
(an unvisited article, drawn by its score) or an article by weight. The pool keeps the articles
whose places were not taken, in their order. A block is all or nothing about its hero: if no hero
can be drawn, nothing is taken. If an inline article cannot be drawn, the block ends there.

A cluster is a block whose articles all come from one channel. Special cards are adverts, and cards
that suggest publishers.
-/
import NewsFeed.Draw.Lottery
import NewsFeed.Draw.Normal
import NewsFeed.Element
import NewsFeed.Weight

namespace NewsFeed

open Binary64

/-! ### Blocks -/

/-- Which articles of the pool a block may take. -/
inductive Scope where
  | everything
  | channel (name : String)
  deriving DecidableEq, Repr

namespace Scope

/-- The name of a scope. -/
def label : Scope → String
  | .everything => "default"
  | .channel name => "channel:" ++ name

/-- Whether an article is in scope: its publisher has to be known and to list the channel. -/
def admits (scope : Scope) (publishers : Dict Publisher) (article : Article) : Bool :=
  match scope with
  | .everything => true
  | .channel name =>
    match publishers.get? article.publisherId with
    | some publisher => publisher.inChannel name
    | none => false

end Scope

/-- An article at its place in the pool. -/
structure Candidate where
  place : Nat
  article : Article
  deriving DecidableEq, Repr

namespace Candidate

/-- The candidates of a pool. -/
def ofPool (pool : List Article) : List Candidate :=
  pool.zipIdx.map fun (article, place) => { place, article }

/-- What is left of a pool when some places are taken. -/
def left (pool : List Article) (taken : List Nat) : List Article :=
  (ofPool pool).filterMap fun candidate =>
    if candidate.place ∈ taken then none else some candidate.article

end Candidate

namespace Block

/-- Draws how many inline articles a block aims at: a normal draw about the middle of the range,
kept inside of it and rounded. -/
def inlineCount (settings : Settings) : Draw Nat := do
  -- one half is the middle, and two standard deviations reach its ends
  let value := 0.5 + (← Draw.normal) / 4.0
  let count := project value settings.blockMinInline.toFloat settings.blockMaxInline.toFloat
  return (nearestWord count).toNat

/-- Draws a candidate by weight and takes it out. -/
def pickByWeight (signals : Signals) (settings : Settings) (eligible : List Candidate) :
    Draw (Option (Candidate × List Candidate)) := do
  match ← Draw.pick eligible (fun candidate => candidate.article.weight signals settings) with
  | .ok picked => return some picked
  | .error _ => return none

/-- Draws an unvisited candidate by score and takes it out. -/
def pickDiscovery (signals : Signals) (eligible : List Candidate) :
    Draw (Option (Candidate × List Candidate)) := do
  let unvisited := eligible.filter fun candidate => candidate.article.isUnvisited signals
  match ← Draw.pick unvisited (fun candidate => candidate.article.score) with
  | .ok (picked, _) =>
    -- picked among the unvisited candidates, and taken out of all of them
    return some (picked, eligible.filter fun candidate => candidate.place ≠ picked.place)
  | .error _ => return none

/-- Draws a discovery if a coin asks for one. -/
def tryDiscovery (signals : Signals) (settings : Settings) (eligible : List Candidate) :
    Draw (Option (Candidate × List Candidate)) := do
  if ← Draw.coin settings.inlineDiscoveryRatio then pickDiscovery signals eligible
  else return none

/-- Fills one inline slot: the candidate, whether it is a discovery, and the other candidates. A
discovery that cannot be drawn gives way to a draw by weight. -/
def pickInline (signals : Signals) (settings : Settings) (eligible : List Candidate) :
    Draw (Option (Candidate × Bool × List Candidate)) := do
  match ← tryDiscovery signals settings eligible with
  | some (picked, others) => return some (picked, true, others)
  | none =>
    match ← pickByWeight signals settings eligible with
    | some (picked, others) => return some (picked, false, others)
    | none => return none

/-- Fills up to `slots` inline slots. -/
def fillSlots (signals : Signals) (settings : Settings) :
    (slots : Nat) → List Candidate → Draw (List (Candidate × Bool))
  | 0, _ => return []
  | slots + 1, eligible => do
    if eligible.isEmpty then return []
    match ← pickInline signals settings eligible with
    | some (picked, isDiscover, others) =>
      return (picked, isDiscover) :: (← fillSlots signals settings slots others)
    | none => return []

/-- The candidates in scope. -/
def candidates (snapshot : Snapshot) (scope : Scope) : List Candidate :=
  (Candidate.ofPool snapshot.articles).filter fun candidate =>
    scope.admits snapshot.publishers candidate.article

/-- The block of a hero and inline articles, and the snapshot without them. -/
def assemble (snapshot : Snapshot) (hero : Candidate) (inlines : List (Candidate × Bool)) :
    List ArticleElement × Snapshot :=
  let elements := .hero hero.article ::
    inlines.map fun (candidate, isDiscover) => .inline candidate.article isDiscover
  let taken := hero.place :: inlines.map fun (candidate, _) => candidate.place
  (elements, { snapshot with articles := Candidate.left snapshot.articles taken })

/-- Draws a block from the articles in scope: its elements, and the snapshot without the articles
taken. Without an article in scope nothing is drawn. -/
def generate (snapshot : Snapshot) (scope : Scope) (settings : Settings) :
    Draw (List ArticleElement × Snapshot) := do
  let eligible := candidates snapshot scope
  if eligible.isEmpty then return ([], snapshot)
  let count ← inlineCount settings
  match ← pickByWeight snapshot.signals settings eligible with
  | none => return ([], snapshot)
  | some (hero, others) =>
    let inlines ← fillSlots snapshot.signals settings count others
    return assemble snapshot hero inlines

end Block

/-! ### Clusters -/

namespace Cluster

/-- Makes a cluster of a channel's articles; none if no block can be drawn from them. -/
def generate (snapshot : Snapshot) (channel : String) (settings : Settings) :
    Draw (Option Element × Snapshot) := do
  let (elements, snapshot) ← Block.generate snapshot (.channel channel) settings
  if elements.isEmpty then return (none, snapshot)
  return (some (.cluster (.channel channel) elements), snapshot)

/-- Draws a channel by weight and makes a cluster of it. -/
def generateRandom (snapshot : Snapshot) (settings : Settings) :
    Draw (Option Element × Snapshot) := do
  let weigh (channel : Channel) := channel.weight snapshot.signals settings
  match ← Draw.pick snapshot.channels weigh with
  | .ok (channel, _) => generate snapshot channel.name settings
  | .error _ => return (none, snapshot)

end Cluster

/-! ### Special cards -/

namespace Card

/-- Whether a special card is due at an iteration. -/
def isDue (settings : Settings) (iteration : Nat) : Bool :=
  settings.specialCardEveryN ≠ 0 && iteration % settings.specialCardEveryN.toNat = 0

/-- Makes a special card if one is due. A coin decides between an advert and a discover card, which
takes publishers from the front of the suggestions, as many as it may carry. -/
def generate (snapshot : Snapshot) (iteration : Nat) (settings : Settings) :
    Draw (Option Element × Snapshot) := do
  if !isDue settings iteration then return (none, snapshot)
  if ← Draw.coin settings.adsToDiscoverRatio then return (some .advert, snapshot)
  let size := settings.discoverCardSize.toNat
  return (some (.discover (snapshot.suggested.take size)),
    { snapshot with suggested := snapshot.suggested.drop size })

end Card

end NewsFeed
