/-
Counts of visits.

Every count is the number of visits, or the greatest count if there are more (`capped`).  What has
been cut off never matters again: a capped sum that is added to and capped is the capped sum of all
(`capped_add_capped`).  So every count has a closed form, in which neither the order of a history
nor that of the publishers stands.

* `get?_visitsByHost` — the count of a host is the number of entries with that host;
* `counts_ofPublishers` — the totals are sums over the publishers.
-/
import Mathlib.Algebra.BigOperators.Group.List.Basic
import Mathlib.Tactic.Ring
import NewsFeed.Visits

namespace NewsFeed

/-! ### Capped numbers -/

/-- What is counted of a number of visits. -/
def capped (visits : ℕ) : ℕ :=
  min visits mostVisits

theorem capped_add_capped (m n : ℕ) : capped (capped m + n) = capped (m + n) := by
  unfold capped
  omega

theorem capped_toNat (n : UInt32) : capped n.toNat = n.toNat := by
  have hlt : n.toNat < 2 ^ 32 := n.toNat_lt
  unfold capped mostVisits
  omega

theorem one_le_capped {n : ℕ} (h : 1 ≤ n) : 1 ≤ capped n := by
  unfold capped mostVisits
  omega

theorem capped_mono {m n : ℕ} (h : m ≤ n) : capped m ≤ capped n := by
  unfold capped
  omega

theorem toNat_ofNat_capped (n : ℕ) : (UInt32.ofNat (capped n)).toNat = capped n := by
  rw [UInt32.toNat_ofNat']
  unfold capped mostVisits
  omega

theorem ofNat_capped_eq {n : UInt32} {m : ℕ} (h : n.toNat = capped m) :
    UInt32.ofNat (capped m) = n :=
  UInt32.toNat_inj.mp ((toNat_ofNat_capped m).trans h.symm)

/-! ### Visits by key -/

namespace Visits

/-- The visits counted to a key. -/
def count (visits : Visits) (key : String) : ℕ :=
  ((visits.get? key).getD 0).toNat

theorem get?_add (visits : Visits) (key key' : String) (count : UInt32) :
    (visits.add key count).get? key' =
      if key = key' then some (UInt32.ofNat (capped (visits.count key' + count.toNat)))
      else visits.get? key' := by
  rw [add, Dict.get?_insert]
  split_ifs with h
  · subst h
    exact congrArg some (ofNat_capped_eq (toNat_addVisits _ _)).symm
  · rfl

theorem count_add (visits : Visits) (key key' : String) (count : UInt32) :
    (visits.add key count).count key' =
      capped (visits.count key' + if key = key' then count.toNat else 0) := by
  rw [Visits.count, get?_add]
  split_ifs with h
  · rw [Option.getD_some, toNat_ofNat_capped]
  · rw [add_zero, Visits.count, capped_toNat]

/-- Adding visits one by one. -/
theorem get?_foldl_add (hosts : List String) (visits : Visits) (key : String) :
    (hosts.foldl (fun visits host => visits.add host 1) visits).get? key =
      if hosts.count key = 0 then visits.get? key
      else some (UInt32.ofNat (capped (visits.count key + hosts.count key))) := by
  induction hosts generalizing visits with
  | nil => rfl
  | cons host hosts ih =>
    rw [List.foldl_cons, ih, get?_add, count_add, List.count_cons, capped_add_capped]
    by_cases hhost : host = key
    · by_cases hcount : hosts.count key = 0
      · simp [hhost, hcount]
      · simp [hhost, hcount, Nat.add_assoc, Nat.add_comm 1]
    · simp [hhost]

end Visits

/-- The entries of a history with a host. -/
def entriesWith (history : List String) (host : String) : ℕ :=
  history.countP fun entry => hostOf entry = some host

/-- A host has the count of its entries in the history, if there is one. -/
theorem get?_visitsByHost (history : List String) (host : String) :
    (visitsByHost history).get? host =
      if entriesWith history host = 0 then none
      else some (UInt32.ofNat (capped (entriesWith history host))) := by
  have hcount : (history.filterMap hostOf).count host = entriesWith history host := by
    rw [List.count_eq_countP, List.countP_filterMap, entriesWith]
    refine List.countP_congr fun entry _ => ?_
    cases hostOf entry <;> simp
  rw [visitsByHost, Visits.get?_foldl_add, hcount, Dict.get?_empty]
  split_ifs with h
  · rfl
  · rw [show (∅ : Visits).count host = 0 from rfl, Nat.zero_add]

/-- A history counts the same in any order. -/
theorem visitsByHost_perm {history history' : List String} (h : history.Perm history') :
    visitsByHost history = visitsByHost history' := by
  refine Dict.ext_get? fun host => ?_
  rw [get?_visitsByHost, get?_visitsByHost, entriesWith, h.countP_eq]
  rfl

/-- The visits to a publisher are the entries with its host. -/
theorem visits_visitsByHost (publisher : Publisher) (history : List String) :
    (publisher.visits (visitsByHost history)).toNat =
      ((hostOf publisher.siteUrl).map fun host => capped (entriesWith history host)).getD 0 := by
  rw [Publisher.visits]
  cases hostOf publisher.siteUrl with
  | none => rfl
  | some host =>
    rw [Option.bind_some, get?_visitsByHost, Option.map_some, Option.getD_some]
    split_ifs with h
    · rw [h]
      rfl
    · rw [Option.getD_some, toNat_ofNat_capped]

/-! ### Totals -/

namespace VisitTotals

/-- Whether totals are what is counted of these numbers of visits. -/
structure Counts (totals : VisitTotals) (publishers channels : ℕ) (byChannel : String → ℕ) :
    Prop where
  publishers : totals.publishers.toNat = capped publishers
  channels : totals.channels.toNat = capped channels
  byChannel : ∀ name, totals.byChannel.count name = capped (byChannel name)

variable {totals : VisitTotals} {publishers channels : ℕ} {byChannel : String → ℕ}

theorem Counts.addChannel (h : totals.Counts publishers channels byChannel) (visits : UInt32)
    (channel : String) :
    (totals.addChannel visits channel).Counts publishers (channels + visits.toNat)
      fun name => byChannel name + if channel = name then visits.toNat else 0 where
  publishers := h.publishers
  channels := by
    show (addVisits totals.channels visits).toNat = _
    rw [toNat_addVisits, h.channels]
    exact capped_add_capped _ _
  byChannel := by
    intro name
    show (totals.byChannel.add channel visits).count name = _
    rw [Visits.count_add, h.byChannel, capped_add_capped]

/-- Channels that are listed several times count several times. -/
theorem Counts.foldl_addChannel (h : totals.Counts publishers channels byChannel)
    (visits : UInt32) (names : List String) :
    (names.foldl (VisitTotals.addChannel visits) totals).Counts publishers
      (channels + visits.toNat * names.length)
      fun name => byChannel name + visits.toNat * names.count name := by
  induction names generalizing totals channels byChannel with
  | nil => simpa using h
  | cons first names ih =>
    have hfold := ih (h.addChannel visits first)
    rw [List.foldl_cons]
    convert hfold using 1
    · rw [List.length_cons]
      ring
    · funext name
      rw [List.count_cons]
      by_cases hname : first = name
      · simp [hname]
        ring
      · simp [hname]

/-- What one publisher adds. -/
theorem Counts.addPublisher (h : totals.Counts publishers channels byChannel) (visits : Visits)
    (locale : String) (publisher : Publisher) :
    (totals.addPublisher visits locale publisher).Counts
      (publishers + (publisher.visits visits).toNat)
      (channels + (publisher.visits visits).toNat * (publisher.channelsIn locale).length)
      fun name => byChannel name +
        (publisher.visits visits).toNat * (publisher.channelsIn locale).count name := by
  rw [VisitTotals.addPublisher]
  split_ifs with hzero
  · simpa [hzero] using h
  · -- adding to a total that is at its greatest leaves it there
    have hcount : (addVisits totals.publishers (publisher.visits visits)).toNat =
        capped (publishers + (publisher.visits visits).toNat) := by
      rw [toNat_addVisits, h.publishers]
      exact capped_add_capped _ _
    have hadded : ({ totals with
        publishers := addVisits totals.publishers (publisher.visits visits) } :
          VisitTotals).Counts (publishers + (publisher.visits visits).toNat) channels byChannel :=
      ⟨hcount, h.channels, h.byChannel⟩
    exact hadded.foldl_addChannel _ _

/-- What several publishers add. -/
theorem Counts.foldl_addPublisher (h : totals.Counts publishers channels byChannel)
    (visits : Visits) (locale : String) (order : List Publisher) :
    (order.foldl (VisitTotals.addPublisher visits locale) totals).Counts
      (publishers + (order.map fun publisher => (publisher.visits visits).toNat).sum)
      (channels + (order.map fun publisher =>
        (publisher.visits visits).toNat * (publisher.channelsIn locale).length).sum)
      fun name => byChannel name + (order.map fun publisher =>
        (publisher.visits visits).toNat * (publisher.channelsIn locale).count name).sum := by
  induction order generalizing totals publishers channels byChannel with
  | nil => simpa using h
  | cons first order ih =>
    have hfold := ih (h.addPublisher visits locale first)
    simp only [List.map_cons, List.sum_cons, List.foldl_cons, ← Nat.add_assoc]
    exact hfold

/-- The totals of publishers. -/
theorem counts_ofPublishers (visits : Visits) (locale : String) (order : List Publisher) :
    (ofPublishers visits locale order).Counts
      (1 + (order.map fun publisher => (publisher.visits visits).toNat).sum)
      (1 + (order.map fun publisher =>
        (publisher.visits visits).toNat * (publisher.channelsIn locale).length).sum)
      fun name => (order.map fun publisher =>
        (publisher.visits visits).toNat * (publisher.channelsIn locale).count name).sum := by
  have hstart : ({} : VisitTotals).Counts 1 1 fun _ => 0 := ⟨by decide, by decide, fun _ => rfl⟩
  have hfold := hstart.foldl_addPublisher visits locale order
  simp only [Nat.zero_add] at hfold
  exact hfold

end VisitTotals

end NewsFeed
