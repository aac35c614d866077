/-
A run returns.

The one thing in a run that may not return is the number of inline articles of a block, since it
comes from a normal draw.  If that number settles on a tape, so does every part of a run, and with
them the run: its loop is bounded by its iterations.

* `settles_inlineCount` — the number settles on a tape if it comes out at every place of it;
* `settles_perform` — one step returns;
* `make_settles` — a run returns.
-/
import NewsFeed.Proofs.Draws
import NewsFeed.Run

namespace NewsFeed

variable {settings : Settings} {tape : Tape}

namespace Block

theorem keeps_inlineCount (settings : Settings) : Draw.Keeps (inlineCount settings) :=
  Draw.keeps_normal.bind fun _ => Draw.Keeps.pure _

/-- The number of inline articles settles if it comes out at every place of the tape. -/
theorem settles_inlineCount
    (h : ∀ tape', tape.Along tape' → (inlineCount settings tape').isSome = true) :
    Draw.Settles tape (inlineCount settings) := by
  intro tape' halong
  obtain ⟨⟨count, tape''⟩, hcount⟩ := Option.isSome_iff_exists.mp (h tape' halong)
  exact ⟨count, tape'', hcount, halong.trans (keeps_inlineCount settings hcount)⟩

theorem settles_pickByWeight (signals : Signals) (settings : Settings)
    (eligible : List Candidate) : Draw.Settles tape (pickByWeight signals settings eligible) := by
  refine (Draw.settles_pick tape _ _).bind fun result => ?_
  cases result <;> exact Draw.Settles.pure tape _

theorem settles_tryDiscovery (signals : Signals) (settings : Settings)
    (eligible : List Candidate) : Draw.Settles tape (tryDiscovery signals settings eligible) := by
  refine (Draw.settles_coin tape _).bind fun heads => ?_
  cases heads with
  | false => exact Draw.Settles.pure tape _
  | true =>
    refine (Draw.settles_pick tape _ _).bind fun result => ?_
    cases result <;> exact Draw.Settles.pure tape _

theorem settles_pickInline (signals : Signals) (settings : Settings)
    (eligible : List Candidate) : Draw.Settles tape (pickInline signals settings eligible) := by
  refine (settles_tryDiscovery signals settings eligible).bind fun discovery => ?_
  cases discovery with
  | some found => exact Draw.Settles.pure tape _
  | none =>
    refine (settles_pickByWeight signals settings eligible).bind fun drawn => ?_
    cases drawn <;> exact Draw.Settles.pure tape _

theorem settles_fillSlots (signals : Signals) (settings : Settings) (slots : ℕ)
    (eligible : List Candidate) :
    Draw.Settles tape (fillSlots signals settings slots eligible) := by
  induction slots generalizing eligible with
  | zero => exact Draw.Settles.pure tape _
  | succ slots ih =>
    rw [fillSlots]
    split
    · exact Draw.Settles.pure tape _
    refine (settles_pickInline signals settings eligible).bind fun slot => ?_
    cases slot with
    | none => exact Draw.Settles.pure tape _
    | some found => exact (ih found.2.2).bind fun _ => Draw.Settles.pure tape _

variable (hcount : Draw.Settles tape (inlineCount settings))
include hcount

theorem settles_generate (snapshot : Snapshot) (scope : Scope) :
    Draw.Settles tape (generate snapshot scope settings) := by
  unfold generate
  dsimp only
  split
  · exact Draw.Settles.pure tape _
  refine hcount.bind fun count => ?_
  refine (settles_pickByWeight _ settings _).bind fun drawn => ?_
  cases drawn with
  | none => exact Draw.Settles.pure tape _
  | some found =>
    exact (settles_fillSlots _ settings count found.2).bind fun _ => Draw.Settles.pure tape _

end Block

theorem Card.settles_generate (snapshot : Snapshot) (iteration : ℕ) (settings : Settings) :
    Draw.Settles tape (generate snapshot iteration settings) := by
  unfold generate
  split
  · exact Draw.Settles.pure tape _
  refine (Draw.settles_coin tape _).bind fun heads => ?_
  cases heads <;> exact Draw.Settles.pure tape _

variable (hcount : Draw.Settles tape (Block.inlineCount settings))
include hcount

theorem Cluster.settles_generateRandom (snapshot : Snapshot) :
    Draw.Settles tape (generateRandom snapshot settings) := by
  refine (Draw.settles_pick tape _ _).bind fun result => ?_
  cases result with
  | error cause => exact Draw.Settles.pure tape _
  | ok picked =>
    refine (Block.settles_generate hcount snapshot _).bind fun made => ?_
    dsimp only
    split <;> exact Draw.Settles.pure tape _

namespace Run

theorem settles_perform (step : Step) (iteration : ℕ) (snapshot : Snapshot) :
    Draw.Settles tape (perform step iteration snapshot settings) := by
  cases step
  case opening => exact (Block.settles_generate hcount _ _).bind fun _ => Draw.Settles.pure tape _
  case topNews => exact (Block.settles_generate hcount _ _).bind fun _ => Draw.Settles.pure tape _
  case default => exact (Block.settles_generate hcount _ _).bind fun _ => Draw.Settles.pure tape _
  case cluster =>
    exact (Cluster.settles_generateRandom hcount _).bind fun _ => Draw.Settles.pure tape _
  case specialCard =>
    exact (Card.settles_generate _ _ settings).bind fun _ => Draw.Settles.pure tape _

theorem Progress.settles_finish (iterations : ℕ) (progress : Progress) :
    Draw.Settles tape (finish settings iterations progress) := by
  induction iterations generalizing progress with
  | zero => exact Draw.Settles.pure tape _
  | succ iterations ih =>
    rw [finish]
    split
    · have hadvance : Draw.Settles tape (progress.advance settings) :=
        (settles_perform hcount _ _ _).bind fun _ => Draw.Settles.pure tape _
      exact hadvance.bind ih
    · exact Draw.Settles.pure tape _

/-- A run returns if its normal draws do. -/
theorem make_settles (snapshot : Snapshot) : Draw.Settles tape (make snapshot settings) :=
  Progress.settles_finish hcount _ _

end Run

end NewsFeed
