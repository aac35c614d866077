import NewsFeed.Main
import NewsFeed.Proofs.Extended
import NewsFeed.Proofs.Rounding
import NewsFeed.Proofs.Arithmetic
import NewsFeed.Proofs.Bits
import NewsFeed.Proofs.Picks
import NewsFeed.Proofs.Draws
import NewsFeed.Proofs.Points
import NewsFeed.Proofs.Verdicts
import NewsFeed.Proofs.Wheels
import NewsFeed.Proofs.Blocks
import NewsFeed.Proofs.Runs
import NewsFeed.Proofs.Conservation
import NewsFeed.Proofs.Admission
import NewsFeed.Proofs.Returning
import NewsFeed.Proofs.Draining
import NewsFeed.Proofs.Stopping
import NewsFeed.Proofs.Accounting
import NewsFeed.Proofs.Pacing
import NewsFeed.Proofs.Arrangement
import NewsFeed.Proofs.Yielding
import NewsFeed.Proofs.Cards
import NewsFeed.Proofs.Derived
import NewsFeed.Proofs.Irrelevance
import NewsFeed.Proofs.Truncation
import NewsFeed.Proofs.Scores
import NewsFeed.Proofs.Scaling
import NewsFeed.Proofs.Ratios
import NewsFeed.Proofs.Sums
import NewsFeed.Proofs.Projection
import NewsFeed.Proofs.Weighing
import NewsFeed.Proofs.Bounds
import NewsFeed.Proofs.Variables
import NewsFeed.Proofs.Endings
import NewsFeed.Proofs.Removing
import NewsFeed.Proofs.Pieces
import NewsFeed.Proofs.Places
import NewsFeed.Proofs.Frames
import NewsFeed.Proofs.Dividing
import NewsFeed.Proofs.Counting
import NewsFeed.Proofs.Entries
import NewsFeed.Proofs.Shares
import NewsFeed.Proofs.Reaching
import NewsFeed.Proofs.Bytes
import NewsFeed.Proofs.Precedence
import NewsFeed.Proofs.Calendar
import NewsFeed.Proofs.Stamps
import NewsFeed.Proofs.Forms
import NewsFeed.Proofs.Wholes
import NewsFeed.Proofs.Finite
import NewsFeed.Proofs.Numerals
import NewsFeed.Proofs.FiniteText
import NewsFeed.Proofs.RoundTrip
import NewsFeed.Proofs.Lengths
import NewsFeed.Proofs.Ageing
import NewsFeed.Proofs.Assumed
import NewsFeed.Proofs.Misreadings
import NewsFeed.Proofs.Capitals
import NewsFeed.Proofs.Insertions
import NewsFeed.Proofs.Numbered
import NewsFeed.Proofs.Canonical
import NewsFeed.Proofs.Keys
