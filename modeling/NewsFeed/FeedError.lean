/-
Everything that can be wrong with what the library is given, with the wording of each mistake.
-/
import NewsFeed.Draw.Lottery
import NewsFeed.Environment

namespace NewsFeed

/-- Why a request cannot be met. -/
inductive FeedError where
  /-- Nothing can be picked. -/
  | pick (cause : PickError)
  /-- The settings break a rule. -/
  | settings (cause : SettingsFault)
  /-- The environment holds a value that cannot be used. -/
  | environment (cause : EnvironmentFault)
  /-- A value does not have the form that its type asks for. -/
  | snapshot (cause : Json.Problem)
  deriving DecidableEq, Repr

/-- The wording of a failed pick. -/
def PickError.message : PickError → String
  | .noCandidates => "Cannot sample from an empty candidate set"
  | .zeroTotal => "All candidate weights are zero"
  | .badWeight weight => "Invalid weight: " ++ Decimal.Layout.message.write weight

/-- The wording of an error. -/
def FeedError.message : FeedError → String
  | .pick cause => cause.message
  | .settings cause => "Invalid config: " ++ cause.message
  | .environment cause => "Config error: " ++ cause.message
  | .snapshot cause => "Snapshot error: " ++ cause.message

namespace Settings

/-- The settings for feeds that the environment asks for, once they are checked. -/
def ofEnvironment (environment : Environment) : Attempt FeedError Settings := do
  let settings ← environment.settings.adapt FeedError.environment
  ofExcept (settings.check.mapError FeedError.settings)
  return settings

end Settings

end NewsFeed
