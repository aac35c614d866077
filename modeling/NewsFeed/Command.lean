/-
The program: a feed from a request.

The settings come from the environment, to which a file of assignments adds; the request is read
from a file or from standard input; the run is written as a document. Mistakes are reported in the
order settings for feeds, settings for signals, reading, request. Variables and arguments that are
not text are not reported: the program aborts when it meets one.

`Command.outcome` says what the program does with what it finds. It does not depend on how that was
found, and so can be reasoned about without it.
-/
import NewsFeed.Run
import NewsFeed.Assignments
import NewsFeed.FeedError
import NewsFeed.Json.Document
import NewsFeed.Report
import NewsFeed.Request

namespace NewsFeed

open Time (Instant)

/-- Where the request is read from. -/
inductive Input where
  | file (path : String)
  | stream
  deriving DecidableEq, Repr

/-- Why the request cannot be read. -/
inductive ReadFault where
  | missing
  | forbidden
  | notDirectory
  | isDirectory
  | nameTooLong
  /-- What was read is not UTF-8. -/
  | notText
  /-- Another error of the system, by its number. -/
  | other (code : Nat)
  deriving DecidableEq, Repr

namespace ReadFault

/-- A message of the system with its number. -/
def system (text : String) (code : Nat) : String :=
  text ++ " (os error " ++ toString code ++ ")"

/-- The wording of a fault. -/
def message : ReadFault → String
  | .missing => system "No such file or directory" 2
  | .forbidden => system "Permission denied" 13
  | .notDirectory => system "Not a directory" 20
  | .isDirectory => system "Is a directory" 21
  | .nameTooLong => system "File name too long" 36
  | .notText => "stream did not contain valid UTF-8"
  | .other code => system "Input/output error" code

end ReadFault

/-- What the program does. -/
inductive Outcome where
  /-- It prints a document. -/
  | printed (document : String)
  /-- It reports an error. -/
  | refused (report : Report)
  /-- It stops without a report. This happens when a variable or an argument is not text, when an
  assignment gives a variable a value that it cannot have, and when the settings ask for a moment
  outside of the range of time. -/
  | aborted
  deriving DecidableEq, Repr

namespace Outcome

/-- The exit code. -/
def exitCode : Outcome → UInt8
  | .printed _ => 0
  | .refused _ => 1
  | .aborted => 101

/-- What goes to standard output. -/
def output : Outcome → String
  | .printed document => document ++ "\n"
  | _ => ""

/-- The report, if there is one. -/
def report? : Outcome → Option Report
  | .refused report => some report
  | _ => none

end Outcome

/-- The causes that a report lists for an error: the error, and the same without its heading where
it stems from another. -/
def FeedError.causes (error : FeedError) : List String :=
  match error with
  | .environment cause => [error.message, cause.message]
  | .snapshot cause => [error.message, cause.message]
  | _ => [error.message]

namespace Command

/-- The settings of the environment. -/
def settings (environment : Environment) : Attempt Report (Settings × SignalSettings) := do
  let feed ← (Settings.ofEnvironment environment).adapt fun error =>
    { context := "Failed to load feed config", causes := error.causes }
  let signals ← environment.signalSettings.adapt fun fault =>
    { context := "Failed to load signals config", causes := (FeedError.environment fault).causes }
  return (feed, signals)

/-- Where the arguments say that the request is. The program itself comes first among them. What is
not text is none, and so is the answer if there is such an argument up to the one that matters. -/
def input? : (arguments : List (Option String)) → Option Input
  | none :: _ | some _ :: none :: _ => none
  | some _ :: some path :: _ => some (.file path)
  | [] | [some _] => some .stream

/-- The text of a request. -/
def text (input : Input) (content : Except ReadFault ByteArray) : Except Report String :=
  let refuse (fault : ReadFault) : Report :=
    { context := match input with
        | .file path => "Failed to read snapshot " ++ path
        | .stream => "Failed to read snapshot from stdin"
      causes := [fault.message] }
  match content with
  | .error fault => .error (refuse fault)
  | .ok bytes => ((String.fromUTF8? bytes).map .ok).getD (.error (refuse .notText))

/-- The request in a text. -/
def request (text : String) : Except Report Request :=
  (Json.readText Request.reader text).mapError fun problem =>
    { context := "Invalid snapshot JSON", causes := [problem.message] }

/-- Makes the feed of a request. Draws start at the seed of the settings, or else at `entropy`. -/
def make (settings : Settings) (signalSettings : SignalSettings) (now : Instant)
    (entropy : UInt64) (request : Request) : Outcome :=
  match request.complete? signalSettings now with
  | none => .aborted
  | some snapshot =>
    match Builder.new settings entropy with
    | .error fault => .refused { context := (FeedError.settings fault).message, causes := [] }
    | .ok builder =>
      match builder.build snapshot with
      | none => .aborted
      | some (run, _) => .printed run.toJson.write

/-- What the program finds. -/
structure Surroundings where
  /-- The variables of the process. -/
  inherited : Environment
  /-- The file of assignments, if there is one. -/
  assignments : Option ByteArray
  /-- The words of the command line. A word that is not text is none. -/
  arguments : List (Option String)
  /-- What can be read where the request is. -/
  content : Except ReadFault ByteArray
  now : Instant
  /-- Where draws start if they need not be reproducible. -/
  entropy : UInt64

/-- The variables with the assignments, if these can be made. -/
def environment? (inherited : Environment) (assignments : Option ByteArray) :
    Option Environment :=
  match assignments with
  | some file => inherited.withAssignments file
  | none => some inherited

/-- What the program does once it has settings. -/
def answer (surroundings : Surroundings) (settings : Settings) (signalSettings : SignalSettings) :
    Attempt Report Outcome := do
  let input ← input? surroundings.arguments
  let request ← request (← text input surroundings.content)
  return make settings signalSettings surroundings.now surroundings.entropy request

/-- What the program does, or why it refuses. Without either of them it aborts. -/
def attempt (surroundings : Surroundings) : Attempt Report Outcome := do
  let environment ← environment? surroundings.inherited surroundings.assignments
  let (settings, signalSettings) ← settings environment
  answer surroundings settings signalSettings

/-- What the program does. -/
def outcome (surroundings : Surroundings) : Outcome :=
  match (attempt surroundings).run with
  | none => .aborted
  | some (.error report) => .refused report
  | some (.ok outcome) => outcome

end Command

end NewsFeed
