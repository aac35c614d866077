/-
The command line: finds out what `Command.outcome` needs to know, and does what it says.
-/
import NewsFeed.Command
import Std.Time.DateTime

namespace NewsFeed.CommandLine

/-- The variables of the process. -/
def inherited : IO Environment := do
  let block ← try IO.FS.readBinFile "/proc/self/environ" catch _ => pure .empty
  return Environment.ofBlock block.toList

/-- The words of the command line, as the system lists them. If the program has been started by
another one, they come last. -/
def arguments (args : List String) : IO (List (Option String)) := do
  let block ← try IO.FS.readBinFile "/proc/self/cmdline" catch _ => pure .empty
  let words := (Text.split (· = 0) block.toList).dropLast
  -- the words cannot be read, so those that the runtime gives must do
  if words.length ≤ args.length then return some "" :: args.map some
  else return (words.drop (words.length - args.length - 1)).map Text.ofBytes?

/-- The first of the paths, seen from this directory, at which there is a file. The search ends at a
path that the system refuses to look at. -/
def firstFile : (paths : List String) → IO (Option ByteArray)
  | [] => return none
  | path :: paths => do
    let place := (← IO.currentDir) / path
    match ← place.metadata.toBaseIO with
    | .ok metadata =>
      if metadata.type == .file then return some (← IO.FS.readBinFile place) else firstFile paths
    | .error (.noFileOrDirectory ..) => firstFile paths
    | .error _ => return none

/-- The file of assignments in this directory or in the nearest one above it. -/
def assignments : IO (Option ByteArray) := do
  try
    -- the directories from this one up to the root
    let depth := ((← IO.currentDir).toString.splitOn "/").length
    firstFile <| (List.range depth).map fun n => String.join (List.replicate n "../") ++ ".env"
  catch _ => return none

/-- The fault with a number of the system, which may come with its sign turned. -/
def faultOfCode (code : UInt32) : ReadFault :=
  match (if code < 0x80000000 then code else 0 - code).toNat with
  | 2 => .missing
  | 13 => .forbidden
  | 20 => .notDirectory
  | 21 => .isDirectory
  | 36 => .nameTooLong
  | number => .other number

/-- What an error of the system says about reading. -/
def readFault : IO.Error → ReadFault
  | .noFileOrDirectory .. => .missing
  | .permissionDenied .. => .forbidden
  | .inappropriateType _ code _ | .invalidArgument _ code _ | .otherError code _
  | .resourceExhausted _ code _ | .hardwareFault code _ => faultOfCode code
  | _ => .other 5

/-- What can be read from an input. -/
def content : Input → IO (Except ReadFault ByteArray)
  | .file path => do
    try return .ok (← IO.FS.readBinFile path) catch error => return .error (readFault error)
  | .stream => do
    try return .ok (← (← IO.getStdin).readBinToEnd) catch error => return .error (readFault error)

/-- The present moment. -/
def now : IO (Option Time.Instant) := do
  return Time.Instant.ofNanos? (← Std.Time.Timestamp.now).toNanosecondsSinceUnixEpoch.val

/-- A word that nobody can foresee. -/
def entropy : IO UInt64 := do
  return (← IO.getRandomBytes 8).toUInt64LE!

/-- Does what an outcome says. -/
def finish (outcome : Outcome) : IO UInt32 := do
  (← IO.getStdout).putStr outcome.output
  if let some report := outcome.report? then IO.eprintln report.write
  return outcome.exitCode.toUInt32

end NewsFeed.CommandLine

open NewsFeed CommandLine in
/-- The program. The settings are checked before anything is read. -/
def main (args : List String) : IO UInt32 := do
  let inherited ← inherited
  let assignments ← assignments
  let arguments ← arguments args
  let attempt : Attempt Report Input := do
    let _ ← Command.settings (← Command.environment? inherited assignments)
    Command.input? arguments
  match attempt.run with
  | none => finish .aborted
  | some (.error report) => finish (.refused report)
  | some (.ok input) =>
    match ← now with
    | none => finish .aborted
    | some now =>
      finish <| Command.outcome
        { inherited, assignments, arguments, content := ← content input, now, entropy := ← entropy }
