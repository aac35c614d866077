/-
Reports of errors for people: what could not be done, and below it the causes, outermost first.
-/
namespace NewsFeed

/-- What could not be done, and why. -/
structure Report where
  context : String
  /-- The causes, outermost first. -/
  causes : List String
  deriving DecidableEq, Repr

namespace Report

/-- A text with `indent` after each line break. -/
def indented (indent text : String) : String :=
  ("\n" ++ indent).intercalate (text.splitOn "\n")

/-- The only cause. -/
def writeCause (cause : String) : String :=
  "\n    " ++ indented "    " cause

/-- One of several causes, with its number. -/
def writeNumbered (number : Nat) (cause : String) : String :=
  let digits := toString number
  "\n" ++ "".pushn ' ' (5 - digits.length) ++ digits ++ ": " ++ indented "       " cause

/-- A report as text. -/
def write (report : Report) : String :=
  let causes := match report.causes with
    | [] => ""
    | [cause] => "\n\nCaused by:" ++ writeCause cause
    | causes =>
      "\n\nCaused by:" ++
        String.join (causes.zipIdx.map fun (cause, number) => writeNumbered number cause)
  "Error: " ++ report.context ++ causes

end Report

end NewsFeed
