/-
Settings from the environment.

The variables whose names start with a lead, such as `FEED_`, stand for the fields of a record: the
lead is taken off, as often as it is repeated, and the rest is compared with the field names in
lower case. Variables that belong to no field are ignored. They are met in the order in which the
environment lists them, and the first that cannot be used is reported.

Names and values are bytes to the system, which need not be text. The reading has no result at all
if it meets a variable that is not text, whatever its name.
-/
import NewsFeed.Decimal.Reading
import NewsFeed.Settings
import NewsFeed.Text.Basic

namespace NewsFeed

open Json (Fields Slots Lookup Scalars)

/-- A computation that may be refused with a fault, and that may have no result at all. -/
abbrev Attempt (ε α : Type) : Type :=
  ExceptT ε Option α

/-- A variable as it is listed. What is not text, the name or the value, is none. -/
structure Environment.Entry where
  name : Option String
  value : Option String
  deriving DecidableEq, Repr

/-- Variables with their values, in the order in which they are listed. -/
structure Environment where
  entries : List Environment.Entry := []
  deriving DecidableEq, Repr

/-- Why the environment is refused. -/
inductive EnvironmentFault where
  /-- A value that its field does not take. The name is the one without the lead. -/
  | badValue (name value : String) (defect : Decimal.Defect)
  /-- Two variables for one field. -/
  | repeated (field : String)
  /-- No variable for a field that has to be given. -/
  | missing (field : String)
  deriving DecidableEq, Repr

/-- The wording of a fault. -/
def EnvironmentFault.message : EnvironmentFault → String
  | .badValue name value defect =>
    defect.message ++ " while parsing value '" ++ value ++ "' provided by " ++ name
  | .repeated field => "duplicate field `" ++ field ++ "`"
  | .missing field => "missing value for field " ++ field

/-- A reader of the value of a variable. -/
def Variable (α : Type) : Type :=
  String → Except Decimal.Defect α

instance : Scalars Variable where
  text value := .ok value
  float := Decimal.readFloat
  natural _ value := (Decimal.readNatural 18446744073709551615 value).map UInt64.ofNat
  integer value := (Decimal.readInteger 9223372036854775807 value).map Int64.ofInt
  option read value := (read value).map some

namespace Environment

/-- Reads a variable as the system keeps it: the name, an equals sign and the value. The name is not
empty, so that it may start with an equals sign. -/
def Entry.ofBytes? : List UInt8 → Option Entry
  | [] => none
  | first :: rest =>
    let isSign (b : UInt8) := b = '='.toUInt8
    if rest.any isSign then
      some
        { name := Text.ofBytes? (first :: rest.takeWhile (!isSign ·))
          value := Text.ofBytes? ((rest.dropWhile (!isSign ·)).drop 1) }
    else none

/-- The variables in a block of memory, in which a zero byte stands behind each. -/
def ofBlock (bytes : List UInt8) : Environment where
  entries := (Text.split (· = 0) bytes).filterMap Entry.ofBytes?

/-- The name and the value, if both are text. -/
def Entry.texts? (entry : Entry) : Option (String × String) :=
  match entry with
  | ⟨some name, some value⟩ => some (name, value)
  | _ => none

/-- The value of a variable, if there is one and it is text. -/
def get? (environment : Environment) (name : String) : Option String :=
  (environment.entries.find? (·.name = some name)).bind (·.value)

/-- Gives a variable a value, in its place or else behind the others. -/
def setEntry (name value : String) : List Entry → List Entry
  | [] => [⟨name, value⟩]
  | entry :: rest =>
    if entry.name = some name then ⟨name, value⟩ :: rest else entry :: setEntry name value rest

/-- Gives a variable a value. -/
def set (environment : Environment) (name value : String) : Environment where
  entries := setEntry name value environment.entries

/-- Takes `lead` off the front of `chars` if it stands there. -/
def dropLead (lead chars : List Char) : List Char :=
  if lead <+: chars then chars.drop lead.length else chars

/-- Takes `lead` off the front of `chars` as often as it stands there. -/
def withoutLead (lead chars : List Char) : List Char :=
  Nat.repeat (dropLead lead) chars.length chars

/-- The name without its lead, for a variable that has it. -/
def bareName? (lead name : String) : Option String :=
  if lead.toList <+: name.toList then some (String.ofList (withoutLead lead.toList name.toList))
  else none

/-- A letter in lower case, as far as field names are concerned: the Kelvin sign counts as a `K`. -/
def lower (c : Char) : Char :=
  if c.toNat = 0x212a then 'k' else c.toLower

/-- Reads one variable into the slot of its field. -/
def addVariable (lead : String) {τs : List Type} (fields : Fields Variable τs) (slots : Slots τs)
    (name value : String) : Except EnvironmentFault (Slots τs) :=
  match bareName? lead name with
  | none => .ok slots
  | some name =>
    let field := String.ofList (name.toList.map lower)
    match fields.lookup field slots with
    | .unknown => .ok slots
    -- the value is not looked at
    | .repeated => .error (.repeated field)
    | .fill read put =>
      match read value with
      | .ok value => .ok (put value)
      | .error defect => .error (.badValue name value defect)

/-- Reads variables into the slots of their fields, one after the other. -/
def addEntries (lead : String) {τs : List Type} (fields : Fields Variable τs) :
    List Entry → Slots τs → Attempt EnvironmentFault (Slots τs)
  | [], slots => return slots
  | entry :: rest, slots => do
    let (name, value) ← entry.texts?
    addEntries lead fields rest (← addVariable lead fields slots name value)

/-- Reads the fields of a record. -/
def values (environment : Environment) (lead : String) {τs : List Type}
    (fields : Fields Variable τs) : Attempt EnvironmentFault (Json.Values τs) := do
  let slots ← addEntries lead fields environment.entries (Slots.blank τs)
  ofExcept (fields.complete (fun _ name => .missing name) 0 slots)

/-- The settings for feeds, unchecked. -/
def settings (environment : Environment) : Attempt EnvironmentFault Settings :=
  Settings.ofValues <$> environment.values "FEED_" Settings.fields

/-- The settings for signals. -/
def signalSettings (environment : Environment) : Attempt EnvironmentFault SignalSettings :=
  SignalSettings.ofValues <$> environment.values "FEED_SIGNALS_" SignalSettings.fields

end Environment

end NewsFeed
