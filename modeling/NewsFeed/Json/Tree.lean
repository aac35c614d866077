/-
Reading from a tree in memory.

Entries of an object are met in the order in which they stand, and the first mistake met is the one
reported; only then are missing fields noticed, in the order of declaration.
-/
import NewsFeed.Json.Source

namespace NewsFeed.Json.Tree

/-- Refuses a value of the wrong shape. -/
def refuse {α : Type} (json : Json) (expected : Expected) : Except Fault α :=
  .error (.wrongType json.found expected)

def bool : Tree Bool
  | _, .bool value => .ok value
  | _, json => refuse json .bool

def string {α : Type} (expected : Expected) (take : String → Except Fault α) : Tree α
  | _, .string value => take value
  | _, json => refuse json expected

def number {α : Type} (expected : Expected) (take : Number → Except Fault α) : Tree α
  | _, .number value => take value
  | _, json => refuse json expected

def option {α : Type} (read : Tree α) : Tree (Option α)
  | _, .null => .ok none
  | setting, json => (read setting json).map some

def list {α : Type} (read : Tree α) : Tree (List α)
  | setting, .array items => items.mapM (read setting)
  | _, json => refuse json .list

/-- Reads one entry of a map into the map read so far. -/
def addEntry {α : Type} (read : Tree α) (setting : Setting) (dict : Dict α)
    (entry : String × Json) : Except Fault (Dict α) :=
  (read setting entry.2).map (dict.insert entry.1)

def dict {α : Type} (read : Tree α) : Tree (Dict α)
  | setting, .object entries => entries.foldlM (addEntry read setting) ∅
  | _, json => refuse json .dict

/-! ### Records -/

/-- Reads one entry of a record into its slot. -/
def addField {τs : List Type} (fields : Fields Tree τs) (setting : Setting) (slots : Slots τs)
    (entry : String × Json) : Except Fault (Slots τs) :=
  match fields.lookup entry.1 slots with
  | .unknown => .ok slots
  | .repeated => .error (.duplicateField entry.1)
  | .fill read put => (read setting entry.2).map put

/-- Reads the elements of an array into the slots in turn. -/
def fillRow (setting : Setting) {τs : List Type} :
    Fields Tree τs → List Json → Except Fault (Slots τs)
  | .nil, _ => .ok ()
  | .cons _ _ _ _, [] => .ok (none, Slots.blank _)
  | .cons _ read _ rest, item :: items =>
    match read setting item with
    | .error fault => .error fault
    | .ok value => (fillRow setting rest items).map fun others => (some value, others)

/-- The complaint about an array with more elements than a record has fields. -/
def excess (setting : Setting) (length size : Nat) : Fault :=
  match setting with
  | .direct => .wrongLength length .fewerElements
  | .setAside => .wrongLength length (.elements size)

def record {α : Type} {τs : List Type} (title : String) (fields : Fields Tree τs)
    (build : Values τs → α) : Tree α
  | setting, .object entries => do
    let slots ← entries.foldlM (addField fields setting) (Slots.blank τs)
    return build (← fields.complete (fun _ name => .missingField name) 0 slots)
  | setting, .array items => do
    let slots ← fillRow setting fields items
    let missing (place : Nat) (_ : String) : Fault :=
      .wrongLength place (.row title fields.size)
    let values ← fields.complete missing 0 slots
    -- values too many are noticed last
    if fields.size < items.length then throw (excess setting items.length fields.size)
    return build values
  | _, json => refuse json (.record title)

/-- A record without fields: anything that looks like one will do. -/
def emptyRecord {α : Type} (value : α) : Tree α
  | _, .array (item :: items) => .error (excess .setAside (item :: items).length 0)
  | _, _ => .ok value

/-! ### Choices -/

/-- The variant of a name. -/
def variant {α : Type} (variants : List (String × α)) (name : String) : Except Fault α :=
  match variants.lookup name with
  | some value => .ok value
  | none => .error (.unknownVariant name (variants.map (·.1)))

/-- The content of a variant that has none: `null`, or in a tree that was set aside an empty
object. -/
def noContent (setting : Setting) (json : Json) : Except Fault Unit :=
  match setting, json with
  | _, .null => .ok ()
  | .setAside, .object [] => .ok ()
  | _, json => refuse json .unit

def choice {α : Type} (variants : List (String × α)) : Tree α
  | _, .string name => variant variants name
  | setting, .object [(name, content)] => do
    let value ← variant variants name
    noContent setting content
    return value
  | _, .object _ => .error (.wrongValue .map .singleKey)
  | _, json => refuse json .choice

/-- The variant that a tag names. A tree that was set aside may give its number. -/
def ofTag {α : Type} (variants : List (String × α)) : Tree α
  | _, .string name => variant variants name
  | .setAside, .number (.natural place) =>
    match variants[place.toNat]? with
    | some (_, value) => .ok value
    | none => .error (.wrongValue (.number (.natural place)) (.variantIndex variants.length))
  | _, json => refuse json .variantName

/-- Looks for the tag among the entries of an object: the variant, if a tag was seen, and the other
entries so far. -/
def addTagged {α : Type} (variants : List (String × α)) (setting : Setting)
    (seen : Option α × List (String × Json)) (entry : String × Json) :
    Except Fault (Option α × List (String × Json)) :=
  if entry.1 = "type" then
    if seen.1.isSome then .error (.duplicateField "type")
    else (ofTag variants setting entry.2).map fun value => (some value, seen.2)
  else .ok (seen.1, seen.2 ++ [entry])

def tagged {α : Type} (name : String) (variants : List (String × Tree α)) : Tree α
  | setting, .object entries => do
    match ← entries.foldlM (addTagged variants setting) (none, []) with
    | (none, _) => throw (.missingField "type")
    | (some read, others) => read .setAside (.object others)
  | _, .array [] => .error (.missingField "type")
  | setting, .array (tag :: items) => do
    let read ← ofTag variants setting tag
    read .setAside (.array items)
  | _, json => refuse json (.tagged name)

/-- A choice of which the tag, the content, both or none have been read. -/
inductive Labelled (α : Type) where
  | nothing
  | content (json : Json)
  | variant (build : String → α)
  | whole (value : α)

/-- Reads one entry of a choice given by tag and content. A content that comes before the tag is set
aside. -/
def addLabelled {α : Type} (variants : List (String × (String → α))) (setting : Setting)
    (seen : Labelled α) (entry : String × Json) : Except Fault (Labelled α) :=
  if entry.1 = "type" then
    match seen with
    | .nothing => (choice variants setting entry.2).map .variant
    | .content json => do
      let build ← choice variants setting entry.2
      return .whole (← string .string (fun text => .ok (build text)) .setAside json)
    | .variant _ | .whole _ => .error (.duplicateField "type")
  else if entry.1 = "id" then
    match seen with
    | .nothing => .ok (.content entry.2)
    | .variant build =>
      (string .string (fun text => .ok (build text)) setting entry.2).map .whole
    | .content _ | .whole _ => .error (.duplicateField "id")
  else .ok seen

/-- The choice that was read, or what it lacks. -/
def Labelled.complete {α : Type} : Labelled α → Except Fault α
  | .nothing | .content _ => .error (.missingField "type")
  | .variant _ => .error (.missingField "id")
  | .whole value => .ok value

def labelled {α : Type} (name : String) (variants : List (String × (String → α))) : Tree α
  | setting, .object entries => do
    (← entries.foldlM (addLabelled variants setting) .nothing).complete
  | _, .array [] => .error (.wrongLength 0 (.labelled name))
  | setting, .array [tag] => do
    -- a tag that is wrong is reported before the content that is missing
    let _ ← ofTag variants setting tag
    throw (.wrongLength 1 (.labelled name))
  | setting, .array (tag :: content :: items) => do
    let build ← ofTag variants setting tag
    let value ← string .string (fun text => .ok (build text)) setting content
    if items.isEmpty then return value
    else throw (excess setting (items.length + 2) 2)
  | _, json => refuse json (.labelled name)

instance : Source Tree where
  bool := bool
  string := string
  number := number
  option := option
  list := list
  dict := dict
  record := record
  choice := choice
  tagged := tagged
  labelled := labelled

end NewsFeed.Json.Tree

namespace NewsFeed.Json

/-- Reads a value from a tree. -/
def readTree {α : Type} (read : Tree α) (json : Json) : Except Problem α :=
  match read .direct json with
  | .ok value => .ok value
  | .error fault => .error { fault }

end NewsFeed.Json
