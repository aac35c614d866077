/-
What a type has to say about its JSON form, once for all places that JSON is read from.

A `Source` offers the shapes that values come in: flags, strings, numbers, lists, maps, records and
three kinds of choices. The reader of a type is written against `Source` alone; a tree in memory
(`Json.Tree`) and a text under a cursor (`Json.Cursor`) are two sources, which differ in the order
in which they meet mistakes and in whether they can say where.

A record is described by its `Fields`: for each field its name, its reader and the value it takes
when it is missing. While a record is read, `Slots` hold the fields seen so far. Fields that need no
more than `Scalars` can be filled from other places than JSON as well.
-/
import NewsFeed.Json.Fault

namespace NewsFeed.Json

/-- The fields of a record, in the order of declaration. -/
inductive Fields (m : Type → Type) : List Type → Type 1 where
  | nil : Fields m []
  /-- A field, its reader, and what a missing one stands for. -/
  | cons {τ : Type} {τs : List Type} (name : String) (read : m τ) (absent : Option τ)
      (rest : Fields m τs) : Fields m (τ :: τs)

/-- The values of all fields. -/
def Values : List Type → Type
  | [] => Unit
  | τ :: τs => τ × Values τs

/-- The values of the fields seen so far. -/
def Slots : List Type → Type
  | [] => Unit
  | τ :: τs => Option τ × Slots τs

/-- No field seen yet. -/
def Slots.blank : (τs : List Type) → Slots τs
  | [] => ()
  | _ :: τs => (none, blank τs)

/-- What to do at a key of a record: nothing, complain, or read a value and put it in its slot. -/
inductive Lookup (m : Type → Type) (σ : Type) : Type 1 where
  | unknown
  | repeated
  | fill {τ : Type} (read : m τ) (put : τ → σ)

/-- Changes what a filled slot leads to. -/
def Lookup.map {m : Type → Type} {σ ρ : Type} (f : σ → ρ) : Lookup m σ → Lookup m ρ
  | .unknown => .unknown
  | .repeated => .repeated
  | .fill read put => .fill read (fun value => f (put value))

namespace Fields

variable {m : Type → Type}

/-- How many fields there are. -/
def size {τs : List Type} : Fields m τs → Nat
  | .nil => 0
  | .cons _ _ _ rest => rest.size + 1

/-- What to do at a key. -/
def lookup {τs : List Type} : Fields m τs → String → Slots τs → Lookup m (Slots τs)
  | .nil, _, _ => .unknown
  | .cons name read _ rest, key, (here, others) =>
    if key = name then
      if here.isSome then .repeated else .fill read (fun value => (some value, others))
    else (rest.lookup key others).map (fun others => (here, others))

/-- The record's values, with missing ones filled in. A missing value that stands for nothing is
reported by `missing`, which is told the field's place and name. -/
def complete {ε : Type} (missing : Nat → String → ε) {τs : List Type} :
    Fields m τs → (place : Nat) → Slots τs → Except ε (Values τs)
  | .nil, _, _ => .ok ()
  | .cons name _ absent rest, place, (here, others) =>
    match here.or absent with
    | none => .error (missing place name)
    | some value =>
      match rest.complete missing (place + 1) others with
      | .error fault => .error fault
      | .ok values => .ok (value, values)

end Fields

/-- A place that single values are read from. -/
class Scalars (m : Type → Type) where
  /-- A text. -/
  text : m String
  /-- A number, as a float. -/
  float : m Float
  /-- A natural number of 64 bits. -/
  natural (kind : WholeKind) : m UInt64
  /-- A whole number of 64 bits with a sign. -/
  integer : m Int64
  /-- A value that may be absent. -/
  option {α : Type} (read : m α) : m (Option α)

/-! ### Trees -/

/-- How a tree came to be read. A tree that was set aside while its choice was not yet known is more
lenient about tags and words its complaints differently. -/
inductive Setting where
  | direct
  | setAside
  deriving DecidableEq, Repr

/-- A reader of trees. -/
def Tree (α : Type) : Type :=
  Setting → Json → Except Fault α

/-- A place that values are read from. -/
class Source (m : Type → Type) where
  /-- `true` or `false`. -/
  bool : m Bool
  /-- A string that `take` accepts. -/
  string {α : Type} (expected : Expected) (take : String → Except Fault α) : m α
  /-- A number that `take` accepts. -/
  number {α : Type} (expected : Expected) (take : Number → Except Fault α) : m α
  /-- A value or `null`. -/
  option {α : Type} (read : m α) : m (Option α)
  /-- An array. -/
  list {α : Type} (read : m α) : m (List α)
  /-- An object with arbitrary keys; the last entry of a key counts. -/
  dict {α : Type} (read : m α) : m (Dict α)
  /-- An object with known keys, or an array of their values. -/
  record {α : Type} {τs : List Type} (title : String) (fields : Fields m τs)
    (build : Values τs → α) : m α
  /-- One of several names. -/
  choice {α : Type} (variants : List (String × α)) : m α
  /-- An object whose field `type` decides how the others are read. -/
  tagged {α : Type} (name : String) (variants : List (String × Tree α)) : m α
  /-- An object with the fields `type` and `id`, the second a string. -/
  labelled {α : Type} (name : String) (variants : List (String × (String → α))) : m α

namespace Source

variable {m : Type → Type} [Source m]

/-- Any string. -/
def text : m String :=
  string .string .ok

/-- Any number, as a float. -/
def float : m Float :=
  number .float fun n => .ok n.toFloat

/-- A natural number of 64 bits. -/
def natural (kind : WholeKind) : m UInt64 :=
  number (.whole kind) fun
    | .natural value => .ok value
    | .negative value => .error (.wrongValue (.number (.negative value)) (.whole kind))
    | .real value => .error (.wrongType (.number (.real value)) (.whole kind))

/-- A whole number of 64 bits with a sign. -/
def integer : m Int64 :=
  number (.whole .integer) fun
    | .natural value =>
      if value < 0x8000000000000000 then .ok value.toInt64
      else .error (.wrongValue (.number (.natural value)) (.whole .integer))
    | .negative value => .ok value
    | .real value => .error (.wrongType (.number (.real value)) (.whole .integer))

/-- A time stamp. -/
def stamp : m Time.Instant :=
  string .stamp fun text =>
    match Time.Instant.read text with
    | .ok instant => .ok instant
    | .error cause => .error (.badStamp cause)

instance : Scalars m where
  text := text
  float := float
  natural := natural
  integer := integer
  option := option

end Source

end NewsFeed.Json
