/-
JSON values.

Objects keep their entries in the order in which they were given, with repeated keys. `normalized`
gives the value in which keys ascend and only the last entry of a key is kept. Numbers are told
apart as documents do: whole numbers of 64 bits, and floats.
-/
import NewsFeed.Dict

namespace NewsFeed

/-- A JSON number. -/
inductive Json.Number where
  /-- A natural number. -/
  | natural (value : UInt64)
  /-- A whole number below zero. -/
  | negative (value : Int64)
  /-- Any other number: one with a fraction or an exponent, one that is too large, or `-0`. -/
  | real (value : Float)
  deriving DecidableEq, Repr

/-- A JSON value. -/
inductive Json where
  | null
  | bool (value : Bool)
  | number (value : Json.Number)
  | string (value : String)
  | array (items : List Json)
  | object (entries : List (String × Json))
  deriving Repr

namespace Json

/-- The float closest to a number. -/
def Number.toFloat : Number → Float
  | .natural value => value.toFloat
  | .negative value => Float.ofInt value.toInt
  | .real value => value

/-- A natural number as a JSON value. -/
def ofWord (n : UInt64) : Json :=
  .number (.natural n)

/-- A count as a JSON value. -/
def ofNat (n : Nat) : Json :=
  .number (.natural (UInt64.ofNat n))

/-- A 64-bit whole number as a JSON value. -/
def ofInt64 (n : Int64) : Json :=
  .number (if n < 0 then .negative n else .natural n.toUInt64)

/-- A float as a JSON value. JSON has no infinities and no NaN, and writes `null` for them. -/
def ofFloat (x : Float) : Json :=
  if x.isFinite then .number (.real x) else .null

/-- A value that may be missing. -/
def ofOption {α : Type} (write : α → Json) : Option α → Json
  | none => .null
  | some value => write value

/-- A list as a JSON value. -/
def ofList {α : Type} (write : α → Json) (items : List α) : Json :=
  .array (items.map write)

/-- A map as a JSON value. -/
def ofDict {α : Type} (write : α → Json) (dict : Dict α) : Json :=
  .object (dict.toList.map fun entry => (entry.1, write entry.2))

mutual

/-- The value with ascending keys in which a later entry of a key has replaced the earlier ones. -/
def normalized : Json → Json
  | .array items => .array (normalizedItems items)
  | .object entries => .object (Dict.ofList (normalizedEntries entries)).toList
  | other => other

/-- `normalized` on the items of an array. -/
def normalizedItems : List Json → List Json
  | [] => []
  | item :: rest => item.normalized :: normalizedItems rest

/-- `normalized` on the values of an object. -/
def normalizedEntries : List (String × Json) → List (String × Json)
  | [] => []
  | (key, value) :: rest => (key, value.normalized) :: normalizedEntries rest

end

end Json

end NewsFeed
