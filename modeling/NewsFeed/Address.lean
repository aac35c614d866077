/-
Addresses of the web, read the way browsers read them, as far as the host is concerned.

Blanks around an address and line breaks inside of it do not count. After the scheme and the slashes
stand a user's name and password up to an `@`, the host, and a colon with a number; the host ends at
a slash, a question mark or a number sign. How many slashes there have to be, whether a backslash
counts as one, and what a host may be depends on the kind of the scheme. An address may well have no
host, for instance `mailto:` addresses and files on the same machine.

* `Address.read?` — the address in a text;
* `hostOf` — the host of an address, or of what becomes an address with `https://` in front.
-/
import NewsFeed.Host.Basic

namespace NewsFeed

/-- How an address goes on after its scheme. -/
inductive SchemeKind where
  /-- Schemes of the web: there always is a host. -/
  | web
  /-- Files: there is a host if the file is on another machine. -/
  | file
  /-- All other schemes: there is a host if two slashes announce it. -/
  | other
  deriving DecidableEq, Repr

/-- An address, as far as its host is concerned. -/
structure Address where
  scheme : List Char
  host : Option Host
  deriving DecidableEq, Repr

namespace SchemeKind

/-- The kind of a scheme in small letters. -/
def ofScheme (scheme : List Char) : SchemeKind :=
  if scheme = "file".toList then .file
  else if scheme ∈ ["http", "https", "ws", "wss", "ftp"].map String.toList then .web
  else .other

/-- Whether a character ends the host or the name in front of it. -/
def isEnd (kind : SchemeKind) (c : Char) : Bool :=
  c = '/' || c = '?' || c = '#' || (c = '\\' && kind ≠ .other)

end SchemeKind

namespace Address

/-- Whether a character does not count at the ends of an address. -/
def isEdge (c : Char) : Bool :=
  c.toNat ≤ 0x20

/-- Whether a character does not count anywhere in an address. -/
def isBreak (c : Char) : Bool :=
  c = '\t' || c = '\n' || c = '\r'

/-- The characters of an address that count. -/
def cleaned (text : List Char) : List Char :=
  ((text.dropWhile isEdge).reverse.dropWhile isEdge).reverse.filter fun c => !isBreak c

/-- Whether a character can stand in a scheme. -/
def isSchemeChar (c : Char) : Bool :=
  c.isAlphanum || c = '+' || c = '-' || c = '.'

/-- The scheme in small letters, and what follows its colon. -/
def cutScheme? (text : List Char) : Option (List Char × List Char) :=
  if (text.head?.map Char.isAlpha).getD false then
    match text.dropWhile isSchemeChar with
    | ':' :: rest => some ((text.takeWhile isSchemeChar).map Char.toLower, rest)
    | _ => none
  else none

/-! ### Host and number -/

/-- What a text goes on with after the name and password in front of the host, and whether one of
these was given. -/
def pastUser? (kind : SchemeKind) (text : List Char) : Option (Bool × List Char) :=
  let authority := text.takeWhile fun c => !kind.isEnd c
  -- names and passwords may hold an `@` of their own, so the last one counts
  match Text.cutAtLast? '@' authority with
  | none => some (false, text)
  | some (user, _) =>
    let rest := text.drop (user.length + 1)
    if user.isEmpty ∧ (rest.head?.map kind.isEnd).getD false then none
    else some (!user.isEmpty && user ≠ [':'], rest)

/-- The text of the host, and what follows it. A colon ends the host outside of brackets. -/
def cutHost (kind : SchemeKind) (inBrackets : Bool) : List Char → List Char × List Char
  | [] => ([], [])
  | c :: rest =>
    if kind.isEnd c ∨ (c = ':' ∧ !inBrackets) then ([], c :: rest)
    else
      let (host, rest) := cutHost kind (c = '[' ∨ (c ≠ ']' ∧ inBrackets)) rest
      (c :: host, rest)

/-- The greatest number that can follow the colon behind a host. -/
def greatestNumber : Nat := 65535

/-- Whether what follows the host starts with a colon and a number, either of which may be missing.
-/
def numberFits : List Char → Bool
  | ':' :: rest =>
    let digits := rest.takeWhile Char.isDigit
    let value := digits.foldl (fun n c => 10 * n + (c.toNat - '0'.toNat)) 0
    let ends := match rest.dropWhile Char.isDigit with
      | [] => true
      | c :: _ => c = '/' || c = '\\' || c = '?' || c = '#'
    value ≤ greatestNumber && ends
  | _ => true

/-- The host of an address of which the slashes have been read. `some none` is an address without a
host. -/
def host? (kind : SchemeKind) (text : List Char) : Option (Option Host) := do
  let (hasUser, text) ← pastUser? kind text
  let (text, rest) := cutHost kind false text
  if !numberFits rest then none
  else if kind = .other then
    -- no host is fine, unless something that belongs to one is given
    if text.isEmpty then if hasUser ∨ rest.head? = some ':' then none else return none
    else return some (← Host.ofName? text)
  else return some (← Host.ofDomain? text)

/-! ### Files -/

/-- Whether a character is a slash of a kind. -/
def isSlash (c : Char) : Bool :=
  c = '/' || c = '\\'

/-- Whether a text is a drive: a letter and a colon, or a bar in its place. -/
def isDrive : List Char → Bool
  | [letter, mark] => letter.isAlpha && (mark = ':' || mark = '|')
  | _ => false

/-- A segment of a path in which points are written as such. -/
def withPoints : List Char → List Char
  | [] => []
  | '%' :: '2' :: 'e' :: rest => '.' :: withPoints rest
  | '%' :: '2' :: 'E' :: rest => '.' :: withPoints rest
  | c :: rest => c :: withPoints rest

/-- Whether a path leads to a drive at its top. `above` says of each segment that is left, the last
one first, whether it is a drive; two points take back a segment unless it is one. -/
def leadsToDrive (above : List Bool) : List (List Char) → Bool
  | [] => false
  | segment :: rest =>
    if withPoints segment = ['.', '.'] then
      -- a drive is not left by two points
      leadsToDrive (if above.head? = some false then above.drop 1 else above) rest
    else if withPoints segment = ['.'] then leadsToDrive above rest
    else if above.isEmpty ∧ isDrive segment then true
    else leadsToDrive (isDrive segment :: above) rest

/-- The segments of a path. -/
def segments (path : List Char) : List (List Char) :=
  let path := path.takeWhile fun c => c ≠ '?' && c ≠ '#'
  Text.split isSlash (if (path.head?.map isSlash).getD false then path.drop 1 else path)

/-- The host of a file: that of the machine it is on, unless it is this one or its path leads to a
drive. -/
def fileHost? (text : List Char) : Option (Option Host) :=
  match text with
  | first :: second :: rest =>
    if isSlash first ∧ isSlash second then do
      let text := rest.takeWhile fun c => !SchemeKind.file.isEnd c
      if text.isEmpty ∨ isDrive text then return none
      let host ← Host.ofDomain? text
      -- this machine is not named
      if host = .domain "localhost".toList then return none
      if leadsToDrive [] (segments (rest.drop text.length)) then return none
      return some host
    else some none
  | _ => some none

/-! ### Addresses -/

/-- The host that follows a scheme. -/
def hostAfter? (kind : SchemeKind) (text : List Char) : Option (Option Host) :=
  match kind with
  | .web => host? .web (text.dropWhile isSlash)
  | .file => fileHost? text
  | .other =>
    match text with
    | '/' :: '/' :: rest => host? .other rest
    | _ => some none

/-- Reads an address. -/
def read? (text : List Char) : Option Address := do
  let (scheme, rest) ← cutScheme? (cleaned text)
  let host ← hostAfter? (SchemeKind.ofScheme scheme) rest
  return { scheme, host }

/-- What is put in front of a host without a scheme. -/
def assumedScheme : List Char := "https://".toList

end Address

/-- The host of a text: of the address that it is, or else of the address that it becomes with
`https://` in front. -/
def hostOf (raw : String) : Option String :=
  let host? (text : List Char) := (Address.read? text).bind (·.host)
  ((host? raw.toList).or (host? (Address.assumedScheme ++ raw.toList))).map Host.write

end NewsFeed
