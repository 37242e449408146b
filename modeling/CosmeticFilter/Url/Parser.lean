/-
Addresses from text.

Of an address only so much is kept as the origin and relative references need: the
scheme, host and port, and the path where it is opaque.  A text without a scheme is
read relative to a base.
-/
import CosmeticFilter.Url.Host

namespace CosmeticFilter

/-- What follows the scheme of an address. -/
inductive Url.Place where
  /-- A host, if there is one, with its port if that is not the usual one of the scheme. -/
  | authority (host : Option Url.Host) (port : Option Nat)
  /-- A path that no reference can be relative to. -/
  | opaquePath (path : List Char)
  deriving DecidableEq, Repr

/-- An address. -/
structure Url where
  scheme : List Char
  place : Url.Place
  deriving DecidableEq, Repr

namespace Url

/-! ### Schemes -/

/-- The port that is meant where none is given. -/
def defaultPort? (scheme : List Char) : Option Nat :=
  match String.ofList scheme with
  | "http" | "ws" => some 80
  | "https" | "wss" => some 443
  | "ftp" => some 21
  | _ => none

/-- Schemes with hosts and a usual port. -/
def isNetwork (scheme : List Char) : Bool :=
  (defaultPort? scheme).isSome

def isFile (scheme : List Char) : Bool :=
  scheme == ['f', 'i', 'l', 'e']

/-- A backslash means a slash in the addresses of these schemes. -/
def isSpecial (scheme : List Char) : Bool :=
  isNetwork scheme || isFile scheme

def isSchemeChar (c : Char) : Bool :=
  c.isAlphanum || c == '+' || c == '-' || c == '.'

/-- The scheme at the start, in small letters, and what follows its colon. -/
def splitScheme? (cs : List Char) : Option (List Char × List Char) :=
  match cs.dropWhile isSchemeChar with
  | ':' :: rest =>
    if cs.head?.any Char.isAlpha then
      some ((cs.takeWhile isSchemeChar).map Char.toLower, rest)
    else none
  | _ => none

/-! ### Authorities -/

def isSlash (c : Char) : Bool :=
  c == '/' || c == '\\'

/-- The character ends the part of an address where the host stands. -/
def endsAuthority (special : Bool) (c : Char) : Bool :=
  c == '/' || c == '?' || c == '#' || (special && c == '\\')

/-- The text before and after the last `@`. -/
def splitUser? (cs : List Char) : Option (List Char × List Char) :=
  let backwards := cs.reverse
  match backwards.dropWhile (· != '@') with
  | _ :: before => some (before.reverse, (backwards.takeWhile (· != '@')).reverse)
  | [] => none

/-- The host before the colon of the port, and what follows; a colon in brackets belongs to it. -/
def splitPort (inBrackets : Bool) : List Char → List Char × Option (List Char)
  | [] => ([], none)
  | c :: rest =>
    if c = ':' ∧ inBrackets = false then ([], some rest)
    else
      let inBrackets := if c = '[' then true else if c = ']' then false else inBrackets
      let (host, port) := splitPort inBrackets rest
      (c :: host, port)

/-- The port of a scheme: a number, or nothing for the usual one. -/
def readPort? (scheme : List Char) (text : Option (List Char)) : Option (Option Nat) :=
  match text with
  | none => some none
  | some digits => do
    let digits := digits.takeWhile (!isSlash ·)
    let port ← portValue? digits
    some (if digits.isEmpty ∨ defaultPort? scheme = some port then none else some port)

/-- The host of a scheme; an empty one is none, and a scheme with domains must have one. -/
def readHost? (scheme : List Char) (cs : List Char) : Option (Option Host) :=
  if cs.isEmpty then (if isSpecial scheme then none else some none)
  else if isSpecial scheme then (Host.parse? cs).map some
  else (Host.parseOpaque? cs).map some

/-- Names before the `@` that say something: not nothing, and not a lone colon. -/
def namesUser (cs : List Char) : Bool :=
  !cs.isEmpty && cs != [':']

/-- Reads what follows the two slashes after a scheme.  Without a host there is no user or port. -/
def readAuthority? (scheme : List Char) (cs : List Char) : Option Url := do
  let ends := endsAuthority (isSpecial scheme)
  let authority := cs.takeWhile (!ends ·)
  let (user, hostPort) := (splitUser? authority).getD ([], authority)
  let nobody := (splitUser? authority).isSome && user.isEmpty && cs.any ends
  let (hostText, portText) := splitPort false hostPort
  let host ← readHost? scheme hostText
  let port ← readPort? scheme portText
  if host.isNone && (portText.isSome || namesUser user || nobody) then none
  else some ⟨scheme, .authority host port⟩

/-! ### Files -/

/-- A letter and a colon or bar, which name a drive. -/
def isDrive : List Char → Bool
  | [letter, sign] => letter.isAlpha && (sign == ':' || sign == '|')
  | _ => false

/-- A file address: its host must be sound, if it has one, and means nothing. -/
def readFile? (cs : List Char) : Option Url :=
  let file : Url := ⟨['f', 'i', 'l', 'e'], .authority none none⟩
  match cs with
  | a :: b :: rest =>
    if isSlash a && isSlash b then
      let host := rest.takeWhile (!endsAuthority true ·)
      if host.isEmpty || isDrive host then some file else (Host.parse? host).map fun _ => file
    else some file
  | _ => some file

/-! ### Opaque paths -/

/-- A byte as `%` and two hexadecimal digits. -/
def percentByte (byte : UInt8) : List Char :=
  ['%', Nat.digitChar (byte.toNat / 16), Nat.digitChar (byte.toNat % 16)]

/-- A character of an opaque path: controls and all beyond ASCII are written by their bytes. -/
def opaqueChar (c : Char) : List Char :=
  if 0x20 ≤ c.toNat && c.toNat < 0x7F then [c]
  else (String.utf8EncodeChar c).flatMap percentByte

/-- The path at the start of what follows a scheme without a slash. -/
def readOpaquePath (cs : List Char) : List Char :=
  (cs.takeWhile fun c => c != '?' && c != '#').flatMap opaqueChar

/-! ### References -/

/-- Reads a reference relative to a base that has no opaque path. -/
def readRelative? (base : Url) (cs : List Char) : Option Url :=
  match cs with
  | '/' :: '/' :: rest => readAuthority? base.scheme rest
  | a :: b :: rest =>
    if isSlash a && isSlash b then readAuthority? base.scheme (rest.dropWhile isSlash)
    else some base
  | _ => some base

/-- Reads what follows a scheme. -/
def readAfterScheme? (base : Option Url) (scheme rest : List Char) : Option Url :=
  if isFile scheme then readFile? rest
  else if isNetwork scheme then
    let slashes := rest.takeWhile isSlash
    match base.filter fun base => slashes.length < 2 && base.scheme == scheme with
    | some base => readRelative? base rest
    | none => readAuthority? scheme (rest.dropWhile isSlash)
  else
    match rest with
    | '/' :: '/' :: rest => readAuthority? scheme rest
    | '/' :: _ => some ⟨scheme, .authority none none⟩
    | _ => some ⟨scheme, .opaquePath (readOpaquePath rest)⟩

/-- Reads a text without a scheme. -/
def readReference? (base : Url) (cs : List Char) : Option Url :=
  if cs.head? = some '#' then some base
  else
    match base.place with
    | .opaquePath _ => none
    | .authority _ _ => if isFile base.scheme then readFile? cs else readRelative? base cs

/-- Controls and spaces at the ends of an address mean nothing. -/
def isPadding (c : Char) : Bool :=
  c.toNat ≤ 0x20

/-- Tabs and line ends are left out everywhere. -/
def isIgnored (c : Char) : Bool :=
  c == '\t' || c == '\n' || c == '\r'

/-- The text without what is not part of an address. -/
def clean (text : List Char) : List Char :=
  let start := text.dropWhile isPadding
  (start.reverse.dropWhile isPadding).reverse.filter (!isIgnored ·)

/-- The address that a text means, seen from a base if there is one. -/
def parse? (base : Option Url) (text : List Char) : Option Url :=
  let cs := clean text
  match splitScheme? cs with
  | some (scheme, rest) => readAfterScheme? base scheme rest
  | none => base.bind (readReference? · cs)

end Url

end CosmeticFilter
