import Telemetry.Net.Address
import Telemetry.Number.Count
import Telemetry.Text.Hex
import Telemetry.Text.Pieces

/-!
# Addresses of resources

An address of a resource names a scheme, a host, a port, and what is asked for there. It is read
generously: blanks around it do not count, backslashes are slashes, and the parts `.` and `..` of a path
are resolved. What may not be sent as it is, is escaped.
-/

namespace Telemetry

/-- Where a resource is and what is asked for there. -/
structure Url where
  /-- Whether the connection is encrypted. -/
  secure : Bool
  host : String
  port : Nat
  /-- The path and the query. -/
  target : String
  deriving DecidableEq, Repr

namespace Url

/-- Whether a character is a blank or a control character of ASCII. -/
def isBlankOrControl (character : Char) : Bool :=
  character.toNat ≤ 0x20

/-- A text without blanks at the ends and without tabs and line ends. -/
def cleaned (text : List Char) : List Char :=
  let trimmed :=
    ((text.dropWhile isBlankOrControl).reverse.dropWhile isBlankOrControl).reverse
  trimmed.filter fun character => character != '\t' && character != '\n' && character != '\r'

/-- Whether a character separates the parts of a path. -/
def isSlash (character : Char) : Bool :=
  character == '/' || character == '\\'

/-- Whether a character ends the part of a text that names the host. -/
def endsHost (character : Char) : Bool :=
  isSlash character || character == '?' || character == '#'

/-- A byte as an escape. -/
def escapeByte (byte : UInt8) : List Char :=
  '%' :: (Hex.text [byte]).toList.map Char.toUpper

/-- A character as it is sent: escaped if it is no visible one of ASCII or one of `special`. -/
def escape (special : String) (character : Char) : List Char :=
  if isBlankOrControl character || 0x7e < character.toNat || special.toList.contains character then
    (Text.utf8 character.toString).flatMap escapeByte
  else
    [character]

/-- The characters that are escaped in a path. -/
def specialInPath : String := "\"#<>?`\x7b\x7d"

/-- The characters that are escaped in a query. -/
def specialInQuery : String := "\"#<>'"

/-- The spellings of a part of a path that stays where it is. -/
def hereNames : List String := [".", "%2e"]

/-- The spellings of a part of a path that leads up. -/
def aboveNames : List String := ["..", ".%2e", "%2e.", "%2e%2e"]

/-- The parts of a path, resolved one after another; `resolved` is what comes before, last part first. -/
def resolveOnto (resolved : List (List Char)) : List (List Char) → List (List Char)
  | [] => resolved.reverse
  | part :: rest =>
    let name := String.ofList (part.map Char.toLower)
    let ending := if rest.isEmpty then [[]] else []
    if aboveNames.contains name then resolveOnto (ending ++ resolved.tail) rest
    else if hereNames.contains name then resolveOnto (ending ++ resolved) rest
    else resolveOnto (part.flatMap (escape specialInPath) :: resolved) rest

/-- The path that stands after a host. -/
def path (text : List Char) : List Char :=
  let slashed := text.map fun character => if character = '\\' then '/' else character
  let parts := Text.pieces '/' (slashed.drop 1)
  (resolveOnto [] parts).flatMap fun part => '/' :: part

/-- What is asked for, from what stands after a host. -/
def targetOf (text : List Char) : String :=
  match Text.cut '?' (Text.cut '#' text).1 with
  | (before, none) => String.ofList (path before)
  | (before, some query) =>
    String.ofList (path before ++ '?' :: query.flatMap (escape specialInQuery))

/-- Characters that no name of a host has. -/
def foreignToHosts : String := "#/:<>?@[\\]^|%"

/-- Whether a text may be the name of a host. A name that ends in a number has to be an address. -/
def isHost (name : String) : Bool :=
  let last := ((Text.pieces '.' name.toList).getLast?).getD []
  !name.isEmpty &&
    name.toList.all (fun character =>
      !isBlankOrControl character && character.toNat != 0x7f &&
        !foreignToHosts.toList.contains character) &&
    (last.isEmpty || !last.all Char.isDigit || (Address.ofText? name).isSome)

/-- The port that a text names; nothing names the standard port. -/
def port? (standard : Nat) (text : List Char) : Option Nat :=
  if text.isEmpty then some standard
  else if text.all Char.isDigit then boundedNatural? 0x10000 (String.ofList text)
  else none

/-- The host and the port that stand between the scheme and the path. -/
def hostAndPort? (standard : Nat) (text : List Char) : Option (String × Nat) :=
  match text with
  | '[' :: rest =>
    match Text.cut ']' rest with
    | (address, some after) => do
      let _ ← Address.ofText? (String.ofList address)
      let port ←
        match after with
        | [] => some standard
        | ':' :: digits => port? standard digits
        | _ => none
      return (String.ofList address, port)
    | (_, none) => none
  | _ => do
    let (name, digits) := Text.cut ':' text
    let name := String.ofList (name.map Char.toLower)
    let port ← port? standard (digits.getD [])
    if isHost name then some (name, port) else none

/-- The schemes, whether they stand for an encrypted connection, and their standard ports. -/
def schemes : List (String × Bool × Nat) := [("http", false, 80), ("https", true, 443)]

/-- What stands after the last `@`, before which a user may be named. -/
def withoutUser (text : List Char) : List Char :=
  (text.reverse.takeWhile (· != '@')).reverse

/-- The address that a text writes. -/
def ofText? (text : String) : Option Url := do
  let (scheme, rest) := Text.cut ':' (cleaned text.toList)
  let (secure, standard) ← schemes.lookup (String.ofList (scheme.map Char.toLower))
  let rest := (← rest).dropWhile isSlash
  let (host, port) ← hostAndPort? standard (withoutUser (rest.takeWhile fun c => !endsHost c))
  return ⟨secure, host, port, targetOf (rest.dropWhile fun c => !endsHost c)⟩

end Url

end Telemetry
