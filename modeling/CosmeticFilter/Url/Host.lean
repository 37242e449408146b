/-
Hosts.

The host of an address is a domain or a number of four or sixteen bytes.  Bytes of a
host may be written as `%` and two hexadecimal digits.
-/
import CosmeticFilter.Url.Domain
import CosmeticFilter.Url.Ipv4
import CosmeticFilter.Url.Ipv6

namespace CosmeticFilter.Url

inductive Host where
  | domain (name : List Char)
  | ipv4 (address : Nat)
  | ipv6 (pieces : List Nat)
  deriving DecidableEq, Repr

/-- The bytes of a text, with `%` and two hexadecimal digits read as one byte. -/
def percentDecode : List Char → List UInt8
  | '%' :: a :: b :: rest =>
    match digitValue? 16 a, digitValue? 16 b with
    | some x, some y => UInt8.ofNat (16 * x + y) :: percentDecode rest
    | _, _ => String.utf8EncodeChar '%' ++ percentDecode (a :: b :: rest)
  | c :: rest => String.utf8EncodeChar c ++ percentDecode rest
  | [] => []

/-- The text of bytes in UTF-8. -/
def decodeUtf8? (bytes : List UInt8) : Option (List Char) :=
  (String.fromUTF8? ⟨bytes.toArray⟩).map String.toList

namespace Host

/-- The address of sixteen bytes between brackets. -/
def parseBrackets? (cs : List Char) : Option Host :=
  match cs.reverse with
  | ']' :: before => (Ipv6.parse? before.reverse).map .ipv6
  | _ => none

/-- A host of a scheme whose hosts are domains. -/
def parse? (cs : List Char) : Option Host :=
  match cs with
  | '[' :: rest => parseBrackets? rest
  | _ => do
    let domain ← Domain.normalize? (← decodeUtf8? (percentDecode cs))
    if domain.isEmpty then none
    else if Ipv4.endsInNumber domain then (Ipv4.parse? domain).map .ipv4
    else some (.domain domain)

/-- Characters that no host of any scheme may hold. -/
def isForbidden (c : Char) : Bool :=
  "\x00\t\n\r #/:<>?@[\\]^|".toList.contains c

/-- A host of any other scheme is kept as it stands. -/
def parseOpaque? (cs : List Char) : Option Host :=
  match cs with
  | '[' :: rest => parseBrackets? rest
  | _ => if cs.any isForbidden then none else some (.domain cs)

end Host

end CosmeticFilter.Url
