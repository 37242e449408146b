/-
Origins.

The origin of an address is its scheme, host and port.  Only network addresses have
one that can be compared; the origin of a `blob` address is that of the address which
is its path.  Wherever an origin cannot be determined, addresses count as sharing one.
-/
import CosmeticFilter.Url.Parser

namespace CosmeticFilter.Url

/-- What two addresses of one origin have in common. -/
structure Origin where
  scheme : List Char
  host : Option Host
  port : Option Nat
  deriving DecidableEq, Repr

/-- The origin of an address inside at most `layers` many `blob` addresses. -/
def originWithin (layers : Nat) (url : Url) : Option Origin :=
  match url.place with
  | .authority host port =>
    if isNetwork url.scheme then
      some ⟨url.scheme, host, port.or (defaultPort? url.scheme)⟩
    else none
  | .opaquePath path =>
    match layers with
    | 0 => none
    | layers + 1 =>
      if url.scheme = "blob".toList then (parse? none path).bind (originWithin layers) else none

/-- The origin of an address, unless it is one of its own. -/
def origin? (url : Url) : Option Origin :=
  match url.place with
  | .authority _ _ => originWithin 0 url
  | .opaquePath path => originWithin path.length url

/-- A sheet from `href`, seen from the document, does not come from another origin. -/
def sameOrigin (href : Option String) (document : String) : Bool :=
  match href, parse? none document.toList with
  | some href, some base =>
    match (parse? (some base) href.toList).bind origin? with
    | some origin => base.origin? == some origin
    | none => true
  | _, _ => true

end CosmeticFilter.Url
