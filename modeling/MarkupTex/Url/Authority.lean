import MarkupTex.Domain
import MarkupTex.Url.Address
/-!
# Authorities of URLs

What stands behind the two slashes of a URL: perhaps a user before an `@`, a host, and perhaps the
number of a service behind a colon.  The schemes of the web need a host that is a domain or an
address; with other schemes the host may be almost any text, and may be left out.
-/

set_option autoImplicit false

namespace MarkupTex.Url

/-! ## Hosts -/

/-- Characters that no host has, as they stand. -/
def isForbiddenInHost (c : Char) : Bool :=
  c.toNat = 0 || ['\t', '\n', '\r', ' ', '#', '/', ':', '<', '>', '?', '@', '[', '\\', ']', '^',
    '|'].contains c

/-- The bytes of a text, with its percent escapes resolved. -/
def percentDecode : List Char → List UInt8
  | '%' :: a :: b :: rest =>
    match Text.hexDigit? a, Text.hexDigit? b with
    | some high, some low => (16 * high + low).toUInt8 :: percentDecode rest
    | _, _ => '%'.toUInt8 :: percentDecode (a :: b :: rest)
  | c :: rest => (String.singleton c).toUTF8.toList ++ percentDecode rest
  | [] => []
termination_by cs => cs.length

/-- The text that a host with percent escapes stands for, unless its bytes are no text. -/
def decodedHost? (host : List Char) : Option (List Char) :=
  if host.contains '%' then (String.fromUTF8? ⟨(percentDecode host).toArray⟩).map String.toList
  else some host

/-- The name of a host that is a domain or an address of four bytes. -/
def domainName? (host : List Char) : Option (List Char) :=
  ((decodedHost? host).bind Domain.name?).filter fun name =>
    !name.isEmpty && (!endsInNumber name || isAddress4 name)

/-- A host of the web: an address in brackets, an address of four bytes, or a domain. -/
def isWebHost (host : List Char) : Bool :=
  if host.head? = some '[' then isBracketed host else (domainName? host).isSome

/-- A host of another scheme: an address in brackets, or anything without forbidden characters. -/
def isOpaqueHost (host : List Char) : Bool :=
  if host.head? = some '[' then isBracketed host else !host.any isForbiddenInHost

/-! ## Parts of an authority -/

/-- Where the text of a host ends, if no colon ends it before. -/
def endsHost (web : Bool) (c : Char) : Bool := c = '/' || c = '?' || c = '#' || (web && c = '\\')

/-- The text before the last `@`, and the text behind it. -/
def splitUser? (cs : List Char) : Option (List Char × List Char) :=
  if cs.contains '@' then
    let host := (cs.reverse.takeWhile (· ≠ '@')).reverse
    some ((cs.take (cs.length - host.length)).dropLast, host)
  else none

/-- The host up to the colon behind it, and what follows from there.  A colon in brackets is part of
the host. -/
def splitHost (inBrackets : Bool) : List Char → List Char × List Char
  | [] => ([], [])
  | c :: cs =>
    if c = ':' && !inBrackets then ([], c :: cs)
    else
      let inBrackets := if c = '[' then true else if c = ']' then false else inBrackets
      let (host, rest) := splitHost inBrackets cs
      (c :: host, rest)

/-- The number behind a host's colon is at most 65535; it may be left empty.  A backslash ends it
with every scheme. -/
def isServiceNumber (cs : List Char) : Bool :=
  let digits := cs.takeWhile (· ≠ '\\')
  digits.isEmpty || (Text.digits? digits).any (· ≤ 65535)

/-- A host and what follows it up to the path.  An empty host has no number, and it is no host of
the web nor of a user. -/
def isHost (web named : Bool) (cs : List Char) : Bool :=
  let (host, service) := splitHost false cs
  let fits :=
    if web then isWebHost host
    else if host.isEmpty then !named && service.isEmpty
    else isOpaqueHost host
  fits && isServiceNumber (service.drop 1)

/-- Whether what follows the slashes of a URL begins with a fitting authority.  A user whose name
and password are empty is none, but then something has to follow the `@` in the authority or the
URL has to end there. -/
def hasAuthority (web : Bool) (cs : List Char) : Bool :=
  let authority := cs.takeWhile fun c => !endsHost web c
  match splitUser? authority with
  | none => isHost web false authority
  | some ([], host) => !(host.isEmpty && authority.length < cs.length) && isHost web false host
  | some (user, host) => isHost web (user ≠ [':']) host

end MarkupTex.Url
