import MarkupTex.Url.Authority
import MarkupTex.Url.FilePath
/-!
# Absolute URLs

`Url.parse?` tells whether a text is an absolute URL by the living standard, without a base to
resolve it against, and what its scheme is.  Of a `file` URL the path is kept.

The schemes of the web need a host, and `file` may have one; any other scheme may go without, and
what follows it is not looked into unless it begins with two slashes.
-/

set_option autoImplicit false

namespace MarkupTex

/-- An absolute URL. -/
inductive Url where
  /-- A file, by its path. -/
  | file (path : String)
  /-- Any other, by its scheme in lower case. -/
  | other (scheme : String)
  deriving DecidableEq, Repr, Inhabited

namespace Url

/-- The text without the control characters and spaces at its ends. -/
def clean (s : String) : List Char :=
  let atEnd := fun c : Char => c.toNat ≤ 0x20
  Text.dropEndWhile atEnd (s.toList.dropWhile atEnd)

/-! ## Scheme -/

def isSchemeChar (c : Char) : Bool :=
  Text.isAsciiLetter c || c.isDigit || c = '+' || c = '-' || c = '.'

/-- The scheme in lower case, and what follows its colon.  Tabs and ends of lines do not count in a
scheme. -/
def splitScheme? (cs : List Char) : Option (String × List Char) :=
  (Text.splitAtChar ':' cs).bind fun (before, rest) =>
    let scheme := withoutBreaks before
    if scheme.head?.any Text.isAsciiLetter && scheme.all isSchemeChar then
      some (Text.lower (String.ofList scheme), rest)
    else none

/-- Schemes of the web other than `file`. -/
def isWebScheme (scheme : String) : Bool := ["http", "https", "ws", "wss", "ftp"].contains scheme

/-! ## Files -/

/-- What follows a slash, if the text begins with one. -/
def afterSlash? (cs : List Char) : Option (List Char) :=
  match cs.dropWhile isBreak with
  | c :: rest => if isSlash c then some rest else none
  | [] => none

/-- This machine, which need not be named. -/
def ownHost : List Char := "localhost".toList

/-- A file URL after its two slashes.  A drive in the place of the host begins the path.  Behind a
host the path begins after the next slash; without one, or behind the own host, that slash counts as
an empty segment. -/
def fileOnHost? (cs : List Char) : Option Url :=
  let host := withoutBreaks (cs.takeWhile fun c => !endsHost true c)
  let rest := cs.dropWhile fun c => !endsHost true c
  if isDrive host then some (.file (filePath cs))
  else if host.isEmpty || domainName? host = some ownHost then some (.file (filePath rest))
  else if isWebHost host then some (.file (filePath ((afterSlash? rest).getD rest)))
  else none

/-- A file URL after its colon.  Two slashes bring in a host, which may be empty. -/
def fileOf? (cs : List Char) : Option Url :=
  match afterSlash? cs with
  | none => some (.file (filePath cs))
  | some rest =>
    match afterSlash? rest with
    | none => some (.file (filePath rest))
    | some rest => fileOnHost? rest

/-- Reads an absolute URL. -/
def parse? (s : String) : Option Url := do
  let (scheme, rest) ← splitScheme? (clean s)
  if scheme = "file" then fileOf? rest
  else
    let rest := withoutBreaks rest
    if isWebScheme scheme then
      if hasAuthority true (rest.dropWhile isSlash) then some (.other scheme) else none
    else
      match rest with
      | '/' :: '/' :: after => if hasAuthority false after then some (.other scheme) else none
      | _ => some (.other scheme)

end Url

end MarkupTex
