import MarkupTex.Text.Blank
import MarkupTex.Text.Search
/-!
# Paths of file URLs

A path is a row of segments between slashes.  Its dots are resolved, and what is not plain is
percent-encoded.  A segment can be the name of a drive: such a name has a colon if the path begins
with it, however it is written, and no dots lead out of a drive.

Tabs and ends of lines do not count, with one exception: right behind the name of a drive at the
beginning they separate it from what follows.
-/

set_option autoImplicit false

namespace MarkupTex.Url

/-- Tabs and ends of lines. -/
def isBreak (c : Char) : Bool := c = '\t' || c = '\n' || c = '\r'

def withoutBreaks (cs : List Char) : List Char := cs.filter fun c => !isBreak c

def isSlash (c : Char) : Bool := c = '/' || c = '\\'

/-! ## Characters -/

/-- Printed ASCII characters that a path does not have. -/
def escapedInPath : List Char := ['\x22', '#', '<', '>', '?', '\x60', '\x7b', '\x7d']

/-- Characters that stay as they are in a path. -/
def isPlainInPath (c : Char) : Bool :=
  0x20 < c.toNat && c.toNat < 0x7F && !escapedInPath.contains c

def percentByte (b : UInt8) : List Char :=
  ['%', (Nat.digitChar (b.toNat / 16)).toUpper, (Nat.digitChar (b.toNat % 16)).toUpper]

/-- Characters that are not plain become the bytes of their UTF-8 form. -/
def encodePath (cs : List Char) : List Char :=
  cs.flatMap fun c =>
    if isPlainInPath c then [c]
    else (String.singleton c).toUTF8.toList.flatMap percentByte

/-! ## Segments -/

/-- Ways of writing one dot. -/
def isDot (cs : List Char) : Bool := cs = ['.'] || Text.lower (String.ofList cs) = "%2e"

/-- Ways of writing two dots. -/
def isDoubleDot (cs : List Char) : Bool :=
  ["..", ".%2e", "%2e.", "%2e%2e"].contains (Text.lower (String.ofList cs))

/-- A letter and a colon or a bar, as in the name of a drive. -/
def isDrive : List Char → Bool
  | [letter, mark] => Text.isAsciiLetter letter && (mark = ':' || mark = '|')
  | _ => false

/-- A drive and what follows it, where only tabs or ends of lines stand between the two. -/
def splitDrive? (segment : List Char) : Option (List Char × List Char) :=
  match segment.dropWhile isBreak with
  | letter :: behind =>
    match behind.dropWhile isBreak with
    | ':' :: rest =>
      let text := withoutBreaks rest
      if Text.isAsciiLetter letter && rest.head?.any isBreak && !text.isEmpty then
        some ([letter, ':'], text)
      else none
    | _ => none
  | [] => none

/-- Leaves out the last segment, unless it is a drive. -/
def shorten : List (List Char) → List (List Char)
  | [] => []
  | segment :: rest => if isDrive segment then segment :: rest else rest

/-- The form that a segment other than dots has behind those in `done`. -/
def segmentBehind (done : List (List Char)) (text : List Char) : List Char :=
  match done, text with
  | [], [letter, '|'] => if Text.isAsciiLetter letter then [letter, ':'] else encodePath text
  | _, _ => encodePath text

/-- Resolves the segments of a path one by one; `done` holds those that stay, the last in front. -/
def resolveFrom (done : List (List Char)) : List (List Char) → List (List Char)
  | [] => done
  | segment :: rest =>
    let text := withoutBreaks segment
    let atEnd := if rest.isEmpty then [[]] else []
    match if done.isEmpty then splitDrive? segment else none with
    | some (drive, text) => resolveFrom [encodePath text, drive] rest
    | none =>
      if isDoubleDot text then resolveFrom (atEnd ++ shorten done) rest
      else if isDot text then resolveFrom (atEnd ++ done) rest
      else resolveFrom (segmentBehind done text :: done) rest

/-- The segments between slashes, and between backslashes as well. -/
def segments (cs : List Char) : List (List Char) :=
  Text.splitOnChar '/' (cs.map fun c => if c = '\\' then '/' else c)

/-- The path whose first segment begins with `cs`, up to the query or the fragment.  It has one
slash in front. -/
def filePath (cs : List Char) : String :=
  let resolved := resolveFrom [] (segments (cs.takeWhile fun c => c ≠ '?' && c ≠ '#'))
  String.ofList ('/' :: (List.intercalate ['/'] resolved.reverse).dropWhile (· = '/'))

end MarkupTex.Url
