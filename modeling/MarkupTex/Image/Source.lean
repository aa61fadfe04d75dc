import MarkupTex.Fault
import MarkupTex.Url
/-!
# Sources of images

What the `src` of an image points at: a path, a file given by its URL, something that would have to
be fetched, or the image itself.  Only absolute URLs count as such; a text that is none is a path,
and so is one whose scheme is a single letter, because that is the name of a drive.
-/

set_option autoImplicit false

namespace MarkupTex.Image

inductive Source where
  /-- A path, absolute or relative. -/
  | path (path : String)
  /-- The path of a `file` URL. -/
  | fileUrl (path : String)
  /-- A URL that would have to be fetched. -/
  | remote (url : String)
  /-- A `data` URL, which holds the image. -/
  | embedded
  deriving DecidableEq, Repr, Inhabited

namespace Source

/-- Sorts a source; blanks around it do not count. -/
def classify (src : String) : Source :=
  let s := Text.trim src
  match Url.parse? s with
  | none => .path s
  | some (.file p) => .fileUrl p
  | some (.other scheme) =>
    if scheme = "data" then .embedded
    else if scheme.length = 1 then .path s
    else .remote s

end Source

end MarkupTex.Image
