import MarkupTex.Image.Source
/-!
# Resolving images

A resolver turns the `src` of an image into a path that can be written into the output, or says why
it cannot.  Three kinds:

* `Resolver.passthrough` takes every local path as it is;
* an `ImageTable` knows the paths of images that were fetched beforehand;
* an `ImageSearch` looks for the file in a row of directories.
-/

set_option autoImplicit false

namespace MarkupTex.Image

/-- From the `src` of an image to its path. -/
abbrev Resolver := String → Except Fault String

/-- Takes local paths without looking at them; images that are not local are faults. -/
def Resolver.passthrough : Resolver := fun src =>
  let local? (path : String) : Except Fault String :=
    if path.isEmpty then .error ⟨.image, "empty image source"⟩ else .ok path
  match Source.classify src with
  | .path path => local? path
  | .fileUrl path => local? path
  | .remote url => .error ⟨.image, s!"remote image '{url}' was not downloaded"⟩
  | .embedded => .error ⟨.unsupported, "embedded data: image without a decoded file"⟩

/-- Paths by source.  A source that is not in the table is a fault, or is taken as it is with
`fallback`. -/
structure ImageTable where
  entries : List (String × String) := []
  fallback : Bool := false
  deriving DecidableEq, Repr, Inhabited

namespace ImageTable

/-- Enters the path of an image, in place of one entered before.  Blanks around the source do not
count. -/
def add (table : ImageTable) (src path : String) : ImageTable :=
  let key := Text.trim src
  { table with entries := table.entries.filter (fun entry => entry.1 ≠ key) ++ [(key, path)] }

def size (table : ImageTable) : Nat := table.entries.length

def isEmpty (table : ImageTable) : Bool := table.entries.isEmpty

def resolver (table : ImageTable) : Resolver := fun src =>
  match table.entries.lookup (Text.trim src) with
  | some path => .ok path
  | none =>
    if table.fallback then Resolver.passthrough src
    else .error ⟨.image, s!"no image registered for '{src}'"⟩

end ImageTable

/-- Directories to look for images in.  What files there are is told by `holds`. -/
structure ImageSearch where
  base : Option String := none
  directories : List String := []
  holds : String → Bool

namespace ImageSearch

/-- Looks in one directory, which is also the base. -/
def within (holds : String → Bool) (directory : String) : ImageSearch :=
  { base := some directory, directories := [directory], holds }

def addDirectory (search : ImageSearch) (directory : String) : ImageSearch :=
  { search with directories := search.directories ++ [directory] }

def isAbsolute (path : String) : Bool := Text.beginsWith path "/"

/-- A path below a directory. -/
def join (directory path : String) : String :=
  if directory.isEmpty || Text.endsIn directory "/" then directory ++ path
  else directory ++ "/" ++ path

/-- The places to look for a path, in order: below each directory, and last as it is.  An absolute
path has only one place. -/
def candidates (search : ImageSearch) (path : String) : List String :=
  if isAbsolute path then [path]
  else search.directories.map (fun directory => join directory path) ++ [path]

def resolver (search : ImageSearch) : Resolver := fun src =>
  match Resolver.passthrough src with
  | .error fault => .error fault
  | .ok path =>
    match (search.candidates path).find? search.holds with
    | some found => .ok found
    | none => .error ⟨.image, s!"image file not found: {path}"⟩

end ImageSearch

end MarkupTex.Image
