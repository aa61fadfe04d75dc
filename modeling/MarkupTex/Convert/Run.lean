import MarkupTex.Convert.Elements
/-!
# Converting a document

A conversion walks the document from its root, and the output is what has been written at the end.
For a complete document the output is put between a preamble and the end of the document.
-/

set_option autoImplicit false

namespace MarkupTex

namespace Convert

open Latex (Buffer braced beginEnvironment endEnvironment)

/-- A text with everything escaped that means something to LaTeX. -/
def escaped (s : String) : Except Fault String := (Buffer.empty.appendText s).map (·.text)

/-- The packages that every complete document loads. -/
def packages : List String :=
  ["\\usepackage[utf8]\x7binputenc\x7d\n", "\\usepackage[T1]\x7bfontenc\x7d\n",
   "\\usepackage\x7bgraphicx\x7d\n", "\\usepackage\x7bhyperref\x7d\n",
   "\\usepackage\x7bxcolor\x7d\n", "\\usepackage\x7btextcomp\x7d\n"]

/-- One line of the preamble for a text that may be missing. -/
def preambleLine (command : String) : Option String → Except Fault (List String)
  | none => .ok []
  | some s => (escaped s).map fun s => ["\\" ++ command ++ braced s ++ "\n"]

/-- Puts the output of a conversion into a complete document. -/
def wrapDocument (options : Options) (title : Option String) (content : String) :
    Except Fault String := do
  let documentClass := if options.documentClass.isEmpty then "article" else options.documentClass
  let buffer ← Buffer.withCapacity (content.utf8ByteSize + 512)
  let buffer ← buffer.append ("\\documentclass" ++ braced documentClass ++ "\n")
  let buffer ← buffer.appendAll packages
  let buffer ← buffer.appendAll (← preambleLine "title" title)
  let buffer ← buffer.appendAll (← preambleLine "author" options.author)
  let buffer ← buffer.append ("\n" ++ beginEnvironment "document" ++ "\n\n")
  let buffer ← if title.isSome then buffer.append "\\maketitle\n\n" else pure buffer
  let buffer ← buffer.append content
  let buffer ← buffer.append ("\n\n" ++ endEnvironment "document" ++ "\n")
  return buffer.text

/-- The state after a walk of the whole document, or the fault that ended it. -/
def runFrom (doc : Document) (setting : Setting) (root : Nat) : Except Fault Converter :=
  match walk doc root StyleArena.root setting.options.importantPolicy (visitor doc setting)
    { arena := StyleArena.new, state := Converter.start } with
  | .ok _ scene => .ok scene.state
  | .error fault _ => .error fault

def noRoot : Fault := ⟨.malformedDocument, "document has no root element"⟩

end Convert

open MarkupTex.Convert in
/-- Converts a document to LaTeX.  What has to be left out on the way comes back as warnings. -/
def Document.toLatex (doc : Document) (options : Options) (resolve : Image.Resolver) :
    Except Fault Output := do
  match doc.root? with
  | none => throw noRoot
  | some root =>
    let output ← finish (← runFrom doc ⟨options, resolve⟩ root)
    if options.fullDocument then
      let content ← wrapDocument options (options.title.or doc.title?) output.content
      return { output with content }
    else return output

/-- Converts a document of which nothing may be left out: the first warning is a fault. -/
def Document.toLatexStrict (doc : Document) (options : Options) (resolve : Image.Resolver) :
    Except Fault String := do
  let output ← doc.toLatex options resolve
  match output.warnings with
  | [] => return output.content
  | w :: _ => throw ⟨w.kind, w.display⟩

end MarkupTex
