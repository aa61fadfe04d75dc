import MarkupTex.Check
import MarkupTex.Convert.Run
import MarkupTex.Html.Tree
/-!
# The command line

What the arguments ask for, and what is to be written for an input.  Reading the input and saving
the output are left to the caller: `Arguments.source` names the input, and an `Outcome` may hold
something to be saved, with what to say once that is done.
-/

set_option autoImplicit false

namespace MarkupTex.CommandLine

/-- What the program is asked to do. -/
inductive Action where
  | convert
  /-- Check the input, with colors or without. -/
  | check (colored : Bool)
  | info
  | version
  deriving DecidableEq, Repr, Inhabited

structure Arguments where
  action : Action := .convert
  /-- The file to read; without one it is the standard input. -/
  input : Option String := none
  output : Option String := none
  documentClass : String := "article"
  title : Option String := none
  author : Option String := none
  imageDirectory : Option String := none
  fullDocument : Bool := false
  noBorders : Bool := false
  strict : Bool := false
  quiet : Bool := false
  embedWarnings : Bool := false
  deriving DecidableEq, Repr, Inhabited

/-! ## Reading the arguments -/

/-- The long form of a one-letter option. -/
def longName? : Char → Option String
  | 'f' => some "--full-document"
  | 'q' => some "--quiet"
  | 'v' => some "--verbose"
  | 'V' => some "--version"
  | _ => none

/-- One-letter options in a row, in their long form.  What follows the letter of the output option
is the name of the file. -/
def expandLetters : List Char → Option (List String)
  | [] => some []
  | 'o' :: [] => some ["--output"]
  | 'o' :: '=' :: value => some ["--output=" ++ String.ofList value]
  | 'o' :: value => some ["--output=" ++ String.ofList value]
  | c :: cs => do
    let name ← longName? c
    let names ← expandLetters cs
    some (name :: names)

/-- Arguments with all options in their long form; nothing is changed after `--`. -/
def expand : List String → Option (List String)
  | [] => some []
  | "--" :: rest => some ("--" :: rest)
  | arg :: rest => do
    let rest ← expand rest
    match arg.toList with
    | '-' :: '-' :: _ => some (arg :: rest)
    | '-' :: c :: cs => (expandLetters (c :: cs)).map (· ++ rest)
    | _ => some (arg :: rest)

/-- An option that has a value. -/
def setValue? (a : Arguments) (name value : String) : Option Arguments :=
  match name with
  | "--output" => some { a with output := some value }
  | "--class" => some { a with documentClass := value }
  | "--title" => some { a with title := some value }
  | "--author" => some { a with author := some value }
  | "--image-dir" => some { a with imageDirectory := some value }
  | _ => none

/-- An option that stands alone. -/
def setFlag? (a : Arguments) (name : String) : Option Arguments :=
  match name with
  | "--full-document" => some { a with fullDocument := true }
  | "--no-borders" => some { a with noBorders := true }
  | "--check" => some { a with action := .check true }
  | "--color" => some a
  | "--strict" => some { a with strict := true }
  | "--quiet" => some { a with quiet := true }
  | "--embed-warnings" => some { a with embedWarnings := true }
  | "--verbose" => some a
  | _ => none

/-- The name of an option and the value that follows its equals sign. -/
def splitOption (arg : String) : String × Option String :=
  match Text.splitAtChar '=' arg.toList with
  | some (name, value) => (String.ofList name, some (String.ofList value))
  | none => (arg, none)

/-- A file name; there can be one. -/
def setInput? (a : Arguments) (path : String) : Option Arguments :=
  if a.input.isSome then none else some { a with input := some path }

/-- The arguments of the `check` command. -/
def parseCheck (a : Arguments) : List String → Option Arguments
  | [] => some a
  | "--no-color" :: rest => parseCheck { a with action := .check false } rest
  | "--" :: rest => rest.foldlM setInput? a
  | arg :: rest =>
    if Text.beginsWith arg "--" then none
    else (setInput? a arg).bind fun a => parseCheck a rest

/-- The arguments in their long form, after those that have led to `a`. -/
def parseFrom (a : Arguments) : List String → Option Arguments
  | [] => some a
  | "--" :: rest => rest.foldlM setInput? a
  | "--version" :: _ => some { a with action := .version }
  | "check" :: rest => parseCheck { action := .check true } rest
  | "info" :: rest => if rest.isEmpty then some { action := .info } else none
  | arg :: rest =>
    if Text.beginsWith arg "--" then
      match splitOption arg with
      | (name, some value) => (setValue? a name value).bind fun a => parseFrom a rest
      | (name, none) =>
        match setFlag? a name with
        | some a => parseFrom a rest
        | none =>
          match rest with
          | [] => none
          | value :: rest => (setValue? a name value).bind fun a => parseFrom a rest
    else (setInput? a arg).bind fun a => parseFrom a rest
termination_by args => args.length

/-- What the arguments ask for; nothing if they cannot be understood. -/
def parse? (args : List String) : Option Arguments := (expand args).bind (parseFrom {})

/-! ## Outcomes -/

/-- Something to be saved, and what to say when it is. -/
structure Save where
  path : String
  text : String
  notice : String
  deriving DecidableEq, Repr, Inhabited

/-- What the program writes, and its exit code. -/
structure Outcome where
  code : Nat := 0
  stdout : String := ""
  stderr : String := ""
  save : Option Save := none
  deriving DecidableEq, Repr, Inhabited

/-- A refusal of the system. -/
structure SystemError where
  code : Nat
  kind : String
  message : String
  deriving DecidableEq, Repr, Inhabited

namespace SystemError

def notFound : SystemError := ⟨2, "NotFound", "No such file or directory"⟩

def isDirectory : SystemError := ⟨21, "IsADirectory", "Is a directory"⟩

/-- The refusal on a line of its own. -/
def display (e : SystemError) : String :=
  "Error: Os \x7b code: " ++ toString e.code ++ ", kind: " ++ e.kind ++ ", message: \x22"
    ++ e.message ++ "\x22 \x7d\n"

end SystemError

namespace Outcome

/-- The input could not be read. -/
def unreadable (e : SystemError) : Outcome := { code := 1, stderr := e.display }

/-- The output after an attempt to save. -/
def afterSaving (o : Outcome) (refusal : Option SystemError) : Outcome :=
  match o.save, refusal with
  | some _, some e => { o with code := 1, stderr := o.stderr ++ e.display, save := none }
  | some save, none => { o with stderr := o.stderr ++ save.notice, save := none }
  | none, _ => o

/-- The arguments could not be understood. -/
def badUsage : Outcome :=
  { code := 2, stderr := "error: the arguments cannot be understood\n" }

end Outcome

def versionText : String := "h2l 0.4.0\n"

def infoText : String :=
  String.join
    ["htlatex - CSS-aware HTML to LaTeX converter\n",
     "Version: 0.4.0\n",
     "\n",
     "Features:\n",
     "  ✓ Inline CSS cascade (color, background, weight, style, decoration, size, family)\n",
     "  ✓ Headings, lists, links, preformatted text\n",
     "  ✓ Tables with colspan, nested tables, image grids\n",
     "  ✓ Images as figures with captions and labels\n",
     "  ✓ HTML diagnostics and checking\n",
     "\n",
     "Packages used by the output:\n",
     "  - graphicx, hyperref, xcolor, textcomp\n",
     "\n"]

/-- Warnings for a terminal, the heading in yellow. -/
def warningText (warnings : List Warning) : String :=
  "\n\x1b[33mConversion Warnings (" ++ toString warnings.length ++ "):\x1b[0m\n\n"
    ++ String.join (warnings.map fun w => "  " ++ w.display ++ "\n") ++ "\n"

def commentRule : String :=
  "% ===============================================================\n"

/-- One warning as a comment of one line. -/
def warningComment (w : Warning) : String := "% " ++ Text.replace w.display "\n" " " ++ "\n"

/-- A text with its warnings as comments behind it. -/
def withComments (content : String) (warnings : List Warning) : String :=
  content ++ "\n\n" ++ commentRule ++ "% Conversion Warnings\n" ++ commentRule
    ++ String.join (warnings.map warningComment)

namespace Arguments

def options (a : Arguments) : Options :=
  { fullDocument := a.fullDocument, documentClass := a.documentClass, title := a.title,
    author := a.author, tableBorders := !a.noBorders }

/-- How images are resolved; `holds` tells which files there are. -/
def resolver (a : Arguments) (holds : String → Bool) : Image.Resolver :=
  match a.imageDirectory with
  | some directory => (Image.ImageSearch.within holds directory).resolver
  | none => Image.Resolver.passthrough

/-- The places where the images of a document may be looked for. -/
def imagePlaces (a : Arguments) (doc : Document) : List String :=
  match a.imageDirectory with
  | none => []
  | some directory =>
    let search := Image.ImageSearch.within (fun _ => false) directory
    (List.range doc.size).flatMap fun id =>
      match (doc.attribute? id "src").map Image.Resolver.passthrough with
      | some (.ok path) => search.candidates path
      | _ => []

/-- The notice that an output was saved. -/
def saveNotice (path : String) (warnings : List Warning) : String :=
  if warnings.isEmpty then "✓ Output written to: " ++ path ++ "\n"
  else
    "⚠ Output written to: " ++ path ++ " (" ++ toString warnings.length ++ " warning(s))\n"

/-- What is written for a conversion that came to its end. -/
def report (a : Arguments) (output : Output) : Outcome :=
  let warned := !output.warnings.isEmpty
  let stderr := if !a.quiet && warned then warningText output.warnings else ""
  if a.strict && warned then
    { code := 1, stderr := stderr ++ "Error: " ++ toString output.warnings.length
        ++ " conversion warning(s) in strict mode\n" }
  else
    let text := if a.embedWarnings && warned then withComments output.content output.warnings
      else output.content
    match a.output with
    | some path =>
      { stderr, save := some ⟨path, text ++ "\n", saveNotice path output.warnings⟩ }
    | none => { stderr, stdout := text ++ "\n" }

/-- Whether anything is read. -/
def needsInput (a : Arguments) : Bool :=
  match a.action with
  | .convert | .check _ => true
  | .info | .version => false

/-- What is written for an input. -/
def respond (a : Arguments) (holds : String → Bool) (input : String) : Outcome :=
  match a.action with
  | .info => { stdout := infoText }
  | .version => { stdout := versionText }
  | .check colored =>
    let report := Check.check (Html.parse input)
    { code := if report.hasErrors then 1 else 0, stdout := report.format colored ++ "\n" }
  | .convert =>
    match (Html.parse input).toLatex a.options (a.resolver holds) with
    | .ok output => a.report output
    | .error fault => { code := 2, stderr := "Error: " ++ fault.display ++ "\n" }

end Arguments

end MarkupTex.CommandLine
