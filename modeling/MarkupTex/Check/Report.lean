/-!
# Reports

A diagnostic says what a conversion will leave out or change, how much that matters, and where.  A
report is a row of them with a summary at its end; it can be written with colors for a terminal.
-/

set_option autoImplicit false

namespace MarkupTex.Check

/-- How much a diagnostic matters. -/
inductive Level where
  | info
  | warning
  | error
  deriving DecidableEq, Repr, Inhabited

namespace Level

def label : Level → String
  | info => "info"
  | warning => "warning"
  | error => "error"

/-- What diagnostics of this level are called in a summary. -/
def noun : Level → String
  | info => "note"
  | warning => "warning"
  | error => "error"

/-- The control sequence for the color of a level. -/
def color : Level → String
  | info => "\x1b[34m"
  | warning => "\x1b[33m"
  | error => "\x1b[31m"

end Level

/-- The control sequence for green. -/
def green : String := "\x1b[32m"

/-- The control sequence that ends a color. -/
def plain : String := "\x1b[0m"

structure Diagnostic where
  level : Level
  message : String
  /-- The node that it is about. -/
  node : Option Nat := none
  /-- A piece of the source, such as a tag or a declaration. -/
  source : Option String := none
  suggestion : Option String := none
  deriving DecidableEq, Repr, Inhabited

/-- Level and message on the first line; place, source and suggestion below. -/
def Diagnostic.display (d : Diagnostic) : String :=
  let place := match d.node with
    | some id => "\n  --> node " ++ toString id
    | none => ""
  let source := match d.source with
    | some s => "\n  |\n  | " ++ s
    | none => ""
  let suggestion := match d.suggestion with
    | some s => "\n  = help: " ++ s
    | none => ""
  d.level.label ++ ": " ++ d.message ++ place ++ source ++ suggestion

/-- Diagnostics in the order in which they came up. -/
abbrev Report := List Diagnostic

namespace Report

def count (report : Report) (level : Level) : Nat :=
  (report.filter fun d => d.level = level).length

def hasErrors (report : Report) : Bool := 0 < report.count .error

/-- How many there are of one level, if there are any. -/
def countText? (report : Report) (level : Level) : Option String :=
  let n := report.count level
  if n = 0 then none
  else some (toString n ++ " " ++ level.noun ++ (if n = 1 then "" else "s"))

/-- How many there are of each level, the worst first. -/
def summary (report : Report) : String :=
  let parts := [Level.error, .warning, .info].filterMap report.countText?
  if parts.isEmpty then "no issues found" else ", ".intercalate parts

/-- The color of the whole: that of the worst level, and green if there is nothing but notes. -/
def color (report : Report) : String :=
  if report.hasErrors then Level.error.color
  else if 0 < report.count .warning then Level.warning.color
  else green

/-- All the diagnostics with empty lines between them, and the summary. -/
def format (report : Report) (colored : Bool) : String :=
  if colored then
    String.join (report.map fun d => d.level.color ++ d.display ++ plain ++ "\n\n")
      ++ report.color ++ "Summary: " ++ report.summary ++ plain
  else String.join (report.map fun d => d.display ++ "\n\n") ++ "Summary: " ++ report.summary

end Report

end MarkupTex.Check
