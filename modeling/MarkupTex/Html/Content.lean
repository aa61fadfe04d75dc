import MarkupTex.Text.Blank
import MarkupTex.Html.Reference
/-!
# Elements taken whole

In some elements tags do not count: their content goes up to their end tag, or to the end of the
text.  In a few of them references are resolved.

A script is special.  Behind `<!--` in it, up to `-->`, a script within the script may follow, and
the end tag of that one does not end the element.
-/

set_option autoImplicit false

namespace MarkupTex.Html

/-- The blanks of HTML. -/
def isSpace (c : Char) : Bool := c = ' ' || c = '\t' || c = '\n' || c = '\r' || c.toNat = 0x0C

/-- What may stand behind the name of a tag. -/
def endsName (c : Char) : Bool := isSpace c || c = '/' || c = '>'

/-- NUL is replaced wherever it is not left out. -/
def withoutNul (cs : List Char) : List Char :=
  cs.map fun c => if c.toNat = 0 then replacement else c

/-- How the content of an element is taken if it is taken whole. -/
inductive ContentKind where
  /-- With references. -/
  | text
  | raw
  | script
  /-- All that is left of the text. -/
  | endless
  deriving DecidableEq, Repr, Inhabited

def ContentKind.ofName? : String → Option ContentKind
  | "title" | "textarea" => some .text
  | "style" | "xmp" | "iframe" | "noembed" | "noframes" | "noscript" => some .raw
  | "script" => some .script
  | "plaintext" => some .endless
  | _ => none

/-- Whether these characters begin with a name and with what may stand behind it. -/
def beginsName (name : List Char) (cs : List Char) : Bool :=
  (cs.take name.length).map Char.toLower = name && (cs.drop name.length).head?.any endsName

/-- Whether the end tag of an element stands at this place. -/
def atEndTag (name : List Char) : List Char → Bool
  | '<' :: '/' :: cs => beginsName name cs
  | _ => false

/-- The content of an element up to its end tag, and what follows from there. -/
def contentUpTo (name : List Char) : List Char → List Char × List Char
  | [] => ([], [])
  | c :: cs =>
    if atEndTag name (c :: cs) then ([], c :: cs)
    else
      let (content, rest) := contentUpTo name cs
      (c :: content, rest)

theorem length_contentUpTo_le (name cs : List Char) :
    (contentUpTo name cs).2.length ≤ cs.length := by
  induction cs with
  | nil => simp [contentUpTo]
  | cons c cs ih =>
    rw [contentUpTo]
    split
    · simp
    · simp only [List.length_cons]
      omega

/-! ## Scripts -/

/-- Where a place in a script stands. -/
inductive ScriptPart where
  | plain
  /-- Behind `<!--`. -/
  | commented
  /-- In a script behind `<!--`. -/
  | nested
  deriving DecidableEq, Repr, Inhabited

def scriptName : List Char := "script".toList

/-- Where the characters behind `c` stand; `dashes` counts the dashes right before it. -/
def ScriptPart.next (part : ScriptPart) (dashes : Nat) (c : Char) (cs : List Char) : ScriptPart :=
  match part, c, cs with
  | plain, '<', '!' :: '-' :: '-' :: _ => commented
  | commented, '<', cs => if beginsName scriptName cs then nested else commented
  | nested, '<', '/' :: cs => if beginsName scriptName cs then commented else nested
  | plain, _, _ => plain
  | _, '>', _ => if 2 ≤ dashes then plain else part
  | _, _, _ => part

/-- The content of a script up to the end tag that counts, and what follows from there. -/
def scriptUpTo (part : ScriptPart) (dashes : Nat) : List Char → List Char × List Char
  | [] => ([], [])
  | c :: cs =>
    if part ≠ .nested && atEndTag scriptName (c :: cs) then ([], c :: cs)
    else
      let (content, rest) :=
        scriptUpTo (part.next dashes c cs) (if c = '-' then dashes + 1 else 0) cs
      (c :: content, rest)

theorem length_scriptUpTo_le (part : ScriptPart) (dashes : Nat) (cs : List Char) :
    (scriptUpTo part dashes cs).2.length ≤ cs.length := by
  induction cs generalizing part dashes with
  | nil => simp [scriptUpTo]
  | cons c cs ih =>
    rw [scriptUpTo]
    split
    · simp
    · have := ih (part.next dashes c cs) (if c = '-' then dashes + 1 else 0)
      simp only [List.length_cons]
      omega

/-! ## All kinds -/

/-- The content of an element, with what follows from its end tag on. -/
def ContentKind.take (kind : ContentKind) (name : String) (cs : List Char) : String × List Char :=
  match kind with
  | .text =>
    let (content, rest) := contentUpTo name.toList cs
    (String.ofList (resolve false (withoutNul content)), rest)
  | .raw =>
    let (content, rest) := contentUpTo name.toList cs
    (String.ofList (withoutNul content), rest)
  | .script =>
    let (content, rest) := scriptUpTo .plain 0 cs
    (String.ofList (withoutNul content), rest)
  | .endless => (String.ofList (withoutNul cs), [])

theorem ContentKind.length_take_le (kind : ContentKind) (name : String) (cs : List Char) :
    (kind.take name cs).2.length ≤ cs.length := by
  cases kind with
  | text => exact length_contentUpTo_le name.toList cs
  | raw => exact length_contentUpTo_le name.toList cs
  | script => exact length_scriptUpTo_le .plain 0 cs
  | endless => exact Nat.zero_le _

end MarkupTex.Html
