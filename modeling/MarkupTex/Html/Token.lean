import MarkupTex.Html.Attributes
import MarkupTex.Html.Content
/-!
# Tokens of HTML

The text of a document is cut into tags and texts, and references are resolved in the texts.  An
element whose content is taken whole is one token.

What is left unfinished at the end of the text is dropped if it is a tag, and is closed if it is a
comment.  Every token takes something off the text (`length_nextToken_le`), and that is why cutting
ends.
-/

set_option autoImplicit false

namespace MarkupTex.Html

inductive Token where
  | text (s : String)
  /-- A NUL in a text. -/
  | nul
  | startTag (name : String) (attributes : List Attribute)
  | endTag (name : String)
  /-- An element with everything in it. -/
  | whole (name : String) (attributes : List Attribute) (content : String)
  | comment
  | doctype
  /-- Something that has no meaning at all. -/
  | nothing
  deriving DecidableEq, Repr, Inhabited

/-- What follows the end tag that begins a text, and nothing if it has no end. -/
def afterTag (cs : List Char) : List Char :=
  match tag? (cs.drop 2) with
  | some (_, _, rest) => rest
  | none => []

theorem length_afterTag_le (cs : List Char) : (afterTag cs).length ≤ cs.length := by
  unfold afterTag
  split
  · next h =>
    have := length_of_tag? h
    rw [List.length_drop] at this
    omega
  · exact Nat.zero_le _

/-! ## Marks of byte order -/

def byteOrderMark : Char := Char.ofNat 0xFEFF

/-- The text without the mark of byte order in front of it. -/
def dropMark : List Char → List Char
  | [] => []
  | c :: cs => if c = byteOrderMark then cs else c :: cs

theorem length_dropMark_le (cs : List Char) : (dropMark cs).length ≤ cs.length := by
  cases cs with
  | nil => exact Nat.le_refl _
  | cons c cs =>
    rw [dropMark]
    split <;> simp

/-! ## Cutting -/

/-- Whether something other than text begins with these characters. -/
def beginsTag : List Char → Bool
  | '<' :: '/' :: rest => !rest.isEmpty
  | '<' :: c :: _ => Text.isAsciiLetter c || c = '!' || c = '?'
  | _ => false

/-- The characters up to the next tag or NUL, and what follows. -/
def textUpTo : List Char → List Char × List Char
  | [] => ([], [])
  | c :: cs =>
    if beginsTag (c :: cs) || c.toNat = 0 then ([], c :: cs)
    else
      let (text, rest) := textUpTo cs
      (c :: text, rest)

theorem length_textUpTo_le (cs : List Char) : (textUpTo cs).2.length ≤ cs.length := by
  induction cs with
  | nil => simp [textUpTo]
  | cons c cs ih =>
    rw [textUpTo]
    split
    · simp
    · simp only [List.length_cons]
      omega

/-- What follows the next `>`. -/
def afterBracket (cs : List Char) : List Char := (cs.dropWhile (· ≠ '>')).drop 1

theorem length_afterBracket_le (cs : List Char) : (afterBracket cs).length ≤ cs.length := by
  have := (List.dropWhile_sublist (l := cs) (· ≠ '>')).length_le
  rw [afterBracket, List.length_drop]
  omega

/-- The start tag whose name begins with these characters, perhaps with all that is in the element,
and what follows.  Behind a script the text begins anew, and may have a mark in front of it. -/
def startTag (cs : List Char) : Token × List Char :=
  match tag? cs with
  | none => (.nothing, [])
  | some (name, attributes, rest) =>
    match ContentKind.ofName? name with
    | none => (.startTag name attributes, rest)
    | some kind =>
      let (content, rest) := kind.take name rest
      let rest := afterTag rest
      (.whole name attributes content, if kind = .script then dropMark rest else rest)

theorem length_startTag_le (cs : List Char) : (startTag cs).2.length ≤ cs.length := by
  unfold startTag
  split
  · exact Nat.zero_le _
  · next name attributes rest h =>
    have hrest := length_of_tag? h
    split
    · exact Nat.le_of_lt hrest
    · next kind _ =>
      have hcontent := kind.length_take_le name rest
      have htag := length_afterTag_le (kind.take name rest).2
      have hmark := length_dropMark_le (afterTag (kind.take name rest).2)
      dsimp only
      split <;> omega

/-- The end tag whose name begins with these characters.  Without a name it is nothing, or a
comment. -/
def endTag (cs : List Char) : Token × List Char :=
  match cs with
  | '>' :: rest => (.nothing, rest)
  | c :: _ =>
    if Text.isAsciiLetter c then
      match tag? cs with
      | some (name, _, rest) => (.endTag name, rest)
      | none => (.nothing, [])
    else (.comment, afterBracket cs)
  | [] => (.nothing, [])

theorem length_endTag_le (cs : List Char) : (endTag cs).2.length ≤ cs.length := by
  unfold endTag
  split
  · simp
  · split
    · split
      · next h => exact Nat.le_of_lt (length_of_tag? h)
      · exact Nat.zero_le _
    · exact length_afterBracket_le _
  · exact Nat.zero_le _

/-- What follows two dashes and a bracket, which may have an exclamation mark between them. -/
def afterDashes : List Char → List Char
  | [] => []
  | '-' :: '-' :: '>' :: rest => rest
  | '-' :: '-' :: '!' :: '>' :: rest => rest
  | _ :: rest => afterDashes rest

theorem length_afterDashes_le (cs : List Char) : (afterDashes cs).length ≤ cs.length := by
  fun_induction afterDashes cs with
  | case1 => exact Nat.le_refl _
  | case2 rest => simp only [List.length_cons]; omega
  | case3 rest => simp only [List.length_cons]; omega
  | case4 c rest _ _ ih => exact Nat.le_succ_of_le ih

/-- What follows a comment, from behind its `<!--`.  It can end at once. -/
def afterComment : List Char → List Char
  | '>' :: rest => rest
  | '-' :: '>' :: rest => rest
  | cs => afterDashes cs

theorem length_afterComment_le (cs : List Char) : (afterComment cs).length ≤ cs.length := by
  unfold afterComment
  split
  · simp
  · simp only [List.length_cons]
    omega
  · exact length_afterDashes_le cs

/-- A comment or a declaration, from behind its `<!`. -/
def declaration (cs : List Char) : Token × List Char :=
  match cs with
  | '-' :: '-' :: rest => (.comment, afterComment rest)
  | _ =>
    let isDoctype := (cs.take 7).map Char.toLower = "doctype".toList
    (if isDoctype then .doctype else .comment, afterBracket cs)

theorem length_declaration_le (cs : List Char) : (declaration cs).2.length ≤ cs.length := by
  unfold declaration
  split
  · next rest =>
    have := length_afterComment_le rest
    simp only [List.length_cons]
    omega
  · exact length_afterBracket_le cs

/-- The token at the beginning of a text, and what follows it. -/
def nextToken (c : Char) (cs : List Char) : Token × List Char :=
  if c.toNat = 0 then (.nul, cs)
  else if beginsTag (c :: cs) then
    match cs with
    | '/' :: rest => endTag rest
    | '!' :: rest => declaration rest
    | '?' :: rest => (.comment, afterBracket rest)
    | _ => startTag cs
  else
    let (text, rest) := textUpTo cs
    (.text (String.ofList (resolve false (c :: text))), rest)

/-- A token takes its first character off the text, at least. -/
theorem length_nextToken_le (c : Char) (cs : List Char) :
    (nextToken c cs).2.length ≤ cs.length := by
  unfold nextToken
  split
  · exact Nat.le_refl _
  · split
    · split
      · next rest _ => exact Nat.le_succ_of_le (length_endTag_le rest)
      · next rest _ => exact Nat.le_succ_of_le (length_declaration_le rest)
      · next rest _ => exact Nat.le_succ_of_le (length_afterBracket_le rest)
      · exact length_startTag_le cs
    · exact length_textUpTo_le cs

/-- All the tokens of a text. -/
def tokens : List Char → List Token
  | [] => []
  | c :: cs =>
    let next := nextToken c cs
    next.1 :: tokens next.2
termination_by cs => cs.length
decreasing_by exact Nat.lt_succ_of_le (length_nextToken_le c cs)

/-! ## Preparing the text -/

/-- Ends of lines are line feeds only. -/
def normalizeLines : List Char → List Char
  | '\r' :: '\n' :: cs => '\n' :: normalizeLines cs
  | '\r' :: cs => '\n' :: normalizeLines cs
  | c :: cs => c :: normalizeLines cs
  | [] => []

/-- How many bytes of a text are read at once. -/
def blockSize : Nat := 4096

/-- Leaves out the marks of byte order at the beginning of each block.  A character that lies in two
blocks is read by itself.  The next character begins at the byte `place`, and `begins` tells that it
is read apart from the one before. -/
def dropMarksFrom (place : Nat) (begins : Bool) : List Char → List Char
  | [] => []
  | c :: cs =>
    let behind := place + c.utf8Size
    let apart := place / blockSize ≠ (behind - 1) / blockSize
    let rest := dropMarksFrom behind (apart || behind % blockSize = 0) cs
    if c = byteOrderMark && (begins || apart) then rest else c :: rest

def tokenize (s : String) : List Token := tokens (normalizeLines (dropMarksFrom 0 true s.toList))

end MarkupTex.Html
