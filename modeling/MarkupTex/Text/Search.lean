/-!
# Finding and replacing pieces of text

Everything is on lists of characters and goes from left to right: the first place where a piece
stands is the one that counts, and after a replacement the search goes on behind the piece.
-/

set_option autoImplicit false

namespace MarkupTex.Text

/-- What stands before the first occurrence of `piece`, and what follows it. -/
def splitFirst (piece : List Char) : List Char → Option (List Char × List Char)
  | [] => if piece.isEmpty then some ([], []) else none
  | c :: cs =>
    if piece.isPrefixOf (c :: cs) then some ([], (c :: cs).drop piece.length)
    else (splitFirst piece cs).map fun (before, after) => (c :: before, after)

def containsList (piece cs : List Char) : Bool := (splitFirst piece cs).isSome

def contains (s piece : String) : Bool := containsList piece.toList s.toList

/-- The part before the first `sep`, and the part behind it. -/
def splitAtChar (sep : Char) : List Char → Option (List Char × List Char)
  | [] => none
  | c :: cs =>
    if c = sep then some ([], cs)
    else (splitAtChar sep cs).map fun (before, after) => (c :: before, after)

/-- The separator at least is missing in what follows it. -/
theorem length_of_splitAtChar {sep : Char} {cs before after : List Char}
    (h : splitAtChar sep cs = some (before, after)) : after.length < cs.length := by
  induction cs generalizing before with
  | nil => simp [splitAtChar] at h
  | cons c cs ih =>
    rw [splitAtChar] at h
    split at h
    · obtain ⟨-, rfl⟩ : _ ∧ cs = after := by simpa using h
      simp
    · obtain ⟨⟨b, a⟩, hsplit, heq⟩ := Option.map_eq_some_iff.1 h
      obtain ⟨-, rfl⟩ : _ ∧ a = after := by simpa using heq
      have := ih hsplit
      simp only [List.length_cons]
      omega

/-- All occurrences of `piece`, none overlapping another, become `new`. -/
def replaceList (piece new : List Char) : List Char → List Char
  | [] => []
  | c :: cs =>
    if piece.isPrefixOf (c :: cs) then new ++ replaceList piece new (cs.drop (piece.length - 1))
    else c :: replaceList piece new cs
termination_by cs => cs.length
decreasing_by
  all_goals simp only [List.length_drop, List.length_cons]
  all_goals omega

def replace (s piece new : String) : String :=
  String.ofList (replaceList piece.toList new.toList s.toList)

/-- Pieces between the separators, always one more than there are separators. -/
def splitOnChar (sep : Char) : List Char → List (List Char)
  | [] => [[]]
  | c :: cs =>
    if c = sep then [] :: splitOnChar sep cs
    else
      match splitOnChar sep cs with
      | [] => [[c]]
      | piece :: pieces => (c :: piece) :: pieces

/-- The text without `start` in front, if it begins with it. -/
def afterStart? (start : String) (s : String) : Option String :=
  if start.toList.isPrefixOf s.toList then some (String.ofList (s.toList.drop start.length))
  else none

/-- The text without `ending` behind, if it ends in it. -/
def beforeEnd? (ending : String) (s : String) : Option String :=
  if ending.toList.isSuffixOf s.toList then
    some (String.ofList (s.toList.take (s.length - ending.length)))
  else none

def beginsWith (s start : String) : Bool := start.toList.isPrefixOf s.toList

/-- Looks at the end of the text alone, however long the text is. -/
def endsIn (s ending : String) : Bool := s.endsWith ending

/-- What a text ends in is a last part of its characters. -/
theorem endsIn_iff {s ending : String} : endsIn s ending = true ↔ ending.toList <:+ s.toList := by
  simp [endsIn, ← String.endsWith_toSlice]

end MarkupTex.Text
