import MarkupTex.Proofs.Color.Notations
import MarkupTex.Proofs.Text.Trim
import MarkupTex.Style.Declarations
/-!
# The color of a background

A `background` value has a color among other words: addresses, places, words for repetition.  It is found in one of
two ways.  If there is an `rgb` anywhere, it is the text from there to the next closing parenthesis, which need not be
a color, and nothing else is looked at; otherwise it is the last word that is a color.

So an accepted word is found if no other word has an `rgb` in it, and in general exactly if the first `rgb` begins a
color.
-/

set_option autoImplicit false

namespace MarkupTex.Style

variable {style : Style} {value color : String} {before after passage w : List Char}

theorem isColor_iff {text : String} : isColor text = true ↔ ∃ digits, Color.toHex text = .ok digits := by
  rw [isColor]
  cases Color.toHex text <;> simp

/-! ## Words that are colors -/

theorem eq_of_toLower_eq_parenthesis {c : Char} : c.toLower = ')' → c = ')' :=
  Text.forall_toLower (fun c d => d = ')' → c = ')') (fun _ h => h) (by decide +kernel) c

/-- An `rgb` in a text that begins with one and has no other `r` is the one at the beginning. -/
theorem begins_of_function {inside : List Char} (hr : 'r' ∉ inside)
    (h : before ++ "rgb".toList ++ after = "rgb".toList ++ inside ++ [')']) :
    before = [] ∧ after = inside ++ [')'] := by
  cases before with
  | nil => exact ⟨rfl, by simpa using h⟩
  | cons b before =>
    have hrest : before ++ "rgb".toList ++ after = "gb".toList ++ inside ++ [')'] := (List.cons.inj h).2
    have hmem : 'r' ∈ "gb".toList ++ inside ++ [')'] := by
      rw [← hrest]
      simp
    simp [hr] at hmem

/-- A word with an `rgb` that is a color begins there, and ends in the first parenthesis that closes. -/
theorem function_of_isColor (hblank : ∀ c ∈ w, Text.isBlank c = false) (hcolor : isColor (String.ofList w) = true)
    (hw : w = before ++ "rgb".toList ++ after) :
    before = [] ∧ ∃ inside, after = inside ++ [')'] ∧ ')' ∉ inside := by
  obtain ⟨digits, hdigits⟩ := isColor_iff.mp hcolor
  have htrim : Text.trim (String.ofList w) = String.ofList w := by
    rw [Text.trim, String.toList_ofList, (Text.sharp_of_forall hblank).trimList_eq]
  have hlower : (Text.lower (Text.trim (String.ofList w))).toList =
      before.map Char.toLower ++ "rgb".toList ++ after.map Char.toLower := by
    have hrgb : "rgb".toList.map Char.toLower = "rgb".toList := by decide
    rw [htrim, Text.toList_lower, String.toList_ofList, hw, List.map_append, List.map_append, hrgb]
  have hdenotes := Color.denotes_of_toHex hdigits
  rw [hlower] at hdenotes
  obtain ⟨inside, heq, hr, hparen⟩ := hdenotes.function ⟨_, _, rfl⟩
  obtain ⟨hbefore, hafter⟩ := begins_of_function hr heq
  -- The word ends as its lower case does, since no letter becomes a parenthesis.
  obtain ⟨front, last, rfl, hfront, hlast⟩ := List.map_eq_append_iff.mp hafter
  obtain ⟨c, rfl, hc⟩ := List.map_eq_singleton_iff.mp hlast
  obtain rfl := eq_of_toLower_eq_parenthesis hc
  refine ⟨List.map_eq_nil_iff.mp hbefore, front, rfl, fun hmem => hparen ?_⟩
  rw [← hfront]
  exact List.mem_map_of_mem hmem

/-! ## The two ways to the color -/

/-- The first `rgb` of a value and what follows up to the next closing parenthesis. -/
def FirstFunction (value passage : List Char) : Prop :=
  ∃ before inside after, value = before ++ passage ++ after ∧ passage = "rgb".toList ++ inside ++ [')'] ∧
    ')' ∉ inside ∧ ¬ "rgb".toList <:+: before ++ "rg".toList

theorem shorthandColor?_of_words (h : ¬ "rgb".toList <:+: value.toList) :
    shorthandColor? value = (Text.words value).reverse.find? isColor := by
  rw [shorthandColor?, (Text.splitFirst_eq_none (by decide)).mpr h]

theorem shorthandColor?_of_function (h : FirstFunction value.toList passage) :
    shorthandColor? value = some (String.ofList passage) := by
  obtain ⟨before, inside, after, hcut, rfl, hparen, hfirst⟩ := h
  have hsplit : Text.splitFirst "rgb".toList value.toList = some (before, inside ++ ')' :: after) :=
    (Text.splitFirst_eq_some (by decide)).mpr ⟨by simp [hcut], hfirst⟩
  have hclose : Text.splitAtChar ')' (inside ++ ')' :: after) = some (inside, after) :=
    Text.splitAtChar_eq_some.mpr ⟨rfl, hparen⟩
  rw [shorthandColor?, hsplit]
  dsimp only
  rw [hclose, Option.map_some]

theorem firstFunction_of_shorthandColor? (h : "rgb".toList <:+: value.toList)
    (hcolor : shorthandColor? value = some color) : FirstFunction value.toList color.toList := by
  obtain ⟨before, rest, hsplit⟩ := Text.exists_splitFirst (by decide) h
  obtain ⟨hvalue, hfirst⟩ := (Text.splitFirst_eq_some (by decide)).mp hsplit
  rw [shorthandColor?, hsplit] at hcolor
  obtain ⟨⟨inside, after⟩, hclose, rfl⟩ := Option.map_eq_some_iff.mp hcolor
  obtain ⟨rfl, hparen⟩ := Text.splitAtChar_eq_some.mp hclose
  exact ⟨before, inside, after, by simp [hvalue], String.toList_ofList, hparen, hfirst⟩

theorem exists_wordColor (h : ∃ w ∈ Text.words value, isColor w = true) :
    ∃ color ∈ Text.words value, (Text.words value).reverse.find? isColor = some color ∧ isColor color = true := by
  obtain ⟨w, hmem, hw⟩ := h
  obtain ⟨color, hfind⟩ := Option.isSome_iff_exists.mp
    (List.find?_isSome.mpr ⟨w, List.mem_reverse.mpr hmem, hw⟩)
  exact ⟨color, List.mem_reverse.mp (List.mem_of_find?_eq_some hfind), hfind, List.find?_some hfind⟩

/-- Where every word with an `rgb` is a color, the first one is what is found. -/
theorem exists_functionWord (h : "rgb".toList <:+: value.toList)
    (hwords : ∀ w ∈ Text.words value, "rgb".toList <:+: w.toList → isColor w = true) :
    ∃ color ∈ Text.words value, FirstFunction value.toList color.toList ∧ isColor color = true := by
  obtain ⟨before, after, hsplit⟩ := Text.exists_splitFirst (by decide) h
  obtain ⟨hvalue, hfirst⟩ := (Text.splitFirst_eq_some (by decide)).mp hsplit
  have hrgb : ∀ c ∈ "rgb".toList, Text.isBlank c = false := by decide
  obtain ⟨front, back, hmem, more, rfl⟩ := Text.exists_word_of_append hrgb (by decide) [] before after
  rw [← hvalue] at hmem
  have hword : String.ofList (front ++ "rgb".toList ++ back) ∈ Text.words value := List.mem_map_of_mem hmem
  have hcolor := hwords _ hword ⟨front, back, String.toList_ofList.symm⟩
  have hblank := Text.not_isBlank_of_mem_wordsFrom (fun _ hc => absurd hc List.not_mem_nil) hmem
  obtain ⟨rfl, inside, rfl, hparen⟩ := function_of_isColor hblank hcolor rfl
  refine ⟨_, hword, ⟨before, inside, more, ?_, ?_, hparen, hfirst⟩, hcolor⟩
  · simp [hvalue]
  · simp

/-- Where some word of a shorthand is a color, a color is read exactly if there is no `rgb`, or the first one begins
a color.  So it is if every word with an `rgb` is a color, and then one of the words is read. -/
theorem backgroundColor?_isColor_iff (hcolor : style.get? "background-color" = none)
    (hvalue : style.get? "background" = some value) (hword : ∃ w ∈ Text.words value, isColor w = true) :
    ((∃ color, style.backgroundColor? = some color ∧ isColor color = true) ↔
      ¬ "rgb".toList <:+: value.toList ∨
        ∃ passage, FirstFunction value.toList passage ∧ isColor (String.ofList passage) = true) ∧
    ((∀ w ∈ Text.words value, "rgb".toList <:+: w.toList → isColor w = true) →
      ∃ color ∈ Text.words value, style.backgroundColor? = some color ∧ isColor color = true) := by
  have hread : style.backgroundColor? = shorthandColor? value := by
    rw [backgroundColor?, hcolor, hvalue, Option.bind_some]
  have hlast : ¬ "rgb".toList <:+: value.toList →
      ∃ color ∈ Text.words value, shorthandColor? value = some color ∧ isColor color = true := by
    intro hrgb
    rw [shorthandColor?_of_words hrgb]
    exact exists_wordColor hword
  rw [hread]
  refine ⟨⟨?_, ?_⟩, fun hwords => ?_⟩
  · rintro ⟨color, hfound, haccepted⟩
    by_cases hrgb : "rgb".toList <:+: value.toList
    · exact .inr ⟨color.toList, firstFunction_of_shorthandColor? hrgb hfound, by rwa [String.ofList_toList]⟩
    · exact .inl hrgb
  · rintro (hrgb | ⟨passage, hfirst, haccepted⟩)
    · obtain ⟨color, -, hfound⟩ := hlast hrgb
      exact ⟨color, hfound⟩
    · exact ⟨_, shorthandColor?_of_function hfirst, haccepted⟩
  · by_cases hrgb : "rgb".toList <:+: value.toList
    · obtain ⟨color, hmem, hfirst, haccepted⟩ := exists_functionWord hrgb hwords
      have hfound := shorthandColor?_of_function hfirst
      rw [String.ofList_toList] at hfound
      exact ⟨color, hmem, hfound, haccepted⟩
    · exact hlast hrgb

theorem backgroundColor?_isColor_iff_address :
    ∃ color ∈ Text.words "url(x.png) no-repeat #fff",
      (ofBlock "background: url(x.png) no-repeat #fff").backgroundColor? = some color ∧ isColor color = true := by
  obtain ⟨-, hread⟩ := @backgroundColor?_isColor_iff (ofBlock "background: url(x.png) no-repeat #fff")
    "url(x.png) no-repeat #fff" (by decide +kernel) (by decide +kernel)
    ⟨"#fff", by decide +kernel, by decide +kernel⟩
  exact hread (by decide +kernel)

/-- An address with an `rgb` hides the color behind it. -/
theorem backgroundColor?_addressWithRgb :
    (ofBlock "background: url(rgb.png) red").get? "background-color" = none ∧
      (ofBlock "background: url(rgb.png) red").get? "background" = some "url(rgb.png) red" ∧
      "red" ∈ Text.words "url(rgb.png) red" ∧ isColor "red" = true ∧
      ¬ ∃ color, (ofBlock "background: url(rgb.png) red").backgroundColor? = some color ∧ isColor color = true := by
  have hread : (ofBlock "background: url(rgb.png) red").backgroundColor? = some "rgb.png)" := by decide +kernel
  have hnot : isColor "rgb.png)" = false := by decide +kernel
  refine ⟨by decide +kernel, by decide +kernel, by decide +kernel, by decide +kernel, ?_⟩
  rintro ⟨color, hcolor, haccepted⟩
  obtain rfl : "rgb.png)" = color := by simpa [hread] using hcolor
  simp [hnot] at haccepted

end MarkupTex.Style
