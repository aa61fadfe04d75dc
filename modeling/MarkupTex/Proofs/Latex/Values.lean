import MarkupTex.Image.Options
import MarkupTex.Proofs.Color.Digits
import MarkupTex.Proofs.Latex.Inline
/-!
# Values of styles and attributes

Colors, numbers, sizes of letters and sizes of images are read from the document and written without
an escape.  They can be, because of what they are read as: the digits of a color and of a number are
plain characters, and all the rest is taken from tables.
-/

set_option autoImplicit false

namespace MarkupTex.Latex

open Token

/-! ## Digits -/

theorem isPlain_of_isDigit {c : Char} (h : c.isDigit) : isPlain c := by
  refine Text.of_ascii (f := id) (p := Char.isDigit) (q := isPlain) (fun c hc => ?_) (by decide +kernel) h
  simp only [Char.isDigit, Bool.and_eq_true, decide_eq_true_eq, UInt32.le_iff_toNat_le] at hc
  have : c.toNat = c.val.toNat := rfl
  simp at hc
  omega

theorem isAlphanum_of_isCodeDigit {c : Char} (h : Color.isCodeDigit c = true) : c.isAlphanum :=
  Color.isCodeDigit_cases (P := fun c => c.isAlphanum) (by decide) h

/-- None of the characters that mean something to LaTeX is a letter or a digit. -/
theorem isAlphanum_eq_false {c : Char} (h : c ∈ ['\\', '\x7b', '\x7d', '\n', '&']) : c.isAlphanum = false := by
  revert c
  decide

theorem isPlain_of_isAlphanum {c : Char} (h : c.isAlphanum) : isPlain c := by
  have hne : ∀ d ∈ ['\\', '\x7b', '\x7d', '\n'], c ≠ d := by
    rintro d hd rfl
    rw [isAlphanum_eq_false (List.mem_append_left ['&'] hd)] at h
    cases h
  simp [isPlain, isInert, hne]

theorem all_isPlain_toDigits (n : Nat) : (Nat.toDigits 10 n).all isPlain :=
  List.all_eq_true.mpr fun _ hc =>
    isPlain_of_isDigit (Nat.isDigit_of_mem_toDigits (by decide) (by decide) hc)

theorem all_isPlain_nat (n : Nat) : (toString n).toList.all isPlain := by
  rw [Nat.toString_eq_ofList_toDigits, String.toList_ofList]
  exact all_isPlain_toDigits n

theorem all_isPlain_int (n : Int) : (toString n).toList.all isPlain := by
  cases n with
  | ofNat n => exact all_isPlain_nat n
  | negSucc n =>
    have h : toString (Int.negSucc n) = "-" ++ toString (n + 1) := rfl
    rw [h, String.toList_append, List.all_append, all_isPlain_nat]
    decide

/-! ## Numbers -/

theorem all_isPlain_hundredths (n : Nat) : (Decimal.hundredths n).toList.all isPlain := by
  have hpad : (if n % 100 < 10 then "0" else "").toList.all isPlain := by
    split <;> decide
  simp only [Decimal.hundredths, Decimal.digits, String.toList_append, List.all_append,
    String.toList_ofList, all_isPlain_toDigits, hpad]
  decide

theorem all_isPlain_sign (negative : Bool) : (Decimal.sign negative).toList.all isPlain := by
  cases negative <;> decide

theorem all_isPlain_twoPlaces (x : Float) : (Decimal.twoPlaces x).toList.all isPlain := by
  rw [Decimal.twoPlaces]
  split
  · decide
  · rw [String.toList_append, List.all_append, all_isPlain_sign]
    decide
  · simp only [String.toList_append, List.all_append, all_isPlain_sign, all_isPlain_hundredths]
    decide

theorem all_dropEndWhile {p q : Char → Bool} {cs : List Char} (h : cs.all q) :
    (Text.dropEndWhile p cs).all q := by
  rw [Text.dropEndWhile, List.all_reverse]
  refine List.all_eq_true.mpr fun c hc => List.all_eq_true.mp h c ?_
  exact List.mem_reverse.mp ((List.dropWhile_suffix p).subset hc)

theorem all_isPlain_formatNumber (x : Float) : (formatNumber x).toList.all isPlain := by
  rw [formatNumber, String.toList_ofList]
  exact all_dropEndWhile (all_dropEndWhile (all_isPlain_twoPlaces x))

/-! ## Colors -/

/-- A color is written with letters and digits, whatever value it was read from. -/
theorem toHex_isAlphanum {value hex : String} (h : Color.toHex value = .ok hex) :
    hex.toList.all Char.isAlphanum := by
  have hcode := (Color.denotes_of_toHex h).isCode
  exact List.all_eq_true.mpr fun c hc => isAlphanum_of_isCodeDigit (List.all_eq_true.mp hcode.digits c hc)

theorem toHex_plain {value hex : String} (h : Color.toHex value = .ok hex) :
    hex.toList.all isPlain :=
  List.all_eq_true.mpr fun c hc => isPlain_of_isAlphanum (List.all_eq_true.mp (toHex_isAlphanum h) c hc)

theorem ampersand_not_mem_toHex {value hex : String} (h : Color.toHex value = .ok hex) :
    '&' ∉ hex.toList := by
  intro hmem
  have hamp := List.all_eq_true.mp (toHex_isAlphanum h) '&' hmem
  rw [isAlphanum_eq_false (by decide)] at hamp
  cases hamp

/-! ## Values with commands in them -/

/-- The text is a row of tokens that `rest` may follow in a line, with no environment in it. -/
def Spells (s : String) (rest : List Token) : Prop :=
  ∃ ts, s.toList = spell ts ∧ fluent (ts ++ rest) ∧ noEnvironment ts ∧ ∀ stack, nest stack ts = some stack

/-! ## Sizes of letters -/

/-- The words that switch to a size of letters. -/
def sizeWords : List String :=
  ["tiny", "scriptsize", "small", "normalsize", "large", "Large", "LARGE", "Huge"]

/-- A switch to a size of letters: a word for it, or a size in points and the word that puts it into effect. -/
inductive SizeRow : List Token → Prop where
  | keyword {w : String} (h : w ∈ sizeWords) : SizeRow [word w]
  | points (x : Float) : SizeRow ([word "fontsize", opening] ++ chars (formatNumber x).toList ++
      [char 'p', char 't', closing, opening] ++ chars (formatNumber (x * 1.2)).toList ++
      [char 'p', char 't', closing, word "selectfont"])

/-- The text switches to a size of letters. -/
def IsSize (switch : String) : Prop := ∃ ts, switch.toList = spell ts ∧ SizeRow ts

theorem isSize_of_mem {switch : String} (h : switch ∈ sizeWords.map ("\\" ++ ·)) : IsSize switch := by
  obtain ⟨w, hw, rfl⟩ := List.mem_map.mp h
  exact ⟨[word w], by simp [render], .keyword hw⟩

theorem sizeKeyword?_isSize {value switch : String} (h : sizeKeyword? value = some switch) :
    IsSize switch := by
  refine isSize_of_mem ?_
  unfold sizeKeyword? at h
  split at h <;> cases h <;> simp [sizeWords]

/-- The size of a style is a word for it, or is given in points. -/
theorem sizeOfStyle_isSize {value switch : String} (h : sizeOfStyle value = .ok switch) :
    IsSize switch := by
  unfold sizeOfStyle at h
  dsimp only at h
  split at h
  · next hkey =>
    cases h
    exact sizeKeyword?_isSize hkey
  · obtain ⟨length, -, h⟩ := bind_eq_ok.mp h
    obtain ⟨points, -, h⟩ := bind_eq_ok.mp h
    split at h
    · cases h
    · cases h
      exact ⟨_, by simp [render], .points points⟩

/-- The size of a font element is a word for it: there is one for each size that it can come to. -/
theorem sizeOfFont_isSize {value switch : String} (h : sizeOfFont value = .ok switch) :
    IsSize switch := by
  have hwords : ∀ s ∈ sizeSwitches, s ∈ sizeWords.map ("\\" ++ ·) := by
    simp [sizeSwitches, sizeWords]
  unfold sizeOfFont at h
  dsimp only at h
  split at h
  · cases h
  · rw [← Except.ok.inj h, List.getD_eq_getElem?_getD, List.getElem?_eq_getElem, Option.getD_some]
    · exact isSize_of_mem (hwords _ (List.getElem_mem _))
    · have hlength : sizeSwitches.length = 7 := rfl
      omega

theorem IsSize.spells {switch : String} (h : IsSize switch) : Spells switch [char ' '] := by
  obtain ⟨ts, hs, hrow⟩ := h
  cases hrow with
  | keyword hw =>
    have hfluent : ∀ w ∈ sizeWords, fluent [word w, char ' '] := by decide
    exact ⟨_, hs, hfluent _ hw, rfl, fun _ => rfl⟩
  | points x =>
    have hsize := fluent_chars (all_isPlain_formatNumber x)
    have hskip := fluent_chars (all_isPlain_formatNumber (x * 1.2))
    refine ⟨_, hs, ?_, ?_, fun stack => ?_⟩
    · rw [List.append_assoc]
      exact fluent_append (fluent_append (fluent_append (fluent_append rfl hsize) rfl) hskip) rfl
    · simp only [noEnvironment_append, noEnvironment_chars]
      rfl
    · simp [nest_append, nest, turn, nest_chars, close]

/-! ## Sizes of images -/

/-- An option of an image, before a comma and at the end. -/
def SpellsOption (s : String) : Prop :=
  ∃ ts, s.toList = spell ts ∧ fluent (ts ++ [char ',']) ∧ fluent (ts ++ [char ']']) ∧
    noEnvironment ts ∧ ∀ stack, nest stack ts = some stack

theorem spellsOption_plain {s : String} (h : s.toList.all isPlain) : SpellsOption s :=
  ⟨chars s.toList, by simp, fluent_append (fluent_chars h) rfl, fluent_append (fluent_chars h) rfl,
    noEnvironment_chars _, fun stack => nest_chars stack _⟩

theorem spellsOption_share {name : String} (hname : name.toList.all isPlain) (x : Float) :
    SpellsOption (name ++ formatNumber x ++ "\\linewidth") := by
  have hstart : fluent (chars name.toList ++ chars (formatNumber x).toList) :=
    fluent_append (fluent_chars hname) (fluent_chars (all_isPlain_formatNumber x))
  refine ⟨chars name.toList ++ chars (formatNumber x).toList ++ [word "linewidth"], ?_, ?_, ?_, ?_, ?_⟩
  · simp [render]
  · rw [List.append_assoc _ [word "linewidth"]]
    exact fluent_append hstart rfl
  · rw [List.append_assoc _ [word "linewidth"]]
    exact fluent_append hstart rfl
  · simp only [noEnvironment_append, noEnvironment_chars]
    rfl
  · intro stack
    simp [nest_append, nest, turn, nest_chars]

theorem toLatex_spellsOption {name size : String} {length : Length}
    (hname : (name ++ "=").toList.all isPlain) (h : length.toLatex = .ok size) :
    SpellsOption (name ++ "=" ++ size) := by
  unfold Length.toLatex at h
  split at h
  · rw [← Except.ok.inj h, ← String.append_assoc]
    exact spellsOption_share hname _
  · obtain ⟨points, -, rfl⟩ := map_eq_ok.mp h
    refine spellsOption_plain ?_
    simp only [String.toList_append, List.all_append, Bool.and_eq_true] at hname ⊢
    exact ⟨hname, all_isPlain_formatNumber points, by decide⟩

theorem sizeOption?_spells {name s : String} {length : Option Length}
    (hname : (name ++ "=").toList.all isPlain) (h : Image.Options.sizeOption? name length = some s) :
    SpellsOption s := by
  unfold Image.Options.sizeOption? at h
  split at h
  · next hl =>
    cases h
    cases length with
    | none => cases hl
    | some length => exact toLatex_spellsOption hname (by simpa using hl)
  · cases h

theorem spells_intercalate {sizes : List String} (h : ∀ s ∈ sizes, SpellsOption s) :
    Spells (",".intercalate sizes) [char ']'] := by
  induction sizes with
  | nil => exact ⟨[], by simp, rfl, rfl, fun _ => rfl⟩
  | cons s sizes ih =>
    obtain ⟨ts, hs, hcomma, hbracket, hnone, hneutral⟩ := h s List.mem_cons_self
    cases sizes with
    | nil => exact ⟨ts, by simpa using hs, hbracket, hnone, hneutral⟩
    | cons s' sizes =>
      obtain ⟨us, hus, hfluent, hnone', hneutral'⟩ := ih fun x hx => h x (List.mem_cons_of_mem _ hx)
      refine ⟨ts ++ [char ','] ++ us, ?_, ?_, ?_, ?_⟩
      · rw [String.intercalate_cons_cons, String.toList_append, String.toList_append, hs, hus]
        simp [render]
      · rw [List.append_assoc]
        exact fluent_append hcomma hfluent
      · rw [noEnvironment_append, noEnvironment_append, hnone, hnone']
        rfl
      · intro stack
        simp [nest_append, nest, turn, hneutral, hneutral']

/-- The option that is added where two sizes are given. -/
theorem spells_keepaspectratio {sizes : List String} (h : ∀ s ∈ sizes, SpellsOption s) :
    ∀ s ∈ (if sizes.length = 2 then sizes ++ ["keepaspectratio"] else sizes), SpellsOption s := by
  intro s hs
  split at hs
  · rcases List.mem_append.mp hs with hs | hs
    · exact h s hs
    · obtain rfl : s = "keepaspectratio" := by simpa using hs
      exact spellsOption_plain (by decide)
  · exact h s hs

/-- The options of an image are fit to stand in brackets. -/
theorem imageOptions_spells (options : Image.Options) : Spells options.toLatex [char ']'] := by
  have hwidth : ("width" ++ "=").toList.all isPlain := by decide
  have hheight : ("height" ++ "=").toList.all isPlain := by decide
  unfold Image.Options.toLatex
  dsimp only
  refine spells_intercalate (spells_keepaspectratio fun s hs => ?_)
  rcases List.mem_append.mp hs with hs | hs
  · split at hs
    · obtain rfl : s = _ := by simpa using hs
      exact spellsOption_share (by decide) _
    · exact sizeOption?_spells hwidth (by simpa using hs)
  · exact sizeOption?_spells hheight (by simpa using hs)

end MarkupTex.Latex
