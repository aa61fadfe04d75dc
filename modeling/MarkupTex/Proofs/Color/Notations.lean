import MarkupTex.Color
import MarkupTex.Proofs.Text.Bytes
import MarkupTex.Proofs.Text.Search
/-!
# The notations of a color

A color is a name, digits behind a mark, or channels in parentheses (`toHex_eq_ok`).  Only the last kind has an
`rgb`, which begins it, and its closing parenthesis ends it: between them are the characters of numbers and what
separates them.

The readers of the parts of `rgb(..)` go along the text, and all that is asked of them here is what they pass
over.
-/

set_option autoImplicit false

namespace MarkupTex.Color

variable {cs rest text : List Char} {s digits : String}

/-! ## Channels -/

/-- A character of a channel or of what separates channels. -/
def isInChannels (c : Char) : Bool :=
  c.isDigit || c = '.' || c = '%' || c = ',' || c = '/' || Text.isBlank c

/-- What is left of a text, if what was read belongs to channels. -/
def Passes (cs rest : List Char) : Prop := ∃ front, cs = front ++ rest ∧ ∀ c ∈ front, isInChannels c = true

theorem Passes.trans {after : List Char} (h : Passes cs rest) (h' : Passes rest after) : Passes cs after := by
  obtain ⟨front, rfl, hfront⟩ := h
  obtain ⟨next, rfl, hnext⟩ := h'
  exact ⟨front ++ next, (List.append_assoc ..).symm, List.forall_mem_append.mpr ⟨hfront, hnext⟩⟩

instance : Trans Passes Passes Passes := ⟨Passes.trans⟩

theorem passes_cons {c : Char} (h : isInChannels c = true) (rest : List Char) : Passes (c :: rest) rest :=
  ⟨[c], rfl, by simpa using h⟩

theorem passes_dropWhile {p : Char → Bool} (hp : ∀ c, p c = true → isInChannels c = true) (cs : List Char) :
    Passes cs (cs.dropWhile p) :=
  ⟨cs.takeWhile p, List.takeWhile_append_dropWhile.symm,
    fun c hc => hp c (List.all_eq_true.mp List.all_takeWhile c hc)⟩

theorem passes_trimStart (cs : List Char) : Passes cs (Text.trimStartList cs) :=
  passes_dropWhile (fun c hc => by simp [isInChannels, hc]) cs

theorem channelText?_passes (h : channelText? cs = some (text, rest)) : Passes cs rest := by
  have hnumber := passes_dropWhile (p := fun c => c.isDigit || c = '.')
    (fun c hc => by simp only [isInChannels]; grind) cs
  rw [channelText?] at h
  split at h
  · cases h
  · split at h
    · next hdrop =>
      obtain ⟨-, rfl⟩ : _ ∧ _ = rest := by simpa using h
      rw [hdrop] at hnumber
      exact hnumber.trans (passes_cons rfl _)
    · obtain ⟨-, rfl⟩ : _ ∧ _ = rest := by simpa using h
      exact hnumber

theorem separator?_passes (h : separator? cs = some rest) : Passes cs rest := by
  have hblanks := passes_trimStart cs
  rw [separator?] at h
  split at h
  · next htrim =>
    obtain rfl := Option.some.inj h
    rw [htrim] at hblanks
    exact (hblanks.trans (passes_cons rfl _)).trans (passes_trimStart _)
  · split at h
    · obtain rfl := Option.some.inj h
      exact hblanks
    · cases h

theorem endsChannels_passes (h : endsChannels cs = true) : Passes cs [')'] := by
  have hblanks := passes_trimStart cs
  rw [endsChannels] at h
  split at h
  · next htrim => rwa [htrim] at hblanks
  · next mark rest _ htrim =>
    rw [htrim] at hblanks
    split at h
    · next hmark =>
      have hpass : Passes (mark :: rest) rest := passes_cons (by simp only [isInChannels]; grind) rest
      split at h
      · next text after hchannel =>
        have hafter : Text.trimStartList after = [')'] := by simpa using h
        have hlast := passes_trimStart after
        rw [hafter] at hlast
        calc
          Passes cs (mark :: rest) := hblanks
          Passes _ rest := hpass
          Passes _ (Text.trimStartList rest) := passes_trimStart rest
          Passes _ after := channelText?_passes hchannel
          Passes _ [')'] := hlast
      · cases h
    · cases h
  · cases h

theorem channelTexts?_passes {channels : List (List Char)} (h : channelTexts? cs = some channels) :
    Passes cs [')'] := by
  simp only [channelTexts?, Option.bind_eq_bind, Option.bind_eq_some_iff, Prod.exists] at h
  obtain ⟨red, afterRed, hred, beforeGreen, hfirst, green, afterGreen, hgreen, beforeBlue, hsecond, blue,
    afterBlue, hblue, hend⟩ := h
  have hends : endsChannels afterBlue = true := by
    by_contra hnot
    simp [hnot] at hend
  calc
    Passes cs (Text.trimStartList cs) := passes_trimStart cs
    Passes _ afterRed := channelText?_passes hred
    Passes _ beforeGreen := separator?_passes hfirst
    Passes _ afterGreen := channelText?_passes hgreen
    Passes _ beforeBlue := separator?_passes hsecond
    Passes _ afterBlue := channelText?_passes hblue
    Passes _ [')'] := endsChannels_passes hends

/-! ## The digits of a value -/

/-- A text in lower case that has these digits: a name, digits behind a mark, or channels. -/
inductive Denotes (cs : List Char) (digits : String) : Prop
  | name (h : ofName? (String.ofList cs) = some digits)
  | hex (code : List Char) (hcs : cs = '#' :: code) (h : ofHexDigits? code = some digits)
  | channels (body : List Char) (texts : List (List Char)) (hex : List Char)
      (hbody : functionBody? cs = some body) (htexts : channelTexts? body = some texts)
      (h : ofChannels? texts = some hex) (hdigits : digits = String.ofList hex)

theorem denotes_of_toHex {value : String} (h : toHex value = .ok digits) :
    Denotes (Text.lower (Text.trim value)).toList digits := by
  rw [toHex] at h
  split at h
  · next hname =>
    obtain rfl := Except.ok.inj h
    exact .name (by rwa [String.ofList_toList])
  · split at h
    · cases h
    · split at h
      · next code hcs =>
        split at h
        · next hhex =>
          obtain rfl := Except.ok.inj h
          exact .hex code hcs hhex
        · cases h
      · split at h
        · next texts htexts =>
          obtain ⟨body, hbody, htexts⟩ := Option.bind_eq_some_iff.mp htexts
          split at h
          · next hex hhex =>
            obtain rfl := Except.ok.inj h
            exact .channels body texts hex hbody htexts hhex rfl
          · cases h
        · split at h <;> cases h

theorem mem_named (h : ofName? s = some digits) : (s, digits) ∈ named := by
  obtain ⟨before, after, hnamed, -⟩ := List.lookup_eq_some_iff.mp h
  rw [hnamed]
  simp

/-- Names are words: neither the mark of digits nor a parenthesis is in one, nor the name of the function. -/
theorem named_words : ∀ row ∈ named, (∀ c ∈ ['#', '('], c ∉ row.1.toList) ∧
    Text.splitFirst "rgb".toList row.1.toList = none := by
  refine Text.of_byteChars (P := fun _ cs => (∀ c ∈ ['#', '('], c ∉ cs) ∧
    Text.splitFirst "rgb".toList cs = none) ?_
  decide +kernel

theorem contextual_words : ∀ word ∈ contextual, ∀ c ∈ ['#', '('], c ∉ word.toList := by
  decide +kernel

/-- So a text with one of them in it is neither. -/
theorem not_word {c : Char} (hc : c ∈ ['#', '(']) (hmem : c ∈ s.toList) :
    ofName? s = none ∧ contextual.contains s = false := by
  constructor
  · cases hname : ofName? s with
    | none => rfl
    | some digits => exact absurd hmem ((named_words _ (mem_named hname)).1 c hc)
  · rw [← Bool.not_eq_true, List.contains_iff_mem]
    intro hword
    exact contextual_words s hword c hc hmem

theorem paren_mem_of_functionBody? {body : List Char} (h : functionBody? cs = some body) : '(' ∈ cs := by
  unfold functionBody? at h
  split at h
  · simp
  · simp
  · cases h

theorem toHex_of_denotes {value : String} (h : Denotes (Text.lower (Text.trim value)).toList digits) :
    toHex value = .ok digits := by
  cases h with
  | name h =>
    rw [String.ofList_toList] at h
    rw [toHex]
    simp only [h]
  | hex code hcs h =>
    have hmark : '#' ∈ (Text.lower (Text.trim value)).toList := by rw [hcs]; simp
    obtain ⟨hname, hkeyword⟩ := not_word (by decide) hmark
    rw [toHex]
    simp only [hname, hkeyword, hcs, h]
    rfl
  | channels body texts hex hbody htexts h hdigits =>
    obtain ⟨hname, hkeyword⟩ := not_word (by decide) (paren_mem_of_functionBody? hbody)
    have hread : (functionBody? (Text.lower (Text.trim value)).toList).bind channelTexts? = some texts := by
      rw [hbody]
      exact htexts
    rw [toHex]
    simp only [hname, hkeyword]
    split
    · contradiction
    · split
      · next code hcs =>
        rw [hcs] at hbody
        cases hbody
      · simp only [hread, h, hdigits]

/-- What a value denotes is what it is read as. -/
theorem toHex_eq_ok {value : String} :
    toHex value = .ok digits ↔ Denotes (Text.lower (Text.trim value)).toList digits :=
  ⟨denotes_of_toHex, toHex_of_denotes⟩

/-! ## The name of the function -/

theorem ofName?_splitFirst (h : ofName? s = some digits) : ¬ "rgb".toList <:+: s.toList :=
  (Text.splitFirst_eq_none (by decide)).mp (named_words _ (mem_named h)).2

theorem isHexDigit_of_ofHexDigits? {code : List Char} (h : ofHexDigits? code = some digits) :
    ∀ c ∈ code, isHexDigit c = true := by
  rw [ofHexDigits?] at h
  split at h
  · cases h
  · next hall => simpa using hall

theorem functionBody?_eq_some {body : List Char} (h : functionBody? cs = some body) :
    ∃ opening, cs = "rgb".toList ++ opening ++ body ∧ ∀ c ∈ opening, c = 'a' ∨ c = '(' := by
  unfold functionBody? at h
  split at h
  · obtain rfl := Option.some.inj h
    exact ⟨['('], rfl, by simp⟩
  · obtain rfl := Option.some.inj h
    exact ⟨['a', '('], rfl, by simp⟩
  · cases h

/-- A color with an `rgb` begins with one, and up to the parenthesis at its end there is no other one and no other
parenthesis that closes. -/
theorem Denotes.function (h : Denotes cs digits) (hrgb : "rgb".toList <:+: cs) :
    ∃ inside, cs = "rgb".toList ++ inside ++ [')'] ∧ 'r' ∉ inside ∧ ')' ∉ inside := by
  cases h with
  | name h => exact absurd (by simpa using hrgb) (ofName?_splitFirst h)
  | hex code hcs h =>
    have hr : 'r' ∈ '#' :: code := hcs ▸ hrgb.subset (by decide)
    have hcode : 'r' ∈ code := (List.mem_cons.mp hr).resolve_left (by decide)
    exact absurd (isHexDigit_of_ofHexDigits? h 'r' hcode) (by decide)
  | channels body texts hex hbody htexts h hdigits =>
    obtain ⟨opening, rfl, hopening⟩ := functionBody?_eq_some hbody
    obtain ⟨front, rfl, hfront⟩ := channelTexts?_passes htexts
    have hother : ∀ c, c ≠ 'a' → c ≠ '(' → isInChannels c = false → c ∉ opening ++ front := by
      intro c ha hparen hc hmem
      rcases List.mem_append.mp hmem with hmem | hmem
      · exact (hopening c hmem).elim ha hparen
      · exact absurd (hfront c hmem) (by simp [hc])
    exact ⟨opening ++ front, by simp [List.append_assoc],
      hother 'r' (by decide) (by decide) (by decide), hother ')' (by decide) (by decide) (by decide)⟩

end MarkupTex.Color
