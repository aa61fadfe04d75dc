import MarkupTex.Proofs.Color.Notations
import MarkupTex.Proofs.Text.Trim
/-!
# The digits of a color

Whatever notation a color has, what it is read as are six digits in upper case (`Denotes.isCode`), so that they
need no escape where they are written.  Behind a mark they are a notation of the same color again.  Neither
the case of a value nor the blanks around it matter for them, since only the trimmed value in lower case is looked
at.

What is no color with digits is refused, and the fault tells a color whose digits are not known from what is no
color (`fault_of_toHex`).
-/

set_option autoImplicit false

namespace MarkupTex.Color

variable {cs : List Char} {value code : String}

/-- A digit of a color: `0` to `9` and `A` to `F`. -/
def isCodeDigit (c : Char) : Bool := ('0' ≤ c && c ≤ '9') || ('A' ≤ c && c ≤ 'F')

/-- Six digits: two for each of red, green and blue. -/
structure IsCode (code : String) : Prop where
  length : code.length = 6
  digits : code.toList.all isCodeDigit = true

/-! ## What the notations are read as -/

theorem isHexDigit_ascii {c : Char} (h : isHexDigit c = true) : c.toNat < 128 := by
  simp only [isHexDigit, Bool.or_eq_true, Bool.and_eq_true, decide_eq_true_eq, Char.le_def,
    UInt32.le_iff_toNat_le] at h
  have : c.toNat = c.val.toNat := rfl
  simp at h
  omega

theorem isCodeDigit_toUpper {c : Char} (h : isHexDigit c = true) : isCodeDigit c.toUpper = true :=
  Text.of_ascii (p := isHexDigit) (q := isCodeDigit) (fun _ => isHexDigit_ascii) (by decide +kernel) h

theorem isCodeDigit_hexDigit {n : Nat} (h : n < 16) : isCodeDigit (hexDigit n) = true := by
  have hall : ∀ n < 16, isCodeDigit (hexDigit n) = true := by decide
  exact hall n h

theorem isCode_of_named : ∀ row ∈ named, row.2.length = 6 ∧ row.2.toList.all isCodeDigit = true := by
  simp only [← String.length_toList]
  refine Text.of_byteChars (P := fun _ cs => cs.length = 6 ∧ cs.all isCodeDigit = true) ?_
  decide +kernel

theorem isCode_of_ofHexDigits? (h : ofHexDigits? cs = some code) : IsCode code := by
  have hupper : ∀ c ∈ cs, isCodeDigit c.toUpper = true := fun c hc =>
    isCodeDigit_toUpper (isHexDigit_of_ofHexDigits? h c hc)
  rw [ofHexDigits?] at h
  split at h
  · cases h
  · split at h
    · -- A short form has each of its digits twice.
      next hshort =>
      obtain rfl := Option.some.inj h
      have hthree : (cs.take 3).length = 3 := by
        have : cs.length = 3 ∨ cs.length = 4 := by simpa using hshort
        rw [List.length_take]
        omega
      obtain ⟨red, green, blue, htake⟩ := List.length_eq_three.mp hthree
      have hmem : ∀ c ∈ [red, green, blue], c ∈ cs := fun c hc => List.mem_of_mem_take (htake ▸ hc)
      rw [htake]
      constructor
      · rw [← String.length_toList, String.toList_ofList]
        rfl
      · simp [hupper red (hmem red (by simp)), hupper green (hmem green (by simp)),
          hupper blue (hmem blue (by simp))]
    · split at h
      · next hlong =>
        obtain rfl := Option.some.inj h
        constructor
        · have : cs.length = 6 ∨ cs.length = 8 := by simpa using hlong
          rw [← String.length_toList, String.toList_ofList, List.length_map, List.length_take]
          omega
        · rw [String.toList_ofList, List.all_eq_true]
          intro d hd
          obtain ⟨c, hc, rfl⟩ := List.mem_map.mp hd
          exact hupper c (List.mem_of_mem_take hc)
      · cases h

theorem twoDigits_isCodeDigit (b : UInt8) : (twoDigits b).all isCodeDigit = true := by
  have hlt : b.toNat < 256 := b.toNat_lt
  have hhigh := isCodeDigit_hexDigit (n := b.toNat / 16) (by omega)
  have hlow := isCodeDigit_hexDigit (n := b.toNat % 16) (by omega)
  simp [twoDigits, hhigh, hlow]

/-- Whatever number a channel is, it has two digits. -/
theorem ofChannels?_isCodeDigit {channels : List (List Char)} {digits : List Char}
    (h : ofChannels? channels = some digits) :
    digits.length = 2 * channels.length ∧ digits.all isCodeDigit = true := by
  induction channels generalizing digits with
  | nil =>
    obtain rfl := Option.some.inj h
    exact ⟨rfl, rfl⟩
  | cons cs rest ih =>
    rw [ofChannels?] at h
    simp only [Option.bind_eq_bind, Option.bind_eq_some_iff, Option.some.injEq] at h
    obtain ⟨b, -, tail, htail, rfl⟩ := h
    obtain ⟨hlength, hdigits⟩ := ih htail
    constructor
    · rw [List.length_append, hlength, List.length_cons]
      simp only [twoDigits, List.length_cons, List.length_nil]
      omega
    · rw [List.all_append, twoDigits_isCodeDigit, hdigits]
      rfl

theorem length_of_channelTexts? {channels : List (List Char)} (h : channelTexts? cs = some channels) :
    channels.length = 3 := by
  simp only [channelTexts?, Option.bind_eq_bind, Option.bind_eq_some_iff, Prod.exists] at h
  obtain ⟨red, -, -, -, -, green, -, -, -, -, blue, afterBlue, -, hend⟩ := h
  split at hend
  · obtain rfl := Option.some.inj hend
    rfl
  · cases hend

theorem Denotes.isCode (h : Denotes cs code) : IsCode code := by
  cases h with
  | name h =>
    obtain ⟨hlength, hdigits⟩ := isCode_of_named _ (mem_named h)
    exact ⟨hlength, hdigits⟩
  | hex digits hcs h => exact isCode_of_ofHexDigits? h
  | channels body texts digits hbody htexts h hdigits =>
    obtain ⟨hlength, hall⟩ := ofChannels?_isCodeDigit h
    subst hdigits
    constructor
    · rw [← String.length_toList, String.toList_ofList, hlength, length_of_channelTexts? htexts]
    · rwa [String.toList_ofList]

/-! ## Digits behind a mark -/

theorem isCodeDigit_cases {P : Char → Prop}
    (h : ∀ c ∈ "0123456789ABCDEF".toList, P c) {c : Char} (hc : isCodeDigit c = true) : P c := by
  refine h c ?_
  have hascii : ∀ c, isCodeDigit c = true → c.toNat < 128 := fun c hc => isHexDigit_ascii (by
    simp only [isCodeDigit, isHexDigit] at hc ⊢
    grind)
  have hlisted := Text.of_ascii (f := id) (p := isCodeDigit) (q := "0123456789ABCDEF".toList.contains)
    hascii (by decide +kernel) hc
  simpa using hlisted

/-- The digits of a color in lower case are read as they were in upper case. -/
theorem IsCode.ofHexDigits? (h : IsCode code) :
    Color.ofHexDigits? (code.toList.map Char.toLower) = some code := by
  have hdigits := List.all_eq_true.mp h.digits
  have hlength : code.toList.length = 6 := by rw [String.length_toList, h.length]
  have hhex : (code.toList.map Char.toLower).all isHexDigit = true := by
    rw [List.all_map, List.all_eq_true]
    exact fun c hc => isCodeDigit_cases (P := fun c => isHexDigit c.toLower = true) (by decide) (hdigits c hc)
  have hback : (code.toList.map Char.toLower).map Char.toUpper = code.toList := by
    rw [List.map_map]
    refine (List.map_congr_left fun c hc => ?_).trans (List.map_id _)
    exact isCodeDigit_cases (P := fun c => c.toLower.toUpper = c) (by decide) (hdigits c hc)
  have htake : (code.toList.map Char.toLower).take 6 = code.toList.map Char.toLower :=
    List.take_of_length_le (by rw [List.length_map, hlength])
  rw [Color.ofHexDigits?, hhex, List.length_map, hlength, htake, hback, String.ofList_toList]
  rfl

theorem IsCode.trim_marked (h : IsCode code) : Text.trim ("#" ++ code) = "#" ++ code := by
  have hsharp : Text.Sharp Text.isBlank ("#" ++ code).toList := by
    apply Text.sharp_of_forall
    intro c hc
    rcases List.mem_cons.mp (show c ∈ '#' :: code.toList by simpa using hc) with rfl | hc
    · rfl
    · exact isCodeDigit_cases (P := fun c => Text.isBlank c = false) (by decide)
        (List.all_eq_true.mp h.digits c hc)
  rw [Text.trim, hsharp.trimList_eq, String.ofList_toList]

theorem IsCode.toHex_marked (h : IsCode code) : toHex ("#" ++ code) = .ok code := by
  have hcs : (Text.lower ("#" ++ code)).toList = '#' :: code.toList.map Char.toLower := by
    rw [Text.toList_lower, String.toList_append, List.map_append]
    rfl
  refine toHex_eq_ok.mpr ?_
  rw [h.trim_marked]
  exact .hex _ hcs h.ofHexDigits?

/-! ## What is refused -/

/-- A color whose digits are not known: they depend on where it stands, or its notation is not read. -/
def IsUnread (s : String) : Prop :=
  s ∈ contextual ∨ ∃ name ∈ otherNotations, Text.beginsWith s name = true

theorem not_isUnread {s : String} {c : Char} (hc : c ∈ ['#', '(']) (hmem : c ∈ s.toList)
    (hfirst : s.toList.head? = some '#' ∨ s.toList.head? = some 'r') : ¬ IsUnread s := by
  rintro (hkeyword | ⟨name, hname, hbegins⟩)
  · have := (not_word hc hmem).2
    rw [← Bool.not_eq_true, List.contains_iff_mem] at this
    exact this hkeyword
  · -- Each of the other notations begins with a letter of its own.
    have hheads : ∀ name ∈ otherNotations, name.toList.head? = some 'h' ∨ name.toList.head? = some 'l' := by
      decide
    obtain ⟨rest, hrest⟩ := List.isPrefixOf_iff_prefix.mp hbegins
    have hne : name.toList ≠ [] := by
      intro hnil
      have := hheads name hname
      simp [hnil] at this
    have hhead : s.toList.head? = name.toList.head? := by
      rw [← hrest, List.head?_append_of_ne_nil _ hne]
    rw [hhead] at hfirst
    rcases hheads name hname with h | h <;> simp [h] at hfirst

/-- A value that denotes no digits is refused, and the kind of the fault tells whether it is a color. -/
theorem fault_of_toHex {fault : Fault} (h : toHex value = .error fault) :
    fault.kind = .unsupported ∧ IsUnread (Text.lower (Text.trim value)) ∨
      fault.kind = .cssValue ∧ ¬ IsUnread (Text.lower (Text.trim value)) := by
  rw [toHex] at h
  split at h
  · cases h
  · split at h
    · next hkeyword =>
      obtain rfl := Except.error.inj h
      exact .inl ⟨rfl, .inl (List.contains_iff_mem.mp hkeyword)⟩
    · next hkeyword =>
      split at h
      · next digits hcs =>
        have hunread : ¬ IsUnread (Text.lower (Text.trim value)) :=
          not_isUnread (c := '#') (by decide) (by simp [hcs]) (.inl (by simp [hcs]))
        split at h
        · cases h
        · obtain rfl := Except.error.inj h
          exact .inr ⟨rfl, hunread⟩
      · split at h
        · next texts htexts =>
          obtain ⟨body, hbody, -⟩ := Option.bind_eq_some_iff.mp htexts
          obtain ⟨opening, hopening, -⟩ := functionBody?_eq_some hbody
          have hunread : ¬ IsUnread (Text.lower (Text.trim value)) :=
            not_isUnread (by decide) (paren_mem_of_functionBody? hbody) (.inr (by simp [hopening]))
          split at h
          · cases h
          · obtain rfl := Except.error.inj h
            exact .inr ⟨rfl, hunread⟩
        · split at h
          · next hother =>
            obtain rfl := Except.error.inj h
            exact .inl ⟨rfl, .inr (List.any_eq_true.mp hother)⟩
          · next hother =>
            obtain rfl := Except.error.inj h
            refine .inr ⟨rfl, ?_⟩
            rintro (hword | hbegins)
            · exact hkeyword (List.contains_iff_mem.mpr hword)
            · exact hother (List.any_eq_true.mpr hbegins)

/-! ## Case and blanks -/

/-- The trimmed value in lower case is all that is looked at. -/
theorem toHex_padded {before other after : String} (h : toHex value = .ok code)
    (hbefore : Text.isBlankText before = true) (hafter : Text.isBlankText after = true)
    (hother : Text.lower other = Text.lower value) : toHex (before ++ other ++ after) = .ok code := by
  have hsame : Text.lower (Text.trim (before ++ other ++ after)) = Text.lower (Text.trim value) := by
    calc
      Text.lower (Text.trim (before ++ other ++ after)) = Text.lower (Text.trim other) := by
        rw [Text.trim_padded hbefore hafter]
      _ = Text.trim (Text.lower other) := Text.lower_trim other
      _ = Text.trim (Text.lower value) := by rw [hother]
      _ = Text.lower (Text.trim value) := (Text.lower_trim value).symm
  rw [toHex_eq_ok, hsame]
  exact denotes_of_toHex h

/-- A value is a color with six digits in upper case, or it is refused.  A color is read just if it has one of the
notations.  Its digits behind a mark are read as themselves, and they do not change with the case of the value or
with blanks around it.  The kind of a refusal tells a color whose digits are not known from what is none. -/
theorem toHex_settles (value : String) :
    (∃ code, toHex value = .ok code ∧ Denotes (Text.lower (Text.trim value)).toList code ∧ IsCode code ∧
      toHex ("#" ++ code) = .ok code ∧
      ∀ before other after, Text.isBlankText before = true → Text.isBlankText after = true →
        Text.lower other = Text.lower value → toHex (before ++ other ++ after) = .ok code) ∨
      ∃ fault, toHex value = .error fault ∧
        (∀ code, ¬ Denotes (Text.lower (Text.trim value)).toList code) ∧
        (fault.kind = .unsupported ∧ IsUnread (Text.lower (Text.trim value)) ∨
          fault.kind = .cssValue ∧ ¬ IsUnread (Text.lower (Text.trim value))) := by
  cases h : toHex value with
  | ok code =>
    have hdenotes := denotes_of_toHex h
    exact .inl ⟨code, rfl, hdenotes, hdenotes.isCode, hdenotes.isCode.toHex_marked,
      fun before other after hbefore hafter hother => toHex_padded h hbefore hafter hother⟩
  | error fault =>
    refine .inr ⟨fault, rfl, fun code hdenotes => ?_, fault_of_toHex h⟩
    rw [toHex_of_denotes hdenotes] at h
    cases h

end MarkupTex.Color
