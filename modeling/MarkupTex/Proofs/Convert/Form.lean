import MarkupTex.Proofs.Convert.Added
import MarkupTex.Proofs.Convert.Floats
import MarkupTex.Proofs.Convert.Lasting
import MarkupTex.Proofs.Document.Ancestry
import MarkupTex.Proofs.Style.Kinds
/-!
# The form of formatting

Formatting takes the form of an argument, or that of a group where blocks are below the element.  Which it is
to be is settled before the handler of the element comes to its work, from its style and its tag:
`Demands.mayFormat` and `Asks.mayFormat` say that nothing is asked for but by an element that may format,
except that of a span two attributes are overlooked.

The first argument that an element opens is looked at, because all that comes behind it is inline material
anyway.  It may be that of formatting only where there are no blocks, `blockless_of_formatsInArgument`.
-/

set_option autoImplicit false

namespace MarkupTex.Convert

open Latex Token Walk

variable {doc : Document} {setting : Setting} {policy : ImportantPolicy} {root id : Nat} {e : Element}
  {style : Style} {w : Wish} {c c' c₀ c₁ : Converter} {ids : List Nat} {ts us : List Token}
  {entry : Entry Converter} {entries : List (Entry Converter)} {cs : List Char}

/-! ## What an element may format by -/

/-- A span has an attribute for formatting, and nothing else that formatting is expected of. -/
def Unforeseen (e : Element) (style : Style) : Prop :=
  e.tag = .span ∧ mayFormat e style = false ∧
    ((∃ value hex, e.attribute? "color" = some value ∧ Color.toHex value = .ok hex) ∨
      ∃ value family, e.attribute? "face" = some value ∧ family? value = some family)

theorem mayFormat_of_has {k : Kinds}
    (hk : k ∪ (Kinds.formatting ∪ Kinds.fontFamily) = Kinds.formatting ∪ Kinds.fontFamily)
    (h : style.has k = true) : mayFormat e style = true := by
  have hhas : style.has (Kinds.formatting ∪ Kinds.fontFamily) = true := Kinds.intersects_mono hk h
  rw [mayFormat, hhas, Bool.true_or]

/-- A style that demands something may format. -/
theorem Demands.mayFormat (hs : style.Proper) (h : Demands style w) : mayFormat e style = true := by
  cases h with
  | color has => exact mayFormat_of_has (by decide) has
  | background has => exact mayFormat_of_has (by decide) has
  | @emphasis k asks =>
    cases k with
    | bold =>
      cases hvalue : style.get? "font-weight" with
      | none => simp [Emphasis.wanted, Style.isBold, hvalue] at asks
      | some value =>
        refine mayFormat_of_has (k := Kinds.bold) (by decide) ?_
        exact hs.has_of_get? hvalue (by decide +kernel) (by decide)
    | italic =>
      cases hvalue : style.get? "font-style" with
      | none => simp [Emphasis.wanted, Style.isItalic, hvalue] at asks
      | some value =>
        refine mayFormat_of_has (k := Kinds.italic) (by decide) ?_
        exact hs.has_of_get? hvalue (by decide +kernel) (by decide)
    | underline =>
      refine mayFormat_of_has (k := Kinds.underline) (by decide) ?_
      cases hvalue : style.get? "text-decoration-line" with
      | some value => exact hs.has_of_get? hvalue (by decide +kernel) (by decide)
      | none =>
        cases hvalue' : style.get? "text-decoration" with
        | some value => exact hs.has_of_get? hvalue' (by decide +kernel) (by decide)
        | none => simp [Emphasis.wanted, Style.isUnderline, Style.firstOf, hvalue, hvalue'] at asks

theorem mayFormat_of_tag (h : e.tag = .bold ∨ e.tag = .italic ∨ e.tag = .underline ∨ e.tag = .code ∨
    e.tag = .font) : mayFormat e style = true := by
  unfold Convert.mayFormat
  rcases h with h | h | h | h | h <;> simp [h]

/-- What is asked for by an element that may not format, where blocks can be written, are attributes of a
span. -/
theorem Asks.mayFormat (hs : style.Proper) (hblocks : c.inlineOnly = false)
    (h : Asks e style c w) (hcommand : w.command?.isSome = true) :
    mayFormat e style = true ∨ Unforeseen e style := by
  -- A span may format by its style, and a font element always may.
  have hspan : IsSpan e → ((∃ value hex, e.attribute? "color" = some value ∧
      Color.toHex value = .ok hex) ∨
      ∃ value family, e.attribute? "face" = some value ∧ family? value = some family) →
      Convert.mayFormat e style = true ∨ Unforeseen e style := by
    intro hspan hattribute
    rcases hspan with hspan | hfont
    · cases hmay : Convert.mayFormat e style with
      | true => exact .inl rfl
      | false => exact .inr ⟨hspan, hmay, hattribute⟩
    · exact .inl (mayFormat_of_tag (by simp [hfont]))
  cases h with
  | style demands => exact .inl (demands.mayFormat hs)
  | @tag k tag => exact .inl (mayFormat_of_tag (by cases k <;> simp [tag, Emphasis.tag]))
  | code tag => exact .inl (mayFormat_of_tag (by simp [tag]))
  | inlineBold inline | inlineMonospace inline =>
    rw [hblocks] at inline
    cases inline
  | colorAttribute span _ asks read => exact hspan span (.inl ⟨_, _, asks, read⟩)
  | size => cases hcommand
  | @family g span asks =>
    cases hvalue : style.get? "font-family" with
    | some value =>
      refine .inl (mayFormat_of_has (k := Kinds.fontFamily) (by decide) ?_)
      exact hs.has_of_get? hvalue (by decide +kernel) (by decide)
    | none =>
      rw [hvalue, Option.none_or] at asks
      obtain ⟨value, hface, hread⟩ := Option.bind_eq_some_iff.mp asks
      exact hspan span (.inr ⟨value, g, hface, hread⟩)

/-! ## Where an argument begins -/

/-- The text ends with a command for formatting, up to the brace of its argument. -/
def FormatsBefore (cs : List Char) : Prop :=
  ∃ (w : Wish) (ts : List Token), w.Plain ∧ w.command? = some ts ∧ spell (ts ++ [opening]) <:+ cs

/-- The last characters of a text are those of its end. -/
theorem last_of_suffix {end_ : List Char} (h : end_ <:+ cs) {n : Nat} (hn : n ≤ end_.length) :
    cs.reverse.take n = end_.reverse.take n := by
  obtain ⟨front, rfl⟩ := h
  rw [List.reverse_append, List.take_append_of_le_length (by simpa using hn)]

/-- Before the last of certain characters the same is to be found, however a text is taken apart. -/
theorem before_eq {a b front rest : List Char} {x : Char} (h : front ++ x :: a = rest ++ x :: b)
    (ha : x ∉ a) (hb : x ∉ b) : front = rest := by
  have hcut : ∀ {front a : List Char}, x ∉ a →
      (front ++ x :: a).reverse.dropWhile (· != x) = x :: front.reverse := by
    intro front a ha
    have hnone : ∀ y ∈ a.reverse, (y != x) = true := fun y hy =>
      bne_iff_ne.mpr fun hyx => ha (hyx ▸ List.mem_reverse.mp hy)
    rw [List.reverse_append, List.reverse_cons, List.append_assoc, List.dropWhile_append_of_pos hnone]
    simp
  have hsame := congrArg (fun l => l.reverse.dropWhile (· != x)) h
  simp only [hcut ha, hcut hb, List.cons.injEq, List.reverse_inj, true_and] at hsame
  exact hsame

/-- The commands for formatting that take nothing but their argument. -/
def formattingWords : List String := ["textbf", "textit", "underline", "texttt", "textsf", "textrm"]

theorem Wish.command?_cases (h : w.command? = some ts) : (∃ n ∈ formattingWords, ts = [word n]) ∨
    ∃ n hex, (w = .color hex ∨ w = .background hex) ∧
      ts = colorCommand n ++ chars hex.toList ++ [closing] := by
  cases w with
  | emphasis k => cases k <;> cases h <;> exact .inl ⟨_, by decide, rfl⟩
  | color hex =>
    cases h
    exact .inr ⟨"textcolor", hex, .inl rfl, rfl⟩
  | background hex =>
    cases h
    exact .inr ⟨"colorbox", hex, .inr rfl, rfl⟩
  | family g =>
    cases h
    exact .inl ⟨g.command, by cases g <;> decide, rfl⟩
  | size => cases h

/-- The commands of headings, and those that raise and lower their argument. -/
def headWords : List String :=
  ["section", "subsection", "subsubsection", "paragraph", "subparagraph", "textsubscript",
    "textsuperscript"]

theorem words_last : ∀ n ∈ formattingWords ++ headWords, 3 ≤ (spell [word n, opening]).length := by
  decide

/-- A command for formatting is one word, or it is that of a color. -/
theorem FormatsBefore.cases (h : FormatsBefore cs) :
    (∃ n ∈ formattingWords, cs.reverse.take 3 = (spell [word n, opening]).reverse.take 3) ∨
      ∃ (n : String) (hex : List Char), hex.all isPlain = true ∧
        spell (colorCommand n ++ chars hex ++ [closing] ++ [opening]) <:+ cs := by
  obtain ⟨w, ts, hplain, hrow, hend⟩ := h
  rcases Wish.command?_cases hrow with ⟨n, hn, rfl⟩ | ⟨n, hex, hw, rfl⟩
  · exact .inl ⟨n, hn, last_of_suffix hend (words_last n (List.mem_append_left _ hn))⟩
  · exact .inr ⟨n, hex.toList, by rcases hw with rfl | rfl <;> exact hplain, hend⟩

/-- The other commands are words, or have the target of a link. -/
theorem Heads.cases (h : Heads e ts) (front : List Char) :
    (∃ n ∈ headWords, (front ++ spell (ts ++ [opening])).reverse.take 3 =
      (spell [word n, opening]).reverse.take 3) ∨
    (front ++ spell (ts ++ [opening])).reverse.take 2 = ['\x7b', ']'] ∨
      ∃ href : String, ts = [word "href", opening] ++ href.toList.flatMap urlTokens ++ [closing] := by
  have hword : ∀ n ∈ headWords, (front ++ spell [word n, opening]).reverse.take 3 =
      (spell [word n, opening]).reverse.take 3 := fun n hn =>
    last_of_suffix (List.suffix_append _ _) (words_last n (List.mem_append_right _ hn))
  cases h with
  | @«section» level command _ known =>
    refine .inl ⟨command, ?_, hword command ?_⟩ <;>
    · unfold headingCommand? at known
      split at known <;> cases known <;> decide
  | script known => rcases known with rfl | rfl <;> exact .inl ⟨_, by decide, hword _ (by decide)⟩
  | target href => exact .inr (.inr ⟨href, rfl⟩)
  | fragment => exact .inr (.inl (by simp [render]))

theorem no_brace_url (cs : List Char) : '\x7b' ∉ spell (cs.flatMap urlTokens) := by
  induction cs with
  | nil => simp
  | cons c cs ih =>
    rw [List.flatMap_cons, spell_append, List.mem_append, not_or]
    refine ⟨?_, ih⟩
    unfold urlTokens
    split_ifs with _ _ _ _ _ hc <;> simp [render]
    exact fun h => absurd h.symm ‹¬ c = '\x7b'›

theorem no_brace_plain (h : cs.all isPlain) : '\x7b' ∉ cs := fun hmem =>
  absurd (List.all_eq_true.mp h _ hmem) (by decide)

/-- The argument of a link is not that of a color. -/
theorem color_not_target {n : String} {hex : List Char} (hhex : hex.all isPlain) (href : String)
    (front : List Char) : ¬ spell (colorCommand n ++ chars hex ++ [closing] ++ [opening]) <:+
      front ++ spell ([word "href", opening] ++ href.toList.flatMap urlTokens ++ [closing] ++ [opening]) := by
  rintro ⟨front', heq⟩
  -- Behind the last brace but one the color stands on the one side, and the target on the other.
  have hsplit : (front' ++ ('\\' :: n.toList ++ ['[', 'H', 'T', 'M', 'L', ']'])) ++
      '\x7b' :: (hex ++ ['\x7d']) = (front ++ "\\href".toList) ++
        '\x7b' :: (spell (href.toList.flatMap urlTokens) ++ ['\x7d']) := by
    refine (List.append_left_inj ['\x7b']).mp ?_
    simpa [colorCommand, render] using heq
  have hbefore := before_eq hsplit (by simp [no_brace_plain hhex]) (by simp [no_brace_url])
  have hlast := congrArg List.getLast? hbefore
  rw [List.getLast?_append_of_ne_nil _ (by simp), List.getLast?_append_of_ne_nil _ (by simp)] at hlast
  simp at hlast

/-- Commands that format nothing can be told from those that do. -/
theorem Heads.not_formats (h : Heads e ts) (front : List Char) :
    ¬ FormatsBefore (front ++ spell (ts ++ [opening])) := by
  intro hformats
  have hapart : ∀ n ∈ formattingWords, ∀ m ∈ headWords,
      (spell [word n, opening]).reverse.take 3 ≠ (spell [word m, opening]).reverse.take 3 := by decide
  have hmarks : ∀ n ∈ formattingWords ++ headWords, ∀ mark ∈ [']', '\x7d'],
      ((spell [word n, opening]).reverse.take 3).take 2 ≠ ['\x7b', mark] := by decide
  -- Two characters at the end tell words and the two kinds of targets apart.
  have htwo : ∀ {cs : List Char}, cs.reverse.take 2 = (cs.reverse.take 3).take 2 := by
    simp [List.take_take]
  have hcolor : ∀ {n : String} {hex cs : List Char},
      spell (colorCommand n ++ chars hex ++ [closing] ++ [opening]) <:+ cs →
        cs.reverse.take 2 = ['\x7b', '\x7d'] := by
    rintro n hex _ ⟨front, rfl⟩
    simp [render]
  rcases h.cases front with ⟨m, hm, hlast⟩ | hlast | ⟨href, rfl⟩
  · rcases hformats.cases with ⟨n, hn, hlast'⟩ | ⟨n, hex, -, hend⟩
    · exact hapart n hn m hm (hlast'.symm.trans hlast)
    · refine hmarks m (List.mem_append_right _ hm) '\x7d' (by decide) ?_
      rw [← hlast, ← htwo, hcolor hend]
  · rcases hformats.cases with ⟨n, hn, hlast'⟩ | ⟨n, hex, -, hend⟩
    · refine hmarks n (List.mem_append_left _ hn) ']' (by decide) ?_
      rw [← hlast', ← htwo, hlast]
    · rw [hcolor hend] at hlast
      simp at hlast
  · rcases hformats.cases with ⟨n, hn, hlast'⟩ | ⟨n, hex, hhex, hend⟩
    · refine hmarks n (List.mem_append_left _ hn) '\x7d' (by decide) ?_
      rw [← hlast', ← htwo]
      simp [render]
    · exact color_not_target hhex href front hend

/-! ## The first argument -/

theorem Wrote.same (h : Wrote ts c c') : c'.arguments = c.arguments ∧
    c'.argumentDepth = c.argumentDepth ∧ c'.blockContent = c.blockContent ∧ c'.inCell = c.inCell := by
  obtain ⟨_, _, _, _, _, rfl, -⟩ := h
  exact ⟨rfl, rfl, rfl, rfl⟩

theorem Move.blockContent (h : Move e style c c') : c'.blockContent = c.blockContent := by
  cases h with
  | note | trim | owe | align => rfl
  | write wrote | command _ wrote | term _ _ wrote => exact wrote.same.2.2.1
  | wish _ granted =>
    cases granted with
    | held | putOff => rfl
    | argument _ _ _ wrote | group _ _ wrote => exact wrote.same.2.2.1

/-- A cell that was begun is not left on entering an element. -/
theorem Move.inCell (h : Move e style c c') (hcell : c.inCell = true) : c'.inCell = true := by
  cases h with
  | note cell => exact cell hcell
  | trim | owe | align => exact hcell
  | write wrote | command _ wrote | term _ _ wrote => exact wrote.same.2.2.2.trans hcell
  | wish _ granted =>
    cases granted with
    | held | putOff => exact hcell
    | argument _ _ _ wrote | group _ _ wrote => exact wrote.same.2.2.2.trans hcell

theorem Move.extends (h : Move e style c c') : Extends c c' := by
  have howed : ∀ {op : Opening} {ts : List Token} {c₁ : Converter} {f : Formatting}, Wrote ts c c₁ →
      Extends c { op.owe c₁ with formatting := f } := fun wrote => wrote.extends.trans (.of_eq rfl)
  cases h with
  | note | owe | align => exact .of_eq rfl
  | trim => exact .trims c
  | write wrote => exact wrote.extends
  | command _ wrote | term _ _ wrote => exact wrote.extends.trans (.of_eq rfl)
  | wish _ granted =>
    cases granted with
    | held | putOff => exact .of_eq rfl
    | argument _ _ _ wrote | group _ _ wrote => exact howed wrote

/-- The moves that open an argument, and what is before it. -/
theorem Move.arguments (h : Move e style c c') :
    (c'.arguments = c.arguments ∧ c'.argumentDepth = c.argumentDepth) ∨
    c'.arguments = ⟨c'.output.length, none⟩ :: c.arguments ∧ c'.output.getLast? ≠ some ' ' ∧
      (FormatsBefore c'.output →
        ∃ w, Asks e style c w ∧ w.command?.isSome = true ∧ c.blockContent = false) := by
  have hopening : ∀ ts : List Token, (spell (ts ++ [opening])).getLast? = some '\x7b' := fun ts => by
    simp [render]
  have hlast : ∀ {ts : List Token} {c₁ c₂ : Converter}, Wrote (ts ++ [opening]) c c₁ →
      c₂.output = c₁.output → c₂.output.getLast? ≠ some ' ' := fun hw hsame => by
    rw [hsame, hw.output, List.getLast?_append, hopening]
    simp
  cases h with
  | note | trim | owe | align => exact .inl ⟨rfl, rfl⟩
  | write wrote => exact .inl ⟨wrote.same.1, wrote.same.2.1⟩
  | @command c₁ ts head wrote =>
    refine .inr ⟨congrArg (List.cons _) wrote.same.1, hlast wrote rfl, fun hformats => ?_⟩
    have houtput : (Opening.argument.owe c₁).output = c.output ++ spell (ts ++ [opening]) := wrote.output
    rw [houtput] at hformats
    exact absurd hformats (head.not_formats _)
  | @term c₁ _ _ wrote =>
    have houtput : (Opening.term.owe c₁).output = c.output ++ spell [word "item", char '['] := wrote.output
    refine .inr ⟨congrArg (List.cons _) wrote.same.1, ?_, fun hformats => ?_⟩
    · rw [houtput, List.getLast?_append]
      simp [render]
    · -- No formatting is followed by a bracket.
      obtain ⟨w, ts, -, -, front, hfront⟩ := hformats
      rw [houtput] at hfront
      have := congrArg List.getLast? hfront
      rw [List.getLast?_append, hopening, List.getLast?_append] at this
      simp [render] at this
  | wish asks granted =>
    cases granted with
    | held | putOff => exact .inl ⟨rfl, rfl⟩
    | argument _ inline row wrote =>
      exact .inr ⟨congrArg (List.cons _) wrote.same.1, hlast wrote rfl, fun _ =>
        ⟨_, asks, by rw [row]; rfl, inline⟩⟩
    | group _ _ wrote => exact .inl ⟨wrote.same.1, wrote.same.2.1⟩

/-- What is known of the first argument that was opened since `c₀`. -/
inductive Began (e : Element) (style : Style) (c₀ c : Converter) : Prop where
  | cell (inside : c.inCell = true)
  | nothing (arguments : c.arguments = c₀.arguments) (depth : c.argumentDepth = c₀.argumentDepth)
  | first {new : List Span} {front : List Char} {stop : Option Nat}
      (arguments : c.arguments = new ++ ⟨front.length, stop⟩ :: c₀.arguments)
      (before : front <+: c.output) (last : front.getLast? ≠ some ' ')
      (settles : FormatsBefore front →
        c₀.blockContent = false ∧ (mayFormat e style = true ∨ Unforeseen e style))

theorem Began.move (hb : Began e style c₀ c) (h : Move e style c c') (hs : style.Proper)
    (hflat : c₀.inlineOnly = false) (hblocks : c.blockContent = c₀.blockContent) :
    Began e style c₀ c' := by
  cases hb with
  | cell inside => exact .cell (h.inCell inside)
  | nothing arguments depth =>
    cases hcell : c.inCell with
    | true => exact .cell (h.inCell hcell)
    | false =>
      have hinline : c.inlineOnly = false := by
        rw [Converter.inlineOnly, Bool.or_eq_false_iff] at hflat
        rw [Converter.inlineOnly, hcell, depth, hflat.2]
        rfl
      rcases h.arguments with ⟨hsame, hdepth⟩ | ⟨hnew, hlast, hformats⟩
      · exact .nothing (hsame.trans arguments) (hdepth.trans depth)
      · have hsplit : c'.arguments = [] ++ ⟨c'.output.length, none⟩ :: c₀.arguments := by
          rw [hnew, arguments]
          rfl
        refine .first hsplit List.prefix_rfl hlast fun hf => ?_
        obtain ⟨w, hasks, hcommand, hfree⟩ := hformats hf
        exact ⟨hblocks ▸ hfree, hasks.mayFormat hs hinline hcommand⟩
  | @first new front stop arguments before last settles =>
    have hbefore : front <+: c'.output := h.extends front before last
    rcases h.arguments with ⟨hsame, -⟩ | ⟨hnew, -, -⟩
    · exact .first (hsame.trans arguments) hbefore last settles
    · have hsplit : c'.arguments =
          (⟨c'.output.length, none⟩ :: new) ++ ⟨front.length, stop⟩ :: c₀.arguments := by
        rw [hnew, arguments]
        rfl
      exact .first hsplit hbefore last settles

theorem Moves.began (h : Moves e style c c') (hs : style.Proper) (hflat : c.inlineOnly = false) :
    Began e style c c' := by
  suffices hboth : Began e style c c' ∧ c'.blockContent = c.blockContent from hboth.1
  induction h with
  | refl => exact ⟨.nothing rfl rfl, rfl⟩
  | tail _ m ih => exact ⟨ih.1.move m hs hflat ih.2, m.blockContent.trans ih.2⟩

/-! ## Formatting around blocks -/

/-- On entering an element, formatting began an argument where blocks could be written.  This can only be
the first argument that the element opens: inside of it nothing but inline material is written. -/
def FormatsInArgument (c c' : Converter) : Prop :=
  c.inlineOnly = false ∧ c'.inCell = false ∧
    ∃ new span, c'.arguments = new ++ span :: c.arguments ∧ FormatsBefore (c'.output.take span.start)

theorem not_formatsInArgument (h : c'.arguments = c.arguments) : ¬ FormatsInArgument c c' := by
  rintro ⟨-, -, new, span, hnew, -⟩
  have := congrArg List.length (h.symm.trans hnew)
  simp at this
  omega

theorem Began.formats {blocks : Bool} (hb : Began e style (c.opened blocks) c')
    (h : FormatsInArgument c c') : blocks = false ∧ (mayFormat e style = true ∨ Unforeseen e style) := by
  obtain ⟨hflat, hcell, new, span, hnew, hformats⟩ := h
  cases hb with
  | cell inside =>
    rw [hcell] at inside
    cases inside
  | nothing arguments =>
    exact absurd ⟨hflat, hcell, new, span, hnew, hformats⟩ (not_formatsInArgument arguments)
  | @first new' front stop arguments before _ settles =>
    have hspan : span = ⟨front.length, stop⟩ := by
      have hsame : new ++ [span] = new' ++ [⟨front.length, stop⟩] := by
        refine (List.append_left_inj c.arguments).mp ?_
        rw [List.append_assoc, List.append_assoc]
        exact hnew.symm.trans arguments
      simpa using congrArg List.getLast? hsame
    rw [hspan, ← List.prefix_iff_eq_take.mp before] at hformats
    exact settles hformats

/-- Elements that apply no style begin no argument. -/
theorem enter_unmoved (hpre : c.preDepth = 0) (htag : e.tag = .table ∨ e.tag = .image) :
    Ensures (enter doc setting id e style) c fun _ c' => c'.arguments = c.arguments := by
  refine .enter hpre ?_
  unfold openElement
  rcases htag with htag | htag
  · rw [htag]
    refine (openTable_begins (fresh_opened _ _).framed).mono ?_
    rintro _ _ (h | ⟨t, c₁, h, rfl⟩)
    · exact h.arguments
    · exact h.arguments
  · rw [htag]
    exact (openImage_unmoving _).bind fun _ _ h => Ensures.pure h.arguments

/-- Where blocks can be written, formatting begins an argument only on elements with no block below,
unless it comes from an attribute of a span that was overlooked. -/
theorem blockless_of_formatsInArgument (doc : Document) (options : Options)
    (resolve : Image.Resolver) (root : Nat) :
    ∀ {entry : Entry Converter} {entries : List (Entry Converter)} {style : Style} {ids : List Nat}
      {c : Converter},
      Amid doc options.importantPolicy (visitor doc ⟨options, resolve⟩) root Converter.start
        (entry :: entries) style ids c → FormatsInArgument entry.before entry.after →
      Unforeseen entry.element entry.style ∨
        ∀ path x, doc.Leads entry.id path x → x ≠ entry.id → doc.isBlock x = false := by
  intro entry entries style ids c h hformats
  obtain ⟨-, -, -, -, -, hentered, -⟩ := h.enclosing
  rcases Nat.eq_zero_or_pos entry.before.preDepth with hpre | hpre
  · by_cases htag : entry.element.tag = .table ∨ entry.element.tag = .image
    · exact absurd hformats (not_formatsInArgument (enter_unmoved hpre htag _ _ hentered))
    · rw [not_or] at htag
      have hacts := enter_acts htag.1 htag.2 hpre _ _ hentered
      have hflat : entry.before.inlineOnly = false := hformats.1
      obtain ⟨hblocks, hmay⟩ := (hacts.moves.began h.proper hflat).formats hformats
      refine hmay.symm.imp_right fun hmay path x hleads hne => ?_
      rw [hmay, Bool.true_and] at hblocks
      by_contra hblock
      rw [Document.hasBlockContent_of_leads hleads hne (by simpa using hblock)] at hblocks
      cases hblocks
  · obtain ⟨-, blocks, hwrote⟩ := (enter_verbatim hpre).of_ok hentered
    exact absurd hformats (not_formatsInArgument hwrote.same.1)

/-- Bold letters without a block. -/
def boldWord : Document := (Document.withRoot "b").push 0 (.text "a")

/-- The word is the argument of a command. -/
theorem blockless_of_formatsInArgument_boldWord :
    ∃ (entry : Entry Converter) (style : Style) (c : Converter),
      Amid boldWord .localWins (visitor boldWord ⟨{}, fun _ => .ok "image.png"⟩) 0 Converter.start
        [entry] style [1] c ∧ FormatsInArgument entry.before entry.after ∧
      (Unforeseen entry.element entry.style ∨
        ∀ path x, boldWord.Leads entry.id path x → x ≠ entry.id → boldWord.isBlock x = false) := by
  have hrun : (match enter boldWord ⟨{}, fun _ => .ok "image.png"⟩ 0 (.ofName "b" [])
      ((Element.ofName "b" []).styleUnder .localWins Style.empty) Converter.start with
    | .ok flow c => flow = .descend && !c.inCell && c.arguments = [⟨8, none⟩] &&
        c.output = "\\textbf\x7b".toList
    | .error .. => false) = true := by decide +kernel
  split at hrun
  · next flow c hentered =>
    simp only [Bool.and_eq_true, decide_eq_true_eq, Bool.not_eq_true'] at hrun
    obtain ⟨⟨⟨rfl, hcell⟩, harguments⟩, houtput⟩ := hrun
    have hstart : Amid boldWord .localWins (visitor boldWord ⟨{}, fun _ => .ok "image.png"⟩) 0
      Converter.start [] Style.empty [0] Converter.start := .start
    have hamid := hstart.inside rfl hentered (by decide)
    have hformats : FormatsInArgument Converter.start c := by
      refine ⟨rfl, hcell, [], ⟨8, none⟩, harguments, .emphasis .bold, _, trivial, rfl, ?_⟩
      rw [houtput]
      decide
    exact ⟨_, _, c, hamid, hformats, blockless_of_formatsInArgument boldWord {} _ 0 hamid hformats⟩
  · cases hrun

/-- A paragraph in a span, whose color is an attribute. -/
def spanAroundParagraph : Document :=
  let span := (Document.withRoot "body").push 0 (.element (.ofName "span" [⟨"color", "red"⟩]))
  (span.push 1 (.element (.ofName "p" []))).push 2 (.text "a")

/-- Around the paragraph the color is the argument of a command. -/
theorem formatsInArgument_spanAroundParagraph :
    ∃ (entry outer : Entry Converter) (style : Style) (c : Converter),
      Amid spanAroundParagraph .localWins
        (visitor spanAroundParagraph ⟨{}, fun _ => .ok "image.png"⟩) 0 Converter.start [entry, outer]
        style [2] c ∧
      FormatsInArgument entry.before entry.after ∧
      entry.after.output = "\\textcolor[HTML]\x7bFF0000\x7d\x7b".toList ∧
      spanAroundParagraph.Leads entry.id [1, 2] 2 ∧ spanAroundParagraph.isBlock 2 = true := by
  have hrun : (match enter spanAroundParagraph ⟨{}, fun _ => .ok "image.png"⟩ 0 (.ofName "body" [])
      ((Element.ofName "body" []).styleUnder .localWins Style.empty) Converter.start with
    | .ok flow c => flow = .descend && !c.inlineOnly && c.arguments = [] &&
      match enter spanAroundParagraph ⟨{}, fun _ => .ok "image.png"⟩ 1
        (.ofName "span" [⟨"color", "red"⟩]) ((Element.ofName "span" [⟨"color", "red"⟩]).styleUnder
          .localWins ((Element.ofName "body" []).styleUnder .localWins Style.empty).inheritedPart.style) c with
      | .ok flow c => flow = .descend && !c.inCell && c.arguments = [⟨25, none⟩] &&
          c.output = "\\textcolor[HTML]\x7bFF0000\x7d\x7b".toList
      | .error .. => false
    | .error .. => false) = true := by decide +kernel
  split at hrun
  · next flow c hbody =>
    simp only [Bool.and_eq_true, decide_eq_true_eq, Bool.not_eq_true'] at hrun
    obtain ⟨⟨⟨rfl, hflat⟩, hnone⟩, hrun⟩ := hrun
    split at hrun
    · next flow c' hspan =>
      simp only [Bool.and_eq_true, decide_eq_true_eq, Bool.not_eq_true'] at hrun
      obtain ⟨⟨⟨rfl, hcell⟩, harguments⟩, houtput⟩ := hrun
      have hstart : Amid spanAroundParagraph .localWins
        (visitor spanAroundParagraph ⟨{}, fun _ => .ok "image.png"⟩) 0 Converter.start [] Style.empty [0]
        Converter.start := .start
      have hamid := (hstart.inside rfl hbody (by decide)).inside rfl hspan (by decide)
      refine ⟨_, _, _, c', hamid, ⟨hflat, hcell, [], ⟨25, none⟩, ?_, .color "FF0000", _, ?_, rfl, ?_⟩,
        houtput, .child .start ?_, ?_⟩
      · rw [hnone]
        exact harguments
      · have hplain : "FF0000".toList.all isPlain = true := by decide
        exact hplain
      · rw [houtput]
        decide
      · have hchild : 2 ∈ spanAroundParagraph.children 1 := by decide
        exact hchild
      · decide +kernel
    · cases hrun
  · cases hrun

end MarkupTex.Convert
