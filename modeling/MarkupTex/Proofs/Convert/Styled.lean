import MarkupTex.Proofs.Convert.Handlers
import MarkupTex.Proofs.Convert.Place
import MarkupTex.Proofs.Document.Ancestry
import MarkupTex.Proofs.Style.Kinds
/-!
# The style of an element reaches its text

What a style demands is met when it is applied: it is in effect, or it is put off and will be done for each
run of text.  No other move takes it back, because an attribute gives way to a style that says the same.
Between the children of an element formatting is as it was behind its handler, whatever they have done.  So
a text finds in effect what the style of its parent says, `text_shows_style`.
-/

set_option autoImplicit false

namespace MarkupTex.Convert

open Latex Walk

variable {doc : Document} {setting : Setting} {policy : ImportantPolicy} {root id : Nat} {e : Element}
  {style : Style} {f : Formatting} {w : Wish} {c c' : Converter} {ids : List Nat}
  {entry : Entry Converter} {entries : List (Entry Converter)} {hex hex' : String}

/-! ## What a style demands -/

/-- It is put off. -/
def Wish.waits (f : Formatting) : Wish → Bool
  | emphasis .underline => f.pendingUnderline
  | background hex => f.pendingBackground = some hex
  | _ => false

/-- It holds, or it is put off. -/
def Wish.met (f : Formatting) (w : Wish) : Bool := w.held f || w.waits f

theorem Granted.met (h : Granted w c c') : w.met c'.formatting = true := by
  have hgrant : ∀ f : Formatting, w.met (w.grant f) = true := by
    intro f
    have hself : ∀ k : Kinds, (k.bits != 0) = true → (f.active ∪ k).contains k = true := fun k hk =>
      Kinds.contains_union_self f.active hk
    cases w with
    | emphasis k => cases k <;> simp [Wish.met, Wish.grant, Wish.held, Emphasis.kind, hself, Kinds.bold,
        Kinds.italic, Kinds.underline]
    | color hex => simp [Wish.met, Wish.grant, Wish.held, hself, Kinds.color]
    | background hex => simp [Wish.met, Wish.grant, Wish.held, hself, Kinds.background]
    | family g => simp [Wish.met, Wish.grant, Wish.held]
    | size s => simp [Wish.met, Wish.grant, Wish.held]
  rcases h.formatting with ⟨hheld, hsame⟩ | hsame | hlater
  · rw [hsame, Wish.met, hheld]
    rfl
  · rw [hsame]
    exact hgrant _
  · rcases Wish.putOff?_cases hlater with ⟨rfl, hsame⟩ | ⟨hex, rfl, hsame⟩
    · simp [hsame, Wish.met, Wish.waits]
    · simp [hsame, Wish.met, Wish.waits]

/-- Two values that are read from the same text are the same. -/
theorem read_unique {value? : Option String}
    (h : ∃ value, value? = some value ∧ Color.toHex value = .ok hex)
    (h' : ∃ value, value? = some value ∧ Color.toHex value = .ok hex') : hex' = hex := by
  obtain ⟨value, hvalue, hread⟩ := h
  obtain ⟨value', hvalue', hread'⟩ := h'
  rw [hvalue] at hvalue'
  cases hvalue'
  rw [hread] at hread'
  cases hread'
  rfl

/-- Whatever an element asks for a color, it is the one that its style demands. -/
theorem Asks.color_unique (h : Asks e style c (.color hex')) (hd : Demands style (.color hex)) :
    hex' = hex := by
  obtain ⟨hhas, hread⟩ := demands_color.mp hd
  cases h with
  | style demands => exact read_unique hread (demands_color.mp demands).2
  | colorAttribute _ free =>
    rw [hhas] at free
    cases free

theorem Asks.background_unique (h : Asks e style c (.background hex'))
    (hd : Demands style (.background hex)) : hex' = hex := by
  cases h with
  | style demands =>
    exact read_unique (demands_background.mp hd).2 (demands_background.mp demands).2

/-- What is put off changes nothing that holds. -/
theorem Wish.held_putOff {w' : Wish} {g : Formatting} (h : w'.putOff? f = some g) (w : Wish) :
    w.held g = w.held f := by
  rcases Wish.putOff?_cases h with ⟨-, rfl⟩ | ⟨_, -, rfl⟩ <;> cases w <;> rfl

/-- A demand that is met stays met, whatever else is asked for. -/
theorem Granted.keeps_met {w' : Wish} (asks : Asks e style c w') (h : Granted w' c c')
    (hd : Demands style w) (hw : w.met c.formatting = true) : w.met c'.formatting = true := by
  by_cases hsame : w' = w
  · exact hsame ▸ h.met
  have hactive : ∀ {f : Formatting} {k : Kinds}, f.active.contains k = true →
      (w'.grant f).active.contains k = true := fun hk => by
    cases w' with
    | _ => exact Kinds.contains_union_left hk _
  -- Of two wishes for a color both are the one that the style demands.
  have hother : ∀ {hex hex'}, w = .color hex → w' = .color hex' → False := by
    rintro hex hex' rfl rfl
    exact hsame (congrArg Wish.color (asks.color_unique hd))
  have hother' : ∀ {hex hex'}, w = .background hex → w' = .background hex' → False := by
    rintro hex hex' rfl rfl
    exact hsame (congrArg Wish.background (asks.background_unique hd))
  simp only [Wish.met, Bool.or_eq_true] at hw ⊢
  rcases h.formatting with ⟨-, heq⟩ | heq | hlater
  · rwa [heq]
  · rw [heq]
    refine hw.imp (fun hheld => ?_) fun hwaits => ?_
    · cases hd with
      | emphasis => exact hactive hheld
      | color =>
        simp only [Wish.held, Bool.and_eq_true, decide_eq_true_eq] at hheld ⊢
        refine ⟨hactive hheld.1, ?_⟩
        cases w' with
        | color => exact (hother rfl rfl).elim
        | _ => exact hheld.2
      | background =>
        simp only [Wish.held, Bool.and_eq_true, decide_eq_true_eq] at hheld ⊢
        refine ⟨hactive hheld.1, ?_⟩
        cases w' with
        | background => exact (hother' rfl rfl).elim
        | _ => exact hheld.2
    · cases w with
      | emphasis k => cases k <;> cases w' <;> exact hwaits
      | background hex => cases w' <;> exact hwaits
      | _ => cases hwaits
  · refine hw.imp (fun hheld => (Wish.held_putOff hlater w).trans hheld) fun hwaits => ?_
    rcases Wish.putOff?_cases hlater with ⟨rfl, heq⟩ | ⟨hex', rfl, heq⟩
    · rw [heq]
      cases w with
      | emphasis k => cases k with
        | underline => rfl
        | _ => cases hwaits
      | background hex => exact hwaits
      | _ => cases hwaits
    · rw [heq]
      cases w with
      | emphasis k => cases k <;> exact hwaits
      | background hex => exact (hother' rfl rfl).elim
      | _ => cases hwaits

/-- How lines are set has nothing to do with it. -/
theorem Wish.met_align {active : Kinds}
    (hactive : ∀ {k : Kinds}, f.active.contains k = true → active.contains k = true)
    (alignment : Option Latex.Alignment) (h : w.met f = true) :
    w.met { f with active, alignment } = true := by
  simp only [Wish.met, Bool.or_eq_true] at h ⊢
  refine h.imp (fun hheld => ?_) fun hwaits => ?_
  · cases w with
    | emphasis => exact hactive hheld
    | color | background =>
      simp only [Wish.held, Bool.and_eq_true] at hheld ⊢
      exact ⟨hactive hheld.1, hheld.2⟩
    | _ => exact hheld
  · cases w with
    | emphasis k => cases k <;> exact hwaits
    | _ => exact hwaits

/-- A demand that is met stays met up to the end of the handler. -/
theorem Moves.keeps_met (h : Moves e style c c') (hd : Demands style w)
    (hw : w.met c.formatting = true) : w.met c'.formatting = true := by
  have hmove : ∀ {c c'}, Move e style c c' → w.met c.formatting = true → w.met c'.formatting = true := by
    intro c c' m hw
    cases m with
    | note | trim | owe => exact hw
    | write wrote | command _ wrote | term _ _ wrote =>
      obtain ⟨_, _, _, _, _, rfl, -⟩ := wrote
      exact hw
    | align alignment kept =>
      refine Wish.met_align (fun hk => ?_) alignment hw
      rcases kept with rfl | rfl
      · exact hk
      · exact Kinds.contains_union_left hk _
    | wish asks granted => exact granted.keeps_met asks hd hw
  exact h.relates (R := fun c c' => w.met c.formatting = true → w.met c'.formatting = true)
    (fun _ h => h) (fun h h' hw => h' (h hw)) hmove hw

/-- Where the style was applied, all that it demands is met. -/
theorem Acts.met (h : Acts e style true c c') (hd : Demands style w) : w.met c'.formatting = true := by
  obtain ⟨c₁, c₂, -, hgranted, hafter⟩ := h.grants.granted w hd
  exact hafter.keeps_met hd hgranted.met

/-! ## What a text finds -/

/-- The formatting does what the style says. -/
structure Formatting.Shows (f : Formatting) (style : Style) : Prop where
  bold : style.isBold = true → f.active.contains Kinds.bold = true
  italic : style.isItalic = true → f.active.contains Kinds.italic = true
  underline : style.isUnderline = true →
    f.active.contains Kinds.underline = true ∨ f.pendingUnderline = true
  color : ∀ {value hex : String}, style.get? "color" = some value → Color.toHex value = .ok hex →
    f.active.contains Kinds.color = true ∧ f.color = some hex

theorem shows_of_met (hs : style.Proper) (h : ∀ w, Demands style w → w.met f = true) :
    f.Shows style where
  bold := by
    intro hbold
    have := h _ (.emphasis (k := .bold) hbold)
    simpa [Wish.met, Wish.held, Wish.waits, Emphasis.kind] using this
  italic := by
    intro hitalic
    have := h _ (.emphasis (k := .italic) hitalic)
    simpa [Wish.met, Wish.held, Wish.waits, Emphasis.kind] using this
  underline := by
    intro hunderline
    have := h _ (.emphasis (k := .underline) hunderline)
    simpa [Wish.met, Wish.held, Wish.waits, Emphasis.kind] using this
  color := by
    intro value hex hvalue hread
    have hhas : style.has Kinds.color = true := hs.has_of_get? hvalue (by decide +kernel) (by decide)
    have := h _ (.color hhas hvalue hread)
    simpa [Wish.met, Wish.held, Wish.waits] using this

theorem get?_inheritedPart (hs : style.Proper) {name : String} (hlower : Text.lower name = name)
    (hi : Style.isInheritable name = true) :
    style.inheritedPart.style.get? name = style.get? name := by
  rw [Style.get?, Style.get?, Style.declaration?_of_lower _ hlower, Style.declaration?_of_lower _ hlower,
    Style.find?_inheritedPart hs, if_pos hi]

/-- All that is shown is handed down to the text. -/
theorem Formatting.Shows.handed (hs : style.Proper) (h : f.Shows style) :
    f.Shows style.inheritedPart.style where
  bold := by
    rw [Style.isBold, get?_inheritedPart hs (by decide +kernel) (by decide +kernel)]
    exact h.bold
  italic := by
    rw [Style.isItalic, get?_inheritedPart hs (by decide +kernel) (by decide +kernel)]
    exact h.italic
  underline := by
    rw [Style.isUnderline, Style.firstOf, List.findSome?_cons, List.findSome?_cons, List.findSome?_nil,
      get?_inheritedPart hs (by decide +kernel) (by decide +kernel),
      get?_inheritedPart hs (by decide +kernel) (by decide +kernel)]
    exact h.underline
  color := by
    intro value hex hvalue hread
    rw [get?_inheritedPart hs (by decide +kernel) (by decide +kernel)] at hvalue
    exact h.color hvalue hread

/-- Between the children of an element all is as it was behind its handler. -/
theorem Amid.restored (h : Amid doc policy (visitor doc setting) root Converter.start
    (entry :: entries) style ids c) : Restored entry.after c := by
  generalize hopen : entry :: entries = opened at h
  induction h with
  | start => cases hopen
  | inside =>
    cases hopen
    exact .refl _
  | after _ visited ih => exact (ih hopen).trans (visited_restored visited)

/-- An element that applies its style is neither a table nor an image. -/
theorem ne_of_appliesStyle (h : appliesStyle e c = true) : e.tag ≠ .table ∧ e.tag ≠ .image := by
  constructor
  · intro htag
    simp [appliesStyle, htag] at h
  · intro htag
    simp [appliesStyle, htag] at h

/-- Where no verbatim block is open behind an element, there was none before. -/
theorem preDepth_of_entered {flow : Flow} (h : enter doc setting id e style c = .ok flow c')
    (hpre : c'.preDepth = 0) : c.preDepth = 0 := by
  by_contra hpos
  have := (enter_verbatim_notes (Nat.pos_of_ne_zero hpos) _ _ h).2.preDepth
  omega

/-- A text that is written outside of verbatim blocks, in an element whose handler applied its style, finds
the formatting that the style of the element asks for, and writing it changes none of it. -/
theorem text_shows_style (doc : Document) (options : Options) (resolve : Image.Resolver) (root : Nat) :
    ∀ {entry : Entry Converter} {entries : List (Entry Converter)} {style : Style} {id : Nat}
      {ids : List Nat} {c : Converter} {s : String},
      Amid doc options.importantPolicy (visitor doc ⟨options, resolve⟩) root Converter.start
        (entry :: entries) style (id :: ids) c → doc.text? id = some s → c.preDepth = 0 →
      appliesStyle entry.element entry.before = true →
      c.formatting.Shows entry.style ∧ c.formatting.Shows style ∧
        ∀ flow c', visitText ⟨options, resolve⟩ s c = .ok flow c' → c'.formatting = c.formatting := by
  intro entry entries style id ids c s h hs hpre happlies
  have hrestored := Amid.restored h
  obtain ⟨-, -, -, -, -, hentered, -, rfl⟩ := h.enclosing
  have hflat := preDepth_of_entered hentered (hrestored.preDepth.symm.trans hpre)
  have hne := ne_of_appliesStyle happlies
  have hacts := enter_acts hne.1 hne.2 hflat _ _ hentered
  rw [happlies] at hacts
  have hshows : c.formatting.Shows entry.style := by
    rw [hrestored.formatting]
    exact shows_of_met h.proper fun w hd => hacts.met hd
  refine ⟨hshows, hshows.handed h.proper, fun flow c' hv => ?_⟩
  obtain ⟨-, _, -, hwrote⟩ := (visitText_addsRow (o := options) ⟨options, resolve⟩ s c).of_ok hv
  exact hwrote.restores.formatting

/-- An element that has no part in tables and may have something below goes on to it. -/
theorem descends_of_ordinary {flow : Flow} (h : enter doc setting id e style c = .ok flow c')
    (hpre : c.preDepth = 0) (hplain : IsOrdinary e.tag = true)
    (hopen : e.tag ≠ .image ∧ e.tag ≠ .horizontalRule ∧ e.tag ≠ .lineBreak) : flow = .descend := by
  cases (enter_comes hpre _ _ h).2 with
  | staged tag => simp [tag, IsOrdinary] at hplain
  | skips _ _ why =>
    cases why with
    | suppressed tag => cases htag : e.tag <;> simp_all [IsOrdinary, Tag.isSuppressed]
    | void tag => rcases tag with tag | tag | tag <;> simp [tag] at hopen
    | grid tag | misplaced tag => simp [tag, IsOrdinary] at hplain
  | _ => rfl

/-- Only preformatted elements begin verbatim blocks. -/
theorem preDepth_of_ordinary {flow : Flow} (h : enter doc setting id e style c = .ok flow c')
    (hpre : c.preDepth = 0) (hplain : e.tag ≠ .preformatted) : c'.preDepth = 0 := by
  by_contra hpos
  exact hplain ((enter_comes hpre _ _ h).2.preformatted (by omega))

/-- A paragraph with a style, in which a table comes before the text. -/
def textAfterTable : Document :=
  let paragraph := (Document.withRoot "body").push 0
    (.element (.ofName "p" [⟨"style", "font-weight: bold; color: red"⟩]))
  (paragraph.push 1 (.element (.ofName "table" []))).push 1 (.text "y")

/-- The table has put formatting back to its beginning, and the text is bold and red all the same. -/
theorem text_shows_style_textAfterTable :
    ∃ (entry : Entry Converter) (entries : List (Entry Converter)) (style : Style) (c : Converter),
      Amid textAfterTable .localWins (visitor textAfterTable ⟨{}, fun _ => .ok "image.png"⟩) 0
        Converter.start (entry :: entries) style [3] c ∧
      textAfterTable.text? 3 = some "y" ∧ c.preDepth = 0 ∧
      appliesStyle entry.element entry.before = true ∧ entry.style.isBold = true ∧
      c.formatting.Shows entry.style ∧ c.formatting.Shows style ∧
        ∀ flow c', visitText ⟨{}, fun _ => .ok "image.png"⟩ "y" c = .ok flow c' →
          c'.formatting = c.formatting := by
  have hrun : (runFrom textAfterTable ⟨{}, fun _ => .ok "image.png"⟩ 0).toOption.isSome := by
    decide +kernel
  obtain ⟨c, h⟩ := exists_ok hrun
  obtain ⟨flow, c₁, _, _, hbody, hstop, hinside, -⟩ :=
    traverse_element_ok (e := .ofName "body" []) rfl (traverse_of_runFrom h)
  obtain rfl := descends_of_ordinary hbody rfl (by decide +kernel) (by decide +kernel)
  obtain ⟨flow, c₂, _, _, hparagraph, hstop', hchildren, -⟩ :=
    traverse_element_ok (e := .ofName "p" [⟨"style", "font-weight: bold; color: red"⟩]) rfl hinside
  have hflat : c₁.preDepth = 0 := preDepth_of_ordinary hbody rfl (by decide +kernel)
  have hflat' : c₂.preDepth = 0 := preDepth_of_ordinary hparagraph hflat (by decide +kernel)
  obtain rfl := descends_of_ordinary hparagraph hflat (by decide +kernel) (by decide +kernel)
  have hbelow : below textAfterTable (Document.withRoot "body").size .descend = [2, 3] := by decide
  rw [hbelow] at hchildren
  obtain ⟨c₃, htable, -⟩ := traverse_cons_ok hchildren
  have hamid := ((Amid.start.inside rfl hbody hstop).inside rfl hparagraph hstop').after htable
  have hpre : c₃.preDepth = 0 := (Amid.restored hamid).preDepth.trans hflat'
  have happlies : appliesStyle (.ofName "p" [⟨"style", "font-weight: bold; color: red"⟩]) c₁ = true := by
    have htag : (Element.ofName "p" [⟨"style", "font-weight: bold; color: red"⟩]).tag = .paragraph := by
      decide +kernel
    rw [appliesStyle, htag]
  have hbold : (Element.styleUnder .localWins
      (.ofName "p" [⟨"style", "font-weight: bold; color: red"⟩]) ((Element.ofName "body" []).styleUnder
        .localWins Style.empty).inheritedPart.style).isBold = true := by decide +kernel
  refine ⟨_, _, _, c₃, hamid, rfl, hpre, happlies, hbold, ?_⟩
  exact text_shows_style textAfterTable {} (fun _ => .ok "image.png") 0 hamid rfl hpre happlies

end MarkupTex.Convert
