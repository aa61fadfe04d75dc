import MarkupTex.Proofs.Convert.Brackets
/-!
# Arguments in brackets

Two arguments are written in brackets, the term of a description and the fragment of a link.  Behind the
opening bracket a reader takes the first closing one at the same depth of braces for the end, which is to be
the one that the conversion writes there.

That of a link is, if the fragment has no closing bracket: there is no escape for one.  For a term the
reasons for which it is not are told by `Bares`: some node in it writes a bracket that has no braces of its
own around it, at a place where no braces are open in the term, `brackets_close`.
-/

set_option autoImplicit false

namespace MarkupTex.Convert

open Latex Token Walk

variable {doc : Document} {setting : Setting} {policy : ImportantPolicy} {id n root : Nat} {e : Element}
  {style : Style} {c c' c₁ c₂ : Converter} {ids : List Nat} {ts : List Token} {new : List Closer}
  {frame : Frame}

/-! ## Nodes that write a bracket -/

/-- Visiting the node may write a closing bracket that has no braces of its own around it. -/
inductive Bares (doc : Document) (setting : Setting) (style : Style) (id : Nat) (c : Converter) : Prop where
  | text {s : String} (isText : doc.text? id = some s) (bracket : ']' ∈ s.toList)
  | background {s hex : String} (isText : doc.text? id = some s)
      (waits : c.formatting.runBackground = some hex)
  | color {e : Element} (isElement : doc.element? id = some e)
      (inline : (mayFormat e (e.styleUnder setting.options.importantPolicy style) &&
        doc.hasBlockContent id) = false)
      {w : Wish} (color : w.isColor) (asks : Asks e (e.styleUnder setting.options.importantPolicy style) c w)
      (fresh : w.held c.formatting = false)
  | fragment {e : Element} {fragment : String} (isElement : doc.element? id = some e)
      (links : fragment? e = some fragment)
  | image {e : Element} (isElement : doc.element? id = some e) (tag : e.tag = .image)
      (bares : ImageBares setting e (e.styleUnder setting.options.importantPolicy style))

/-- A text that has no bracket and no background waiting for it. -/
theorem not_bares_text {s : String} (hs : doc.text? id = some s) (hbracket : ']' ∉ s.toList)
    (hbackground : c.formatting.runBackground = none) : ¬ Bares doc setting style id c := by
  have htext : ∀ {e}, doc.element? id ≠ some e := fun he => by
    rw [Document.text?_of_element? he] at hs
    cases hs
  rintro (⟨isText, bracket⟩ | ⟨-, waits⟩ | ⟨he⟩ | ⟨he⟩ | ⟨he⟩)
  · rw [hs] at isText
    cases isText
    exact hbracket bracket
  · rw [hbackground] at waits
    cases waits
  · exact htext he
  · exact htext he
  · exact htext he

/-- An element without a color, which is no span, link or image. -/
theorem not_bares_element (he : doc.element? id = some e) (hspan : ¬ IsSpan e) (hanchor : e.tag ≠ .anchor)
    (himage : e.tag ≠ .image)
    (hstyle : (e.styleUnder setting.options.importantPolicy style).has Kinds.color = false ∧
      (e.styleUnder setting.options.importantPolicy style).has Kinds.background = false) :
    ¬ Bares doc setting style id c := by
  have helement : ∀ {s}, doc.text? id ≠ some s := fun hs => by
    rw [Document.text?_of_element? he] at hs
    cases hs
  rintro (⟨hs⟩ | ⟨hs⟩ | ⟨isElement, -, color, asks⟩ | ⟨isElement, links⟩ | ⟨isElement, tag⟩)
  · exact helement hs
  · exact helement hs
  · rw [he] at isElement
    cases isElement
    cases asks with
    | style demands =>
      cases demands with
      | color has =>
        rw [hstyle.1] at has
        cases has
      | background has =>
        rw [hstyle.2] at has
        cases has
      | emphasis => cases color
    | colorAttribute span => exact hspan span
    | _ => cases color
  · rw [he] at isElement
    cases isElement
    exact hanchor (fragment?_eq_some.mp links).1
  · rw [he] at isElement
    cases isElement
    exact himage tag

/-- It does so where `n` braces are owed. -/
def BaresAt (doc : Document) (setting : Setting) (n : Nat) (style : Style) (id : Nat) (c : Converter) :
    Prop := c.openBraces = n ∧ Bares doc setting style id c

/-- The colors that an element asks for, from the state before it is entered. -/
theorem bares_of_colors (he : doc.element? id = some e)
    (h : Colors e (e.styleUnder setting.options.importantPolicy style) c')
    (hblocks : c'.blockContent = (mayFormat e (e.styleUnder setting.options.importantPolicy style) &&
      doc.hasBlockContent id)) (hformatting : c'.formatting = c.formatting) :
    Bares doc setting style id c := by
  obtain ⟨hinline, w, hw, asks, hfree⟩ := h
  exact .color he (hblocks ▸ hinline) hw (asks.anywhere hw c) (hformatting ▸ hfree)

/-! ## Visits in an argument -/

/-- The output goes on; and where an argument is open, it comes back to the depth of braces, if no bracket was
written at depth `n`. -/
structure Secures (n : Nat) (p : Prop) (c c' : Converter) : Prop where
  goesOn : Extends c c'
  levels : Exclusive c → Enclosed c → 0 < c.argumentDepth → n ≤ c.openBraces → ¬ p →
    Levels (c.openBraces - n) (c'.openBraces - n) c c'

theorem text_secures {s : String} (hs : doc.text? id = some s) {flow : Flow}
    (hv : visitText setting s c = .ok flow c') :
    Secures n (BaresAt doc setting n style id c) c c' := by
  obtain ⟨-, _, -, hadds⟩ := (visitText_addsRow (o := setting.options) setting s c).of_ok hv
  refine ⟨hadds.extends, fun ha he hd hn hnot => ?_⟩
  have htame := he.tame ha hd
  have hdeep : Bares doc setting style id c → 0 < c.openBraces - n := fun hbares => by
    have : c.openBraces ≠ n := fun h => hnot ⟨h, hbares⟩
    omega
  obtain ⟨ts, hrow, hw⟩ := visitText_writes setting s htame.pre _ _ hv
  rw [hw.keeps.openBraces]
  refine .of_wrote hw (hrow.regular htame.formatting) (hrow.depth (fun hmem => ?_) fun hsome => ?_) rfl
  · exact hdeep (.text hs hmem)
  · obtain ⟨hex, hhex⟩ := Option.isSome_iff_exists.mp hsome
    exact hdeep (.background hs hhex)

theorem element_secures {p : Prop} {flow : Flow} {c₃ : Converter} (he : doc.element? id = some e)
    (hv : enter doc setting id e (e.styleUnder setting.options.importantPolicy style) c = .ok flow c₁)
    (hr : Restored c₁ c₂) (h : Secures n p c₁ c₂) (hl : leave e c₂ = .ok () c₃) (hrestored : Restored c c₃) :
    Secures n (BaresAt doc setting n style id c ∨ p) c c₃ := by
  obtain ⟨-, blocks, scope, hentered⟩ := (enter_yields doc setting id e _ c).of_ok hv
  refine ⟨(hentered.extends.trans h.goesOn).trans (leave_goesOn e _ _ _ hl).output,
    fun ha henclosed hd hn hnot => ?_⟩
  have htame := henclosed.tame ha hd
  have hdeep : Bares doc setting style id c → n < c.openBraces := fun hbares => by
    have : c.openBraces ≠ n := fun h => hnot (.inl ⟨h, hbares⟩)
    omega
  obtain ⟨ha₁, he₁⟩ := enter_encloses hv hentered ha henclosed
  obtain ⟨frame, howed⟩ := hentered.owed
  have hdown := enter_levels htame.pre hd hn (fun hcolors => hdeep (bares_of_colors he hcolors rfl rfl))
    (fun hsome => by
      obtain ⟨fragment, hfragment⟩ := Option.isSome_iff_exists.mp hsome
      exact hdeep (.fragment he hfragment))
    (fun htag hbares => hdeep (.image he htag hbares)) _ _ hv
  obtain ⟨hdown, frame', fs, hframes, hplain⟩ := hdown
  obtain ⟨rfl, -⟩ := List.cons.inj (howed.frames.symm.trans hframes)
  have hmid := h.levels ha₁ he₁ (by have := howed.argumentDepth; omega)
    (by have := howed.openBraces; omega) fun hp => hnot (.inr hp)
  have hup := leave_levels howed hplain hr hd (c.openBraces - n) _ _ hl
  rw [hrestored.openBraces]
  rw [hr.openBraces] at hmid
  have hsame : c₁.openBraces - n = c.openBraces - n + bracesOf scope.openings := by
    rw [howed.openBraces]
    omega
  rw [hsame] at hdown hmid
  exact (hdown.trans hmid).trans hup

theorem secures_tracks (doc : Document) (setting : Setting) (n : Nat) :
    Tracks doc setting.options.importantPolicy (visitor doc setting) (BaresAt doc setting n)
      (fun p c c' => (Restored c c' ∧ (Exclusive c → Enclosed c → Enclosed c')) ∧ Secures n p c c')
      Buffer.Refused := by
  have hencloses := (encloses_conserves doc setting setting.options.importantPolicy).tracks fun hr => hr.1
  refine Tracks.and (R := fun _ c c' => Restored c c' ∧ (Exclusive c → Enclosed c → Enclosed c'))
    ⟨hencloses.refl, fun h h' => hencloses.trans (p := False) (q := False) h h', hencloses.text,
      hencloses.element⟩ ?_ ?_ ?_ ?_
  · exact fun c => ⟨.refl c, fun _ _ _ _ _ => .of_output rfl _⟩
  · intro p q c₁ c₂ c₃ hr h₁ h₂
    refine ⟨h₁.goesOn.trans h₂.goesOn, fun ha he hd hn hnot => ?_⟩
    rw [not_or] at hnot
    refine (h₁.levels ha he hd hn hnot.1).trans (h₂.levels (hr.1.exclusive ha) (hr.2 ha he) ?_ ?_ hnot.2)
    · rwa [hr.1.argumentDepth]
    · rwa [hr.1.openBraces]
  · exact fun ht hv => text_secures ht hv
  · exact fun he hv hr h hl hrestored => element_secures he hv hr.1 h hl hrestored.1

/-- What is visited in an argument, whatever the nodes are. -/
theorem visited_secures (hvisited : traverse doc setting.options.importantPolicy (visitor doc setting) style
      ids c = .ok true c') (hids : ∀ x ∈ ids, x < doc.size) (n : Nat) :
    Restored c c' ∧ Secures n (Happens doc setting.options.importantPolicy (visitor doc setting)
      (BaresAt doc setting n) style ids c) c c' := by
  have hends := traverse_ends (secures_tracks doc setting n) ids style c hids
  rw [hvisited] at hends
  exact ⟨hends.2.1.1, hends.2.2⟩

/-! ## The argument of a term -/

theorem openItem_begins (htag : e.tag = .descriptionTerm) :
    Ensures (openItem e) c fun _ c' => ∃ lead c₁, (lead = [] ∨ lead = [char '\n']) ∧
      Wrote (lead ++ [word "item", char '[']) c c₁ ∧ c' = Opening.term.owe c₁ := by
  unfold openItem
  rw [htag]
  refine (newline_writes c).bind fun _ c₁ ⟨lead, hlead, hline⟩ => ?_
  refine (push_yields [word "item", char '['] rfl).ensures.bind fun _ c₂ hmark => ?_
  exact (term_owes c₂).mono fun _ _ heq => ⟨lead, c₂, hlead, hline.trans hmark, heq⟩

/-- On entering a term its bracket is opened, and then its style is applied. -/
theorem enter_term (htag : e.tag = .descriptionTerm) (hpre : c.preDepth = 0) (hblocks : c.inlineOnly = false)
    (hlist : 0 < c.listDepth) :
    Ensures (enter doc setting id e style) c fun flow c' => flow = .descend ∧
      ∃ lead c₁, (lead = [] ∨ lead = [char '\n']) ∧
        Wrote (lead ++ [word "item", char '['])
          (c.opened (mayFormat e style && doc.hasBlockContent id)) c₁ ∧
        Moves e style (Opening.term.owe c₁) c' := by
  refine .enter hpre ?_
  unfold openElement
  rw [htag]
  unfold openListItem
  refine Ensures.get_bind (Ensures.ite (fun h => ?_) fun _ => Ensures.ite (fun h => ?_) fun _ => ?_)
  · rw [show (c.opened _).inlineOnly = c.inlineOnly from rfl, hblocks] at h
    cases h
  · exact absurd h (Nat.ne_of_gt hlist)
  · refine (openItem_begins htag).bind ?_
    rintro _ _ ⟨lead, c₁, hlead, hwrote, rfl⟩
    exact (applyStyle_moves e style _).bind fun _ _ hmoves =>
      Ensures.pure ⟨rfl, lead, c₁, hlead, hwrote, hmoves⟩

/-- On leaving a term its bracket is closed behind all that is owed in it. -/
theorem leave_term {fs : List Frame} (htag : e.tag = .descriptionTerm) (hframes : c.frames = frame :: fs)
    (hclosers : frame.closers = new ++ [.endArgument, .text "] "])
    (hplain : ∀ closer ∈ new, closer.Plain) :
    Ensures (leave e) c fun _ c' => ∃ c₁, Levels (new.countP Closer.isBrace) 0 c c₁ ∧ Extends c c₁ ∧
      c'.output = c₁.output ++ "] ".toList := by
  refine .leave hframes ?_
  unfold closeElement closeFrame
  rw [htag, hclosers, emitClosers_append]
  refine ((emitClosers_levels hplain 0 _).and (emitClosers_extending new _)).bind
    fun _ c₁ ⟨⟨hlevels, _⟩, hextends⟩ => ?_
  rw [Nat.zero_add] at hlevels
  refine Ensures.modify_bind ((push_yields (chars "] ".toList) (spell_chars _).symm).ensures.bind
    fun _ _ hwrote => Ensures.pure ⟨c₁, hlevels.before rfl, hextends, ?_⟩)
  rw [Converter.restored, ← spell_chars "] ".toList]
  exact hwrote.output

/-- A visit of a term writes its brackets, and between them it comes back to the depth of braces if no node
writes a bracket there. -/
theorem term_visited (setting : Setting) (he : doc.element? id = some e) (htag : e.tag = .descriptionTerm)
    (hpre : c.preDepth = 0) (hblocks : c.inlineOnly = false) (hlist : 0 < c.listDepth)
    (ha : Exclusive c) (henclosed : Enclosed c)
    (hvisited : traverse doc setting.options.importantPolicy (visitor doc setting) style [id] c =
      .ok true c') :
    ∃ lead c₁ c₂, (lead = [] ∨ lead = ['\n']) ∧ c₁.output = c.output ++ lead ++ "\\item[".toList ∧
      Extends c₁ c₂ ∧
      (¬ Happens doc setting.options.importantPolicy (visitor doc setting)
        (BaresAt doc setting c.openBraces) style [id] c → Levels 0 0 c₁ c₂) ∧
      c'.output = c₂.output ++ "] ".toList := by
  obtain ⟨flow, c₂, c₃, c₄, hv, hflow, hbelow, hl, hrest⟩ := traverse_element_ok he hvisited
  rw [traverse_nil] at hrest
  obtain rfl : c₄ = c' := by
    injection hrest
  obtain ⟨-, blocks, scope, hentered⟩ := (enter_yields doc setting id e _ c).of_ok hv
  obtain ⟨ha₂, he₂⟩ := enter_encloses hv hentered ha henclosed
  obtain ⟨rfl, lead, c₁, hlead, hwrote, hmoves⟩ := enter_term htag hpre hblocks hlist _ _ hv
  have hdepth : 0 < (Opening.term.owe c₁).argumentDepth := Nat.succ_pos _
  have hinline : (Opening.term.owe c₁).inlineOnly = true := by
    rw [Converter.inlineOnly, decide_eq_true hdepth, Bool.or_true]
  have hbraces : (Opening.term.owe c₁).openBraces = c.openBraces := hwrote.keeps.openBraces
  have howing : Owing [.endArgument, .text "] "] (c.frames.map Frame.closers) c.openBraces
      (Opening.term.owe c₁) := by
    refine ⟨[], ?_, by simp, hbraces⟩
    have hframes : (Opening.term.owe c₁).frames = Opening.term.markFirst
        ({ saved := some c.formatting } :: c.frames) := congrArg Opening.term.markFirst hwrote.keeps.frames
    rw [hframes]
    rfl
  obtain ⟨new, hframes, hplain, hcount⟩ := hmoves.owing hinline howing
  obtain ⟨frame, fs, hf, hclosers, -⟩ := List.map_eq_cons_iff.mp hframes
  obtain ⟨hr, hsecures⟩ := visited_secures hbelow (fun _ => lt_size_of_mem_below) c.openBraces
  obtain ⟨c₅, hup, hextends, hends⟩ := leave_term htag (hr.frames.trans hf) hclosers hplain _ _ hl
  refine ⟨spell lead, c₁, c₅, ?_, ?_, ?_, fun hnot => ?_, hends⟩
  · rcases hlead with rfl | rfl
    · exact .inl rfl
    · exact .inr rfl
  · rw [hwrote.output, spell_append, ← List.append_assoc]
    rfl
  · have hmoved : Extends (Opening.term.owe c₁) c₂ :=
      hmoves.relates Extends.refl Extends.trans Move.extends
    exact (Extends.of_eq rfl).trans (hmoved.trans (hsecures.goesOn.trans hextends))
  · have hcolors : ¬ Colors e (e.styleUnder setting.options.importantPolicy style)
        (Opening.term.owe c₁) := fun h =>
      hnot ⟨style, id, [], c, .refl _ _ _, rfl,
        bares_of_colors he h hwrote.same.2.2.1 hwrote.unmoved.formatting⟩
    have hlink : (fragment? e).isSome ≠ true := by simp [fragment?, htag]
    obtain ⟨hdown, hle⟩ := hmoves.levels (Nat.le_of_eq hbraces.symm) hinline (absurd · hcolors)
      (absurd · hlink)
    have hmid := hsecures.levels ha₂ he₂ ?_ ?_ ?_
    · rw [hr.openBraces] at hmid
      rw [hcount, Nat.add_sub_cancel_left] at hdown hmid
      rw [hbraces, Nat.sub_self] at hdown
      exact ((hdown.trans hmid).trans hup).before rfl
    · exact Nat.lt_of_lt_of_le hdepth (hmoves.relates (R := fun c c' => c.argumentDepth ≤ c'.argumentDepth)
        (fun _ => Nat.le_refl _) Nat.le_trans Move.argumentDepth_le)
    · rw [hcount]
      exact Nat.le_add_right _ _
    · rintro ⟨style', x, ids', c', hreaches, hx⟩
      exact hnot ⟨style', x, ids', c', .inside he hv hflow hreaches, hx⟩

/-- Between two states the output comes back to the depth of braces, and the bracket behind it is the first
one at this depth. -/
theorem Levels.closes (h : Levels 0 0 c c') (hlast : c.output.getLast? ≠ some ' ') {inside : List Char}
    (hinside : c'.output = c.output ++ inside) (rest : List Char) :
    splitAtBracket 0 (inside ++ ']' :: rest) = some (inside, rest) := by
  obtain ⟨ts, hadded, hdepth⟩ := h
  have hleft : leftOf c = c.output := by
    have := Text.dropSpaces_append (b := []) hlast
    simpa [leftOf, Text.dropEndWhile] using this
  obtain rfl : inside = spell ts := by
    have := hadded.output
    rwa [hleft, hinside, List.append_right_inj] at this
  exact splitAtBracket_closes hadded.regular hdepth

/-! ## The argument of a link -/

/-- Behind the bracket, the first closing one is that of the argument or the first one in the fragment. -/
theorem splitAtBracket_fragment (fragment : List Char) (rest : List Char) :
    splitAtBracket 0 (spell (fragment.flatMap pathTokens) ++ ']' :: rest) =
      some (spell (fragment.flatMap pathTokens), rest) ↔ ']' ∉ fragment := by
  constructor
  · intro h hmem
    obtain ⟨front, back, rfl, hfront⟩ := List.eq_append_cons_of_mem hmem
    have hbracket : pathTokens ']' = [char ']'] := by decide
    have hsplit : spell ((front ++ ']' :: back).flatMap pathTokens) ++ ']' :: rest =
        spell (front.flatMap pathTokens) ++ ']' :: (spell (back.flatMap pathTokens) ++ ']' :: rest) := by
      rw [List.flatMap_append, List.flatMap_cons, hbracket, spell_append, List.append_assoc]
      rfl
    rw [hsplit, splitAtBracket_closes (regular_of_quiet (quiet_path _))
      (depthAfter_path fun h => absurd h hfront)] at h
    have hlength := congrArg List.length (Prod.mk.inj (Option.some.inj h)).1
    rw [List.flatMap_append, List.flatMap_cons, hbracket, spell_append, List.length_append] at hlength
    simp [spell_cons, Token.render] at hlength
  · intro hnot
    exact splitAtBracket_closes (regular_of_quiet (quiet_path _)) (depthAfter_path fun h => absurd h hnot)

/-- A link to a fragment is the fragment in brackets, and then its argument is open. -/
theorem openLink_writes {href fragment : String} (hfragment : Text.afterStart? "#" href = some fragment)
    (hsome : fragment.isEmpty = false) :
    Ensures (openLink e href) c fun _ c' => c'.output = c.output ++ "\\hyperref[".toList ++
      spell (fragment.toList.flatMap pathTokens) ++ "]\x7b".toList := by
  refine (openLink_owes hfragment hsome).mono ?_
  rintro _ _ ⟨c₁, hwrote, rfl⟩
  have houtput : (Opening.argument.owe c₁).output = c₁.output := rfl
  rw [houtput, hwrote.output]
  simp [spell_append, spell_cons, Token.render]

theorem openAnchor_links {fragment : String} (hlinks : fragment? e = some fragment) :
    Ensures (openAnchor e style) c fun _ c' => ∃ front, c'.output = front ++ "\\hyperref[".toList ++
      spell (fragment.toList.flatMap pathTokens) ++ "]\x7b".toList := by
  obtain ⟨-, href, hhref, hfragment, hsome⟩ := fragment?_eq_some.mp hlinks
  unfold openAnchor
  extract_lets finish link
  have hlink : ∀ c, Ensures (link ()) c fun _ c' => ∃ front, c'.output = front ++ "\\hyperref[".toList ++
      spell (fragment.toList.flatMap pathTokens) ++ "]\x7b".toList := by
    intro c
    dsimp only [link]
    rw [hhref]
    refine Ensures.bind (fun _ _ _ => trivial) fun _ c₁ (_ : True) => ?_
    exact (openLink_writes hfragment hsome).bind fun _ _ hout => Ensures.pure ⟨c₁.output, hout⟩
  cases anchorName? e with
  | none => exact hlink c
  | some name => exact Ensures.bind (fun _ _ _ => trivial) fun _ c₁ (_ : True) => hlink c₁

/-- The first closing bracket behind that of a link is the one that ends the fragment, if there is none in the
fragment.  That of a term is the one behind all that is below it, unless a node in it writes one where no
more braces are open than around the term. -/
theorem brackets_close (doc : Document) (options : Options) (resolve : Image.Resolver) (root : Nat) :
    (∀ {style : Style} {id : Nat} {e : Element} {fragment : String} {flow : Flow} {c c' : Converter},
      fragment? e = some fragment → c.preDepth = 0 →
      enter doc ⟨options, resolve⟩ id e style c = .ok flow c' →
      ∃ front inside, inside = fragment.toList.flatMap (Buffer.substituted pathSubstitution) ∧
        c'.output = front ++ "\\hyperref[".toList ++ inside ++ "]\x7b".toList ∧
        ∀ rest, splitAtBracket 0 (inside ++ ']' :: rest) = some (inside, rest) ↔ ']' ∉ fragment.toList) ∧
    ∀ {style : Style} {id : Nat} {ids : List Nat} {e : Element} {c c' : Converter},
      Reaches doc options.importantPolicy (visitor doc ⟨options, resolve⟩) Style.empty [root]
        Converter.start style (id :: ids) c → doc.element? id = some e → e.tag = .descriptionTerm →
      c.preDepth = 0 → c.inlineOnly = false → 0 < c.listDepth →
      traverse doc options.importantPolicy (visitor doc ⟨options, resolve⟩) style [id] c = .ok true c' →
      ∃ lead inside, (lead = [] ∨ lead = ['\n']) ∧
        c'.output = c.output ++ lead ++ "\\item[".toList ++ inside ++ "] ".toList ∧
        (¬ Happens doc options.importantPolicy (visitor doc ⟨options, resolve⟩)
            (BaresAt doc ⟨options, resolve⟩ c.openBraces) style [id] c →
          ∀ rest, splitAtBracket 0 (inside ++ ']' :: rest) = some (inside, rest)) := by
  refine ⟨fun {style id e fragment flow c c'} hlinks hpre hv => ?_,
    fun {style id ids e c c'} hreaches he htag hpre hblocks hlist hvisited => ?_⟩
  · have hlinked : Ensures (openElement doc ⟨options, resolve⟩ id e style)
        (c.opened (mayFormat e style && doc.hasBlockContent id)) fun _ c' => ∃ front,
          c'.output = front ++ "\\hyperref[".toList ++ spell (fragment.toList.flatMap pathTokens) ++
            "]\x7b".toList := by
      unfold openElement
      rw [(fragment?_eq_some.mp hlinks).1]
      exact openAnchor_links hlinks
    obtain ⟨front, houtput⟩ := Ensures.enter hpre hlinked _ _ hv
    refine ⟨front, _, ?_, houtput, splitAtBracket_fragment fragment.toList⟩
    rw [spell_flatMap, ← funext substituted_path]
  · obtain ⟨ha, henclosed⟩ := reaches_encloses hreaches ⟨fun _ => rfl, .start⟩
    obtain ⟨lead, c₁, c₂, hlead, hbefore, hextends, hlevels, hafter⟩ :=
      term_visited ⟨options, resolve⟩ he htag hpre hblocks hlist ha henclosed hvisited
    have hlast : c₁.output.getLast? ≠ some ' ' := by
      have hmark : "\\item[".toList.getLast? = some '[' := by decide
      rw [hbefore, List.getLast?_append, hmark, Option.some_or]
      decide
    obtain ⟨inside, hinside⟩ := hextends c₁.output List.prefix_rfl hlast
    refine ⟨lead, inside, hlead, ?_, fun hnot => (hlevels hnot).closes hlast hinside.symm⟩
    rw [hafter, ← hinside, hbefore]

/-- A list with one term. -/
def plainTerm : Document :=
  ((Document.withRoot "dl").push 0 (.element (.ofName "dt" []))).push 1 (.text "a")

/-- The bracket of a term, and that of a link. -/
theorem brackets_close_plainTerm :
    (∃ flow c' front inside, enter plainTerm ⟨{}, fun _ => .ok "image.png"⟩ 0
        (.ofName "a" [⟨"href", "#b"⟩]) Style.empty Converter.start = .ok flow c' ∧
      fragment? (.ofName "a" [⟨"href", "#b"⟩]) = some "b" ∧
      c'.output = front ++ "\\hyperref[".toList ++ inside ++ "]\x7b".toList ∧
      ∀ rest, splitAtBracket 0 (inside ++ ']' :: rest) = some (inside, rest)) ∧
    ∃ (style : Style) (c c' : Converter) (lead inside : List Char),
      Reaches plainTerm .localWins (visitor plainTerm ⟨{}, fun _ => .ok "image.png"⟩) Style.empty [0]
        Converter.start style [1] c ∧ plainTerm.element? 1 = some (.ofName "dt" []) ∧
      c.preDepth = 0 ∧ c.inlineOnly = false ∧ 0 < c.listDepth ∧
      traverse plainTerm .localWins (visitor plainTerm ⟨{}, fun _ => .ok "image.png"⟩) style [1] c =
        .ok true c' ∧
      c'.output = c.output ++ lead ++ "\\item[".toList ++ inside ++ "] ".toList ∧
      ∀ rest, splitAtBracket 0 (inside ++ ']' :: rest) = some (inside, rest) := by
  obtain ⟨hlinks, hterms⟩ := brackets_close plainTerm {} (fun _ => .ok "image.png") 0
  constructor
  · have hrun : (match enter plainTerm ⟨{}, fun _ => .ok "image.png"⟩ 0
        (.ofName "a" [⟨"href", "#b"⟩]) Style.empty Converter.start with
      | .ok .. => true
      | .error .. => false) = true := by decide +kernel
    split at hrun
    · next flow c' hv =>
      have hfragment : fragment? (.ofName "a" [⟨"href", "#b"⟩]) = some "b" := by decide +kernel
      obtain ⟨front, inside, -, houtput, hcloses⟩ := hlinks hfragment rfl hv
      exact ⟨flow, c', front, inside, hv, hfragment, houtput, fun rest => (hcloses rest).mpr (by decide)⟩
    · cases hrun
  · have hrun : (runFrom plainTerm ⟨{}, fun _ => .ok "image.png"⟩ 0).toOption.isSome := by
      decide +kernel
    obtain ⟨_, h⟩ := exists_ok hrun
    obtain ⟨flow, c, _, _, hlist, hstop, hinside, -⟩ :=
      traverse_element_ok (e := .ofName "dl" []) rfl (traverse_of_runFrom h)
    have hentered : (match enter plainTerm ⟨{}, fun _ => .ok "image.png"⟩ 0 (.ofName "dl" [])
        ((Element.ofName "dl" []).styleUnder .localWins Style.empty) Converter.start with
      | .ok flow c => flow = .descend && c.preDepth = 0 && !c.inlineOnly && decide (0 < c.listDepth) &&
        match enter plainTerm ⟨{}, fun _ => .ok "image.png"⟩ 1 (.ofName "dt" [])
          ((Element.ofName "dt" []).styleUnder .localWins
            ((Element.ofName "dl" []).styleUnder .localWins Style.empty).inheritedPart.style) c with
        | .ok flow c => flow = .descend && c.formatting.runBackground.isNone
        | .error .. => false
      | .error .. => false) = true := by decide +kernel
    have hlist' : enter plainTerm ⟨{}, fun _ => .ok "image.png"⟩ 0 (.ofName "dl" [])
        ((Element.ofName "dl" []).styleUnder .localWins Style.empty) Converter.start = .ok flow c := hlist
    rw [hlist'] at hentered
    simp only [Bool.and_eq_true, decide_eq_true_eq, Bool.not_eq_true'] at hentered
    obtain ⟨⟨⟨⟨rfl, hpre⟩, hblocks⟩, hdepth⟩, hterm⟩ := hentered
    have hbelow : below plainTerm 0 .descend = [1] := by decide
    have hstart : Amid plainTerm .localWins (visitor plainTerm ⟨{}, fun _ => .ok "image.png"⟩) 0
      Converter.start [] Style.empty [0] Converter.start := .start
    have hamid := hstart.inside rfl hlist hstop
    rw [hbelow] at hinside hamid
    have htag : (Element.ofName "dt" []).tag = .descriptionTerm := by decide +kernel
    obtain ⟨lead, inside, -, houtput, hcloses⟩ := hterms hamid.reaches rfl htag hpre hblocks hdepth hinside
    refine ⟨_, c, _, lead, inside, hamid.reaches, rfl, hpre, hblocks, hdepth, hinside, houtput, hcloses ?_⟩
    obtain ⟨flow, c₁, _, _, hdt, hstop', htext, -⟩ :=
      traverse_element_ok (e := .ofName "dt" []) rfl hinside
    have hdt' : enter plainTerm ⟨{}, fun _ => .ok "image.png"⟩ 1 (.ofName "dt" [])
        ((Element.ofName "dt" []).styleUnder .localWins
          ((Element.ofName "dl" []).styleUnder .localWins Style.empty).inheritedPart.style) c =
        .ok flow c₁ := hdt
    rw [hdt'] at hterm
    simp only [Bool.and_eq_true, decide_eq_true_eq] at hterm
    obtain ⟨rfl, hbackground⟩ := hterm
    have hbelow' : below plainTerm 1 .descend = [2] := by decide
    rw [happens_element rfl hdt hstop' hinside]
    rw [hbelow'] at htext ⊢
    rw [happens_text (t := "a") rfl htext]
    rintro ((⟨-, hbares⟩ | (⟨-, hbares⟩ | hnone)) | hnone)
    · refine not_bares_element (e := .ofName "dt" []) rfl ?_ ?_ ?_ (by decide +kernel) hbares
      · simp [IsSpan, htag]
      · simp [htag]
      · simp [htag]
    · exact not_bares_text rfl (by decide) (Option.isNone_iff_eq_none.mp hbackground) hbares
    · exact not_happens_nil hnone
    · exact not_happens_nil hnone

/-- A list with one term, which has a color. -/
def coloredTerm : Document :=
  ((Document.withRoot "dl").push 0 (.element (.ofName "dt" [⟨"style", "color: red"⟩]))).push 1 (.text "a")

/-- The argument of the term ends in the command for its color. -/
theorem splitAtBracket_coloredTerm :
    ∃ c front rest, runFrom coloredTerm ⟨{}, fun _ => .ok "image.png"⟩ 0 = .ok c ∧
      c.output = front ++ "\\item[".toList ++ "\\textcolor[HTML]\x7bFF0000\x7d\x7ba\x7d".toList ++
        "] ".toList ++ rest ∧
      splitAtBracket 0 ("\\textcolor[HTML]\x7bFF0000\x7d\x7ba\x7d".toList ++ "] ".toList ++ rest) =
        some ("\\textcolor[HTML".toList, "\x7bFF0000\x7d\x7ba\x7d] ".toList ++ rest) := by
  have hrun : (match runFrom coloredTerm ⟨{}, fun _ => .ok "image.png"⟩ 0 with
    | .ok c => decide (c.output = "\\begin\x7bdescription\x7d\n".toList ++ "\\item[".toList ++
        "\\textcolor[HTML]\x7bFF0000\x7d\x7ba\x7d".toList ++ "] ".toList ++
        "\n\\end\x7bdescription\x7d\n".toList)
    | .error _ => false) = true := by decide +kernel
  split at hrun
  · next c h => exact ⟨c, _, _, h, of_decide_eq_true hrun, by decide⟩
  · cases hrun

end MarkupTex.Convert
