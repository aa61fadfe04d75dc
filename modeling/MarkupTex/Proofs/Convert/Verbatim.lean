import MarkupTex.Proofs.Convert.Tokens
/-!
# Verbatim blocks

In a verbatim block texts are written as they are, but for the mark that would end the block.  It is
looked for in one text at a time, and so it is certain that no text brings a mark into the block by
itself.  But a block holds all the texts below its element, one directly behind the other: where one of
them ends in the first part of a mark and the next begins with the rest, there is a mark in the block,
and the block ends there.

`verbatimPieces` is what a block holds, piece by piece.
-/

set_option autoImplicit false

namespace MarkupTex

open Latex Walk

namespace Convert

/-! ## A text without the mark -/

section Replacing

variable {c : Char} {p q front cs : List Char}

/-- What does not contain the first character of a replacement stands at the beginning of the result
only if it stood there before. -/
theorem prefix_of_prefix_replaceList {piece : List Char} (hp : c ∉ p)
    (h : p <+: Text.replaceList piece (c :: q) cs) : p <+: cs := by
  induction p generalizing cs with
  | nil => exact List.nil_prefix
  | cons d p ih =>
    cases cs with
    | nil =>
      rw [Text.replaceList] at h
      simp at h
    | cons e cs =>
      rw [Text.replaceList] at h
      split at h
      · obtain ⟨rfl, -⟩ := List.cons_prefix_cons.mp h
        exact absurd List.mem_cons_self hp
      · obtain ⟨rfl, htail⟩ := List.cons_prefix_cons.mp h
        have hrest : p <+: cs := ih (fun hmem => hp (List.mem_cons_of_mem _ hmem)) htail
        exact List.cons_prefix_cons.mpr ⟨rfl, hrest⟩

/-- A piece is gone where it was replaced, if it begins like its replacement, and goes on in another
way. -/
theorem not_infix_replaceList (hp : c ∉ p) (hq : c ∉ q) (happart : Apart p q) (cs : List Char) :
    ¬ c :: p <:+: Text.replaceList (c :: p) (c :: q) cs := by
  induction cs using Text.replaceList.induct (c :: p) with
  | case1 =>
    rw [Text.replaceList]
    simp
  | case2 d cs hprefix ih =>
    rw [Text.replaceList, if_pos hprefix]
    intro h
    rcases infix_append h with ⟨before, after, hsplit, hne, hfound⟩ | h
    · -- The piece can begin only where its replacement does.
      cases after with
      | nil => exact hne rfl
      | cons d' after =>
        obtain ⟨rfl, htail⟩ := List.cons_prefix_cons.mp hfound
        cases before with
        | nil =>
          obtain ⟨-, rfl⟩ := List.cons.inj hsplit
          exact happart.not_prefix_append _ htail
        | cons _ before =>
          obtain ⟨-, rfl⟩ := List.cons.inj hsplit
          exact hq (by simp)
    · exact ih h
  | case3 d cs hprefix ih =>
    rw [Text.replaceList, if_neg hprefix]
    intro h
    rcases List.infix_cons_iff.mp h with h | h
    · obtain ⟨rfl, htail⟩ := List.cons_prefix_cons.mp h
      have hbefore : p <+: cs := prefix_of_prefix_replaceList hp htail
      exact hprefix (List.isPrefixOf_iff_prefix.mpr (List.cons_prefix_cons.mpr ⟨rfl, hbefore⟩))
    · exact ih h

end Replacing

/-- What is written for a text in a verbatim block. -/
def verbatimText (s : String) : List Char :=
  (Text.replace s verbatimEnd verbatimEndBroken).toList

theorem not_mark_verbatimText (s : String) : ¬ verbatimEnd.toList <:+: verbatimText s := by
  rw [verbatimText, Text.replace, String.toList_ofList]
  exact not_infix_replaceList (by decide) (by decide) (by decide) s.toList

/-! ## What a block holds -/

/-- What is written in a verbatim block for nodes and all that is below them: each text, and a line end
for each line break. -/
def verbatimPieces (doc : Document) : List Nat → List (List Char)
  | [] => []
  | id :: ids =>
    match doc.node? id with
    | none => []
    | some { content := .text s, .. } => verbatimText s :: verbatimPieces doc ids
    | some { content := .element e, .. } =>
      (if e.tag = .lineBreak then [['\n']] else []) ++ verbatimPieces doc (doc.children id) ++
        verbatimPieces doc ids
termination_by ids => doc.weights ids
decreasing_by
  · exact weights_tail_lt doc id ids
  · exact weights_below_lt doc id ids .descend
  · exact weights_tail_lt doc id ids

section Pieces

variable {doc : Document} {id : Nat} {ids : List Nat}

@[simp] theorem verbatimPieces_nil : verbatimPieces doc [] = [] := by rw [verbatimPieces]

theorem verbatimPieces_text {s : String} (h : doc.text? id = some s) :
    verbatimPieces doc (id :: ids) = verbatimText s :: verbatimPieces doc ids := by
  obtain ⟨parent, children, hn⟩ := Document.node?_of_text? h
  rw [verbatimPieces]
  simp only [hn]

theorem verbatimPieces_element {e : Element} (h : doc.element? id = some e) :
    verbatimPieces doc (id :: ids) =
      (if e.tag = .lineBreak then [['\n']] else []) ++ verbatimPieces doc (doc.children id) ++
        verbatimPieces doc ids := by
  obtain ⟨parent, children, hn⟩ := Document.node?_of_element? h
  rw [verbatimPieces]
  simp only [hn]

/-- No piece has a mark in it. -/
theorem not_mark_of_mem_verbatimPieces (doc : Document) :
    ∀ (ids : List Nat), ∀ piece ∈ verbatimPieces doc ids, ¬ verbatimEnd.toList <:+: piece
  | [], piece, hpiece => by simp at hpiece
  | id :: ids, piece, hpiece => by
    rw [verbatimPieces] at hpiece
    split at hpiece
    · cases hpiece
    · rcases List.mem_cons.mp hpiece with rfl | hpiece
      · exact not_mark_verbatimText _
      · exact not_mark_of_mem_verbatimPieces doc ids piece hpiece
    · rcases List.mem_append.mp hpiece with hpiece | hpiece
      · rcases List.mem_append.mp hpiece with hpiece | hpiece
        · split at hpiece
          · obtain rfl := List.mem_singleton.mp hpiece
            decide
          · cases hpiece
        · exact not_mark_of_mem_verbatimPieces doc (doc.children id) piece hpiece
      · exact not_mark_of_mem_verbatimPieces doc ids piece hpiece
termination_by ids => doc.weights ids
decreasing_by
  · exact weights_tail_lt doc id ids
  · exact weights_below_lt doc id ids .descend
  · exact weights_tail_lt doc id ids

end Pieces

/-! ## Writing into a block -/

/-- A text was added to the output, and what is open is the same. -/
structure Appends (cs : List Char) (c c' : Converter) : Prop where
  output : c'.output = c.output ++ cs
  frames : c'.frames = c.frames
  preDepth : c'.preDepth = c.preDepth
  argumentDepth : c'.argumentDepth = c.argumentDepth

variable {doc : Document} {setting : Setting} {policy : ImportantPolicy} {id : Nat} {e : Element}
  {style : Style} {c c' c₁ c₂ : Converter} {ts : List Token} {a b : List Char}

namespace Appends

theorem refl (c : Converter) : Appends [] c c := ⟨(List.append_nil _).symm, rfl, rfl, rfl⟩

theorem trans (h : Appends a c c₁) (h' : Appends b c₁ c₂) : Appends (a ++ b) c c₂ :=
  ⟨by rw [h'.output, h.output, List.append_assoc], h'.frames.trans h.frames,
    h'.preDepth.trans h.preDepth, h'.argumentDepth.trans h.argumentDepth⟩

theorem of_wrote (h : Wrote ts c c') : Appends (spell ts) c c' :=
  ⟨h.output, h.keeps.frames, h.keeps.preDepth, h.keeps.argumentDepth⟩

end Appends

theorem emitText_verbatim (s : String) (hpre : 0 < c.preDepth) :
    Yields (emitText setting s) c fun _ c' => Appends (verbatimText s) c c' := by
  unfold emitText
  refine Yields.get_bind (Yields.ite (fun _ => ?_) fun h => absurd hpre h)
  refine (push_yields (chars (verbatimText s)) (by rw [spell_chars]; rfl)).mono fun _ _ hw => ?_
  have h := Appends.of_wrote hw
  rwa [spell_chars] at h

theorem visitText_verbatim (s : String) (hpre : 0 < c.preDepth) :
    Yields (visitText setting s) c fun flow c' => flow ≠ .stop ∧ Appends (verbatimText s) c c' := by
  have hemit : Yields (emitText setting s) { c with faults := c.faults.clear } fun _ c' =>
      Appends (verbatimText s) { c with faults := c.faults.clear } c' := emitText_verbatim s hpre
  exact Yields.modify_bind (hemit.bind fun _ _ h =>
    Yields.pure ⟨by decide, h.output, h.frames, h.preDepth, h.argumentDepth⟩)

/-- Leaving an element that opened nothing writes nothing. -/
theorem leave_nothing {saved : Option Formatting} {fs : List Frame} (hf : c.frames = { saved } :: fs) :
    Yields (leave e) c fun _ c' => Appends [] { c with frames := fs } c' := by
  have hclose : ∀ c, Yields (closeElement e { saved }) c fun _ c' => Appends [] c c' := by
    intro c
    rcases closeElement_cases e (f := { saved }) rfl rfl with heq | heq
    · rw [heq]
      exact Yields.pure (.refl c)
    · rw [heq]
      exact Yields.modifies ⟨(List.append_nil _).symm, rfl, rfl, rfl⟩
  refine Yields.congr ((hclose _).bind fun _ c₁ h => Yields.modifies ?_) (leave_eq hf)
  exact ⟨h.output, h.frames, h.preDepth, h.argumentDepth⟩

/-- In a verbatim block the pieces of nodes are written one after the other. -/
theorem traverse_verbatim (doc : Document) (setting : Setting) (policy : ImportantPolicy) :
    ∀ (ids : List Nat) (style : Style) (c : Converter), (∀ id ∈ ids, id < doc.size) →
      0 < c.preDepth →
      Yields (traverse doc policy (visitor doc setting) style ids) c fun go c' =>
        go = true ∧ Appends (verbatimPieces doc ids).flatten c c'
  | [], style, c, _, _ => by
    rw [Walk.traverse, verbatimPieces]
    exact Yields.pure ⟨rfl, .refl c⟩
  | id :: ids, style, c, hin, hpre => by
    have hids : ∀ x ∈ ids, x < doc.size := fun x hx => hin x (List.mem_cons_of_mem _ hx)
    rcases Document.text_or_element (hin id List.mem_cons_self) with ⟨s, hs⟩ | ⟨e, he⟩
    · obtain ⟨parent, children, hn⟩ := Document.node?_of_text? hs
      rw [Walk.traverse, verbatimPieces_text hs]
      simp only [hn]
      refine (visitText_verbatim s hpre).bind ?_
      rintro flow c₁ ⟨hflow, h₁⟩
      rw [if_neg hflow]
      refine (traverse_verbatim doc setting policy ids style c₁ hids ?_).mono ?_
      · rw [h₁.preDepth]
        exact hpre
      · rintro go c₂ ⟨rfl, h₂⟩
        exact ⟨rfl, h₁.trans h₂⟩
    · -- An element opens nothing in a block, so that its end writes nothing.
      obtain ⟨parent, children, hn⟩ := Document.node?_of_element? he
      rw [Walk.traverse, verbatimPieces_element he]
      simp only [hn]
      refine (enter_verbatim hpre).bind ?_
      rintro _ c₁ ⟨rfl, blocks, hw⟩
      have h₁ := Appends.of_wrote hw
      rw [if_neg (by decide)]
      refine (traverse_verbatim doc setting policy (below doc id .descend) _ c₁ ?_ ?_).bind ?_
      · exact fun x hx => lt_size_of_mem_below hx
      · rw [h₁.preDepth]
        exact hpre
      · rintro _ c₂ ⟨rfl, h₂⟩
        have hframes : c₂.frames = { saved := some c.formatting } :: c.frames :=
          h₂.frames.trans h₁.frames
        refine (leave_nothing hframes).bind fun _ c₃ h₃ => ?_
        have hvisit : Appends ((if e.tag = .lineBreak then [['\n']] else []) ++
            verbatimPieces doc (doc.children id)).flatten c c₃ := by
          have hafter := h₁.trans h₂
          refine ⟨?_, h₃.frames, h₃.preDepth.trans hafter.preDepth,
            h₃.argumentDepth.trans hafter.argumentDepth⟩
          rw [h₃.output, List.append_nil, List.flatten_append]
          refine hafter.output.trans ?_
          split <;> rfl
        refine (traverse_verbatim doc setting policy ids style c₃ hids ?_).mono ?_
        · rw [hvisit.preDepth]
          exact hpre
        · rintro go c₄ ⟨rfl, h₄⟩
          rw [List.flatten_append]
          exact ⟨rfl, hvisit.trans h₄⟩
termination_by ids => doc.weights ids
decreasing_by
  · exact weights_tail_lt doc id ids
  · exact weights_below_lt doc id ids .descend
  · exact weights_tail_lt doc id ids

/-! ## The block -/

/-- What stands at the beginning of a block. -/
def verbatimStart : List Char := spell [.beginEnv "verbatim", .char '\n']

/-- A preformatted element begins a block where blocks can be written. -/
theorem enter_preformatted (doc : Document) (setting : Setting) (id : Nat) (style : Style)
    (htag : e.tag = .preformatted) (hpre : c.preDepth = 0) (hinline : c.inlineOnly = false) :
    Yields (enter doc setting id e style) c fun flow c' => flow = .descend ∧ 0 < c'.preDepth ∧
      Flat c' ∧ (∃ front, c'.output = front ++ verbatimStart) ∧
      ∃ f, c'.frames = f :: c.frames ∧ f.closers = Opening.verbatim.closers := by
  have hopened : ∀ blocks, Yields (openElement doc setting id e style) (c.opened blocks) fun flow c' =>
      flow = .descend ∧ 0 < c'.preDepth ∧ Flat c' ∧ (∃ front, c'.output = front ++ verbatimStart) ∧
        ∃ f, c'.frames = f :: c.frames ∧ f.closers = Opening.verbatim.closers := by
    intro blocks
    unfold openElement
    rw [htag]
    refine (openPreformatted_block (o := setting.options) (fresh_opened c blocks) hinline).mono ?_
    rintro flow c' ⟨hflow, c₁, c₂, h₁, hw, rfl, hopen⟩
    have htally := (h₁.open hopen).tally (c := c.opened blocks) rfl
    obtain ⟨f, hf, hclosers, -⟩ := htally.frames
    refine ⟨hflow, Nat.succ_pos _, ?_, ⟨c₁.output, hw.output⟩, f, hf, ?_⟩
    · exact htally.argumentDepth.trans (flat_of_inlineOnly hinline)
    · rw [hclosers]
      rfl
  exact (hopened _).congr (enter_eq hpre)

/-- The end of a block stands on a line of its own. -/
theorem closeVerbatim_yields (hflat : Flat c) :
    Yields (emitClosers Opening.verbatim.closers) c fun _ c' => ∃ lineEnd rest,
      (lineEnd = [] ∨ lineEnd = ['\n']) ∧
        c'.output = c.output ++ lineEnd ++ verbatimEnd.toList ++ rest := by
  have hnewline : Yields newline c fun _ c' => ∃ lineEnd, (lineEnd = [] ∨ lineEnd = ['\n']) ∧
      Flat c' ∧ c'.output = c.output ++ lineEnd := by
    rcases Buffer.newline_adds c.buffer with h | ⟨-, h⟩
    · exact write_ok h ⟨[], Or.inl rfl, hflat, (List.append_nil _).symm⟩
    · exact write_adds h fun b hb => ⟨['\n'], Or.inr rfl, hflat, hb⟩
  refine hnewline.bind ?_
  rintro _ c₁ ⟨lineEnd, hlineEnd, hflat₁, h₁⟩
  refine (push_yields [.endEnv "verbatim"] rfl).bind fun _ c₂ h₂ => ?_
  have hflat₂ : Flat c₂ := h₂.keeps.argumentDepth.trans hflat₁
  refine (paragraphBreak_opens (o := {}) hflat₂).bind fun _ c₃ h₃ => Yields.pure ?_
  -- The break comes behind the end of the block, of which nothing is cut off.
  have houtput : c₂.output = c.output ++ lineEnd ++ verbatimEnd.toList := by
    rw [h₂.output, h₁]
    rfl
  have hlast : c₂.output.getLast? ≠ some ' ' := by
    have hend : verbatimEnd.toList.getLast? = some '\x7d' := rfl
    rw [houtput, List.getLast?_append, hend, Option.some_or]
    decide
  obtain ⟨rest, hrest, -⟩ := h₃.keepsMarked c₂.output [] hlast rfl (List.append_nil _).symm
  exact ⟨lineEnd, rest, hlineEnd, by rw [hrest, houtput]⟩

/-- A visit of a preformatted element that begins a block writes all the pieces below it between the
ends of the block. -/
theorem visit_preformatted (doc : Document) (setting : Setting) (policy : ImportantPolicy)
    (style : Style) (he : doc.element? id = some e) (htag : e.tag = .preformatted)
    (hpre : c.preDepth = 0) (hinline : c.inlineOnly = false) :
    Yields (traverse doc policy (visitor doc setting) style [id]) c fun go c' => go = true ∧
      ∃ front lineEnd rest, (lineEnd = [] ∨ lineEnd = ['\n']) ∧
        c'.output = front ++ verbatimStart ++
          ((verbatimPieces doc (doc.children id)).flatten ++ lineEnd) ++ verbatimEnd.toList ++ rest := by
  obtain ⟨parent, children, hn⟩ := Document.node?_of_element? he
  rw [Walk.traverse]
  simp only [hn]
  refine (enter_preformatted doc setting id (e.styleUnder policy style) htag hpre hinline).bind ?_
  rintro _ c₁ ⟨rfl, hpre₁, hflat₁, ⟨front, houtput₁⟩, f, hf, hclosers⟩
  rw [if_neg (by decide)]
  refine (traverse_verbatim doc setting policy (below doc id .descend) _ c₁ ?_ hpre₁).bind ?_
  · exact fun x hx => lt_size_of_mem_below hx
  rintro _ c₂ ⟨rfl, h₂⟩
  have hleave : Yields (leave e) c₂ fun _ c' => ∃ lineEnd rest, (lineEnd = [] ∨ lineEnd = ['\n']) ∧
      c'.output = c₂.output ++ lineEnd ++ verbatimEnd.toList ++ rest := by
    have hclose : closeElement e f = emitClosers Opening.verbatim.closers := by
      rw [closeElement, htag, ← hclosers]
      rfl
    have hflat₂ : Flat (c₂.popped c.frames) := h₂.argumentDepth.trans hflat₁
    have hclosed := closeVerbatim_yields hflat₂
    rw [← hclose] at hclosed
    refine Yields.congr ?_ (leave_eq (h₂.frames.trans hf))
    exact hclosed.bind fun _ _ h => Yields.modifies h
  refine hleave.bind ?_
  rintro _ c₃ ⟨lineEnd, rest, hlineEnd, h₃⟩
  rw [Walk.traverse]
  refine Yields.pure ⟨rfl, front, lineEnd, rest, hlineEnd, ?_⟩
  rw [h₃, h₂.output, houtput₁]
  simp [below]

/-- A line end at the end of a text makes no mark. -/
theorem mark_lineEnd_iff {lineEnd : List Char} (h : lineEnd = [] ∨ lineEnd = ['\n']) :
    verbatimEnd.toList <:+: a ++ lineEnd ↔ verbatimEnd.toList <:+: a := by
  constructor
  · rintro ⟨before, after, hsplit⟩
    rcases h with rfl | rfl
    · exact ⟨before, after, by rw [hsplit, List.append_nil]⟩
    · obtain rfl | ⟨after, d, rfl⟩ := List.eq_nil_or_concat after
      · -- The mark would have to end in the line end.
        have hlast := congrArg List.getLast? hsplit
        have hend : verbatimEnd.toList.getLast? = some '\x7d' := rfl
        rw [List.append_nil, List.getLast?_append, hend, List.getLast?_concat] at hlast
        cases hlast
      · rw [List.concat_eq_append, ← List.append_assoc] at hsplit
        exact ⟨before, after, (List.append_inj' hsplit rfl).1⟩
  · exact fun h => h.trans (List.prefix_append a lineEnd).isInfix

/-- Between the ends of a verbatim block stand all the pieces of text below its element, of which none
has the mark that ends the block.  So there is a mark in the block if and only if the pieces make one
where they meet. -/
theorem verbatim_mark_iff (doc : Document) (setting : Setting) (policy : ImportantPolicy)
    (style : Style) (he : doc.element? id = some e) (htag : e.tag = .preformatted)
    (hpre : c.preDepth = 0) (hinline : c.inlineOnly = false) :
    (Yields (traverse doc policy (visitor doc setting) style [id]) c fun go c' =>
      go = true ∧ ∃ front inside rest,
        c'.output = front ++ verbatimStart ++ inside ++ verbatimEnd.toList ++ rest ∧
        (inside = (verbatimPieces doc (doc.children id)).flatten ∨
          inside = (verbatimPieces doc (doc.children id)).flatten ++ ['\n']) ∧
        (verbatimEnd.toList <:+: inside ↔
          verbatimEnd.toList <:+: (verbatimPieces doc (doc.children id)).flatten)) ∧
    ∀ piece ∈ verbatimPieces doc (doc.children id), ¬ verbatimEnd.toList <:+: piece := by
  refine ⟨?_, not_mark_of_mem_verbatimPieces doc (doc.children id)⟩
  refine (visit_preformatted doc setting policy style he htag hpre hinline).mono ?_
  rintro go c' ⟨hgo, front, lineEnd, rest, hlineEnd, houtput⟩
  refine ⟨hgo, front, _, rest, houtput, ?_, mark_lineEnd_iff hlineEnd⟩
  rcases hlineEnd with rfl | rfl
  · exact Or.inl (List.append_nil _)
  · exact Or.inr rfl

/-- A mark that is divided into two texts. -/
def dividedMark : Document :=
  ((Document.withRoot "pre").push 0 (.text "\\end\x7bverb")).push 0 (.text "atim\x7d")

theorem tag_pre : (Element.ofName "pre" []).tag = .preformatted := by decide +kernel

theorem verbatim_mark_iff_dividedMark :
    dividedMark.element? 0 = some (.ofName "pre" []) ∧
      (Element.ofName "pre" []).tag = .preformatted ∧
      verbatimEnd.toList <:+: (verbatimPieces dividedMark (dividedMark.children 0)).flatten ∧
      ∀ piece ∈ verbatimPieces dividedMark (dividedMark.children 0), ¬ verbatimEnd.toList <:+: piece := by
  have hchildren : dividedMark.children 0 = [1, 2] := rfl
  have hpieces : verbatimPieces dividedMark (dividedMark.children 0) =
      [verbatimText "\\end\x7bverb", verbatimText "atim\x7d"] := by
    rw [hchildren, verbatimPieces_text rfl, verbatimPieces_text rfl, verbatimPieces_nil]
  refine ⟨rfl, tag_pre, ?_, (verbatim_mark_iff dividedMark ⟨{}, fun _ => .ok "image.png"⟩ .localWins
    Style.empty rfl tag_pre (c := Converter.start) rfl rfl).2⟩
  rw [hpieces]
  decide +kernel

/-- The two parts come together in the output, where they end the block. -/
theorem verbatim_not_kept_dividedMark :
    ¬ ∀ (doc : Document) (options : Options) (resolve : Image.Resolver) (root : Nat) (e : Element)
      (output : Output) (inside : List Char), doc.root? = some root → doc.element? root = some e →
        e.tag = .preformatted → options.fullDocument = false →
        doc.toLatex options resolve = .ok output →
        output.content.toList = verbatimStart ++ inside ++ verbatimEnd.toList →
        ¬ verbatimEnd.toList <:+: inside := by
  intro hall
  have hcontent : (dividedMark.toLatex {} (fun _ => .ok "image.png")).toOption.any fun output =>
      output.content.toList = verbatimStart ++ (verbatimEnd.toList ++ ['\n']) ++ verbatimEnd.toList := by
    decide +kernel
  obtain ⟨output, h⟩ := exists_ok (Option.isSome_of_any hcontent)
  have hcontent : output.content.toList =
      verbatimStart ++ (verbatimEnd.toList ++ ['\n']) ++ verbatimEnd.toList := by
    simpa [h, Except.toOption] using hcontent
  refine hall dividedMark {} _ 0 (.ofName "pre" []) output _ rfl rfl tag_pre rfl h hcontent ?_
  exact (List.prefix_append _ _).isInfix

end Convert

end MarkupTex
