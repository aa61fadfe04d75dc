import MarkupTex.Proofs.Convert.Tokens
/-!
# What a document is converted to

The output of a document without preformatted elements is a row of tokens, from the first to the last.
So its braces and environments are well nested, and it has no control sequences but those that a
conversion writes itself, whatever the texts and attributes of the document are.

There is one exception.  The end of a cell cuts off the space that sets a switch apart from what
follows, and if what comes next begins with a letter, the switch and the letter are one word.
`GluesWord` says that this happens on the way, and where it does not, no control sequence is other
than it was written.
-/

set_option autoImplicit false

namespace MarkupTex

open Latex Walk

namespace Convert

variable {doc : Document} {setting : Setting} {policy : ImportantPolicy} {options : Options}
  {resolve : Image.Resolver} {output : Output} {o : Options} {c c' : Converter} {ts : List Token}
  {style : Style} {id : Nat}

/-- The call that a visitor gets when a traversal comes to a node. -/
def arrival (doc : Document) (setting : Setting) (policy : ImportantPolicy) (style : Style)
    (id : Nat) : Conversion Flow :=
  match doc.node? id with
  | none => throw (Document.missing id)
  | some { content := .text s, .. } => visitText setting s
  | some { content := .element e, .. } => enter doc setting id e (e.styleUnder policy style)

theorem arrival_text {s : String} (h : doc.text? id = some s) :
    arrival doc setting policy style id = visitText setting s := by
  obtain ⟨parent, children, hn⟩ := Document.node?_of_text? h
  rw [arrival, hn]

theorem arrival_element {e : Element} (h : doc.element? id = some e) :
    arrival doc setting policy style id = enter doc setting id e (e.styleUnder policy style) := by
  obtain ⟨parent, children, hn⟩ := Document.node?_of_element? h
  rw [arrival, hn]

/-- On coming to a node a letter is put directly behind a control word. -/
def GluesAt (doc : Document) (setting : Setting) (policy : ImportantPolicy) (style : Style) (id : Nat)
    (c : Converter) : Prop :=
  ∃ flow c', arrival doc setting policy style id c = .ok flow c' ∧ Glues c c'

/-- What a call did is what was done on coming to the node. -/
theorem gluesAt_iff {flow : Flow} (h : arrival doc setting policy style id c = .ok flow c') :
    GluesAt doc setting policy style id c ↔ Glues c c' := by
  constructor
  · rintro ⟨_, _, h', hglues⟩
    rw [h] at h'
    cases h'
    exact hglues
  · exact fun hglues => ⟨flow, c', h, hglues⟩

/-- The document has no preformatted element. -/
def NoVerbatim (doc : Document) : Prop := ∀ id e, doc.element? id = some e → e.tag ≠ .preformatted

theorem noVerbatim_iff :
    NoVerbatim doc ↔ ∀ id < doc.size, doc.tag? id ≠ some .preformatted := by
  constructor
  · intro h id _ htag
    obtain ⟨e, he, ht⟩ := Option.map_eq_some_iff.mp htag
    exact h id e he ht
  · intro h id e he ht
    refine h id (Document.lt_size_of_element? he) ?_
    rw [Document.tag?, he, Option.map_some, ht]

instance : Decidable (NoVerbatim doc) := decidable_of_iff _ noVerbatim_iff.symm

/-- The row of tokens goes on over a visit, with nothing more open than before. -/
theorem follows_conserves (setting : Setting) (policy : ImportantPolicy) (hdoc : NoVerbatim doc) :
    Conserves doc setting policy (GluesAt doc setting policy) fun p c c' =>
      Restored c c' ∧ Follows setting.options [] [] p c c' where
  refl := fun c => ⟨.refl c, .refl c⟩
  trans := fun h h' => ⟨h.1.trans h'.1, h.2.trans h'.2⟩
  text := by
    intro id t style flow c c' ht hv hrow hrestored
    have harrival : arrival doc setting policy style id c = .ok flow c' := by rwa [arrival_text ht]
    have hglues := gluesAt_iff harrival
    exact ⟨hrestored, hrow.follows.congr hglues.symm⟩
  element := by
    intro id e style flow c c₁ c₂ c₃ blocks scope f p he hv hentered howed hr hleft hrestored
    have hglues := gluesAt_iff (by rwa [arrival_element he])
    have hpopped : Follows setting.options [] [] False c₂ (c₂.popped c.frames) :=
      .of_output (fun hc => ⟨hc.pre, hc.formatting⟩) rfl
    have hbelow : Follows setting.options scope.brackets scope.brackets p c₁ c₂ :=
      hr.2.under scope.brackets
    have hvisit := (((hentered.follows (hdoc id e he)).trans hbelow).trans
      (hpopped.under scope.brackets)).trans hleft.follows
    refine ⟨hrestored, fun ts hts => ?_⟩
    obtain ⟨us, hus, hnest, hg⟩ := hvisit ts hts
    have htame : (c₃.restored f).Tame :=
      ⟨hrestored.preDepth.trans hts.tame.pre, hrestored.formatting ▸ hts.tame.formatting⟩
    refine ⟨us, hus.congr htame rfl, hnest, hg.trans ?_⟩
    rw [hglues, or_false, or_false]

/-! ## The end -/

/-- A result comes from the state at the end of a walk.  What makes a document of it puts something around the
text and leaves the warnings alone. -/
theorem of_toLatex_ok (h : doc.toLatex options resolve = .ok output) :
    ∃ root c body, doc.root? = some root ∧ runFrom doc ⟨options, resolve⟩ root = .ok c ∧
      finish c = .ok body ∧ output.warnings = body.warnings ∧
      (options.fullDocument = false → output = body) := by
  cases hroot : doc.root? with
  | none => simp [Document.toLatex, hroot, throw, throwThe, MonadExceptOf.throw] at h
  | some root =>
    rw [toLatex_eq hroot] at h
    obtain ⟨c, hrun, h⟩ := bind_eq_ok.mp h
    obtain ⟨body, hfinish, h⟩ := bind_eq_ok.mp h
    refine ⟨root, c, body, rfl, hrun, hfinish, ?_⟩
    split at h
    · next hfull =>
      obtain ⟨content, -, rfl⟩ := map_eq_ok.mp h
      exact ⟨rfl, fun hpart => by simp [hpart] at hfull⟩
    · obtain rfl := Except.ok.inj h
      exact ⟨rfl, fun _ => rfl⟩

/-- Where no document is put around it, the result is what the end of the walk gives. -/
theorem finish_of_toLatex (hpart : options.fullDocument = false)
    (h : doc.toLatex options resolve = .ok output) :
    ∃ root c, doc.root? = some root ∧ runFrom doc ⟨options, resolve⟩ root = .ok c ∧
      finish c = .ok output := by
  obtain ⟨root, c, body, hroot, hrun, hfinish, -, hbody⟩ := of_toLatex_ok h
  exact ⟨root, c, hroot, hrun, hbody hpart ▸ hfinish⟩

/-- The tokens of the result are those that were written, without the blanks at the ends. -/
theorem content_spelled (h : finish c = .ok output) (hts : Spelled o c ts) :
    output.content.toList = spell (stripped (trimmed ts)) := by
  rw [finish] at h
  split at h
  · cases h
  · obtain rfl := Except.ok.inj h
    have htrim : c.buffer.trimSpaces.text.toList = spell (trimmed ts) :=
      (output_trim c).trans (by rw [hts.output, dropSpaces_spell hts.known])
    rw [Text.trim, String.toList_ofList, htrim, trimList_spell (trimmed_all hts.known)]

/-- On the way a letter is put directly behind a control word. -/
def GluesWord (doc : Document) (options : Options) (resolve : Image.Resolver) : Prop :=
  ∃ root, doc.root? = some root ∧
    Happens doc options.importantPolicy (visitor doc ⟨options, resolve⟩)
      (GluesAt doc ⟨options, resolve⟩ options.importantPolicy) Style.empty [root] Converter.start

/-- What is known of the result of a document as a row of tokens. -/
theorem toLatex_spelled (hdoc : NoVerbatim doc) (hpart : options.fullDocument = false)
    (h : doc.toLatex options resolve = .ok output) :
    ∃ ts, output.content.toList = spell ts ∧ ts.all (Token.known options.figurePlacement) ∧
      parted ts ∧ nest [] ts = some [] ∧ (glued ts ↔ GluesWord doc options resolve) := by
  obtain ⟨root, c, hroot, hrun, hfinish⟩ := finish_of_toLatex hpart h
  have htracks := (follows_conserves ⟨options, resolve⟩ options.importantPolicy hdoc).tracks
    fun hr => hr.1
  obtain ⟨-, hfollows⟩ := runFrom_ends htracks hrun
  obtain ⟨us, hus, hnest, hglued⟩ := hfollows [] (spelled_start options)
  refine ⟨stripped (trimmed us), content_spelled hfinish hus, stripped_known (trimmed_all hus.known),
    parted_stripped (parted_of_anchored (anchored_trimmed hus.anchored)), ?_, ?_⟩
  · rw [nest_stripped, nest_trimmed]
    exact hnest [] rfl
  · rw [glued_stripped, glued_trimmed, hglued]
    constructor
    · rintro (h | h)
      · cases h
      · exact ⟨root, hroot, h⟩
    · rintro ⟨root', hroot', h⟩
      rw [hroot] at hroot'
      cases hroot'
      exact Or.inr h

/-- The output of a document is well nested, whatever is below its elements, and whatever its texts,
its attributes and the names of its images are. -/
theorem toLatex_wellNested (hdoc : NoVerbatim doc) (hpart : options.fullDocument = false)
    (hplaces : options.figurePlacement.toList.all Token.isInert)
    (h : doc.toLatex options resolve = .ok output) : WellNested output.content.toList := by
  obtain ⟨ts, hcontent, hknown, -, hnest, -⟩ := toLatex_spelled hdoc hpart h
  rw [WellNested, hcontent, scan_spell hplaces hknown, hnest]

/-- An item with a text in bold, of characters that LaTeX has a use for. -/
def specialItem : Document :=
  (((Document.withRoot "ul").push 0 (.element (.ofName "li" []))).push 1
    (.element (.ofName "b" []))).push 2 (.text "\\end\x7bb\x7d")

theorem toLatex_wellNested_specialItem :
    NoVerbatim specialItem ∧ ∃ output, specialItem.toLatex {} (fun _ => .ok "image.png") = .ok output ∧
      WellNested output.content.toList := by
  have hdoc : NoVerbatim specialItem := by decide +kernel
  obtain ⟨output, h⟩ := exists_ok (r := specialItem.toLatex {} (fun _ => .ok "image.png"))
    (by decide +kernel)
  exact ⟨hdoc, output, h, toLatex_wellNested hdoc rfl rfl h⟩

/-- Every backslash of the output begins a control sequence that a conversion writes, and every
environment is one of its own, if and only if no letter came directly behind a control word on the
way. -/
theorem toLatex_authored_iff (hdoc : NoVerbatim doc) (hpart : options.fullDocument = false)
    (hplaces : '\\' ∉ options.figurePlacement.toList)
    (h : doc.toLatex options resolve = .ok output) :
    authored output.content.toList ↔ ¬ GluesWord doc options resolve := by
  obtain ⟨ts, hcontent, hknown, hparted, -, hglued⟩ := toLatex_spelled hdoc hpart h
  rw [hcontent, authored_spell hplaces hknown hparted, ← hglued]
  simp

/-- A cell that ends in a line break, and behind it an image that is described but not found. -/
def imageBehindBreak : Document :=
  let cell := (((Document.withRoot "table").push 0 (.element (.ofName "tr" []))).push 1
    (.element (.ofName "td" []))).push 2 (.text "a")
  (cell.push 2 (.element (.ofName "br" []))).push 1
    (.element (.ofName "img" [⟨"src", "a.png"⟩, ⟨"alt", "abc"⟩]))

theorem unauthored_imageBehindBreak :
    NoVerbatim imageBehindBreak ∧ ∃ output,
      imageBehindBreak.toLatex {} (fun _ => .error ⟨.invalidArgument, "not found"⟩) = .ok output ∧
        authored output.content.toList = false := by
  exact ⟨by decide +kernel, exists_output (fun _ cs => authored cs = false) rfl rfl (by decide +kernel)⟩

/-- The break and the description of the image make one word, which no conversion writes. -/
theorem toLatex_not_authored_imageBehindBreak :
    ¬ ∀ (doc : Document) (options : Options) (resolve : Image.Resolver) (output : Output),
      NoVerbatim doc → options.fullDocument = false → '\\' ∉ options.figurePlacement.toList →
        doc.toLatex options resolve = .ok output → authored output.content.toList := by
  intro hall
  obtain ⟨hdoc, output, h, hauthored⟩ := unauthored_imageBehindBreak
  have := hall imageBehindBreak {} _ output hdoc rfl (by decide) h
  rw [hauthored] at this
  cases this

theorem toLatex_authored_iff_imageBehindBreak :
    NoVerbatim imageBehindBreak ∧ ∃ output,
      imageBehindBreak.toLatex {} (fun _ => .error ⟨.invalidArgument, "not found"⟩) = .ok output ∧
        (authored output.content.toList ↔ ¬ GluesWord imageBehindBreak {}
          (fun _ => .error ⟨.invalidArgument, "not found"⟩)) := by
  obtain ⟨hdoc, output, h, -⟩ := unauthored_imageBehindBreak
  exact ⟨hdoc, output, h, toLatex_authored_iff hdoc rfl (by decide) h⟩

end Convert

end MarkupTex
