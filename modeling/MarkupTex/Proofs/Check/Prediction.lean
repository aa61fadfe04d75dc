import MarkupTex.Proofs.Convert.Place
import MarkupTex.Proofs.Text.Trim
/-!
# What the check foretells

Where the check has nothing to report, most of what the conversion could warn about is not there: the values
of styles can be read, there are no unknown elements, the images have a source that is a path, and no text
is dropped.  What is left is `Overlooked`: the check does not look at it, and the conversion warns about it.
There is nothing else, `check_foretells`.

Styles are computed from the declarations along a path, and the check has seen all of these.
-/

set_option autoImplicit false

namespace MarkupTex

open Latex Walk

namespace Style

variable {policy : ImportantPolicy} {path : List Style} {name : String} {d : Declaration}

/-- What wins was declared on the path. -/
theorem exists_mem_of_winner (h : winner policy path name = some d) :
    ∃ style ∈ path, style.find? name = some d := by
  have hdeepest : deepest path name = some d → ∃ style ∈ path, style.find? name = some d := by
    intro h
    obtain ⟨style, hstyle, hd⟩ := List.exists_of_findSome?_eq_some h
    exact ⟨style, List.mem_reverse.mp hstyle, hd⟩
  cases policy with
  | localWins => exact hdeepest h
  | inheritedImportantWins =>
    rcases Option.or_eq_some_iff.mp h with h | ⟨-, h⟩
    · obtain ⟨style, hstyle, hd⟩ := List.exists_of_findSome?_eq_some h
      exact ⟨style, List.mem_reverse.mp hstyle, (Option.filter_eq_some_iff.mp hd).1⟩
    · exact hdeepest h

end Style

theorem Style.find?_of_get? {style : Style} {name value : String} (hname : Text.lower name = name)
    (h : style.get? name = some value) : ∃ d, style.find? name = some d ∧ d.value = value := by
  rw [get?, declaration?_of_lower style hname] at h
  exact Option.map_eq_some_iff.mp h

namespace Walk

/-- Every declaration in a computed style is that of some node on the path. -/
theorem HandedDown.declares {doc : Document} {policy : ImportantPolicy} {path : List Nat} {style : Style}
    {id : Nat} {e : Element} {name : String} {d : Declaration} (h : HandedDown doc policy path style)
    (he : doc.element? id = some e) (hd : (e.styleUnder policy style).find? name = some d) :
    ∃ x ∈ path ++ [id], (doc.declared x).find? name = some d := by
  cases hi : Style.isInheritable name with
  | true =>
    rw [h.find?_styleUnder he hi] at hd
    obtain ⟨own, hown, hfind⟩ := Style.exists_mem_of_winner hd
    obtain ⟨x, hx, rfl⟩ := List.mem_map.mp hown
    exact ⟨x, hx, hfind⟩
  | false =>
    rw [(h.element he).notInherited name hi] at hd
    exact ⟨id, by simp, hd⟩

end Walk

namespace Check

variable {doc : Document} {root id x : Nat} {path : List Nat} {e : Element} {d : Declaration}
  {name value src : String}

/-- An element that the check has come to without anything to report in the document. -/
structure Passed (doc : Document) (root : Nat) (path : List Nat) (id : Nat) (e : Element) : Prop where
  isRoot : doc.root? = some root
  silent : check doc = []
  leads : doc.Leads root (path ++ [id]) id
  shown : doc.Shown path
  isElement : doc.element? id = some e

namespace Passed

theorem report (h : Passed doc root path id e) : checkElement doc [] id e = [] :=
  checkElement_nil h.isRoot h.isElement h.leads h.shown h.silent

theorem tag (h : Passed doc root path id e) : checkTag doc [] id e = [] :=
  (List.append_eq_nil_iff.mp h.report).1

/-- The elements above have passed as well. -/
theorem above (h : Passed doc root path id e) (hx : x ∈ path ++ [id]) :
    ∃ above e', Passed doc root above x e' := by
  obtain ⟨above, hfront, hleads⟩ := h.leads.split hx
  have hshown : doc.Shown above := by
    intro y hy
    rcases List.prefix_concat_iff.mp hfront with heq | hfront
    · exact h.shown y ((List.append_inj' heq rfl).1 ▸ hy)
    · exact h.shown y (hfront.subset (List.mem_append_left _ hy))
  have helement : ∃ e', doc.element? x = some e' := by
    rcases List.mem_append.mp hx with hx | hx
    · obtain ⟨e', he', -⟩ := h.shown x hx
      exact ⟨e', he'⟩
    · exact ⟨e, List.mem_singleton.mp hx ▸ h.isElement⟩
  obtain ⟨e', he'⟩ := helement
  exact ⟨above, e', h.isRoot, h.silent, hleads, hshown, he'⟩

/-- The element's own declarations can be read. -/
theorem readable (h : Passed doc root path id e) (hd : d ∈ (doc.declared id).declarations) :
    declarationFault? d = none := by
  rw [Document.declared_element h.isElement, Element.declared] at hd
  have hstyle := (List.append_eq_nil_iff.mp h.report).2
  cases hblock : e.attribute? "style" with
  | none =>
    rw [hblock] at hd
    cases hd
  | some block =>
    rw [hblock] at hd hstyle
    have hall := List.filterMap_eq_nil_iff.mp hstyle d hd
    exact Option.map_eq_none_iff.mp hall

/-- All that goes into a computed style can be read. -/
theorem computed {policy : ImportantPolicy} {style : Style} (h : Passed doc root path id e)
    (hstyle : HandedDown doc policy path style)
    (hd : (e.styleUnder policy style).find? name = some d) :
    d.name = name ∧ declarationFault? d = none ∧
      ∃ x ∈ path ++ [id], (doc.declared x).find? name = some d := by
  obtain ⟨x, hx, hfind⟩ := hstyle.declares h.isElement hd
  obtain ⟨above, e', hx'⟩ := h.above hx
  exact ⟨Style.name_of_find? hfind, hx'.readable (Style.mem_of_find? hfind), x, hx, hfind⟩

end Passed

/-! ## Values that can be read -/

theorem fault?_eq_none {α : Type} {r : Except Fault α} (h : fault? r = none) : ∃ a, r = .ok a := by
  cases r with
  | ok a => exact ⟨a, rfl⟩
  | error fault => cases h

theorem declarationFault?_color (hname : d.name = "color" ∨ d.name = "background-color")
    (h : declarationFault? d = none) : ∃ hex, Color.toHex d.value = .ok hex := by
  rw [declarationFault?, if_pos (by simpa using hname)] at h
  exact fault?_eq_none h

theorem declarationFault?_length (hname : d.name = "width" ∨ d.name = "height")
    (h : declarationFault? d = none) : ∃ length, Length.parse d.value = .ok length := by
  rw [declarationFault?, if_neg (by rcases hname with hname | hname <;> simp [hname]),
    if_pos (by simpa using hname)] at h
  exact fault?_eq_none h

namespace Passed

variable {policy : ImportantPolicy} {style : Style}

/-- The colors in a computed style can be read, but for one among the other parts of a background. -/
theorem toHex_ok (h : Passed doc root path id e) (hstyle : HandedDown doc policy path style)
    (hname : name = "color" ∨ name = "background-color")
    (hvalue : (e.styleUnder policy style).get? name = some value) : ∃ hex, Color.toHex value = .ok hex := by
  have hlower : Text.lower name = name := by rcases hname with rfl | rfl <;> decide +kernel
  obtain ⟨d, hd, rfl⟩ := Style.find?_of_get? hlower hvalue
  obtain ⟨rfl, hreadable, -⟩ := h.computed hstyle hd
  exact declarationFault?_color hname hreadable

/-- So can the lengths. -/
theorem parse_ok (h : Passed doc root path id e) (hstyle : HandedDown doc policy path style)
    (hname : name = "width" ∨ name = "height")
    (hvalue : (e.styleUnder policy style).get? name = some value) :
    ∃ length, Length.parse value = .ok length := by
  have hlower : Text.lower name = name := by rcases hname with rfl | rfl <;> decide +kernel
  obtain ⟨d, hd, rfl⟩ := Style.find?_of_get? hlower hvalue
  obtain ⟨rfl, hreadable, -⟩ := h.computed hstyle hd
  exact declarationFault?_length hname hreadable

end Passed

theorem parse_trimmed (value : String) : Length.parse (Text.lower (Text.trim value)) = Length.parse value := by
  have hsame : Text.lower (Text.trim (Text.lower (Text.trim value))) = Text.lower (Text.trim value) := by
    rw [← Text.lower_trim, Text.lower_lower, Text.trim_trim]
  unfold Length.parse
  rw [hsame]

/-- The words for sizes have no blanks. -/
theorem trim_of_sizeKeyword? {word switch : String} (h : sizeKeyword? word = some switch) :
    Text.trim word = word := by
  unfold sizeKeyword? at h
  split at h <;> first | decide | cases h

/-- A size that the check takes is one that the conversion can use, unless it is not above zero. -/
theorem sizeOfStyle_of_fontSizeFault? {fault : Fault} (h : fontSizeFault? value = none)
    (hbad : sizeOfStyle value = .error fault) :
    fault = ⟨.cssValue, s!"font-size '{value}'"⟩ ∧ ∃ length points, Length.parse value = .ok length ∧
      length.toPoints = .ok points ∧ points ≤ 0.0 := by
  rw [fontSizeFault?] at h
  split at h
  · next switch hword =>
    -- A word is a word for both of them.
    have htrim : Text.lower (Text.trim value) = Text.lower value := by
      rw [Text.lower_trim, trim_of_sizeKeyword? hword]
    simp [sizeOfStyle, htrim, hword] at hbad
  · obtain ⟨points, hpoints⟩ := fault?_eq_none h
    obtain ⟨length, hparse, htoPoints⟩ := bind_eq_ok.mp hpoints
    rw [sizeOfStyle] at hbad
    split at hbad
    · cases hbad
    · rw [parse_trimmed, hparse] at hbad
      simp only [bind, Except.bind, htoPoints] at hbad
      split at hbad
      · next hle =>
        cases hbad
        exact ⟨rfl, length, points, hparse, htoPoints, hle⟩
      · cases hbad

/-! ## Images -/

/-- The path of a file URL begins with a slash. -/
theorem filePath_nonempty (cs : List Char) : (Url.filePath cs).isEmpty = false := by
  rw [Url.filePath]
  simp

theorem exists_filePath_of_fileOf? {cs : List Char} {url : Url} (h : Url.fileOf? cs = some url) :
    ∃ cs', url = .file (Url.filePath cs') := by
  have hhost : ∀ cs, Url.fileOnHost? cs = some url → ∃ cs', url = .file (Url.filePath cs') := by
    intro cs h
    unfold Url.fileOnHost? at h
    extract_lets host rest at h
    split at h
    · exact ⟨_, (Option.some.inj h).symm⟩
    · split at h
      · exact ⟨_, (Option.some.inj h).symm⟩
      · split at h
        · exact ⟨_, (Option.some.inj h).symm⟩
        · cases h
  unfold Url.fileOf? at h
  split at h
  · exact ⟨_, (Option.some.inj h).symm⟩
  · split at h
    · exact ⟨_, (Option.some.inj h).symm⟩
    · exact hhost _ h

theorem exists_filePath_of_parse? {s p : String} (h : Url.parse? s = some (.file p)) :
    ∃ cs, p = Url.filePath cs := by
  unfold Url.parse? at h
  cases hscheme : Url.splitScheme? (Url.clean s) with
  | none => simp [hscheme] at h
  | some split =>
    obtain ⟨scheme, rest⟩ := split
    simp only [hscheme, Option.bind_eq_bind, Option.bind_some] at h
    split at h
    · obtain ⟨cs, hcs⟩ := exists_filePath_of_fileOf? h
      exact ⟨cs, by simpa using hcs⟩
    · -- The other schemes give no file.
      split at h
      · split at h <;> simp at h
      · split at h
        · split at h <;> simp at h
        · simp at h

/-- The path in a source is not empty, if the source is not. -/
theorem path_nonempty {p : String} (htrim : Text.trim src = src) (hne : src.isEmpty = false)
    (h : Image.Source.classify src = .path p ∨ Image.Source.classify src = .fileUrl p) :
    p.isEmpty = false := by
  rw [Image.Source.classify, htrim] at h
  cases hparse : Url.parse? src with
  | none =>
    obtain rfl : src = p := by simpa [hparse] using h
    exact hne
  | some url =>
    cases url with
    | file path =>
      obtain rfl : path = p := by simpa [hparse] using h
      obtain ⟨cs, rfl⟩ := exists_filePath_of_parse? hparse
      exact filePath_nonempty cs
    | other scheme =>
      simp only [hparse] at h
      split at h
      · simp at h
      · split at h
        · obtain rfl : src = p := by simpa using h
          exact hne
        · simp at h

/-- A source of which the check says nothing is passed through. -/
theorem passthrough_of_checkImage (h : checkImage id e = []) :
    ∃ src p, e.nonBlankAttribute? "src" = some src ∧ Image.Resolver.passthrough src = .ok p := by
  rw [checkImage] at h
  cases hsrc : e.nonBlankAttribute? "src" with
  | none => simp [hsrc] at h
  | some src =>
    obtain ⟨value, -, hvalue⟩ := Option.bind_eq_some_iff.mp hsrc
    obtain ⟨htrim, hne⟩ := Text.nonBlank?_eq_some hvalue
    rw [hsrc] at h
    refine ⟨src, ?_⟩
    cases hclass : Image.Source.classify src with
    | remote url => simp [hclass] at h
    | embedded => simp [hclass] at h
    | path p =>
      have hp := path_nonempty htrim hne (.inl hclass)
      exact ⟨p, rfl, by simp [Image.Resolver.passthrough, hclass, hp]⟩
    | fileUrl p =>
      have hp := path_nonempty htrim hne (.inr hclass)
      exact ⟨p, rfl, by simp [Image.Resolver.passthrough, hclass, hp]⟩

theorem Passed.passthrough (h : Passed doc root path id e) (htag : e.tag = .image) :
    ∃ src p, e.nonBlankAttribute? "src" = some src ∧ Image.Resolver.passthrough src = .ok p := by
  have hreport := h.tag
  rw [checkTag, htag] at hreport
  exact passthrough_of_checkImage hreport

end Check

namespace Convert

variable {doc : Document} {setting : Setting} {policy : ImportantPolicy} {options : Options}
  {root id : Nat} {path : List Nat} {e : Element} {style : Style} {output : Output} {w : Warning}

/-- What the conversion warns about though the check does not look at it: at an element below a path. -/
inductive Overlooked (doc : Document) (path : List Nat) (id : Nat) (e : Element) : Warning → Prop where
  /-- A link to a script. -/
  | script {href : String} (tag : e.tag = .anchor) (asks : e.nonBlankAttribute? "href" = some href)
      (bad : Text.beginsWith (Text.lower href) "javascript:") :
      Overlooked doc path id e (.ofFault ⟨.unsupported, "script link rendered as plain text"⟩ (some e.name))
  /-- A color among the other parts of a background. -/
  | background {d : Declaration} {value : String} {fault : Fault}
      (declared : e.declared.find? "background" = some d)
      (color : Style.shorthandColor? d.value = some value) (bad : Color.toHex value = .error fault) :
      Overlooked doc path id e (.ofFault fault (some e.name))
  /-- A color in an attribute of a span.  For a font element the check does look at it. -/
  | color {value : String} {fault : Fault} (tag : e.tag = .span)
      (asks : e.attribute? "color" = some value) (bad : Color.toHex value = .error fault) :
      Overlooked doc path id e (.ofFault fault (some e.name))
  /-- A size that is not above zero, from the style of the element or of one above it. -/
  | zeroSize {x : Nat} {d : Declaration} {length : Length} {points : Float} (span : IsSpan e)
      (mem : x ∈ path ++ [id]) (declared : (doc.declared x).find? "font-size" = some d)
      (parsed : Length.parse d.value = .ok length) (size : length.toPoints = .ok points)
      (bad : points ≤ 0.0) :
      Overlooked doc path id e (.ofFault ⟨.cssValue, s!"font-size '{d.value}'"⟩ (some e.name))
  /-- A size in an attribute. -/
  | size {value : String} {fault : Fault} (span : IsSpan e) (asks : e.attribute? "size" = some value)
      (bad : sizeOfFont value = .error fault) : Overlooked doc path id e (.ofFault fault (some e.name))
  /-- A width or a height in an attribute of an image. -/
  | length {name value : String} {fault : Fault} (tag : e.tag = .image)
      (dimension : name = "width" ∨ name = "height") (asks : e.attribute? name = some value)
      (bad : Length.parse value = .error fault) :
      Overlooked doc path id e (.ofFault fault (some e.name))
  /-- A table between the cells of another one. -/
  | table (tag : e.tag = .table) (bad : doc.place path = .between) :
      Overlooked doc path id e
        (.ofFault (structureFault "table outside a cell of its parent table") (some e.name))
  /-- A row that is not between the cells of a table. -/
  | row {message : String} (tag : e.tag = .tableRow) (bad : doc.place path ≠ .between) :
      Overlooked doc path id e (.ofFault (structureFault message) (some "tr"))
  /-- A cell that is not between the cells of a table, but in another cell or outside. -/
  | cell {header : Bool} {colspan : Nat} {message : String} (tag : e.tag = .tableCell header colspan)
      (bad : doc.place path ≠ .between) :
      Overlooked doc path id e (.ofFault (structureFault message) (some e.name))
  /-- An image in a table of images, with an element above it that is left out. -/
  | hidden {image : Nat} {e' : Element} {way : List Nat} {fault : Fault} (tag : e.tag = .table)
      (isElement : doc.element? image = some e') (isImage : e'.tag = .image)
      (leads : doc.Leads id way image) (bad : ¬ doc.Shown way) :
      Overlooked doc path id e (.ofFault fault (some e'.name))

theorem leads_of_gridImage {image : Nat} (h : GridImage doc id image) :
    (∃ way, doc.Leads id way image) ∧ doc.tag? image = some .image := by
  obtain ⟨row, hrow, cell, hcell, himage⟩ := h
  obtain ⟨_, hrow⟩ := Document.leads_of_mem_tableRows hrow
  have hcell := hrow.child (Document.mem_children_of_mem_rowCells hcell)
  obtain ⟨⟨_, hleads⟩, htag⟩ := Document.leads_of_mem_cellImages himage
  exact ⟨hcell.trans hleads, htag⟩

/-- An image of a grid has a path, if the check comes to it and says nothing. -/
theorem hidden_of_gridImage {image : Nat} {e' : Element} (h : Check.Passed doc root path id e)
    (hgrid : GridImage doc id image) (he' : doc.element? image = some e')
    (hbad : ∀ src p, e'.nonBlankAttribute? "src" = some src →
      Image.Resolver.passthrough src ≠ .ok p) :
    e'.tag = .image ∧ ∃ way, doc.Leads id way image ∧ ¬ doc.Shown way := by
  obtain ⟨⟨way, hleads⟩, himage⟩ := leads_of_gridImage hgrid
  have htag : e'.tag = .image := by simpa [Document.tag?, he'] using himage
  refine ⟨htag, way, hleads, fun hshown => ?_⟩
  obtain ⟨between, rfl⟩ := hleads.ends
  have hway : doc.Leads root ((path ++ between) ++ [image]) image := by
    rw [List.append_assoc]
    exact h.leads.append hleads
  have hpassed : Check.Passed doc root (path ++ between) image e' := by
    refine ⟨h.isRoot, h.silent, hway, fun x hx => ?_, he'⟩
    rcases List.mem_append.mp hx with hx | hx
    · exact h.shown x hx
    · exact hshown x (List.mem_append_left _ hx)
  obtain ⟨src, p, hsrc, hp⟩ := hpassed.passthrough htag
  exact hbad src p hsrc hp

/-- Each cause that is left, once the check has passed an element, is one that the check overlooks. -/
theorem overlooked_of_cause (h : Check.Passed doc root path id e)
    (hstyle : HandedDown doc policy path style)
    (hcause : Cause doc ⟨options, Image.Resolver.passthrough⟩ (doc.place path) id e
      (e.styleUnder policy style) w) : Overlooked doc path id e w := by
  have htag := h.tag
  cases hcause with
  | @color value fault asks bad =>
    obtain ⟨hex, hhex⟩ := h.toHex_ok hstyle (.inl rfl) asks
    rw [hhex] at bad
    cases bad
  | @background value fault asks bad =>
    rw [Style.backgroundColor?] at asks
    split at asks
    · next value' hvalue =>
      obtain rfl := Option.some.inj asks
      obtain ⟨hex, hhex⟩ := h.toHex_ok hstyle (.inr rfl) hvalue
      rw [hhex] at bad
      cases bad
    · obtain ⟨shorthand, hshorthand, hcolor⟩ := Option.bind_eq_some_iff.mp asks
      obtain ⟨d, hd, rfl⟩ := Style.find?_of_get? (by decide +kernel) hshorthand
      -- The property is not inherited, so that it is the element that declares it.
      rw [(hstyle.element h.isElement).notInherited "background" (by decide +kernel),
        Document.declared_element h.isElement] at hd
      exact .background hd hcolor bad
  | @colorAttribute value fault span asks bad =>
    rcases span with hspan | hfont
    · exact .color hspan asks bad
    · rw [Check.checkTag, hfont] at htag
      simp [Check.checkFontColor, asks, bad, Check.fault?] at htag
  | @size fault span bad =>
    rw [spanSize?] at bad
    split at bad
    · next value hvalue =>
      obtain ⟨d, hd, rfl⟩ := Style.find?_of_get? (by decide +kernel) hvalue
      obtain ⟨hname, hreadable, x, hx, hdeclared⟩ := h.computed hstyle hd
      have hsize : Check.fontSizeFault? d.value = none := by
        simpa [Check.declarationFault?, hname] using hreadable
      obtain ⟨rfl, length, points, hparse, hpoints, hle⟩ :=
        Check.sizeOfStyle_of_fontSizeFault? hsize (Option.some.inj bad)
      exact .zeroSize span hx hdeclared hparse hpoints hle
    · obtain ⟨value, hvalue, hbad⟩ := Option.map_eq_some_iff.mp bad
      exact .size span hvalue hbad
  | @length name value fault tag dimension asks bad =>
    rcases Option.or_eq_some_iff.mp asks with hvalue | ⟨-, hvalue⟩
    · obtain ⟨length, hlength⟩ := h.parse_ok hstyle dimension hvalue
      rw [hlength] at bad
      cases bad
    · exact .length tag dimension hvalue bad
  | heading tag bad =>
    rw [Check.checkTag, tag] at htag
    simp [bad] at htag
  | strike tag =>
    rw [Check.checkTag, tag] at htag
    simp at htag
  | script tag asks bad => exact .script tag asks bad
  | unknown tag =>
    rw [Check.checkTag, tag] at htag
    simp at htag
  | noSource tag bad =>
    obtain ⟨src, p, hsrc, -⟩ := h.passthrough tag
    rw [bad] at hsrc
    cases hsrc
  | unresolved tag asks bad =>
    obtain ⟨src, p, hsrc, hp⟩ := h.passthrough tag
    rw [asks] at hsrc
    cases hsrc
    dsimp only at bad
    rw [hp] at bad
    cases bad
  | gridNoSource tag mem isElement bad =>
    obtain ⟨himage, way, hleads, hhidden⟩ := hidden_of_gridImage h mem isElement (by simp [bad])
    exact .hidden tag isElement himage hleads hhidden
  | @gridUnresolved image e' src fault tag mem isElement asks bad =>
    have hnone : ∀ src' p, e'.nonBlankAttribute? "src" = some src' →
        Image.Resolver.passthrough src' ≠ .ok p := by
      rintro src' p hsrc hp
      rw [asks] at hsrc
      cases hsrc
      dsimp only at bad
      rw [hp] at bad
      cases bad
    obtain ⟨himage, way, hleads, hhidden⟩ := hidden_of_gridImage h mem isElement hnone
    exact .hidden tag isElement himage hleads hhidden
  | table tag bad => exact .table tag bad
  | row tag bad => exact .row tag bad
  | cell tag bad => exact .cell tag bad

/-- Where the check of a document reports nothing, each warning of its conversion is about something that
the check does not look at. -/
theorem check_foretells (hsilent : Check.check doc = [])
    (h : doc.toLatex options Image.Resolver.passthrough = .ok output) :
    ∀ w ∈ output.warnings, ∃ root path id e, doc.root? = some root ∧
      doc.Leads root (path ++ [id]) id ∧ doc.element? id = some e ∧ Overlooked doc path id e w := by
  intro w hw
  obtain ⟨id, root, hroot, style, _, ids, c, hreaches, rfl, hwarns⟩ := warns_of_mem h hw
  obtain ⟨path, hleads, hstanding⟩ := Reaches.standing hreaches
  obtain ⟨hpre, ⟨s, hs, rfl, -⟩ | ⟨e, he, hcause⟩⟩ := hwarns.cause
  · -- A text that is dropped would have been reported.
    obtain ⟨-, d, hd, -⟩ := reported_of_warnsAt hroot hreaches hwarns
    rw [hsilent] at hd
    cases hd
  · have hpassed : Check.Passed doc root path _ e := ⟨hroot, hsilent, hleads, hstanding.shown hpre, he⟩
    rw [hstanding.place hpre] at hcause
    exact ⟨root, path, _, e, hroot, hleads, he, overlooked_of_cause hpassed hstanding.handed hcause⟩

/-- A row with a cell, in no table. -/
def looseRow : Document :=
  (((Document.withRoot "div").push 0 (.element (.ofName "tr" []))).push 1
    (.element (.ofName "td" []))).push 2 (.text "x")

theorem warned_looseRow :
    Check.check looseRow = [] ∧ ∃ output,
      looseRow.toLatex {} Image.Resolver.passthrough = .ok output ∧ output.warnings ≠ [] := by
  have hwarned : (looseRow.toLatex {} Image.Resolver.passthrough).toOption.any
      fun output => output.warnings ≠ [] := by decide +kernel
  obtain ⟨output, h⟩ := exists_ok (Option.isSome_of_any hwarned)
  exact ⟨by decide +kernel, output, h, by simpa [h, Except.toOption] using hwarned⟩

/-- The check says nothing of the row, and the conversion warns about it. -/
theorem check_not_foretells_looseRow :
    ¬ ∀ (doc : Document) (output : Output), Check.check doc = [] →
      doc.toLatex {} Image.Resolver.passthrough = .ok output → output.warnings = [] := by
  intro hall
  obtain ⟨hsilent, output, h, hwarned⟩ := warned_looseRow
  exact hwarned (hall looseRow output hsilent h)

theorem check_foretells_looseRow :
    Check.check looseRow = [] ∧ ∃ output,
      looseRow.toLatex {} Image.Resolver.passthrough = .ok output ∧ output.warnings ≠ [] ∧
        ∀ w ∈ output.warnings, ∃ root path id e, looseRow.root? = some root ∧
          looseRow.Leads root (path ++ [id]) id ∧ looseRow.element? id = some e ∧
            Overlooked looseRow path id e w := by
  obtain ⟨hsilent, output, h, hwarned⟩ := warned_looseRow
  exact ⟨hsilent, output, h, hwarned, check_foretells hsilent h⟩

end Convert

end MarkupTex
