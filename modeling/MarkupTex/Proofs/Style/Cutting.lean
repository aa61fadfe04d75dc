import MarkupTex.Proofs.Latex.Bytes
import MarkupTex.Style.Declarations
/-!
# Where a block is cut

A block is cut at the semicolons that the scan meets outside of quotes and parentheses.  As the scan is outside
of both behind a cut, each piece is scanned as it would be if it stood alone.  From this it follows that no piece
could be cut again, and that a block which ends outside of both can be followed by another one: the pieces of
the two are those of the whole (`splitFrom_append`).

The text is not taken apart by characters.  The scan notes the places of the cuts in bytes, and the pieces are
slices between them.  A semicolon is one byte, and a slice that begins or ends within a character is never asked
for (`slices_cutsFrom`).
-/

set_option autoImplicit false

namespace MarkupTex.Style

variable {n : Nesting} {c : Char} {cs piece : List Char} {pieces : List (List Char)}

/-! ## The nesting along a text -/

namespace Nesting

/-- The nesting behind a text. -/
def after (n : Nesting) (cs : List Char) : Nesting := cs.foldl step n

theorem eq_top (h : n.isTop = true) : n = top := by
  obtain ⟨quote, depth⟩ := n
  simp only [isTop, Bool.and_eq_true, Option.isNone_iff_eq_none, decide_eq_true_eq] at h
  obtain ⟨rfl, rfl⟩ := h
  rfl

/-- A semicolon does not change the nesting outside of quotes and parentheses. -/
theorem step_semicolon (h : n.isTop = true) : n.step ';' = n := by
  rw [eq_top h]
  rfl

end Nesting

/-- A scan from `n` on meets no semicolon outside of quotes and parentheses. -/
def Whole (n : Nesting) (piece : List Char) : Prop :=
  ∀ front back, piece = front ++ ';' :: back → (n.after front).isTop = false

theorem whole_nil (n : Nesting) : Whole n [] := by
  intro front back h
  simp at h

theorem Whole.cons (hcut : (c = ';' && n.isTop) = false) (h : Whole (n.step c) piece) :
    Whole n (c :: piece) := by
  intro front back heq
  cases front with
  | nil =>
    obtain ⟨rfl, -⟩ := List.cons.inj heq
    show n.isTop = false
    simpa using hcut
  | cons d front =>
    obtain ⟨rfl, hrest⟩ := List.cons.inj heq
    exact h front back hrest

/-! ## The pieces -/

theorem attach_cons (c : Char) (piece : List Char) (pieces : List (List Char)) :
    attach c (piece :: pieces) = (c :: piece) :: pieces := rfl

theorem splitFrom_cut (h : (c = ';' && n.isTop) = true) (cs : List Char) :
    splitFrom n (c :: cs) = [] :: splitFrom n cs := by
  rw [splitFrom, if_pos h]

theorem splitFrom_step (h : (c = ';' && n.isTop) = false) (cs : List Char) :
    splitFrom n (c :: cs) = attach c (splitFrom (n.step c) cs) := by
  rw [splitFrom, if_neg (by rw [h]; exact Bool.false_ne_true)]

/-- There is always a piece, if only an empty one. -/
theorem exists_splitFrom (n : Nesting) (cs : List Char) :
    ∃ piece pieces, splitFrom n cs = piece :: pieces := by
  induction cs generalizing n with
  | nil => exact ⟨[], [], rfl⟩
  | cons c cs ih =>
    cases hcut : c = ';' && n.isTop with
    | true => exact ⟨[], _, splitFrom_cut hcut cs⟩
    | false =>
      obtain ⟨piece, pieces, heq⟩ := ih (n.step c)
      exact ⟨c :: piece, pieces, by rw [splitFrom_step hcut, heq, attach_cons]⟩

/-- Nothing but the semicolons at the cuts is lost. -/
theorem intercalate_splitFrom (n : Nesting) (cs : List Char) :
    List.intercalate [';'] (splitFrom n cs) = cs := by
  induction cs generalizing n with
  | nil => rfl
  | cons c cs ih =>
    cases hcut : c = ';' && n.isTop with
    | true =>
      obtain ⟨piece, pieces, heq⟩ := exists_splitFrom n cs
      have hc : c = ';' := by
        rw [Bool.and_eq_true, decide_eq_true_eq] at hcut
        exact hcut.1
      rw [splitFrom_cut hcut, heq, List.intercalate_cons_cons, ← heq, ih, hc]
      rfl
    | false =>
      obtain ⟨piece, pieces, heq⟩ := exists_splitFrom (n.step c) cs
      have hrest := ih (n.step c)
      rw [splitFrom_step hcut, heq, attach_cons]
      rw [heq] at hrest
      cases pieces with
      | nil =>
        rw [List.intercalate_singleton] at hrest ⊢
        rw [hrest]
      | cons next pieces =>
        rw [List.intercalate_cons_cons] at hrest ⊢
        rw [List.cons_append, List.cons_append, hrest]

/-- The first piece could not be cut again, and neither could the others, which a scan begins anew. -/
theorem whole_of_splitFrom (h : splitFrom n cs = piece :: pieces) :
    Whole n piece ∧ ∀ other ∈ pieces, Whole Nesting.top other := by
  induction cs generalizing n piece pieces with
  | nil =>
    obtain ⟨rfl, rfl⟩ : [] = piece ∧ [] = pieces := by simpa [splitFrom] using h
    exact ⟨whole_nil n, by simp⟩
  | cons c cs ih =>
    cases hcut : c = ';' && n.isTop with
    | true =>
      rw [splitFrom_cut hcut] at h
      obtain ⟨rfl, rfl⟩ := List.cons.inj h
      obtain ⟨next, others, heq⟩ := exists_splitFrom n cs
      rw [Bool.and_eq_true] at hcut
      have htop := Nesting.eq_top hcut.2
      obtain ⟨hnext, hothers⟩ := ih heq
      refine ⟨whole_nil n, ?_⟩
      rw [heq, List.forall_mem_cons]
      exact ⟨htop ▸ hnext, hothers⟩
    | false =>
      obtain ⟨next, others, heq⟩ := exists_splitFrom (n.step c) cs
      rw [splitFrom_step hcut, heq, attach_cons] at h
      obtain ⟨rfl, rfl⟩ := List.cons.inj h
      obtain ⟨hnext, hothers⟩ := ih heq
      exact ⟨hnext.cons hcut, hothers⟩

theorem whole_of_mem_splitBlock (h : piece ∈ splitBlock cs) : Whole Nesting.top piece := by
  obtain ⟨first, others, heq⟩ := exists_splitFrom Nesting.top cs
  obtain ⟨hfirst, hothers⟩ := whole_of_splitFrom heq
  rw [splitBlock, heq, List.mem_cons] at h
  rcases h with rfl | h
  · exact hfirst
  · exact hothers piece h

/-- Behind a text that ends outside of quotes and parentheses, a semicolon is a cut. -/
theorem splitFrom_append (h : (n.after cs).isTop = true) (ds : List Char) :
    splitFrom n (cs ++ ';' :: ds) = splitFrom n cs ++ splitBlock ds := by
  induction cs generalizing n with
  | nil =>
    have htop : n.isTop = true := h
    rw [List.nil_append, splitFrom_cut (by simpa using htop), Nesting.eq_top htop]
    rfl
  | cons c cs ih =>
    have hrest : ((n.step c).after cs).isTop = true := h
    cases hcut : c = ';' && n.isTop with
    | true =>
      have hsame : n.step c = n := by
        rw [Bool.and_eq_true, decide_eq_true_eq] at hcut
        rw [hcut.1, Nesting.step_semicolon hcut.2]
      rw [List.cons_append, splitFrom_cut hcut, splitFrom_cut hcut, ih (hsame ▸ hrest)]
      rfl
    | false =>
      obtain ⟨piece, pieces, heq⟩ := exists_splitFrom (n.step c) cs
      rw [List.cons_append, splitFrom_step hcut, splitFrom_step hcut, ih hrest, heq]
      rfl

/-! ## Places in bytes -/

/-- The places between which the pieces lie, in bytes, as a scan finds them.  The current piece begins at
`first`, and the scan has come to `place`. -/
def cutsFrom (n : Nesting) (first place : Nat) : List Char → List (Nat × Nat)
  | [] => [(first, place)]
  | c :: cs =>
    if c = ';' && n.isTop then (first, place) :: cutsFrom n (place + 1) (place + c.utf8Size) cs
    else cutsFrom (n.step c) first (place + c.utf8Size) cs

/-- The slices of a text that a scan of it cuts out. -/
def slices (text : String) : List (Option String) :=
  (cutsFrom Nesting.top 0 0 text.toList).map fun cut => Text.slice? text cut.1 cut.2

theorem utf8ByteSize_concat (s : String) (c : Char) :
    (s ++ String.ofList [c]).utf8ByteSize = s.utf8ByteSize + c.utf8Size := by
  rw [String.utf8ByteSize_append]
  simp

/-- The scan has read `front` with the cut behind it, and `run` of the current piece. -/
theorem slices_cutsFrom (front run : String) (n : Nesting) (cs : List Char)
    (h : splitFrom n cs = piece :: pieces) :
    (cutsFrom n front.utf8ByteSize (front ++ run).utf8ByteSize cs).map
        (fun cut => Text.slice? (front ++ run ++ String.ofList cs) cut.1 cut.2) =
      some (run ++ String.ofList piece) :: pieces.map fun piece => some (String.ofList piece) := by
  induction cs generalizing n front run piece pieces with
  | nil =>
    obtain ⟨rfl, rfl⟩ : [] = piece ∧ [] = pieces := by simpa [splitFrom] using h
    have hslice := Text.slice?_append front run (String.ofList [])
    rw [cutsFrom, List.map_singleton, hslice]
    simp
  | cons c cs ih =>
    have hbehind : front ++ run ++ String.ofList (c :: cs) =
        front ++ (run ++ String.ofList [c]) ++ String.ofList cs := by
      have hsplit : String.ofList (c :: cs) = String.ofList [c] ++ String.ofList cs := by
        rw [← String.ofList_append, List.singleton_append]
      rw [hsplit, ← String.append_assoc, ← String.append_assoc]
    have hplace : (front ++ run).utf8ByteSize + c.utf8Size =
        (front ++ (run ++ String.ofList [c])).utf8ByteSize := by
      rw [← String.append_assoc, utf8ByteSize_concat]
    cases hcut : c = ';' && n.isTop with
    | true =>
      rw [splitFrom_cut hcut] at h
      obtain ⟨rfl, rfl⟩ := List.cons.inj h
      obtain ⟨next, others, heq⟩ := exists_splitFrom n cs
      have hslice := Text.slice?_append front run (String.ofList (c :: cs))
      have hone : c.utf8Size = 1 := by
        rw [Bool.and_eq_true, decide_eq_true_eq] at hcut
        rw [hcut.1]
        rfl
      -- The semicolon belongs to what was read before the next piece begins.
      have hnext := ih (front ++ (run ++ String.ofList [c])) "" n heq
      rw [String.append_empty, ← hplace, hone] at hnext
      rw [cutsFrom, if_pos hcut, hone, List.map_cons, hslice, hbehind, hnext, heq]
      simp
    | false =>
      obtain ⟨next, others, heq⟩ := exists_splitFrom (n.step c) cs
      rw [splitFrom_step hcut, heq, attach_cons] at h
      obtain ⟨rfl, rfl⟩ := List.cons.inj h
      have hrest := ih front (run ++ String.ofList [c]) (n.step c) heq
      rw [cutsFrom, if_neg (by rw [hcut]; exact Bool.false_ne_true), hplace, hbehind, hrest,
        String.append_assoc, ← String.ofList_append]
      rfl

/-- The slices are the pieces. -/
theorem slices_eq (text : String) :
    slices text = (splitBlock text.toList).map fun piece => some (String.ofList piece) := by
  obtain ⟨piece, pieces, heq⟩ := exists_splitFrom Nesting.top text.toList
  have h := slices_cutsFrom "" "" Nesting.top text.toList heq
  rw [String.empty_append, String.empty_append, String.ofList_toList, String.empty_append] at h
  rw [slices, splitBlock, heq]
  exact h

/-! ## Blocks behind one another -/

/-- The declarations of a block, in order. -/
def declarationsOf (text : String) : List Declaration := (splitBlock text.toList).filterMap declarationOf?

theorem ofBlock_eq (text : String) : ofBlock text = (declarationsOf text).foldl set empty := rfl

/-- The text ends outside of quotes and parentheses. -/
def Closed (text : String) : Prop := (Nesting.top.after text.toList).isTop = true

instance (text : String) : Decidable (Closed text) := inferInstanceAs (Decidable (_ = _))

theorem splitBlock_append {text : String} (h : Closed text) (more : String) :
    splitBlock (text ++ ";" ++ more).toList = splitBlock text.toList ++ splitBlock more.toList := by
  have htext : (text ++ ";" ++ more).toList = text.toList ++ ';' :: more.toList := by simp
  rw [htext]
  exact splitFrom_append h more.toList

theorem ofBlock_append {text : String} (h : Closed text) (more : String) :
    ofBlock (text ++ ";" ++ more) = (declarationsOf more).foldl set (ofBlock text) := by
  rw [ofBlock_eq, ofBlock_eq, declarationsOf, declarationsOf, declarationsOf, splitBlock_append h,
    List.filterMap_append, List.foldl_append]

/-- Cutting a block is exact.  The pieces with semicolons between them are the block, none of them could be cut
again, and they are the slices between the places that the scan finds, none of which is within a character.  A
block that ends outside of quotes and parentheses can be followed by another one: their pieces come one after
the other, and the declarations of the second are set on top of the style that the first describes. -/
theorem splitBlock_exact (text : String) :
    List.intercalate [';'] (splitBlock text.toList) = text.toList ∧
      (∀ piece ∈ splitBlock text.toList, Whole Nesting.top piece) ∧
      slices text = (splitBlock text.toList).map (fun piece => some (String.ofList piece)) ∧
      (Closed text → ∀ more : String,
        splitBlock (text ++ ";" ++ more).toList = splitBlock text.toList ++ splitBlock more.toList ∧
          ofBlock (text ++ ";" ++ more) = (declarationsOf more).foldl set (ofBlock text)) :=
  ⟨intercalate_splitFrom Nesting.top text.toList, fun _ => whole_of_mem_splitBlock, slices_eq text,
    fun h more => ⟨splitBlock_append h more, ofBlock_append h more⟩⟩

/-- A semicolon in parentheses and one in quotes, with a parenthesis too many behind them, and then a block that
ends within quotes. -/
theorem splitBlock_exact_unbalanced :
    Closed "a: url(;) ';')" ∧ ¬ Closed "b: \x22;" ∧
      splitBlock "a: url(;) ';');b: \x22;".toList = ["a: url(;) ';')".toList, "b: \x22;".toList] ∧
      ofBlock "a: url(;) ';');b: \x22;" =
        (declarationsOf "b: \x22;").foldl set (ofBlock "a: url(;) ';')") ∧
      Whole Nesting.top "b: \x22;".toList := by
  have hclosed : Closed "a: url(;) ';')" := by decide
  have hfirst : splitBlock "a: url(;) ';')".toList = ["a: url(;) ';')".toList] := by decide
  have hsecond : splitBlock "b: \x22;".toList = ["b: \x22;".toList] := by decide
  obtain ⟨-, hwhole, -, -⟩ := splitBlock_exact "b: \x22;"
  obtain ⟨-, -, -, happend⟩ := splitBlock_exact "a: url(;) ';')"
  obtain ⟨hpieces, hstyle⟩ := happend hclosed "b: \x22;"
  rw [hfirst, hsecond] at hpieces
  exact ⟨hclosed, by decide, hpieces, hstyle, hwhole _ (by rw [hsecond]; exact List.mem_singleton_self _)⟩

end MarkupTex.Style
