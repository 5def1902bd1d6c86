import ContentBlocks.Proofs.Conversion.Outline
import Mathlib.Data.List.Forall2

/-!
# What conversion drops

Much of a tree has no say in its blocks: what a list item or a quotation holds beside paragraphs,
the attributes of whatever is no image, what is below a leaf, and what comes after the one container
of a paragraph, a heading or a cell. Two trees that differ only there are converted alike, with the
same keys, or fail alike.

A node is taken for what its place makes it: an item is whatever is directly below a list, and an
inline node whatever is directly below a container or a decoration. The one thing that is dropped
and still matters is whether a quotation begins with a paragraph, since only then it may be a
highlight.

## Main definitions

* `Node.SameFace`: two nodes are the same apart from their children and what is dropped of them
* `Node.AlikeInline`, `Node.AlikeText`, `Node.AlikeItem`, `Node.AlikeSection`: two nodes differ only
  in what is dropped, by their places
* `Node.Alike`: two nodes at the top differ only in what is dropped

## Main results

* `spans_eq_of_alike`: inline nodes, by induction on what they have in common
* `toBlocks_eq_of_alike`: nodes at the top
* `convert_eq_of_alike`: documents
-/

namespace ContentBlocks

open Conversion

/-! ### Trees that differ only in what is dropped -/

namespace Node

/-- Two nodes are the same apart from their children. Their attributes may differ too, unless they
are images. -/
structure SameFace (n n' : Node) : Prop where
  kind : n'.kind = n.kind
  tag : n'.tag = n.tag
  content : n'.content = n.content
  info : n'.info = n.info
  attrs : n.kind = .image → n'.attrs = n.attrs

/-- Two inline nodes differ only in what is dropped. -/
inductive AlikeInline : Node → Node → Prop where
  /-- A decoration keeps its children. -/
  | decoration {n n' : Node} (face : n.SameFace n') (mark : n.kind.mark?.isSome)
      (children : List.Forall₂ AlikeInline n.children n'.children) : AlikeInline n n'
  /-- What is below any other node is dropped. -/
  | leaf {n n' : Node} (face : n.SameFace n') (mark : n.kind.mark? = none) : AlikeInline n n'

/-- Two containers differ only in what is dropped. -/
structure AlikeContainer (n n' : Node) : Prop where
  face : n.SameFace n'
  children : List.Forall₂ AlikeInline n.children n'.children

/-- Two paragraphs, headings or cells differ only in what is dropped. Of their children only the
first one is kept. -/
structure AlikeText (n n' : Node) : Prop where
  face : n.SameFace n'
  container : Option.Rel AlikeContainer n.container? n'.container?

/-- Of the children of an item or a quotation only the paragraphs are kept. -/
def AlikeParagraphs (ns ns' : List Node) : Prop :=
  List.Forall₂ AlikeText (ns.filter (·.kind = .paragraph)) (ns'.filter (·.kind = .paragraph))

/-- Two items of a list differ only in what is dropped. -/
structure AlikeItem (n n' : Node) : Prop where
  face : n.SameFace n'
  paragraphs : AlikeParagraphs n.children n'.children

/-- Two rows of a table differ only in what is dropped of their cells. -/
structure AlikeRow (n n' : Node) : Prop where
  face : n.SameFace n'
  cells : List.Forall₂ AlikeText n.children n'.children

/-- Two sections of a table differ only in what is dropped of their rows. -/
structure AlikeSection (n n' : Node) : Prop where
  face : n.SameFace n'
  rows : List.Forall₂ AlikeRow n.children n'.children

/-- Whether the first of some nodes is a paragraph. -/
def StartsWithParagraph (ns : List Node) : Prop := ∃ first ∈ ns.head?, first.kind = .paragraph

/-- Two nodes at the top of a document differ only in what is dropped. -/
inductive Alike (n n' : Node) : Prop where
  | text (kind : n.kind = .heading ∨ n.kind = .paragraph) (text : n.AlikeText n')
  /-- Both quotations begin with a paragraph or neither does. If they do, it is the first of the
  paragraphs that are kept. -/
  | quotation (kind : n.kind = .blockquote) (face : n.SameFace n')
      (paragraphs : AlikeParagraphs n.children n'.children)
      (first : StartsWithParagraph n.children ↔ StartsWithParagraph n'.children)
  | list (kind : n.kind = .bulletList ∨ n.kind = .orderedList) (face : n.SameFace n')
      (items : List.Forall₂ AlikeItem n.children n'.children)
  | table (kind : n.kind = .table) (face : n.SameFace n')
      (sections : List.Forall₂ AlikeSection n.children n'.children)
  /-- What is below any other node is dropped. -/
  | closed (kind : n.kind ∉ [.heading, .paragraph, .blockquote, .bulletList, .orderedList, .table])
      (face : n.SameFace n')

theorem AlikeInline.face {n n' : Node} (h : n.AlikeInline n') : n.SameFace n' := by
  cases h <;> assumption

/-! #### Every tree is alike itself -/

theorem SameFace.refl (n : Node) : n.SameFace n := ⟨rfl, rfl, rfl, rfl, fun _ => rfl⟩

mutual

theorem AlikeInline.refl : (n : Node) → n.AlikeInline n
  | ⟨kind, tag, content, info, attrs, children⟩ => by
    cases hm : kind.mark? with
    | none => exact .leaf (.refl _) hm
    | some m =>
      exact .decoration (.refl _) (Option.isSome_of_eq_some hm) (AlikeInline.reflAll children)

theorem AlikeInline.reflAll : (ns : List Node) → List.Forall₂ AlikeInline ns ns
  | [] => .nil
  | n :: ns => .cons (AlikeInline.refl n) (AlikeInline.reflAll ns)

end

theorem AlikeText.refl (n : Node) : n.AlikeText n where
  face := .refl n
  container := by
    cases n.container? with
    | none => exact .none
    | some c => exact .some ⟨.refl c, AlikeInline.reflAll c.children⟩

theorem AlikeItem.refl (n : Node) : n.AlikeItem n :=
  ⟨.refl n, List.forall₂_same.mpr fun p _ => .refl p⟩

theorem AlikeSection.refl (n : Node) : n.AlikeSection n where
  face := .refl n
  rows := List.forall₂_same.mpr fun row _ =>
    ⟨.refl row, List.forall₂_same.mpr fun cell _ => .refl cell⟩

/-- Nothing has to differ. -/
theorem Alike.refl (n : Node) : n.Alike n := by
  cases kind : n.kind with
  | heading => exact .text (.inl kind) (.refl n)
  | paragraph => exact .text (.inr kind) (.refl n)
  | blockquote => exact .quotation kind (.refl n) (AlikeItem.refl n).paragraphs .rfl
  | bulletList => exact .list (.inl kind) (.refl n) (List.forall₂_same.mpr fun m _ => .refl m)
  | orderedList => exact .list (.inr kind) (.refl n) (List.forall₂_same.mpr fun m _ => .refl m)
  | table => exact .table kind (.refl n) (List.forall₂_same.mpr fun m _ => .refl m)
  | _ => exact .closed (by simp [kind]) (.refl n)

end Node

namespace Conversion

variable {n n' : Node} {ns ns' : List Node} {c c' : Option Node}

/-! ### Inline nodes -/

/-- A leaf is read without its children. -/
theorem spans_eq_of_sameFace (face : n.SameFace n') (mark : n.kind.mark? = none) :
    n.spans = n'.spans := by
  obtain ⟨kind, _, content, _, _, _⟩ := n
  obtain ⟨kind', _, content', _, _, _⟩ := n'
  obtain rfl : kind' = kind := face.kind
  obtain rfl : content' = content := face.content
  have mark : kind'.mark? = none := mark
  simp only [Node.spans, mark]

mutual

/-- **Inline nodes** that differ only in what is dropped have the same spans. -/
theorem spans_eq_of_alike : (n : Node) → {n' : Node} → n.AlikeInline n' → n.spans = n'.spans
  | ⟨_, _, _, _, _, children⟩, _, h => by
    cases h with
    | leaf face mark => exact spans_eq_of_sameFace face mark
    | decoration face mark below =>
      obtain ⟨m, hm⟩ := Option.isSome_iff_exists.mp mark
      rw [spans_of_mark hm, spans_of_mark (face.kind ▸ hm)]
      exact congrArg _ (spansOfAll_eq_of_alike children below)

theorem spansOfAll_eq_of_alike : (ns : List Node) → {ns' : List Node} →
    List.Forall₂ Node.AlikeInline ns ns' → Node.spansOfAll ns = Node.spansOfAll ns'
  | [], _, .nil => rfl
  | n :: ns, _, .cons h hs => by
    rw [Node.spansOfAll, Node.spansOfAll, spans_eq_of_alike n h, spansOfAll_eq_of_alike ns hs]

end

/-! ### The text of a paragraph, a heading or a cell -/

theorem alike_containerNodes (h : Option.Rel Node.AlikeContainer c c') :
    List.Forall₂ Node.AlikeInline (containerNodes c) (containerNodes c') := by
  cases h with
  | none => exact .nil
  | some h => exact h.children

theorem alike_paragraphNodes (h : Node.AlikeParagraphs ns ns') :
    List.Forall₂ Node.AlikeInline (paragraphNodes ns) (paragraphNodes ns') :=
  List.rel_flatMap h fun _ _ hn => alike_containerNodes hn.container

theorem containerSpans_eq_of_alike (h : Option.Rel Node.AlikeContainer c c') :
    containerSpans c = containerSpans c' := by
  rw [containerSpans_eq, containerSpans_eq]
  exact spansOfAll_eq_of_alike _ (alike_containerNodes h)

theorem paragraphSpans_eq_of_alike (h : Node.AlikeParagraphs ns ns') :
    paragraphSpans ns = paragraphSpans ns' := by
  rw [paragraphSpans_eq, paragraphSpans_eq]
  exact spansOfAll_eq_of_alike _ (alike_paragraphNodes h)

/-- Whether a node is passed over beside an image is seen from its face. -/
theorem isMeaningful_eq_of_sameFace (face : n.SameFace n') : n.isMeaningful = n'.isMeaningful := by
  rw [Node.isMeaningful, Node.isMeaningful, face.kind, face.content]

/-- Of two alike texts one has a lone image if the other one has, and then it is the same. -/
theorem loneImage?_rel_of_alike (h : Option.Rel Node.AlikeContainer c c') :
    Option.Rel (fun i i' => i.kind = .image ∧ i.SameFace i') (loneImage? c) (loneImage? c') := by
  have hmeaningful : List.Forall₂ Node.AlikeInline
      ((containerNodes c).filter Node.isMeaningful)
      ((containerNodes c').filter Node.isMeaningful) :=
    List.rel_filter (fun _ _ hn => Bool.eq_iff_iff.mp (isMeaningful_eq_of_sameFace hn.face))
      (alike_containerNodes h)
  cases hlone : loneImage? c with
  | some i =>
    obtain ⟨hfilter, himage⟩ := loneImage?_eq_some_iff.mp hlone
    rw [hfilter] at hmeaningful
    obtain ⟨i', _, halike, hrest, hfilter'⟩ := List.forall₂_cons_left_iff.mp hmeaningful
    obtain rfl := List.forall₂_nil_left_iff.mp hrest
    have himage' : i'.kind = .image := halike.face.kind.trans himage
    rw [loneImage?_eq_some_iff.mpr ⟨hfilter', himage'⟩]
    exact .some ⟨himage, halike.face⟩
  | none =>
    cases hlone' : loneImage? c' with
    | none => exact .none
    | some i' =>
      -- the first text would have a lone image too
      obtain ⟨hfilter', himage'⟩ := loneImage?_eq_some_iff.mp hlone'
      rw [hfilter'] at hmeaningful
      obtain ⟨i, _, halike, hrest, hfilter⟩ := List.forall₂_cons_right_iff.mp hmeaningful
      obtain rfl := List.forall₂_nil_right_iff.mp hrest
      have himage : i.kind = .image := halike.face.kind.symm.trans himage'
      rw [loneImage?_eq_some_iff.mpr ⟨hfilter, himage⟩] at hlone
      cases hlone

theorem image_eq_of_sameFace (kind : n.kind = .image) (face : n.SameFace n') :
    image n = image n' := by
  have hcaption : caption n = caption n' := by rw [caption, caption, face.attrs kind]
  have haddress : address? n = address? n' := by rw [address?, address?, face.attrs kind]
  rw [image, image, hcaption, haddress, face.content]

theorem heading_eq_of_alike (h : n.AlikeText n') : heading n = heading n' := by
  have htag : tagNumber? n = tagNumber? n' := by rw [tagNumber?, tagNumber?, h.face.tag]
  rw [heading, heading, htag, containerSpans_eq_of_alike h.container]

theorem paragraph_eq_of_alike (h : n.AlikeText n') : paragraph n = paragraph n' := by
  have hlone := loneImage?_rel_of_alike h.container
  unfold paragraph
  rw [containerSpans_eq_of_alike h.container]
  generalize loneImage? n.container? = lone at hlone
  generalize loneImage? n'.container? = lone' at hlone
  cases hlone with
  | none => rfl
  | some hi => dsimp only; rw [image_eq_of_sameFace hi.1 hi.2]

/-! ### Quotations -/

/-- The line that may be a trigger is that of the first paragraph, if the quotation begins with
one. -/
theorem lineOf?_of_startsWithParagraph (h : Node.StartsWithParagraph n.children) :
    Trigger.lineOf? n =
      ((n.children.filter (·.kind = .paragraph)).head?.bind Node.container?).map fun c =>
        Trigger.firstLine c.content := by
  obtain ⟨first, hfirst, kind⟩ := h
  obtain ⟨rest, hchildren⟩ := List.head?_eq_some_iff.mp hfirst
  simp [Trigger.lineOf?, hchildren, kind]

theorem lineOf?_of_not_startsWithParagraph (h : ¬ Node.StartsWithParagraph n.children) :
    Trigger.lineOf? n = none := by
  unfold Trigger.lineOf?
  split
  · next first rest hchildren =>
    exact if_neg fun kind => h ⟨first, by simp [hchildren], kind⟩
  · rfl

theorem map_content_eq_of_alike {α : Type} (h : Option.Rel Node.AlikeContainer c c')
    (f : String → α) : (c.map fun m => f m.content) = c'.map fun m => f m.content := by
  cases h with
  | none => rfl
  | some hm => rw [Option.map_some, Option.map_some, hm.face.content]

theorem lineOf?_eq_of_alike (paragraphs : Node.AlikeParagraphs n.children n'.children)
    (first : Node.StartsWithParagraph n.children ↔ Node.StartsWithParagraph n'.children) :
    Trigger.lineOf? n = Trigger.lineOf? n' := by
  by_cases h : Node.StartsWithParagraph n.children
  · rw [lineOf?_of_startsWithParagraph h, lineOf?_of_startsWithParagraph (first.mp h)]
    -- what is first among the paragraphs is alike, and so is the container in it
    unfold Node.AlikeParagraphs at paragraphs
    generalize n.children.filter (·.kind = .paragraph) = kept at paragraphs
    generalize n'.children.filter (·.kind = .paragraph) = kept' at paragraphs
    cases paragraphs with
    | nil => rfl
    | cons hp _ =>
      rw [List.head?_cons, List.head?_cons, Option.bind_some, Option.bind_some]
      exact map_content_eq_of_alike hp.container _
  · rw [lineOf?_of_not_startsWithParagraph h,
      lineOf?_of_not_startsWithParagraph fun h' => h (first.mpr h')]

theorem blockquote_eq_of_alike (h : Node.AlikeParagraphs n.children n'.children) :
    blockquote n = blockquote n' := by
  rw [blockquote, blockquote, paragraphSpans_eq_of_alike h]

theorem highlight?_eq_of_alike (paragraphs : Node.AlikeParagraphs n.children n'.children)
    (first : Node.StartsWithParagraph n.children ↔ Node.StartsWithParagraph n'.children) :
    highlight? n = highlight? n' := by
  have htrigger : Trigger.of? n = Trigger.of? n' := by
    rw [Trigger.of?, Trigger.of?, lineOf?_eq_of_alike paragraphs first]
  rw [highlight?, highlight?, htrigger, blockquote_eq_of_alike paragraphs]

/-! ### Lists and tables -/

/-- Parts in a row that come out the same one by one come out the same together. -/
theorem mapM_eq_of_forall₂ {α β : Type} {f : α → Keyed β} {xs xs' : List α}
    (h : List.Forall₂ (fun x x' => f x = f x') xs xs') : xs.mapM f = xs'.mapM f := by
  induction h with
  | nil => rfl
  | cons hx _ ih => rw [List.mapM_cons, List.mapM_cons, hx, ih]

theorem listItem_eq_of_alike (kind : ListKind) (h : n.AlikeItem n') :
    listItem kind n = listItem kind n' := by
  rw [listItem, listItem, paragraphSpans_eq_of_alike h.paragraphs]

theorem list_eq_of_alike (face : n.SameFace n')
    (items : List.Forall₂ Node.AlikeItem n.children n'.children) : list n = list n' := by
  rw [list, list, face.kind, listItems_eq_mapM, listItems_eq_mapM]
  exact mapM_eq_of_forall₂ (items.imp fun _ _ h => listItem_eq_of_alike _ h)

theorem cellParagraph?_eq_of_alike (h : n.AlikeInline n') :
    cellParagraph? n = cellParagraph? n' := by
  rw [cellParagraph?, cellParagraph?, spans_eq_of_alike n h]

theorem tableCell_eq_of_alike (h : n.AlikeText n') : tableCell n = tableCell n' := by
  have hnodes := alike_containerNodes h.container
  rw [tableCell, tableCell, cellContent_eq_mapM, cellContent_eq_mapM,
    mapM_eq_of_forall₂ (hnodes.imp fun _ _ h => cellParagraph?_eq_of_alike h)]

theorem tableRow_eq_of_alike (h : n.AlikeRow n') : tableRow n = tableRow n' := by
  rw [tableRow, tableRow, tableCells_eq_mapM, tableCells_eq_mapM,
    mapM_eq_of_forall₂ (h.cells.imp fun _ _ h => tableCell_eq_of_alike h)]

theorem table_eq_of_alike (sections : List.Forall₂ Node.AlikeSection n.children n'.children) :
    table n = table n' := by
  have hrows : List.Forall₂ Node.AlikeRow (rowNodes n) (rowNodes n') :=
    List.rel_flatMap sections fun _ _ h => h.rows
  rw [table, table, tableRows_eq_mapM, tableRows_eq_mapM,
    mapM_eq_of_forall₂ (hrows.imp fun _ _ h => tableRow_eq_of_alike h)]

/-! ### Documents -/

theorem code_eq_of_sameFace (face : n.SameFace n') : code n = code n' := by
  rw [code, code, face.kind, face.info, face.content]

/-- **Nodes at the top** that differ only in what is dropped become the same blocks, or fail
alike. -/
theorem toBlocks_eq_of_alike (h : n.Alike n') : n.toBlocks = n'.toBlocks := by
  unfold Node.toBlocks
  cases h with
  | text kind text =>
    rw [text.face.kind]
    rcases kind with kind | kind
    · simp only [kind, heading_eq_of_alike text]
    · simp only [kind, paragraph_eq_of_alike text]
  | quotation kind face paragraphs first =>
    rw [face.kind]
    simp only [kind, highlight?_eq_of_alike paragraphs first, blockquote_eq_of_alike paragraphs]
  | list kind face items =>
    rw [face.kind, list_eq_of_alike face items]
    rcases kind with kind | kind <;> simp only [kind]
  | table kind face sections =>
    rw [face.kind]
    simp only [kind, table_eq_of_alike sections]
  | closed kind face =>
    rw [face.kind, code_eq_of_sameFace face]
    -- the cases that read more than the face are those that are excluded
    cases hkind : n.kind <;> first | rfl | simp [hkind] at kind

end Conversion

/-- **What is dropped cannot influence the blocks**: two documents that differ only there are
converted to the same blocks with the same keys, or fail alike, over any source. -/
theorem convert_eq_of_alike {ns ns' : List Node} (h : List.Forall₂ Node.Alike ns ns')
    (source : Key.Source) (start : Nat) :
    (convert ns).run source start = (convert ns').run source start := by
  rw [convert_eq_mapM, convert_eq_mapM,
    mapM_eq_of_forall₂ (h.imp fun _ _ hn => toBlocks_eq_of_alike hn)]

/-- A paragraph that asks for a highlight and has a link to an address. -/
def noteWithLink (address : String) : Node :=
  .plain .paragraph ""
    [.plain .container "**note**: a" [⟨.link, "a", "", "", [("href", .str address)],
      [.plain .text "a" []]⟩]]

/-- A highlight with another address in it and without the list below it, an item with code before
its paragraph, and a heading with a second container. -/
theorem convert_of_edited_note_item_and_heading :
    ∃ ns ns' : List Node, ns.map (·.children.length) ≠ ns'.map (·.children.length) ∧
      List.Forall₂ Node.Alike ns ns' ∧
      (convert ns).run Key.Source.counted 0 = (convert ns').run Key.Source.counted 0 := by
  have hnote : (noteWithLink "x").AlikeText (noteWithLink "y") :=
    ⟨⟨rfl, rfl, rfl, rfl, nofun⟩, .some ⟨⟨rfl, rfl, rfl, rfl, nofun⟩,
      .cons (.decoration ⟨rfl, rfl, rfl, rfl, nofun⟩ rfl (Node.AlikeInline.reflAll _)) .nil⟩⟩
  have hquotation : (Node.plain .blockquote "" [noteWithLink "x", .plain .bulletList "" []]).Alike
      (.plain .blockquote "" [noteWithLink "y"]) :=
    .quotation rfl ⟨rfl, rfl, rfl, rfl, nofun⟩ (.cons hnote .nil)
      ⟨fun _ => ⟨_, rfl, rfl⟩, fun _ => ⟨_, rfl, rfl⟩⟩
  have hlist : (Node.plain .orderedList "" [.plain .listItem "" [noteWithLink "x"]]).Alike
      (.plain .orderedList "" [.plain .listItem "" [.plain .fence "code" [], noteWithLink "y"]]) :=
    .list (.inr rfl) ⟨rfl, rfl, rfl, rfl, nofun⟩
      (.cons ⟨⟨rfl, rfl, rfl, rfl, nofun⟩, .cons hnote .nil⟩ .nil)
  have hheading : (Node.mk .heading "h2" "" "" [] [.plain .container "" []]).Alike
      ⟨.heading, "h2", "", "", [], [.plain .container "" [], .plain .container "" []]⟩ :=
    .text (.inl rfl) ⟨⟨rfl, rfl, rfl, rfl, nofun⟩, .some ⟨.refl _, .nil⟩⟩
  have halike := List.Forall₂.cons hquotation (.cons hlist (.cons hheading .nil))
  exact ⟨_, _, by decide, halike, convert_eq_of_alike halike Key.Source.counted 0⟩

end ContentBlocks
