import ContentBlocks.Proofs.Conversion.Calls
import ContentBlocks.Proofs.Conversion.Outline

/-!
# Images in paragraphs

A paragraph becomes an image if an image is all that its text says, and a text block otherwise. In
a text block an image is no more than a span without text, be it one of many, beside other text or
under decorations: spans follow the nodes of the text one by one once the decorations are taken off.
What stands beneath an image is its alternative text, which belongs to the image and has no spans.

## Main definitions

* `Node.Presents n i`: nothing but line breaks and blank texts stands beside the image `i`
* `Node.ShownAs i picture`: the block of an image
* `Node.SpannedAs n s`: the span of a node that is no decoration

## Main results

* `loneImage?_eq_some_iff_presents`: which image is found in a paragraph
* `spannedAs_of_run_containerSpans`: the spans of a text, node by node
* `image_or_text_of_paragraph`: what a paragraph becomes
-/

namespace ContentBlocks

open Conversion

/-! ### Images -/

/-- The text that an attribute of a node is, if it is one. -/
def Node.attrText? (n : Node) (name : String) : Option String :=
  match n.attrs.lookup name with
  | some (.str s) => some s
  | _ => none

/-- Address and title of an image are texts, where it has them. -/
def Node.HasTextAttrs (i : Node) : Prop :=
  ∀ name ∈ ["src", "title"], ∀ v, i.attrs.lookup name = some v → ∃ s, v = .str s

/-- A paragraph presents an image: before and after it there are only line breaks and blank
texts. -/
def Node.Presents (n i : Node) : Prop :=
  i.kind = .image ∧ ∃ before after, containerNodes n.container? = before ++ [i] ++ after ∧
    ∀ m ∈ before ++ after, m.isMeaningful = false

theorem Node.Presents.mem {n i : Node} (h : n.Presents i) : i ∈ containerNodes n.container? := by
  obtain ⟨-, before, after, hsplit, -⟩ := h
  simp [hsplit]

/-- The block of an image has its address, which may be missing, and its alternative text and title,
which count as missing if they are empty. -/
structure Node.ShownAs (i : Node) (picture : ImageBlock) : Prop where
  assetRef : picture.assetRef = (i.attrText? "src").getD ""
  alt : picture.alt = if i.content = "" then none else some i.content
  caption : picture.caption = (i.attrText? "title").filter (· ≠ "")

/-! ### Nodes of a text -/

/-- A text without characters. -/
def Node.isEmptyText (n : Node) : Bool := n.kind = .text ∧ n.content = ""

/-- The nodes of a text that have spans: those that are left of it without its decorations, at every
depth, except for texts without characters. -/
def Node.spanNodes (ns : List Node) : List Node :=
  (Node.undecoratedAll ns).filter (!Node.isEmptyText ·)

/-- The span of a node that is no decoration has the text of the node; for an image that is none. -/
structure Node.SpannedAs (n : Node) (s : Span) : Prop where
  text : s.text = n.plainText
  image : n.kind = .image → s.text = ""

mutual

/-- The leaves of an inline tree are what is left of it, except for texts without characters. -/
theorem map_node_leavesUnder (above : List Mark) :
    (n : Node) →
      (n.leavesUnder above).map Leaf.node = n.undecorated.filter (!Node.isEmptyText ·)
  | ⟨kind, tag, content, info, attrs, children⟩ => by
    cases hm : kind.mark? with
    | some m =>
      rw [leavesUnder_of_mark hm, undecorated_of_mark hm]
      exact map_node_leavesUnderAll (m :: above) children
    | none =>
      rw [leavesUnder_of_no_mark hm, undecorated_of_no_mark hm, List.filter_singleton]
      by_cases h : kind = .text ∧ content = "" <;> simp [Node.isEmptyText, h]

theorem map_node_leavesUnderAll (above : List Mark) :
    (ns : List Node) → (Node.leavesUnderAll above ns).map Leaf.node = Node.spanNodes ns
  | [] => rfl
  | n :: ns => by
    rw [Node.leavesUnderAll, List.map_append, map_node_leavesUnder above n,
      map_node_leavesUnderAll above ns, Node.spanNodes, Node.spanNodes, Node.undecoratedAll,
      List.filter_append]

end

theorem Leaf.IsLeaf.spannedAs {l : Leaf} (hl : l.IsLeaf) (key : String) :
    l.node.SpannedAs (l.span key) where
  text := (plainText_of_no_mark hl.1 l.above).symm
  image hi := by simp only [Leaf.span, Leaf.text, hi]

namespace Conversion

variable {n i : Node} {source : Key.Source} {start stop : Nat}

/-- **The spans of a text** follow its nodes, one each and in order. -/
theorem spannedAs_of_run_containerSpans {container : Option Node} {spans : List Span}
    (h : (containerSpans container).run source start = .ok (spans, stop)) :
    List.Forall₂ Node.SpannedAs (Node.spanNodes (containerNodes container)) spans := by
  rw [containerSpans_eq] at h
  obtain ⟨keys, -, hlen, rfl⟩ := run_spansOfAll_iff.mp h
  rw [← map_node_leavesUnderAll [], List.forall₂_map_left_iff]
  exact forall₂_zipWith_span hlen fun l hl key =>
    (isLeaf_of_mem_leavesUnderAll [] _ l hl).spannedAs key

/-! ### The image of a paragraph -/

/-- **The image that is found** in a paragraph is the one that it presents. -/
theorem loneImage?_eq_some_iff_presents : loneImage? n.container? = some i ↔ n.Presents i := by
  rw [loneImage?_eq_some_iff, List.filter_eq_cons_iff]
  constructor
  · rintro ⟨⟨before, after, hsplit, hbefore, -, hafter⟩, kind⟩
    refine ⟨kind, before, after, by simp [hsplit], fun m hm => ?_⟩
    rw [List.filter_eq_nil_iff] at hafter
    rcases List.mem_append.mp hm with hm | hm
    · exact Bool.eq_false_iff.mpr (hbefore m hm)
    · exact Bool.eq_false_iff.mpr (hafter m hm)
  · rintro ⟨kind, before, after, hsplit, hfiller⟩
    refine ⟨⟨before, after, by simp [hsplit], fun m hm => ?_, by simp [Node.isMeaningful, kind],
      List.filter_eq_nil_iff.mpr fun m hm => ?_⟩, kind⟩
    · exact Bool.eq_false_iff.mp (hfiller m (List.mem_append_left _ hm))
    · exact Bool.eq_false_iff.mp (hfiller m (List.mem_append_right _ hm))

theorem loneImage?_eq_none_iff :
    loneImage? n.container? = none ↔ ∀ i, ¬ n.Presents i := by
  simp only [← loneImage?_eq_some_iff_presents, Option.eq_none_iff_forall_ne_some]

theorem lookup_eq_attrText? (h : i.HasTextAttrs) {name : String} (hname : name ∈ ["src", "title"]) :
    i.attrs.lookup name = (i.attrText? name).map Json.str := by
  unfold Node.attrText?
  cases hv : i.attrs.lookup name with
  | none => rfl
  | some v =>
    obtain ⟨s, rfl⟩ := h name hname v hv
    rfl

theorem caption_eq (h : i.HasTextAttrs) :
    caption i = .ok ((i.attrText? "title").filter (· ≠ "")) := by
  rw [caption, lookup_eq_attrText? h (by simp)]
  cases i.attrText? "title" with
  | none => rfl
  | some s => by_cases hs : s = "" <;> simp [hs, Option.filter]

theorem address?_eq (h : i.HasTextAttrs) : address? i = some ((i.attrText? "src").getD "") := by
  rw [address?, lookup_eq_attrText? h (by simp)]
  cases i.attrText? "src" <;> rfl

/-- An image with texts for attributes has one key, and its block shows it. -/
theorem shownAs_of_run_image {picture : ImageBlock} (h : i.HasTextAttrs)
    (hrun : (image i).run source start = .ok (picture, stop)) :
    i.ShownAs picture ∧ source start = .ok picture.key ∧ stop = start + 1 := by
  obtain ⟨key, address, title, hkey, haddress, htitle, rfl, rfl⟩ := run_image_iff.mp hrun
  rw [address?_eq h, Option.some.injEq] at haddress
  rw [caption_eq h, Except.ok.injEq] at htitle
  exact ⟨⟨haddress.symm, by simp, htitle.symm⟩, hkey, rfl⟩

/-- A paragraph whose images have texts for attributes is not refused. -/
theorem refusal?_of_paragraph (kind : n.kind = .paragraph)
    (hattrs : ∀ i ∈ containerNodes n.container?, i.kind = .image → i.HasTextAttrs) :
    n.refusal? = none := by
  simp only [Node.refusal?, kind]
  cases hi : loneImage? n.container? with
  | none => rfl
  | some i =>
    have hpresents := loneImage?_eq_some_iff_presents.mp hi
    have htext := hattrs i hpresents.mem hpresents.1
    simp only [Option.bind_some, Node.imageRefusal?, address?_eq htext, caption_eq htext,
      refusalOf]

/-- **What a paragraph becomes**, where the images in its text have texts for attributes. It becomes
one block, and that whenever the source has the keys for it: an image, which takes one key, exactly
if it presents one, and otherwise a text block with all spans of its text, in which every image is
one span without text. -/
theorem image_or_text_of_paragraph (kind : n.kind = .paragraph)
    (hattrs : ∀ i ∈ containerNodes n.container?, i.kind = .image → i.HasTextAttrs)
    (source : Key.Source) (start : Nat) :
    ((∃ b stop, (paragraph n).run source start = .ok (b, stop)) ↔ Answers source start n.calls) ∧
    ∀ b stop, (paragraph n).run source start = .ok (b, stop) →
      n.toBlocks.run source start = .ok ([b], stop) ∧
      ((∃ picture, b = .image picture) ↔ ∃ i, n.Presents i) ∧
      (∀ i, n.Presents i → ∃ picture, b = .image picture ∧ i.ShownAs picture ∧
        source start = .ok picture.key ∧ stop = start + 1) ∧
      ((∀ i, ¬ n.Presents i) → ∃ key spans, b = .text ⟨key, .normal, none, none, spans⟩ ∧
        source start = .ok key ∧
        (containerSpans n.container?).run source (start + 1) = .ok (spans, stop) ∧
        List.Forall₂ Node.SpannedAs (Node.spanNodes (containerNodes n.container?)) spans) := by
  have hdraws : Draws (paragraph n) n.calls none :=
    refusal?_of_paragraph kind hattrs ▸ draws_paragraph kind
  refine ⟨hdraws.exists_run_iff source start, fun b stop h => ?_⟩
  refine ⟨run_toBlocks_of_lowered (.paragraph kind h), ?_⟩
  rcases run_paragraph_iff.mp h with
    ⟨i, picture, hi, himage, rfl⟩ | ⟨key, spans, hi, hkey, hspans, rfl⟩
  · have hpresents := loneImage?_eq_some_iff_presents.mp hi
    obtain ⟨hshown, hkey, rfl⟩ :=
      shownAs_of_run_image (hattrs i hpresents.mem hpresents.1) himage
    refine ⟨iff_of_true ⟨picture, rfl⟩ ⟨i, hpresents⟩, fun j hj => ?_,
      fun hno => absurd hpresents (hno i)⟩
    -- a paragraph presents no other image than the one that is found
    obtain rfl : i = j := Option.some.inj (hi.symm.trans (loneImage?_eq_some_iff_presents.mpr hj))
    exact ⟨picture, rfl, hshown, hkey, rfl⟩
  · have hno := loneImage?_eq_none_iff.mp hi
    rw [← containerSpans_eq] at hspans
    refine ⟨iff_of_false nofun (not_exists.mpr hno), fun j hj => absurd hj (hno j), fun _ => ?_⟩
    exact ⟨key, spans, rfl, hkey, hspans, spannedAs_of_run_containerSpans hspans⟩

/-- An image between a line break and a blank text is presented; two images, one of them in a link,
are spans. -/
theorem image_between_blanks_and_two_images :
    ∃ i alone pair : Node,
      i = ⟨.image, "img", "a", "", [("src", .str "a.png"), ("title", .str "")], []⟩ ∧
      alone = .plain .paragraph ""
        [.plain .container "" [.plain .softBreak "" [], i, .plain .text " " []]] ∧
      pair = .plain .paragraph ""
        [.plain .container "" [.plain .link "" [i], .plain .text "" [], i]] ∧
      (alone.kind = .paragraph ∧
        ∀ j ∈ containerNodes alone.container?, j.kind = .image → j.HasTextAttrs) ∧
      (pair.kind = .paragraph ∧
        ∀ j ∈ containerNodes pair.container?, j.kind = .image → j.HasTextAttrs) ∧
      alone.toBlocks.run Key.Source.counted 0 =
        .ok ([.image ⟨"k0", "a.png", some "a", none⟩], 1) ∧
      (∃ j, alone.Presents j) ∧
      pair.toBlocks.run Key.Source.counted 0 =
        .ok ([.text ⟨"k0", .normal, none, none, [⟨"k1", "", [.link]⟩, ⟨"k2", "", []⟩]⟩], 3) ∧
      ¬ ∃ j, pair.Presents j := by
  refine ⟨_, _, _, rfl, rfl, rfl, ?_⟩
  have hi : Node.HasTextAttrs
      ⟨.image, "img", "a", "", [("src", .str "a.png"), ("title", .str "")], []⟩ := by
    intro name hname v hv
    simp only [List.mem_cons, List.not_mem_nil, or_false] at hname
    rcases hname with rfl | rfl <;> cases hv
    · exact ⟨"a.png", rfl⟩
    · exact ⟨"", rfl⟩
  suffices h : (_ ∧ _) ∧ (_ ∧ _) from
    have hrun := (image_or_text_of_paragraph h.1.1 h.1.2 Key.Source.counted 0).2 _ 1 rfl
    have hrun' := (image_or_text_of_paragraph h.2.1 h.2.2 Key.Source.counted 0).2 _ 3 rfl
    have htext : ¬ ∃ picture, Block.text _ = .image picture := by simp
    ⟨h.1, h.2, hrun.1, hrun.2.1.mp ⟨_, rfl⟩, hrun'.1, fun hj => htext (hrun'.2.1.mpr hj)⟩
  -- whatever else is among the nodes of the two paragraphs is no image
  refine ⟨⟨rfl, fun j hj kind => ?_⟩, rfl, fun j hj kind => ?_⟩ <;>
    simp only [containerNodes, Node.container?, Node.plain, List.head?_cons, List.mem_cons,
      List.not_mem_nil, or_false] at hj
  · rcases hj with rfl | rfl | rfl
    · cases kind
    · exact hi
    · cases kind
  · rcases hj with rfl | rfl | rfl
    · cases kind
    · cases kind
    · exact hi

end Conversion

end ContentBlocks
