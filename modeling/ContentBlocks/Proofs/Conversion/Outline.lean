import ContentBlocks.Block.Outline
import ContentBlocks.Block.Stats
import ContentBlocks.Proofs.Conversion.WellFormed
import Mathlib.Algebra.GroupWithZero.Nat

/-!
# The outline and the counts of a document

Outline and counts are taken from the blocks, when the tree is gone. They still describe the tree:
the headings at its top are the entries of the outline, and every count is a count of nodes. The two
recognise headings by different tests, so both are followed through the conversion of every kind of
node.

## Main definitions

* `Node.plainText`: the text of an inline tree without its decorations
* `Node.IsImageParagraph`: the paragraphs that become images
* `Node.ListedAs`, `Described`: what outline and counts say of a tree

## Main results

* `plainText_of_run_spansOfAll`: spans keep the text of the tree they come from
* `described_of_run_toBlocks`: outline and counts of what one node gives
* `outline_and_counts_of_convert`: outline and counts of a document
-/

namespace ContentBlocks

/-! ### Plain text -/

mutual

/-- The text of an inline tree without its decorations. A line break is a line end, and a node of an
unknown kind has no text. -/
def Node.plainText : Node → String
  | ⟨kind, _, content, _, _, children⟩ =>
    match kind with
    | .text => content
    | .codeSpan => content
    | .softBreak => "\n"
    | .hardBreak => "\n"
    | .strong => Node.plainTextOfAll children
    | .emphasis => Node.plainTextOfAll children
    | .strike => Node.plainTextOfAll children
    | .link => Node.plainTextOfAll children
    | _ => ""

/-- The text of inline trees in a row. -/
def Node.plainTextOfAll : List Node → String
  | [] => ""
  | n :: ns => n.plainText ++ Node.plainTextOfAll ns

end

theorem plainText_of_mark {n : Node} {m : Mark} (hm : n.kind.mark? = some m) :
    n.plainText = Node.plainTextOfAll n.children := by
  obtain ⟨kind, tag, content, info, attrs, children⟩ := n
  cases kind <;> simp_all [NodeKind.mark?, Node.plainText]

theorem plainText_of_no_mark {n : Node} (hm : n.kind.mark? = none) (above : List Mark) :
    n.plainText = (⟨n, above⟩ : Leaf).text := by
  obtain ⟨kind, tag, content, info, attrs, children⟩ := n
  cases kind <;> simp_all [NodeKind.mark?, Node.plainText, Leaf.text]

mutual

/-- The text of an inline tree is that of its leaves, one after the other. -/
theorem plainText_eq_join (above : List Mark) :
    (n : Node) → n.plainText = String.join ((n.leavesUnder above).map Leaf.text)
  | ⟨kind, tag, content, info, attrs, children⟩ => by
    cases hm : kind.mark? with
    | some m =>
      rw [plainText_of_mark hm, leavesUnder_of_mark hm]
      exact plainTextOfAll_eq_join (m :: above) children
    | none =>
      rw [plainText_of_no_mark hm above, leavesUnder_of_no_mark hm]
      split
      · next h =>
        -- a text without characters is no leaf, and adds nothing
        obtain ⟨rfl, rfl⟩ := h
        rfl
      · rw [List.map_singleton, String.join_cons, String.join_nil, String.append_empty]

theorem plainTextOfAll_eq_join (above : List Mark) :
    (ns : List Node) →
      Node.plainTextOfAll ns = String.join ((Node.leavesUnderAll above ns).map Leaf.text)
  | [] => rfl
  | n :: ns => by
    rw [Node.plainTextOfAll, Node.leavesUnderAll, List.map_append, String.join_append,
      plainText_eq_join above n, plainTextOfAll_eq_join above ns]

end

/-! ### Nodes at the top -/

/-- Whether a node in a paragraph says anything beside an image: line breaks and blank texts do
not. -/
def Node.isMeaningful (n : Node) : Bool :=
  !(n.kind = .softBreak || n.kind = .hardBreak ||
    (n.kind = .text && Text.allBlank n.content.toList))

/-- A paragraph with an image and nothing else that is meaningful. -/
def Node.IsImageParagraph (n : Node) : Prop :=
  n.kind = .paragraph ∧
    ((Conversion.containerNodes n.container?).filter Node.isMeaningful).map Node.kind = [.image]

instance (n : Node) : Decidable n.IsImageParagraph :=
  inferInstanceAs (Decidable (_ ∧ _))

/-- A heading is listed with the level of its tag, its text, and the anchor of the text. -/
structure Node.ListedAs (n : Node) (e : OutlineEntry) : Prop where
  level : Conversion.tagNumber? n = some (e.level.val : Int)
  text : e.text = Node.plainTextOfAll (Conversion.containerNodes n.container?)
  id : e.id = anchor e.text

/-- The outline of blocks lists the headings among some nodes, and their counts are counts of these
nodes. -/
structure Described (ns : List Node) (bs : List Block) : Prop where
  listed : List.Forall₂ Node.ListedAs (ns.filter (·.kind = .heading)) (outline bs)
  total : bs.length = (ns.map Node.blockCount).sum
  headings : bs.countP Block.hasHeadingStyle = ns.countP (·.kind = .heading)
  code : bs.countP Block.isCode = ns.countP fun n => n.kind = .fence ∨ n.kind = .indentedCode
  images : bs.countP Block.isImage = ns.countP Node.IsImageParagraph
  tables : bs.countP Block.isTable = ns.countP (·.kind = .table)

theorem Described.nil : Described [] [] := ⟨.nil, rfl, rfl, rfl, rfl, rfl⟩

theorem Described.append {ns ns' : List Node} {bs bs' : List Block} (h : Described ns bs)
    (h' : Described ns' bs') : Described (ns ++ ns') (bs ++ bs') where
  listed := by
    rw [List.filter_append, outline, List.filterMap_append]
    exact List.rel_append h.listed h'.listed
  total := by rw [List.length_append, List.map_append, List.sum_append, h.total, h'.total]
  headings := by rw [List.countP_append, List.countP_append, h.headings, h'.headings]
  code := by rw [List.countP_append, List.countP_append, h.code, h'.code]
  images := by rw [List.countP_append, List.countP_append, h.images, h'.images]
  tables := by rw [List.countP_append, List.countP_append, h.tables, h'.tables]

/-- A node that is no list and no heading is described by its one block if the block counts as what
the node is. -/
theorem Described.singleton {n : Node} {b : Block} (hlist : n.kind.listKind? = none)
    (hheading : n.kind ≠ .heading) (entry : b.outlineEntry? = none)
    (heading : b.hasHeadingStyle = false)
    (code : b.isCode = decide (n.kind = .fence ∨ n.kind = .indentedCode))
    (image : b.isImage = decide n.IsImageParagraph)
    (table : b.isTable = decide (n.kind = .table)) : Described [n] [b] where
  listed := by simp [outline, hheading, entry]
  total := by simp [Node.blockCount, hlist]
  headings := by simp [hheading, heading]
  code := by rw [List.countP_singleton, List.countP_singleton, code]
  images := by rw [List.countP_singleton, List.countP_singleton, image]
  tables := by rw [List.countP_singleton, List.countP_singleton, table]

namespace Conversion

variable {source : Key.Source} {start stop : Nat} {n : Node}

theorem plainText_of_run_spansOfAll {ns : List Node} {spans : List Span}
    (h : (Node.spansOfAll ns).run source start = .ok (spans, stop)) :
    String.join (spans.map Span.text) = Node.plainTextOfAll ns := by
  obtain ⟨keys, -, hlen, rfl⟩ := run_spansOfAll_iff.mp h
  rw [map_text_zipWith_span hlen, plainTextOfAll_eq_join []]
  rfl

theorem isFiller_eq (n : Node) : isFiller n = !n.isMeaningful := by
  obtain ⟨kind, tag, content, info, attrs, children⟩ := n
  cases kind <;> simp [isFiller, Node.isMeaningful]

theorem loneImage?_eq_some_iff {container : Option Node} {i : Node} :
    loneImage? container = some i ↔
      (containerNodes container).filter Node.isMeaningful = [i] ∧ i.kind = .image := by
  cases container with
  | none => simp [loneImage?, containerNodes]
  | some c =>
    have hfilter : c.children.filter (!isFiller ·) = c.children.filter Node.isMeaningful :=
      List.filter_congr fun m _ => by rw [isFiller_eq, Bool.not_not]
    simp only [loneImage?, containerNodes, hfilter]
    rcases c.children.filter Node.isMeaningful with _ | ⟨j, _ | ⟨k, rest⟩⟩
    · simp
    · dsimp only
      by_cases hj : j.kind = .image
      · rw [if_pos hj, Option.some.injEq, List.cons.injEq]
        constructor
        · rintro rfl
          exact ⟨⟨rfl, rfl⟩, hj⟩
        · intro h
          exact h.1.1
      · rw [if_neg hj, List.cons.injEq]
        constructor
        · intro h
          cases h
        · intro h
          obtain ⟨rfl, -⟩ := h.1
          exact absurd h.2 hj
    · simp

theorem isSome_loneImage?_iff (container : Option Node) :
    (loneImage? container).isSome ↔
      ((containerNodes container).filter Node.isMeaningful).map Node.kind = [.image] := by
  simp only [Option.isSome_iff_exists, loneImage?_eq_some_iff, List.map_eq_singleton_iff]

theorem isImageParagraph_iff :
    n.IsImageParagraph ↔ n.kind = .paragraph ∧ (loneImage? n.container?).isSome := by
  rw [Node.IsImageParagraph, isSome_loneImage?_iff]

/-- A node with one block, of a kind that alone says what its block is. -/
theorem described_of_kind {k : NodeKind} {b : Block} (kind : n.kind = k)
    (hk : k ∉ [.heading, .paragraph, .bulletList, .orderedList]) (entry : b.outlineEntry? = none)
    (heading : b.hasHeadingStyle = false)
    (code : b.isCode = decide (k = .fence ∨ k = .indentedCode)) (image : b.isImage = false)
    (table : b.isTable = decide (k = .table)) : Described [n] [b] := by
  subst kind
  simp only [List.mem_cons, List.not_mem_nil, or_false, not_or] at hk
  obtain ⟨hh, hp, hb, ho⟩ := hk
  have hlist : n.kind.listKind? = none := by
    unfold NodeKind.listKind?
    split <;> first | contradiction | rfl
  have himage : ¬ n.IsImageParagraph := fun hn => hp hn.1
  exact .singleton hlist hh entry heading code (by rw [image, decide_eq_false himage]) table

theorem described_of_run_heading {b : TextBlock} (kind : n.kind = .heading)
    (h : (heading n).run source start = .ok (b, stop)) : Described [n] [.text b] := by
  obtain ⟨depth, key, spans, level, hd, -, hs, hl, rfl⟩ := run_heading_iff.mp h
  have hentry : outline [.text ⟨key, .heading level, some level, none, spans⟩] =
      [⟨anchor (String.join (spans.map Span.text)), String.join (spans.map Span.text), level⟩] :=
    rfl
  have hlisted : n.ListedAs
      ⟨anchor (String.join (spans.map Span.text)), String.join (spans.map Span.text), level⟩ :=
    ⟨by rw [hd, level_of_levelOf hl], plainText_of_run_spansOfAll hs, rfl⟩
  have himage : ¬ n.IsImageParagraph := fun hn => by simp [hn.1] at kind
  refine ⟨?_, ?_, ?_, ?_, ?_, ?_⟩
  · rw [hentry, List.filter_cons_of_pos (by simpa using kind), List.filter_nil]
    exact .cons hlisted .nil
  · simp [Node.blockCount, NodeKind.listKind?, kind]
  · simp [Block.hasHeadingStyle, Style.isHeading, kind]
  · simp [Block.isCode, kind]
  · simp [Block.isImage, himage]
  · simp [Block.isTable, kind]

theorem described_of_run_paragraph {b : Block} (kind : n.kind = .paragraph)
    (h : (paragraph n).run source start = .ok (b, stop)) : Described [n] [b] := by
  have himage := isImageParagraph_iff (n := n)
  rcases run_paragraph_iff.mp h with ⟨i, picture, hi, -, rfl⟩ | ⟨key, spans, hi, -, -, rfl⟩
  · have hn : n.IsImageParagraph := himage.mpr ⟨kind, by rw [hi, Option.isSome_some]⟩
    exact .singleton (by simp [NodeKind.listKind?, kind]) (by simp [kind]) rfl rfl
      (by simp [Block.isCode, kind]) (by simp [Block.isImage, hn]) (by simp [Block.isTable, kind])
  · have hn : ¬ n.IsImageParagraph := fun hn => by simpa [hi] using (himage.mp hn).2
    exact .singleton (by simp [NodeKind.listKind?, kind]) (by simp [kind]) rfl rfl
      (by simp [Block.isCode, kind]) (by simp [Block.isImage, hn]) (by simp [Block.isTable, kind])

theorem described_of_run_list {bs : List TextBlock}
    (kind : n.kind = .bulletList ∨ n.kind = .orderedList)
    (h : (list n).run source start = .ok (bs, stop)) : Described [n] (bs.map .text) := by
  have himage : ¬ n.IsImageParagraph := fun hn => by simp [hn.1] at kind
  have htotal : (bs.map Block.text).length = n.blockCount := (yields_of_run_list kind h).length_eq
  rw [list, listItems_eq_mapM] at h
  -- every block of a list is an item, and so of a style that is no heading
  have hitems : ∀ b ∈ bs.map Block.text,
      b.outlineEntry? = none ∧ b.hasHeadingStyle = false ∧ b.isCode = false ∧
        b.isImage = false ∧ b.isTable = false := by
    intro b hb
    obtain ⟨t, ht, rfl⟩ := List.mem_map.mp hb
    obtain ⟨_, -, _, _, hitem⟩ := run_mapM_mem h ht
    obtain ⟨_, _, -, -, rfl⟩ := run_listItem_iff.mp hitem
    exact ⟨rfl, rfl, rfl, rfl, rfl⟩
  have hcount : ∀ p : Block → Bool, (∀ b ∈ bs.map Block.text, p b = false) →
      (bs.map Block.text).countP p = 0 := fun p hp =>
    List.countP_eq_zero.mpr fun b hb => by rw [hp b hb]; exact Bool.false_ne_true
  refine ⟨?_, ?_, ?_, ?_, ?_, ?_⟩
  · rw [outline, List.filterMap_eq_nil_iff.mpr fun b hb => (hitems b hb).1,
      List.filter_cons_of_neg (by rcases kind with kind | kind <;> simp [kind]), List.filter_nil]
    exact .nil
  · rw [htotal, List.map_singleton, List.sum_singleton]
  · rw [hcount _ fun b hb => (hitems b hb).2.1]
    rcases kind with kind | kind <;> simp [kind]
  · rw [hcount _ fun b hb => (hitems b hb).2.2.1]
    rcases kind with kind | kind <;> simp [kind]
  · rw [hcount _ fun b hb => (hitems b hb).2.2.2.1]
    simp [himage]
  · rw [hcount _ fun b hb => (hitems b hb).2.2.2.2]
    rcases kind with kind | kind <;> simp [kind]

/-- Outline and counts of what one node gives say what the node is. -/
theorem described_of_run_toBlocks {bs : List Block}
    (h : n.toBlocks.run source start = .ok (bs, stop)) : Described [n] bs := by
  cases run_toBlocks_iff.mp h with
  | heading kind run => exact described_of_run_heading kind run
  | paragraph kind run => exact described_of_run_paragraph kind run
  | code kind run =>
    rcases kind with kind | kind <;> exact described_of_kind kind (by decide) rfl rfl rfl rfl rfl
  | highlight kind run => exact described_of_kind kind (by decide) rfl rfl rfl rfl rfl
  | blockquote kind _ run =>
    obtain ⟨_, _, -, -, rfl⟩ := run_blockquote_iff.mp run
    exact described_of_kind kind (by decide) rfl rfl rfl rfl rfl
  | list kind run => exact described_of_run_list kind run
  | table kind run => exact described_of_kind kind (by decide) rfl rfl rfl rfl rfl
  | separator kind run =>
    obtain ⟨_, -, rfl, -⟩ := run_separator_iff.mp run
    exact described_of_kind kind (by decide) rfl rfl rfl rfl rfl
  | placeholder kind run =>
    obtain ⟨_, _, -, -, rfl, -⟩ := run_placeholder_iff.mp run
    have hk : n.kind ∉ [.heading, .paragraph, .bulletList, .orderedList] ∧ n.kind ≠ .fence ∧
        n.kind ≠ .indentedCode ∧ n.kind ≠ .table := by
      simp_all [blockKinds]
    obtain ⟨hk, hf, hi, ht⟩ := hk
    exact described_of_kind rfl hk rfl rfl (by simp [Block.isCode, hf, hi]) rfl
      (by simp [Block.isTable, ht])

/-- Outline and counts of a document say what its nodes are. -/
theorem described_of_run_convert {ns : List Node} {bs : List Block}
    (h : (convert ns).run source start = .ok (bs, stop)) : Described ns bs := by
  rw [convert_eq_mapM] at h
  obtain ⟨groups, hgroups, rfl⟩ := run_map_eq_ok.mp h
  have hrel := run_mapM_forall₂ hgroups
  clear h hgroups
  induction hrel with
  | nil => exact .nil
  | cons hrun _ ih =>
    obtain ⟨_, _, hrun⟩ := hrun
    exact (described_of_run_toBlocks hrun).append ih

end Conversion

open Conversion

/-- **The outline of a document** has one entry for every heading at the top of the tree, in order,
and nothing else; and **its counts** are the numbers of headings, of code, of tables, of paragraphs
that are nothing but an image, and of blocks. -/
theorem outline_and_counts_of_convert {source : Key.Source} {start stop : Nat} {ns : List Node}
    {bs : List Block} (h : (convert ns).run source start = .ok (bs, stop)) :
    List.Forall₂ Node.ListedAs (ns.filter (·.kind = .heading)) (outline bs) ∧
      (stats bs).headingCount = ns.countP (·.kind = .heading) ∧
      (stats bs).headingCount = (outline bs).length ∧
      (stats bs).codeBlockCount = ns.countP (fun n => n.kind = .fence ∨ n.kind = .indentedCode) ∧
      (stats bs).tableCount = ns.countP (·.kind = .table) ∧
      (stats bs).imageCount = ns.countP Node.IsImageParagraph ∧
      (stats bs).totalBlocks = (ns.map Node.blockCount).sum := by
  have hd := described_of_run_convert h
  refine ⟨hd.listed, hd.headings, ?_, hd.code, hd.tables, hd.images, hd.total⟩
  calc (stats bs).headingCount = ns.countP (·.kind = .heading) := hd.headings
    _ = (ns.filter (·.kind = .heading)).length := List.countP_eq_length_filter
    _ = (outline bs).length := hd.listed.length_eq

/-- A heading with nested decorations, an image beside a line break, and a list. -/
theorem outline_and_counts_of_heading_image_and_list :
    (convert
        [⟨.heading, "h2", "", "", [],
            [.plain .container ""
              [.plain .strong "" [.plain .emphasis "" [.plain .text "A" []]],
                .plain .codeSpan " b" [], .plain .image "c" []]]⟩,
          .plain .paragraph ""
            [.plain .container "" [.plain .softBreak "" [], .plain .image "d" []]],
          .plain .bulletList "" [.plain .listItem "" [], .plain .listItem "" []]]).run
        Key.Source.counted 0 =
      .ok
        ([.text ⟨"k0", .heading ⟨2, by decide, by decide⟩, some ⟨2, by decide, by decide⟩, none,
            [⟨"k1", "A", [.em, .strong]⟩, ⟨"k2", " b", [.code]⟩, ⟨"k3", "", []⟩]⟩,
          .image ⟨"k4", "", some "d", none⟩,
          .text ⟨"k5", .normal, none, some .bullet, []⟩,
          .text ⟨"k6", .normal, none, some .bullet, []⟩], 7) ∧
    (stats
        [.text ⟨"k0", .heading ⟨2, by decide, by decide⟩, some ⟨2, by decide, by decide⟩, none,
            [⟨"k1", "A", [.em, .strong]⟩, ⟨"k2", " b", [.code]⟩, ⟨"k3", "", []⟩]⟩,
          .image ⟨"k4", "", some "d", none⟩,
          .text ⟨"k5", .normal, none, some .bullet, []⟩,
          .text ⟨"k6", .normal, none, some .bullet, []⟩]).totalBlocks = 1 + 1 + 2 := by
  suffices h : _ from ⟨h, (outline_and_counts_of_convert h).2.2.2.2.2.2⟩
  rfl

end ContentBlocks
