import ContentBlocks.Proofs.Conversion.Leaves
import Mathlib.Data.List.ReduceOption

/-!
# Blocks as conversion builds them

The fields of a block depend on each other in ways that its type leaves open: a level goes with a
heading style of the same depth, an item kind with a normal style, and content blocks are plainer
than blocks at the top. Conversion builds no block that breaks this, whatever the tree. It gives
one block for each item of a list and one for every other node, in the order of the nodes.

## Main definitions

* `Block.WellFormed`: how the fields of a block depend on each other
* `Node.Yields`: how many blocks a node gives, and which of them are list items and headings

## Main results

* `wellFormed_of_run_toBlocks`, `yields_of_run_toBlocks`: what one node gives
* `groups_of_convert`: what a document gives
-/

namespace ContentBlocks

/-! ### Well-formed blocks -/

/-- The fields of a text block fit together. Levels are from 1 to 6, as the depths of headings. -/
structure TextBlock.WellFormed (b : TextBlock) : Prop where
  level_iff : ∀ l, b.level = some l ↔ b.style = .heading l
  of_item : b.listItem ≠ none → b.style = .normal ∧ b.level = none
  nodup : ∀ s ∈ b.children, s.marks.Nodup

/-- A text block within another block has a fixed style, and is neither heading nor item. -/
structure TextBlock.WithinAs (style : Style) (b : TextBlock) : Prop extends b.WellFormed where
  style_eq : b.style = style
  level_eq : b.level = none
  item_eq : b.listItem = none

/-- The fields of a block fit together: the content of a highlight is one quotation, and the cells
of a table hold paragraphs that are not empty. -/
def Block.WellFormed : Block → Prop
  | .text b => b.WellFormed
  | .highlight b => ∃ t, b.content = [t] ∧ t.WithinAs .blockquote
  | .table b => ∀ r ∈ b.rows, ∀ c ∈ r.cells, ∀ t ∈ c.content,
      t.WithinAs .normal ∧ t.children ≠ []
  | _ => True

theorem TextBlock.WithinAs.of_spans {style : Style} (hs : style.isHeading = false) {key : String}
    {spans : List Span} (h : ∀ s ∈ spans, s.marks.Nodup) :
    (⟨key, style, none, none, spans⟩ : TextBlock).WithinAs style where
  level_iff l := by
    refine ⟨nofun, fun hl => ?_⟩
    rw [show style = .heading l from hl] at hs
    cases hs
  of_item hi := absurd rfl hi
  nodup := h
  style_eq := rfl
  level_eq := rfl
  item_eq := rfl

/-! ### What a node gives -/

/-- The kind of a list. -/
def NodeKind.listKind? : NodeKind → Option ListKind
  | .bulletList => some .bullet
  | .orderedList => some .number
  | _ => none

/-- The number of blocks of a node: one for each item of a list, and one for any other node. -/
def Node.blockCount (n : Node) : Nat :=
  match n.kind.listKind? with
  | some _ => n.children.length
  | none => 1

/-- The level of a heading as its tag has it. -/
def Node.headingLevel? (n : Node) : Option Int :=
  if n.kind = .heading then Conversion.tagNumber? n else none

/-- The kind of the list that a block is an item of. -/
def Block.listItem? : Block → Option ListKind
  | .text b => b.listItem
  | _ => none

/-- The level of a block. -/
def Block.level? : Block → Option Level
  | .text b => b.level
  | _ => none

/-- A node gives its blocks: as many as it should, those of a list marked as its items, and the one
of a heading with the level of its tag. -/
structure Node.Yields (n : Node) (bs : List Block) : Prop where
  length_eq : bs.length = n.blockCount
  item : ∀ b ∈ bs, b.listItem? = n.kind.listKind?
  level : ∀ b ∈ bs, b.level?.map (fun l => (l.val : Int)) = n.headingLevel?

open Conversion

namespace Conversion

variable {source : Key.Source} {start stop : Nat} {n : Node}

/-! ### Marks -/

theorem nodup_of_run_spans {spans : List Span} (h : n.spans.run source start = .ok (spans, stop)) :
    ∀ s ∈ spans, s.marks.Nodup := by
  obtain ⟨keys, -, -, rfl⟩ := run_spans_iff.mp h
  exact nodup_of_mem_zipWith_span

theorem nodup_of_run_spansOfAll {ns : List Node} {spans : List Span}
    (h : (Node.spansOfAll ns).run source start = .ok (spans, stop)) :
    ∀ s ∈ spans, s.marks.Nodup := by
  obtain ⟨keys, -, -, rfl⟩ := run_spansOfAll_iff.mp h
  exact nodup_of_mem_zipWith_span

/-! ### Parts of a document -/

theorem withinAs_of_run_blockquote {b : TextBlock}
    (h : (blockquote n).run source start = .ok (b, stop)) : b.WithinAs .blockquote := by
  obtain ⟨key, spans, -, hs, rfl⟩ := run_blockquote_iff.mp h
  exact .of_spans rfl (nodup_of_run_spansOfAll hs)

theorem wellFormed_of_run_heading {b : TextBlock}
    (h : (heading n).run source start = .ok (b, stop)) : b.WellFormed := by
  obtain ⟨_, key, spans, level, -, -, hs, -, rfl⟩ := run_heading_iff.mp h
  exact ⟨fun l => by simp, fun hi => absurd rfl hi, nodup_of_run_spansOfAll hs⟩

theorem wellFormed_of_run_listItem {kind : ListKind} {b : TextBlock}
    (h : (listItem kind n).run source start = .ok (b, stop)) :
    b.WellFormed ∧ b.listItem = some kind ∧ b.level = none := by
  obtain ⟨key, spans, -, hs, rfl⟩ := run_listItem_iff.mp h
  exact ⟨⟨fun l => by simp, fun _ => ⟨rfl, rfl⟩, nodup_of_run_spansOfAll hs⟩, rfl, rfl⟩

theorem withinAs_of_run_placeholder {b : TextBlock}
    (h : placeholder.run source start = .ok (b, stop)) : b.WithinAs .normal := by
  obtain ⟨key, key', -, -, rfl, -⟩ := run_placeholder_iff.mp h
  exact .of_spans rfl (by simp)

theorem withinAs_of_run_cellContent {ns : List Node} {bs : List TextBlock}
    (h : (cellContent ns).run source start = .ok (bs, stop)) :
    ∀ b ∈ bs, b.WithinAs .normal ∧ b.children ≠ [] := by
  rw [cellContent_eq_mapM] at h
  obtain ⟨found, hfound, rfl⟩ := run_map_eq_ok.mp h
  intro b hb
  obtain ⟨_, -, _, _, hrun⟩ := run_mapM_mem hfound (List.reduceOption_mem_iff.mp hb)
  obtain ⟨spans, _, _, hs, hne, -, rfl, -⟩ := run_cellParagraph?_eq_some_iff.mp hrun
  exact ⟨.of_spans rfl (nodup_of_run_spans hs), hne⟩

theorem wellFormed_of_run_table {b : TableBlock}
    (h : (table n).run source start = .ok (b, stop)) : (Block.table b).WellFormed := by
  obtain ⟨rows, _, _, hrows, -, rfl, -⟩ := run_table_iff.mp h
  rw [tableRows_eq_mapM] at hrows
  intro r hr c hc
  -- a row is what the run of a node gave, and so is a cell in it
  obtain ⟨_, -, _, _, hrow⟩ := run_mapM_mem hrows hr
  obtain ⟨_, cells, -, hcells, rfl⟩ := run_tableRow_iff.mp hrow
  rw [tableCells_eq_mapM] at hcells
  obtain ⟨_, -, _, _, hcell⟩ := run_mapM_mem hcells hc
  obtain ⟨_, content, -, hcontent, rfl⟩ := run_tableCell_iff.mp hcell
  exact withinAs_of_run_cellContent hcontent

/-! ### Nodes at the top -/

theorem wellFormed_of_run_toBlocks {bs : List Block}
    (h : n.toBlocks.run source start = .ok (bs, stop)) : ∀ b ∈ bs, b.WellFormed := by
  intro b hb
  cases run_toBlocks_iff.mp h with
  | heading _ run =>
    rw [List.mem_singleton.mp hb]
    exact wellFormed_of_run_heading run
  | paragraph _ run =>
    rw [List.mem_singleton.mp hb]
    rcases run_paragraph_iff.mp run with ⟨_, _, -, -, rfl⟩ | ⟨key, spans, -, -, hs, rfl⟩
    · trivial
    · have ht : TextBlock.WithinAs .normal ⟨key, .normal, none, none, spans⟩ :=
        .of_spans rfl (nodup_of_run_spansOfAll hs)
      exact ht.toWellFormed
  | code _ run =>
    rw [List.mem_singleton.mp hb]
    trivial
  | highlight _ run =>
    rw [List.mem_singleton.mp hb]
    obtain ⟨_, _, content, _, -, -, hc, -, rfl⟩ := run_highlight?_eq_some_iff.mp run
    exact ⟨content, rfl, withinAs_of_run_blockquote hc⟩
  | blockquote _ _ run =>
    rw [List.mem_singleton.mp hb]
    exact (withinAs_of_run_blockquote run).toWellFormed
  | list _ run =>
    rw [list, listItems_eq_mapM] at run
    obtain ⟨t, ht, rfl⟩ := List.mem_map.mp hb
    obtain ⟨_, -, _, _, hitem⟩ := run_mapM_mem run ht
    exact (wellFormed_of_run_listItem hitem).1
  | table _ run =>
    rw [List.mem_singleton.mp hb]
    exact wellFormed_of_run_table run
  | separator _ run =>
    rw [List.mem_singleton.mp hb]
    obtain ⟨_, -, rfl, -⟩ := run_separator_iff.mp run
    trivial
  | placeholder _ run =>
    rw [List.mem_singleton.mp hb]
    exact (withinAs_of_run_placeholder run).toWellFormed

/-- A node that is no list and no heading gives one block, which is no item and no heading. -/
theorem yields_singleton (hn : n.kind ≠ .heading ∧ n.kind ≠ .bulletList ∧ n.kind ≠ .orderedList)
    {b : Block} (hb : b.listItem? = none ∧ b.level? = none) : n.Yields [b] := by
  obtain ⟨hh, hbullet, hordered⟩ := hn
  have hk : n.kind.listKind? = none := by
    unfold NodeKind.listKind?
    split <;> first | contradiction | rfl
  refine ⟨by simp [Node.blockCount, hk], fun b' h => ?_, fun b' h => ?_⟩
  · rw [List.mem_singleton.mp h, hb.1, hk]
  · rw [List.mem_singleton.mp h, hb.2, Node.headingLevel?, if_neg hh, Option.map_none]

theorem level_of_levelOf {depth : Int} {level : Level} (h : levelOf depth = .ok level) :
    (level.val : Int) = depth := by
  unfold levelOf Level.ofNat? at h
  split at h
  · next hl =>
    split at hl
    · cases h
      cases hl
      dsimp only
      omega
    · cases hl
  · cases h

theorem yields_of_run_heading {b : TextBlock} (kind : n.kind = .heading)
    (h : (heading n).run source start = .ok (b, stop)) : n.Yields [.text b] := by
  obtain ⟨depth, _, _, level, hd, -, -, hl, rfl⟩ := run_heading_iff.mp h
  refine ⟨by simp [Node.blockCount, NodeKind.listKind?, kind], ?_, ?_⟩
  · simp [Block.listItem?, NodeKind.listKind?, kind]
  · simp [Block.level?, Node.headingLevel?, kind, hd, level_of_levelOf hl]

theorem yields_of_run_list {bs : List TextBlock} (hn : n.kind = .bulletList ∨ n.kind = .orderedList)
    (h : (list n).run source start = .ok (bs, stop)) : n.Yields (bs.map .text) := by
  have hk : n.kind.listKind? = some (if n.kind = .orderedList then .number else .bullet) := by
    rcases hn with hn | hn <;> simp [NodeKind.listKind?, hn]
  have hh : n.kind ≠ .heading := by rcases hn with hn | hn <;> simp [hn]
  rw [list, listItems_eq_mapM] at h
  have hitems : ∀ b ∈ bs.map Block.text,
      b.listItem? = some (if n.kind = .orderedList then .number else .bullet) ∧
        b.level? = none := by
    intro b hb
    obtain ⟨t, ht, rfl⟩ := List.mem_map.mp hb
    obtain ⟨_, -, _, _, hitem⟩ := run_mapM_mem h ht
    exact (wellFormed_of_run_listItem hitem).2
  refine ⟨?_, fun b hb => ?_, fun b hb => ?_⟩
  · rw [List.length_map, ← (run_mapM_forall₂ h).length_eq, Node.blockCount, hk]
  · rw [(hitems b hb).1, hk]
  · rw [(hitems b hb).2, Node.headingLevel?, if_neg hh, Option.map_none]

theorem yields_of_run_toBlocks {bs : List Block}
    (h : n.toBlocks.run source start = .ok (bs, stop)) : n.Yields bs := by
  cases run_toBlocks_iff.mp h with
  | heading kind run => exact yields_of_run_heading kind run
  | paragraph kind run =>
    refine yields_singleton (by simp [kind]) ?_
    rcases run_paragraph_iff.mp run with ⟨_, _, -, -, rfl⟩ | ⟨_, _, -, -, -, rfl⟩ <;>
      exact ⟨rfl, rfl⟩
  | code kind run =>
    refine yields_singleton ?_ ⟨rfl, rfl⟩
    rcases kind with kind | kind <;> simp [kind]
  | highlight kind run => exact yields_singleton (by simp [kind]) ⟨rfl, rfl⟩
  | blockquote kind _ run =>
    have ht := withinAs_of_run_blockquote run
    exact yields_singleton (by simp [kind]) ⟨ht.item_eq, ht.level_eq⟩
  | list kind run => exact yields_of_run_list kind run
  | table kind run => exact yields_singleton (by simp [kind]) ⟨rfl, rfl⟩
  | separator kind run =>
    obtain ⟨_, -, rfl, -⟩ := run_separator_iff.mp run
    exact yields_singleton (by simp [kind]) ⟨rfl, rfl⟩
  | placeholder kind run =>
    have ht := withinAs_of_run_placeholder run
    refine yields_singleton ?_ ⟨ht.item_eq, ht.level_eq⟩
    refine ⟨?_, ?_, ?_⟩ <;> (intro hk; simp [blockKinds, hk] at kind)

end Conversion

/-- **The blocks of a document** fall into groups, one for each node and in the order of the nodes;
a group is what its node gives, and every block is well formed. -/
theorem groups_of_convert {source : Key.Source} {start stop : Nat} {ns : List Node}
    {bs : List Block} (h : (convert ns).run source start = .ok (bs, stop)) :
    (∃ groups : List (List Block), bs = groups.flatten ∧
      List.Forall₂ (fun n group => n.Yields group ∧
        ∃ first last, n.toBlocks.run source first = .ok (group, last)) ns groups) ∧
    ∀ b ∈ bs, b.WellFormed := by
  rw [convert_eq_mapM] at h
  obtain ⟨groups, hgroups, rfl⟩ := run_map_eq_ok.mp h
  refine ⟨⟨groups, rfl, ?_⟩, fun b hb => ?_⟩
  · refine (run_mapM_forall₂ hgroups).imp ?_
    rintro n group ⟨first, last, hrun⟩
    exact ⟨yields_of_run_toBlocks hrun, first, last, hrun⟩
  · obtain ⟨group, hgroup, hb⟩ := List.mem_flatten.mp hb
    obtain ⟨_, -, _, _, hrun⟩ := run_mapM_mem hgroups hgroup
    exact wellFormed_of_run_toBlocks hrun b hb

/-- The number of a heading may be written with a sign, and an item may be empty. -/
theorem groups_of_heading_and_list :
    (convert
        [⟨.heading, "h+2", "", "", [], []⟩,
          .plain .orderedList ""
            [.plain .listItem ""
                [.plain .paragraph "" [.plain .container "" [.plain .text "a" []]]],
              .plain .listItem "" []]]).run Key.Source.counted 0 =
      .ok
        ([.text
            ⟨"k0", .heading ⟨2, by decide, by decide⟩, some ⟨2, by decide, by decide⟩, none, []⟩,
          .text ⟨"k1", .normal, none, some .number, [⟨"k2", "a", []⟩]⟩,
          .text ⟨"k3", .normal, none, some .number, []⟩], 4) ∧
    ∀ b ∈ [Block.text
          ⟨"k0", .heading ⟨2, by decide, by decide⟩, some ⟨2, by decide, by decide⟩, none, []⟩,
        .text ⟨"k1", .normal, none, some .number, [⟨"k2", "a", []⟩]⟩,
        .text ⟨"k3", .normal, none, some .number, []⟩], b.WellFormed := by
  suffices h : _ from ⟨h, (groups_of_convert h).2⟩
  rfl

end ContentBlocks
