import ContentBlocks.Proofs.Conversion.Calls
import ContentBlocks.Proofs.Conversion.Renaming

/-!
# Tables, cell by cell

A table keeps its shape, however ragged it is: it has a row for each row of its sections, and a row
has a cell for each of its nodes, be it an empty one. Only within a cell is anything left out: a
node that has no spans has no paragraph there. Since it has no spans, nothing is lost with it, and
the paragraphs of a cell have the spans that its text has as a whole.

## Main definitions

* `Node.HasSpan`: a node has a span in some run
* `ParagraphOf source n b`: a paragraph of a cell comes from a node
* `CellOf source n c`: a cell comes from a node

## Main results

* `hasSpan_iff_of_run`: any run of a node tells whether it has spans
* `table_by_cells`: what a table is made of
-/

namespace ContentBlocks

open Conversion

/-- A span without its key. -/
def Span.unkeyed (s : Span) : Span := s.rename fun _ => ""

/-- A node has a span in some run. -/
def Node.HasSpan (n : Node) : Prop :=
  ∃ source start spans stop, n.spans.run source start = .ok (spans, stop) ∧ spans ≠ []

namespace Conversion

variable {n : Node} {source : Key.Source} {start stop : Nat} {spans : List Span}

/-! ### Spans without their keys -/

/-- Without their keys the spans of a node are its leaves. -/
theorem unkeyed_of_run_spans (h : n.spans.run source start = .ok (spans, stop)) :
    spans.map Span.unkeyed = n.leaves.map fun l => l.span "" := by
  obtain ⟨keys, -, hlen, rfl⟩ := run_spans_iff.mp h
  exact map_zipWith_span (fun _ _ => rfl) hlen

theorem leavesOfAll_eq_flatMap (ns : List Node) : Node.leavesOfAll ns = ns.flatMap Node.leaves := by
  induction ns with
  | nil => rfl
  | cons n ns ih => exact congrArg (n.leaves ++ ·) ih

/-- A text that is given enough keys has the leaves of its nodes as spans. -/
theorem exists_run_containerSpans (container : Option Node)
    (hs : ∀ i, ∃ key, source i = .ok key) (start : Nat) :
    ∃ spans stop, (containerSpans container).run source start = .ok (spans, stop) ∧
      spans.map Span.unkeyed =
        (containerNodes container).flatMap fun n => n.leaves.map fun l => l.span "" := by
  rw [containerSpans_eq]
  obtain ⟨spans, h⟩ := (draws_spansOfAll (containerNodes container)).ends fun i _ => hs (start + i)
  refine ⟨spans, _, h, ?_⟩
  obtain ⟨keys, -, hlen, rfl⟩ := run_spansOfAll_iff.mp h
  rw [map_zipWith_span (g := fun l => l.span "") (fun _ _ => rfl) hlen, leavesOfAll_eq_flatMap,
    List.map_flatMap]

/-! ### Nodes that have spans -/

/-- **Any run of a node** tells whether it has spans. -/
theorem hasSpan_iff_of_run (h : n.spans.run source start = .ok (spans, stop)) :
    n.HasSpan ↔ spans ≠ [] := by
  constructor
  · rintro ⟨source', start', spans', stop', h', hne'⟩
    have hempty : spans.isEmpty = spans'.isEmpty :=
      (isEmpty_of_run_spans h).trans (isEmpty_of_run_spans h').symm
    rw [← List.isEmpty_eq_false_iff] at hne' ⊢
    exact hempty.trans hne'
  · intro hne
    exact ⟨source, start, spans, stop, h, hne⟩

/-- A node has spans if it has leaves. -/
theorem hasSpan_iff : n.HasSpan ↔ n.leaves ≠ [] := by
  obtain ⟨spans, stop, h⟩ := (spans_show_leaves n Key.Source.empty 0).1.mpr fun i _ => ⟨"", rfl⟩
  rw [hasSpan_iff_of_run h, ne_eq, ne_eq, ← List.isEmpty_iff, isEmpty_of_run_spans h,
    List.isEmpty_iff]

instance : DecidablePred Node.HasSpan := fun _ => decidable_of_iff _ hasSpan_iff.symm

/-! ### Cells -/

/-- A paragraph of a cell has the spans of a node and a key that is drawn after them. -/
structure ParagraphOf (source : Key.Source) (n : Node) (b : TextBlock) : Prop where
  shape : b = ⟨b.key, .normal, none, none, b.children⟩
  run : ∃ first last, n.spans.run source first = .ok (b.children, last) ∧ source last = .ok b.key

/-- A cell has a paragraph for each node of its text that has spans, and these are all the spans
that the text has. -/
structure CellOf (source : Key.Source) (n : Node) (c : TableCell) : Prop where
  content : List.Forall₂ (ParagraphOf source) ((containerNodes n.container?).filter (·.HasSpan))
    c.content
  whole : ∀ source' start', (∀ i, ∃ key, source' i = .ok key) →
    ∃ spans stop', (containerSpans n.container?).run source' start' = .ok (spans, stop') ∧
      (c.content.flatMap (·.children)).map Span.unkeyed = spans.map Span.unkeyed

/-- The paragraphs that nodes in a row may have are those of the nodes that have spans. -/
theorem paragraphs_of_forall₂ {ns : List Node} {found : List (Option TextBlock)}
    (h : List.Forall₂
      (fun n b? => ∃ first last, (cellParagraph? n).run source first = .ok (b?, last)) ns found) :
    List.Forall₂ (ParagraphOf source) (ns.filter (·.HasSpan)) found.reduceOption := by
  induction h with
  | nil => exact .nil
  | @cons n b? ns found hrun _ ih =>
    obtain ⟨first, last, hrun⟩ := hrun
    cases b? with
    | none =>
      -- one run without spans tells that the node never has any
      have hnot : ¬ n.HasSpan := by
        simp [hasSpan_iff_of_run (run_cellParagraph?_eq_none_iff.mp hrun)]
      rw [List.filter_cons_of_neg (by simpa using hnot), List.reduceOption_cons_of_none]
      exact ih
    | some b =>
      obtain ⟨spans, mid, key, hspans, hne, hkey, rfl, rfl⟩ :=
        run_cellParagraph?_eq_some_iff.mp hrun
      have hhas : n.HasSpan := (hasSpan_iff_of_run hspans).mpr hne
      rw [List.filter_cons_of_pos (by simpa using hhas), List.reduceOption_cons_of_some]
      exact .cons ⟨rfl, first, mid, hspans, hkey⟩ ih

/-- The paragraphs of the nodes that have spans have all the spans of the nodes. -/
theorem unkeyed_of_paragraphs {ns : List Node} {content : List TextBlock}
    (h : List.Forall₂ (ParagraphOf source) (ns.filter (·.HasSpan)) content) :
    (content.flatMap (·.children)).map Span.unkeyed =
      ns.flatMap fun n => n.leaves.map fun l => l.span "" := by
  -- by induction on the nodes: one that has no spans adds nothing on either side
  induction ns generalizing content with
  | nil =>
    cases h
    rfl
  | cons n ns ih =>
    by_cases hhas : n.HasSpan
    · rw [List.filter_cons_of_pos (by simpa using hhas)] at h
      obtain ⟨b, content, hb, hrest, rfl⟩ := List.forall₂_cons_left_iff.mp h
      obtain ⟨first, last, hrun, -⟩ := hb.run
      rw [List.flatMap_cons, List.flatMap_cons, List.map_append, unkeyed_of_run_spans hrun,
        ih hrest]
    · rw [List.filter_cons_of_neg (by simpa using hhas)] at h
      have hleaves : n.leaves = [] := not_not.mp (hasSpan_iff.not.mp hhas)
      rw [ih h, List.flatMap_cons, hleaves, List.map_nil, List.nil_append]

theorem cellOf_of_run {c : TableCell} (h : (tableCell n).run source start = .ok (c, stop)) :
    CellOf source n c := by
  obtain ⟨key, content, -, hrun, rfl⟩ := run_tableCell_iff.mp h
  rw [cellContent_eq_mapM, run_map_eq_ok] at hrun
  obtain ⟨found, hfound, rfl⟩ := hrun
  have hcontent := paragraphs_of_forall₂ (run_mapM_forall₂ hfound)
  refine ⟨hcontent, fun source' start' hs => ?_⟩
  obtain ⟨spans, stop', hrun, hspans⟩ := exists_run_containerSpans n.container? hs start'
  exact ⟨spans, stop', hrun, (unkeyed_of_paragraphs hcontent).trans hspans.symm⟩

/-! ### Rows -/

theorem cells_of_run {r : TableRow} (h : (tableRow n).run source start = .ok (r, stop)) :
    List.Forall₂ (CellOf source) n.children r.cells := by
  obtain ⟨key, cells, -, hrun, rfl⟩ := run_tableRow_iff.mp h
  rw [tableCells_eq_mapM] at hrun
  exact (run_mapM_forall₂ hrun).imp fun _ _ ⟨_, _, hcell⟩ => cellOf_of_run hcell

/-- **What a table is made of**: one block, with a row for each row of its sections and in it a cell
for each of the nodes there. The block is there whenever the source has the keys for it. -/
theorem table_by_cells (n : Node) (source : Key.Source) (start : Nat) :
    ((∃ b stop, (table n).run source start = .ok (b, stop)) ↔
      Answers source start ((rowNodes n).flatMap rowCalls ++ [.direct])) ∧
    ∀ b stop, (table n).run source start = .ok (b, stop) →
      (n.kind = .table → n.toBlocks.run source start = .ok ([.table b], stop)) ∧
      List.Forall₂ (fun row r => List.Forall₂ (CellOf source) row.children r.cells)
        (n.children.flatMap (·.children)) b.rows := by
  refine ⟨(draws_table n).exists_run_iff source start, fun b stop h => ?_⟩
  refine ⟨fun kind => run_toBlocks_of_lowered (.table kind h), ?_⟩
  obtain ⟨rows, mid, key, hrun, -, rfl, -⟩ := run_table_iff.mp h
  rw [tableRows_eq_mapM] at hrun
  exact (run_mapM_forall₂ hrun).imp fun _ _ ⟨_, _, hrow⟩ => cells_of_run hrow

/-- A text without characters has no paragraph, a cell without paragraphs is still a cell, and a row
without cells is still a row. -/
theorem table_of_ragged_rows :
    ∃ n b, n = Node.plain .table ""
        [.plain (.other "thead") ""
          [.plain (.other "tr") ""
            [.plain (.other "th") "" [.plain .container "" [.plain .text "" []]],
              .plain (.other "th") ""
                [.plain .container "" [.plain .text "" [], .plain .strong "" [.plain .text "a" [],
                  .plain .softBreak "" []], .plain .text "b" []]]]],
          .plain (.other "tbody") "" [.plain (.other "tr") "" []]] ∧
      b = ⟨"k9",
        [⟨"k0", [⟨"k1", []⟩,
          ⟨"k2", [⟨"k5", .normal, none, none, [⟨"k3", "a", [.strong]⟩, ⟨"k4", "\n", [.strong]⟩]⟩,
            ⟨"k7", .normal, none, none, [⟨"k6", "b", []⟩]⟩]⟩]⟩,
          ⟨"k8", []⟩]⟩ ∧
      (table n).run Key.Source.counted 0 = .ok (b, 10) ∧ n.kind = .table ∧
      n.toBlocks.run Key.Source.counted 0 = .ok ([.table b], 10) ∧
      List.Forall₂
        (fun row r => List.Forall₂ (CellOf Key.Source.counted) row.children r.cells)
        (n.children.flatMap (·.children)) b.rows := by
  refine ⟨_, _, rfl, rfl, ?_⟩
  suffices h : _ from
    have ⟨hblock, hrows⟩ := (table_by_cells _ Key.Source.counted 0).2 _ 10 h
    ⟨h, rfl, hblock rfl, hrows⟩
  rfl

end Conversion

end ContentBlocks
