import ContentBlocks.Proofs.Conversion.Leaves

/-!
# The keys of a document

The keys in a document, read in the order in which its parts were begun, are the keys that its
conversion drew: none is left out, none stands twice, and none comes from elsewhere. A table and a
paragraph in a cell are read after what they hold, everything else before.

## Main definitions

* `Block.keys`: the keys in a block, in the order in which they were drawn

## Main results

* `drawn_convert`: conversion draws the keys of its blocks
* `keys_of_convert`: they are the answers of the source, in order, and distinct if these are
-/

namespace ContentBlocks

/-- The keys in a text block: its own, then those of its spans. -/
def TextBlock.keys (b : TextBlock) : List String := b.key :: b.children.map Span.key

/-- The keys in a paragraph of a cell: those of its spans, then its own. -/
def TextBlock.cellKeys (b : TextBlock) : List String := b.children.map Span.key ++ [b.key]

/-- The keys in a highlight: its own, then those of its content. -/
def HighlightBlock.keys (b : HighlightBlock) : List String :=
  b.key :: b.content.flatMap TextBlock.keys

/-- The keys in a cell: its own, then those of its paragraphs. -/
def TableCell.keys (c : TableCell) : List String := c.key :: c.content.flatMap TextBlock.cellKeys

/-- The keys in a row: its own, then those of its cells. -/
def TableRow.keys (r : TableRow) : List String := r.key :: r.cells.flatMap TableCell.keys

/-- The keys in a table: those of its rows, then its own. -/
def TableBlock.keys (b : TableBlock) : List String := b.rows.flatMap TableRow.keys ++ [b.key]

/-- The keys in a block, in the order in which they were drawn. -/
def Block.keys : Block → List String
  | .text b => b.keys
  | .code b => [b.key]
  | .highlight b => b.keys
  | .image b => [b.key]
  | .table b => b.keys
  | .separator key => [key]

namespace Conversion

variable {source : Key.Source} {start stop : Nat} {n : Node}

/-! ### Text -/

theorem drawn_spans {spans : List Span} (h : n.spans.run source start = .ok (spans, stop)) :
    Drawn source start (spans.map Span.key) stop := by
  obtain ⟨keys, hd, hlen, rfl⟩ := run_spans_iff.mp h
  rw [map_key_zipWith_span hlen]
  exact hd

theorem drawn_spansOfAll {ns : List Node} {spans : List Span}
    (h : (Node.spansOfAll ns).run source start = .ok (spans, stop)) :
    Drawn source start (spans.map Span.key) stop := by
  obtain ⟨keys, hd, hlen, rfl⟩ := run_spansOfAll_iff.mp h
  rw [map_key_zipWith_span hlen]
  exact hd

theorem drawn_heading {b : TextBlock} (h : (heading n).run source start = .ok (b, stop)) :
    Drawn source start b.keys stop := by
  obtain ⟨_, key, spans, _, -, hkey, hs, -, rfl⟩ := run_heading_iff.mp h
  exact .cons hkey (drawn_spansOfAll hs)

theorem drawn_blockquote {b : TextBlock} (h : (blockquote n).run source start = .ok (b, stop)) :
    Drawn source start b.keys stop := by
  obtain ⟨key, spans, hkey, hs, rfl⟩ := run_blockquote_iff.mp h
  exact .cons hkey (drawn_spansOfAll hs)

theorem drawn_listItem {kind : ListKind} {b : TextBlock}
    (h : (listItem kind n).run source start = .ok (b, stop)) : Drawn source start b.keys stop := by
  obtain ⟨key, spans, hkey, hs, rfl⟩ := run_listItem_iff.mp h
  exact .cons hkey (drawn_spansOfAll hs)

theorem drawn_placeholder {b : TextBlock} (h : placeholder.run source start = .ok (b, stop)) :
    Drawn source start b.keys stop := by
  obtain ⟨key, key', hkey, hkey', rfl, rfl⟩ := run_placeholder_iff.mp h
  exact .cons hkey (.one hkey')

/-! ### The other blocks -/

theorem drawn_paragraph {b : Block} (h : (paragraph n).run source start = .ok (b, stop)) :
    Drawn source start b.keys stop := by
  rcases run_paragraph_iff.mp h with ⟨i, picture, -, hi, rfl⟩ | ⟨key, spans, -, hkey, hs, rfl⟩
  · obtain ⟨key, _, _, hkey, -, -, rfl, rfl⟩ := run_image_iff.mp hi
    exact .one hkey
  · exact .cons hkey (drawn_spansOfAll hs)

theorem drawn_highlight? {b : HighlightBlock}
    (h : (highlight? n).run source start = .ok (some b, stop)) :
    Drawn source start b.keys stop := by
  obtain ⟨_, key, content, _, -, hkey, hc, -, rfl⟩ := run_highlight?_eq_some_iff.mp h
  rw [HighlightBlock.keys, List.flatMap_singleton]
  exact .cons hkey (drawn_blockquote hc)

theorem drawn_list {bs : List TextBlock} (h : (list n).run source start = .ok (bs, stop)) :
    Drawn source start (bs.flatMap TextBlock.keys) stop := by
  rw [list, listItems_eq_mapM] at h
  exact Drawn.flatMap drawn_listItem h

/-- A node in a cell without spans draws nothing, any other its spans and then its paragraph. -/
theorem drawn_cellParagraph? {b : Option TextBlock}
    (h : (cellParagraph? n).run source start = .ok (b, stop)) :
    Drawn source start (b.toList.flatMap TextBlock.cellKeys) stop := by
  cases b with
  | none => exact drawn_spans (run_cellParagraph?_eq_none_iff.mp h)
  | some b =>
    obtain ⟨spans, mid, key, hs, -, hkey, rfl, rfl⟩ := run_cellParagraph?_eq_some_iff.mp h
    rw [Option.toList_some, List.flatMap_singleton]
    exact (drawn_spans hs).append (.one hkey)

theorem drawn_cellContent {ns : List Node} {bs : List TextBlock}
    (h : (cellContent ns).run source start = .ok (bs, stop)) :
    Drawn source start (bs.flatMap TextBlock.cellKeys) stop := by
  rw [cellContent_eq_mapM] at h
  obtain ⟨found, hfound, rfl⟩ := run_map_eq_ok.mp h
  have hfound' : found.reduceOption = found.flatMap Option.toList :=
    List.filterMap_eq_flatMap_toList id found
  rw [hfound', List.flatMap_assoc]
  exact Drawn.flatMap drawn_cellParagraph? hfound

theorem drawn_tableCell {c : TableCell} (h : (tableCell n).run source start = .ok (c, stop)) :
    Drawn source start c.keys stop := by
  obtain ⟨key, content, hkey, hc, rfl⟩ := run_tableCell_iff.mp h
  exact .cons hkey (drawn_cellContent hc)

theorem drawn_tableRow {r : TableRow} (h : (tableRow n).run source start = .ok (r, stop)) :
    Drawn source start r.keys stop := by
  obtain ⟨key, cells, hkey, hc, rfl⟩ := run_tableRow_iff.mp h
  rw [tableCells_eq_mapM] at hc
  exact .cons hkey (Drawn.flatMap drawn_tableCell hc)

theorem drawn_table {b : TableBlock} (h : (table n).run source start = .ok (b, stop)) :
    Drawn source start b.keys stop := by
  obtain ⟨rows, mid, key, hr, hkey, rfl, rfl⟩ := run_table_iff.mp h
  rw [tableRows_eq_mapM] at hr
  exact (Drawn.flatMap drawn_tableRow hr).append (.one hkey)

/-! ### Documents -/

/-- A node at the top draws the keys of its blocks. -/
theorem drawn_toBlocks {bs : List Block} (h : n.toBlocks.run source start = .ok (bs, stop)) :
    Drawn source start (bs.flatMap Block.keys) stop := by
  cases run_toBlocks_iff.mp h with
  | heading _ run =>
    rw [List.flatMap_singleton]
    exact drawn_heading run
  | paragraph _ run =>
    rw [List.flatMap_singleton]
    exact drawn_paragraph run
  | code _ run =>
    obtain ⟨key, hkey, rfl, rfl⟩ := run_code_iff.mp run
    exact .one hkey
  | highlight _ run =>
    rw [List.flatMap_singleton]
    exact drawn_highlight? run
  | blockquote _ _ run =>
    rw [List.flatMap_singleton]
    exact drawn_blockquote run
  | list _ run =>
    rw [List.flatMap_map]
    exact drawn_list run
  | table _ run =>
    rw [List.flatMap_singleton]
    exact drawn_table run
  | separator _ run =>
    obtain ⟨key, hkey, rfl, rfl⟩ := run_separator_iff.mp run
    exact .one hkey
  | placeholder _ run =>
    rw [List.flatMap_singleton]
    exact drawn_placeholder run

/-- **Conversion draws the keys of its blocks**, each once and in their order. -/
theorem drawn_convert {ns : List Node} {bs : List Block}
    (h : (convert ns).run source start = .ok (bs, stop)) :
    Drawn source start (bs.flatMap Block.keys) stop := by
  rw [convert_eq_mapM] at h
  obtain ⟨groups, hgroups, rfl⟩ := run_map_eq_ok.mp h
  rw [List.flatten_eq_flatMap, List.flatMap_assoc]
  exact Drawn.flatMap drawn_toBlocks hgroups

end Conversion

/-- **The keys of a document** are the answers of the source to the calls that conversion made, in
order, and they are all different if the source never gives one answer to two calls. -/
theorem keys_of_convert {source : Key.Source} {start stop : Nat} {ns : List Node} {bs : List Block}
    (h : (convert ns).run source start = .ok (bs, stop)) :
    start ≤ stop ∧
      (bs.flatMap Block.keys).map .ok = (List.range' start (stop - start)).map source ∧
      ((∀ i j k, source i = .ok k → source j = .ok k → i = j) →
        (bs.flatMap Block.keys).Nodup) := by
  have hd := Conversion.drawn_convert h
  obtain ⟨hle, hkeys⟩ := Conversion.drawn_iff.mp hd
  exact ⟨hle, hkeys, hd.nodup⟩

/-- The counted source never gives one key to two calls. -/
theorem counted_injective (i j : Nat) (k : String) (hi : Key.Source.counted i = .ok k)
    (hj : Key.Source.counted j = .ok k) : i = j := by
  have h : "k" ++ toString i = "k" ++ toString j := Except.ok.inj (hi.trans hj.symm)
  have hlists : (toString i).toList = (toString j).toList := by
    simpa using congrArg String.toList h
  -- a number is read back from its digits
  have hdigits : Nat.toDigits 10 i = Nat.toDigits 10 j := by
    simpa only [Nat.toString_eq_repr, Nat.toList_repr] using hlists
  simpa using congrArg (fun ds => Nat.ofDigitChars 10 ds 0) hdigits

/-- A table draws its key after its rows, a paragraph in a cell after its spans, and a highlight
before its content. -/
theorem keys_of_table_and_highlight :
    (convert
        [.plain .table ""
          [.plain (.other "tbody") "" [.plain (.other "tr") "" [.plain (.other "td") ""
            [.plain .container "" [.plain .strong "" [.plain .text "a" []], .plain .text "" []]]]]],
          .plain .blockquote ""
            [.plain .paragraph "" [.plain .container "**Note**: b" [.plain .text "b" []]]]]).run
        Key.Source.counted 3 =
      .ok
        ([.table ⟨"k7",
            [⟨"k3", [⟨"k4", [⟨"k6", .normal, none, none, [⟨"k5", "a", [.strong]⟩]⟩]⟩]⟩]⟩,
          .highlight ⟨"k8", .note, some "b",
            [⟨"k9", .blockquote, none, none, [⟨"k10", "b", []⟩]⟩]⟩], 11) ∧
    ["k3", "k4", "k5", "k6", "k7", "k8", "k9", "k10"].map .ok =
      (List.range' 3 8).map Key.Source.counted ∧
    ["k3", "k4", "k5", "k6", "k7", "k8", "k9", "k10"].Nodup := by
  suffices h : _ from ⟨h, (keys_of_convert h).2.1, (keys_of_convert h).2.2 counted_injective⟩
  rfl

end ContentBlocks
