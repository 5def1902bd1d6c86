import ContentBlocks.Block.Outline
import ContentBlocks.Block.Stats
import ContentBlocks.Proofs.Conversion.Leaves

/-!
# Keys carry nothing

Conversion hands keys on and never looks at one. Over a source that gives the same answers under
other names, and only some calls later, every lowering takes the same way: it fails where it failed
before and as it failed there, and otherwise gives the same result with the keys renamed. Renaming
all keys to the same text leaves what does not depend on keys at all.

## Main definitions

* `Block.rename`: a block with its keys renamed
* `Follows`: a computation over one source does what another one does over another source
* `Block.unkeyed`: a block without its keys

## Main results

* `follows_convert`: conversion follows the source
* `unkeyed_of_run_convert`: sources that never run dry give the same blocks apart from keys
* `outline_rename`, `stats_rename`: outline and counts do not depend on keys
-/

namespace ContentBlocks

/-! ### Other keys -/

section Rename

variable (f : String → String)

/-- A span with its key renamed. -/
def Span.rename (s : Span) : Span := { s with key := f s.key }

/-- A text block with its keys renamed. -/
def TextBlock.rename (b : TextBlock) : TextBlock :=
  { b with key := f b.key, children := b.children.map (Span.rename f) }

/-- Program text with its key renamed. -/
def CodeBlock.rename (b : CodeBlock) : CodeBlock := { b with key := f b.key }

/-- A highlight with its keys renamed. -/
def HighlightBlock.rename (b : HighlightBlock) : HighlightBlock :=
  { b with key := f b.key, content := b.content.map (TextBlock.rename f) }

/-- An image with its key renamed. -/
def ImageBlock.rename (b : ImageBlock) : ImageBlock := { b with key := f b.key }

/-- A cell with its keys renamed. -/
def TableCell.rename (c : TableCell) : TableCell := ⟨f c.key, c.content.map (TextBlock.rename f)⟩

/-- A row with its keys renamed. -/
def TableRow.rename (r : TableRow) : TableRow := ⟨f r.key, r.cells.map (TableCell.rename f)⟩

/-- A table with its keys renamed. -/
def TableBlock.rename (b : TableBlock) : TableBlock := ⟨f b.key, b.rows.map (TableRow.rename f)⟩

/-- A block with its keys renamed. -/
def Block.rename : Block → Block
  | .text b => .text (b.rename f)
  | .code b => .code (b.rename f)
  | .highlight b => .highlight (b.rename f)
  | .image b => .image (b.rename f)
  | .table b => .table (b.rename f)
  | .separator key => .separator (f key)

theorem plainText_rename (b : TextBlock) : (b.rename f).plainText = b.plainText := by
  simp [TextBlock.plainText, TextBlock.rename, List.map_map, Function.comp_def, Span.rename]

theorem outlineEntry?_rename (b : Block) : Block.outlineEntry? (b.rename f) = b.outlineEntry? := by
  cases b with
  | text b =>
    simp only [Block.rename, Block.outlineEntry?, plainText_rename]
    rfl
  | _ => rfl

/-- The outline does not depend on keys. -/
theorem outline_rename (bs : List Block) : outline (bs.map (Block.rename f)) = outline bs := by
  rw [outline, List.filterMap_map]
  exact List.filterMap_congr fun b _ => outlineEntry?_rename f b

theorem countP_rename {p : Block → Bool} (hp : ∀ b, p (b.rename f) = p b) (bs : List Block) :
    (bs.map (Block.rename f)).countP p = bs.countP p := by
  rw [List.countP_map]
  exact List.countP_congr fun b _ => by rw [Function.comp_apply, hp]

theorem typeCounts_rename (bs : List Block) :
    typeCounts (bs.map (Block.rename f)) = typeCounts bs := by
  rw [typeCounts, List.foldl_map]
  refine congrArg (fun step => bs.foldl step []) (funext fun counts => funext fun b => ?_)
  cases b <;> rfl

/-- The counts do not depend on keys. -/
theorem stats_rename (bs : List Block) : stats (bs.map (Block.rename f)) = stats bs := by
  have hheading : ∀ b : Block, (b.rename f).hasHeadingStyle = b.hasHeadingStyle := fun b => by
    cases b <;> rfl
  have hcode : ∀ b : Block, (b.rename f).isCode = b.isCode := fun b => by cases b <;> rfl
  have himage : ∀ b : Block, (b.rename f).isImage = b.isImage := fun b => by cases b <;> rfl
  have htable : ∀ b : Block, (b.rename f).isTable = b.isTable := fun b => by cases b <;> rfl
  rw [stats, stats, List.length_map, typeCounts_rename, countP_rename f hheading,
    countP_rename f hcode, countP_rename f himage, countP_rename f htable]

end Rename

/-- A block without its keys. -/
def Block.unkeyed (b : Block) : Block := b.rename fun _ => ""

/-- Blocks that differ in their keys only have one outline. -/
theorem outline_of_unkeyed {bs bs' : List Block}
    (h : bs'.map Block.unkeyed = bs.map Block.unkeyed) : outline bs' = outline bs := by
  rw [← outline_rename (fun _ => "") bs', ← outline_rename (fun _ => "") bs]
  exact congrArg outline h

/-- Blocks that differ in their keys only have the same counts. -/
theorem stats_of_unkeyed {bs bs' : List Block}
    (h : bs'.map Block.unkeyed = bs.map Block.unkeyed) : stats bs' = stats bs := by
  rw [← stats_rename (fun _ => "") bs', ← stats_rename (fun _ => "") bs]
  exact congrArg stats h

namespace Conversion

/-! ### Computations that follow their source -/

section Follows

variable {α β γ δ : Type} {shift : Nat} {source source' : Key.Source}

/-- Begun `shift` calls later over another source, a computation does what one does over the first
source, and what it gives is renamed. -/
def Follows (shift : Nat) (source source' : Key.Source) (r : α → β) (m : Keyed α)
    (m' : Keyed β) : Prop :=
  ∀ start, m'.run source' (shift + start) =
    (m.run source start).map fun (a, stop) => (r a, shift + stop)

theorem Follows.pure {r : α → β} (a : α) : Follows shift source source' r (pure a) (pure (r a)) :=
  fun _ => rfl

theorem Follows.fail {r : α → β} (e : Failure) : Follows shift source source' r (fail e) (fail e) :=
  fun _ => rfl

theorem Follows.bind {r : α → β} {q : γ → δ} {m : Keyed α} {m' : Keyed β} {k : α → Keyed γ}
    {k' : β → Keyed δ} (hm : Follows shift source source' r m m')
    (hk : ∀ a, Follows shift source source' q (k a) (k' (r a))) :
    Follows shift source source' q (m >>= k) (m' >>= k') := by
  intro start
  rw [run_bind, run_bind, hm start]
  -- on both sides the second part begins where the first one ended
  cases m.run source start with
  | error e => rfl
  | ok result => exact hk result.1 result.2

theorem Follows.map {r : α → β} {q : γ → δ} {m : Keyed α} {m' : Keyed β} {g : α → γ} {g' : β → δ}
    (hm : Follows shift source source' r m m') (hg : ∀ a, g' (r a) = q (g a)) :
    Follows shift source source' q (g <$> m) (g' <$> m') := by
  rw [map_eq_pure_bind, map_eq_pure_bind]
  exact hm.bind fun a => (hg a).symm ▸ .pure (g a)

theorem Follows.mapM {r : β → γ} {g : α → Keyed β} {g' : α → Keyed γ} (xs : List α)
    (hg : ∀ x ∈ xs, Follows shift source source' r (g x) (g' x)) :
    Follows shift source source' (List.map r) (xs.mapM g) (xs.mapM g') := by
  induction xs with
  | nil => exact .pure []
  | cons x xs ih =>
    rw [List.mapM_cons, List.mapM_cons]
    refine (hg x List.mem_cons_self).bind fun y => ?_
    refine (ih fun x' hx' => hg x' (List.mem_cons_of_mem x hx')).bind fun ys => ?_
    exact .pure (y :: ys)

theorem Follows.require (checked : Schema.Checked α) :
    Follows shift source source' id (require checked) (require checked) := by
  cases checked with
  | error issues => exact .fail _
  | ok a => exact .pure a

theorem Follows.iterated {r : α → β} {m : Keyed α} {m' : Keyed β}
    (hm : Follows shift source source' r m m') :
    Follows shift source source' r (iterated m) (iterated m') := by
  intro start
  show (m'.run source' (shift + start)).mapError Failure.outOfIterator =
    ((m.run source start).mapError Failure.outOfIterator).map _
  rw [hm start]
  cases m.run source start <;> rfl

end Follows

/-! ### Lowering -/

section Lowering

variable {f : String → String} {shift : Nat} {source source' : Key.Source}

theorem follows_draw (h : ∀ i, source' (shift + i) = (source i).map f) :
    Follows shift source source' f draw draw := by
  intro start
  unfold Keyed.run draw
  rw [h start]
  cases source start <;> rfl

variable (h : ∀ i, source' (shift + i) = (source i).map f) (n : Node)
include h

theorem follows_toSpan (l : Leaf) :
    Follows shift source source' (Span.rename f) l.toSpan l.toSpan :=
  (follows_draw h).bind fun key => .pure (l.span key)

theorem follows_spans :
    Follows shift source source' (List.map (Span.rename f)) n.spans n.spans := by
  rw [spans_eq_mapM]
  exact .mapM _ fun l _ => follows_toSpan h l

theorem follows_spansOfAll (ns : List Node) :
    Follows shift source source' (List.map (Span.rename f)) (Node.spansOfAll ns)
      (Node.spansOfAll ns) := by
  rw [spansOfAll_eq_leaves]
  exact .mapM _ fun l _ => follows_toSpan h l

theorem follows_heading :
    Follows shift source source' (TextBlock.rename f) (heading n) (heading n) := by
  unfold heading
  rw [containerSpans_eq]
  cases tagNumber? n with
  | none => exact .fail _
  | some depth =>
    refine (follows_draw h).bind fun key => ?_
    refine (follows_spansOfAll h _).bind fun spans => ?_
    exact (Follows.require (levelOf depth)).bind fun level => .pure _

theorem follows_image :
    Follows shift source source' (ImageBlock.rename f) (image n) (image n) := by
  unfold image
  refine (follows_draw h).bind fun key => ?_
  cases address? n with
  | none => exact .fail _
  | some address => exact (Follows.require (caption n)).bind fun caption => .pure _

theorem follows_paragraph :
    Follows shift source source' (Block.rename f) (paragraph n) (paragraph n) := by
  unfold paragraph
  rw [containerSpans_eq]
  cases loneImage? n.container? with
  | none => exact (follows_draw h).bind fun _ => (follows_spansOfAll h _).bind fun _ => .pure _
  | some i => exact (follows_image h i).bind fun _ => .pure _

theorem follows_code : Follows shift source source' (CodeBlock.rename f) (code n) (code n) := by
  unfold code
  generalize FenceInfo.of (if n.kind = .fence then n.info else "") = info
  exact (follows_draw h).bind fun _ => .pure _

theorem follows_blockquote :
    Follows shift source source' (TextBlock.rename f) (blockquote n) (blockquote n) := by
  unfold blockquote
  rw [paragraphSpans_eq]
  exact (follows_draw h).bind fun _ => (follows_spansOfAll h _).bind fun _ => .pure _

theorem follows_highlight? :
    Follows shift source source' (Option.map (HighlightBlock.rename f)) (highlight? n)
      (highlight? n) := by
  unfold highlight?
  cases Trigger.of? n with
  | none => exact .pure none
  | some trigger =>
    refine (follows_draw h).bind fun key => (follows_blockquote h n).bind fun content => ?_
    cases trigger.kind? with
    | none => exact .fail _
    | some kind => exact .pure (some (HighlightBlock.mk key kind trigger.title [content]))

theorem follows_listItem (kind : ListKind) :
    Follows shift source source' (TextBlock.rename f) (listItem kind n) (listItem kind n) := by
  unfold listItem
  rw [paragraphSpans_eq]
  exact (follows_draw h).bind fun _ => (follows_spansOfAll h _).bind fun _ => .pure _

theorem follows_list :
    Follows shift source source' (List.map (TextBlock.rename f)) (list n) (list n) := by
  rw [list, listItems_eq_mapM]
  exact .mapM _ fun item _ => follows_listItem h item _

theorem follows_cellParagraph? :
    Follows shift source source' (Option.map (TextBlock.rename f)) (cellParagraph? n)
      (cellParagraph? n) := by
  unfold cellParagraph?
  refine (follows_spans h n).iterated.bind fun spans => ?_
  rw [List.isEmpty_map]
  split
  · exact .pure none
  · exact (follows_draw h).bind fun key => .pure (some (TextBlock.mk key .normal none none spans))

theorem follows_cellContent (ns : List Node) :
    Follows shift source source' (List.map (TextBlock.rename f)) (cellContent ns)
      (cellContent ns) := by
  rw [cellContent_eq_mapM]
  exact (Follows.mapM ns fun n _ => follows_cellParagraph? h n).map fun found =>
    List.reduceOption_map ..

theorem follows_tableCell :
    Follows shift source source' (TableCell.rename f) (tableCell n) (tableCell n) :=
  (follows_draw h).bind fun _ => (follows_cellContent h _).bind fun _ => .pure _

theorem follows_tableRow :
    Follows shift source source' (TableRow.rename f) (tableRow n) (tableRow n) := by
  unfold tableRow
  rw [tableCells_eq_mapM]
  exact (follows_draw h).bind fun _ =>
    (Follows.mapM _ fun cell _ => follows_tableCell h cell).bind fun _ => .pure _

theorem follows_table :
    Follows shift source source' (TableBlock.rename f) (table n) (table n) := by
  unfold table
  rw [tableRows_eq_mapM]
  exact (Follows.mapM _ fun row _ => follows_tableRow h row).bind fun _ =>
    (follows_draw h).bind fun _ => .pure _

theorem follows_separator : Follows shift source source' (Block.rename f) separator separator :=
  (follows_draw h).bind fun _ => .pure _

theorem follows_placeholder :
    Follows shift source source' (TextBlock.rename f) placeholder placeholder :=
  (follows_draw h).bind fun _ => (follows_draw h).bind fun _ => .pure _

/-! ### Documents -/

theorem follows_toBlocks :
    Follows shift source source' (List.map (Block.rename f)) n.toBlocks n.toBlocks := by
  have hlist : Follows shift source source' (List.map (Block.rename f))
      (List.map .text <$> list n) (List.map .text <$> list n) :=
    (follows_list h n).map fun bs => by rw [List.map_map, List.map_map]; rfl
  unfold Node.toBlocks
  split
  · exact (follows_heading h n).bind fun _ => .pure _
  · exact (follows_paragraph h n).bind fun _ => .pure _
  · exact (follows_code h n).bind fun _ => .pure _
  · exact (follows_code h n).bind fun _ => .pure _
  · refine (follows_highlight? h n).bind fun highlight => ?_
    cases highlight with
    | none => exact (follows_blockquote h n).bind fun _ => .pure _
    | some b => exact .pure _
  · rw [bind_pure_comp]
    exact hlist
  · rw [bind_pure_comp]
    exact hlist
  · exact (follows_table h n).bind fun _ => .pure _
  · exact (follows_separator h).bind fun _ => .pure _
  · exact (follows_placeholder h).bind fun _ => .pure _

/-- **Conversion follows its source.** -/
theorem follows_convert (ns : List Node) :
    Follows shift source source' (List.map (Block.rename f)) (convert ns) (convert ns) := by
  rw [convert_eq_mapM]
  exact (Follows.mapM ns fun n _ => follows_toBlocks h n).map fun groups =>
    (List.map_flatten ..).symm

end Lowering

/-- **Keys carry nothing**: over sources that never run dry, from any numbers on, conversion gives
the same blocks apart from their keys. -/
theorem unkeyed_of_run_convert {source source' : Key.Source} (hs : ∀ n, ∃ key, source n = .ok key)
    (hs' : ∀ n, ∃ key, source' n = .ok key) {ns : List Node} {start stop : Nat} {bs : List Block}
    (h : (convert ns).run source start = .ok (bs, stop)) (start' : Nat) :
    ∃ bs' stop', (convert ns).run source' start' = .ok (bs', stop') ∧
      bs'.map Block.unkeyed = bs.map Block.unkeyed := by
  -- both runs are followed by one over empty keys, begun where both numbers are passed
  have hempty : ∀ {s : Key.Source}, (∀ n, ∃ key, s n = .ok key) → ∀ shift i,
      Key.Source.empty (shift + i) = (s i).map fun _ => "" := by
    intro s hs shift i
    obtain ⟨key, hkey⟩ := hs i
    rw [hkey]
    rfl
  have hleft := follows_convert (hempty hs start') ns start
  have hright := follows_convert (hempty hs' start) ns start'
  rw [h, Nat.add_comm start' start, hright] at hleft
  cases hrun : (convert ns).run source' start' with
  | error e => rw [hrun] at hleft; cases hleft
  | ok result =>
    obtain ⟨bs', stop'⟩ := result
    rw [hrun] at hleft
    exact ⟨bs', stop', rfl, congrArg Prod.fst (Except.ok.inj hleft)⟩

end Conversion

end ContentBlocks
