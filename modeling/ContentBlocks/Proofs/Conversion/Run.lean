import ContentBlocks.Conversion.Block
import Mathlib.Data.List.Forall2
import Mathlib.Data.List.ReduceOption

/-!
# Runs that succeed

A run of conversion that succeeds says what it has been through: the keys that it was given, and the
runs of its parts between the numbers at which they began and ended. Every function of conversion
has one equivalence here, from which later statements argue without opening the function again.

## Main definitions

* `Lowered`: the run of a node at the top of a document, by the kind of the node

## Main results

* `run_bind_eq_ok`, `run_mapM_forall₂`: the runs of parts in a row
* `convert_eq_mapM`: a document is converted node by node
* `run_toBlocks_iff`: the runs of a node at the top are those that `Lowered` lists
-/

namespace ContentBlocks

namespace Conversion

variable {α β : Type} {source : Key.Source} {start stop : Nat}

/-! ### Steps -/

@[simp] theorem run_pure_eq_ok {a b : α} :
    Keyed.run (pure a) source start = .ok (b, stop) ↔ b = a ∧ stop = start := by
  show Except.ok (a, start) = Except.ok (b, stop) ↔ _
  simp [eq_comm]

@[simp] theorem run_fail_eq_ok {f : Failure} {b : α} :
    (fail f).run source start = .ok (b, stop) ↔ False := by
  simp [Keyed.run, fail]

@[simp] theorem run_draw_eq_ok {key : String} :
    draw.run source start = .ok (key, stop) ↔ source start = .ok key ∧ stop = start + 1 := by
  unfold Keyed.run draw
  cases h : source start <;> simp [eq_comm]

/-- A run that succeeds is no other inside of an iterator. -/
@[simp] theorem run_iterated_eq_ok {m : Keyed α} {a : α} :
    (iterated m).run source start = .ok (a, stop) ↔ m.run source start = .ok (a, stop) := by
  unfold Keyed.run iterated
  cases m source start <;> simp [Except.mapError]

theorem run_bind (m : Keyed α) (f : α → Keyed β) :
    Keyed.run (m >>= f) source start =
      match m.run source start with
      | .ok (a, mid) => (f a).run source mid
      | .error e => .error e := by
  show Except.bind (m source start) _ = _
  unfold Except.bind
  cases h : m source start <;> simp [Keyed.run, h]

theorem run_bind_eq_ok {m : Keyed α} {f : α → Keyed β} {b : β} :
    Keyed.run (m >>= f) source start = .ok (b, stop) ↔
      ∃ a mid, m.run source start = .ok (a, mid) ∧ (f a).run source mid = .ok (b, stop) := by
  rw [run_bind]
  constructor
  · intro h
    split at h
    · next a mid hm => exact ⟨a, mid, hm, h⟩
    · cases h
  · rintro ⟨a, mid, hm, hf⟩
    rw [hm]
    exact hf

@[simp] theorem run_map_eq_ok {m : Keyed α} {f : α → β} {b : β} :
    Keyed.run (f <$> m) source start = .ok (b, stop) ↔
      ∃ a, m.run source start = .ok (a, stop) ∧ b = f a := by
  rw [map_eq_pure_bind, run_bind_eq_ok]
  simp only [run_pure_eq_ok]
  constructor
  · rintro ⟨a, mid, hm, rfl, rfl⟩
    exact ⟨a, hm, rfl⟩
  · rintro ⟨a, hm, rfl⟩
    exact ⟨a, stop, hm, rfl, rfl⟩

@[simp] theorem run_require_eq_ok {checked : Schema.Checked α} {a : α} :
    (require checked).run source start = .ok (a, stop) ↔ checked = .ok a ∧ stop = start := by
  cases checked with
  | error issues => simp [require]
  | ok b =>
    rw [require, run_pure_eq_ok, Except.ok.injEq, eq_comm]

/-- What comes after a key is drawn begins one number later. -/
theorem run_draw_bind_eq_ok {f : String → Keyed β} {b : β} :
    Keyed.run (draw >>= f) source start = .ok (b, stop) ↔
      ∃ key, source start = .ok key ∧ (f key).run source (start + 1) = .ok (b, stop) := by
  rw [run_bind_eq_ok]
  simp only [run_draw_eq_ok]
  constructor
  · rintro ⟨key, _, ⟨hkey, rfl⟩, h⟩
    exact ⟨key, hkey, h⟩
  · rintro ⟨key, hkey, h⟩
    exact ⟨key, _, ⟨hkey, rfl⟩, h⟩

/-- A check draws no key. -/
theorem run_require_bind_eq_ok {checked : Schema.Checked α} {f : α → Keyed β} {b : β} :
    Keyed.run (require checked >>= f) source start = .ok (b, stop) ↔
      ∃ a, checked = .ok a ∧ (f a).run source start = .ok (b, stop) := by
  rw [run_bind_eq_ok]
  simp only [run_require_eq_ok]
  constructor
  · rintro ⟨a, _, ⟨ha, rfl⟩, h⟩
    exact ⟨a, ha, h⟩
  · rintro ⟨a, ha, h⟩
    exact ⟨a, _, ⟨ha, rfl⟩, h⟩

/-- Parts in a row have one run each. -/
theorem run_mapM_forall₂ {f : α → Keyed β} {xs : List α} {ys : List β}
    (h : (xs.mapM f).run source start = .ok (ys, stop)) :
    List.Forall₂ (fun x y => ∃ a b, (f x).run source a = .ok (y, b)) xs ys := by
  induction xs generalizing ys start with
  | nil =>
    obtain ⟨rfl, rfl⟩ := run_pure_eq_ok.mp h
    exact .nil
  | cons x xs ih =>
    rw [List.mapM_cons] at h
    simp only [run_bind_eq_ok, run_pure_eq_ok] at h
    obtain ⟨y, mid, hx, ys', mid', hxs, rfl, rfl⟩ := h
    exact .cons ⟨_, _, hx⟩ (ih hxs)

/-- Whatever parts in a row give comes from one of them. -/
theorem run_mapM_mem {f : α → Keyed β} {xs : List α} {ys : List β} {y : β}
    (h : (xs.mapM f).run source start = .ok (ys, stop)) (hy : y ∈ ys) :
    ∃ x ∈ xs, ∃ a b, (f x).run source a = .ok (y, b) := by
  have hrel := run_mapM_forall₂ h
  clear h
  induction hrel with
  | nil => cases hy
  | cons hxy _ ih =>
    rcases List.mem_cons.mp hy with rfl | hy
    · exact ⟨_, List.mem_cons_self, hxy⟩
    · obtain ⟨x, hx, hrun⟩ := ih hy
      exact ⟨x, List.mem_cons_of_mem _ hx, hrun⟩

/-! ### Walks over a list -/

theorem spansOfAll_append (ns ns' : List Node) :
    Node.spansOfAll (ns ++ ns') =
      do return (← Node.spansOfAll ns) ++ (← Node.spansOfAll ns') := by
  induction ns with
  | nil => simp [Node.spansOfAll]
  | cons n ns ih =>
    simp only [List.cons_append, Node.spansOfAll, ih, bind_assoc, pure_bind, List.append_assoc]

theorem containerSpans_eq (container : Option Node) :
    containerSpans container = Node.spansOfAll (containerNodes container) := by
  cases container <;> simp [containerSpans, containerNodes, Node.spansOfAll]

/-- The nodes of the text in the paragraphs among some nodes. -/
def paragraphNodes (ns : List Node) : List Node :=
  (ns.filter (·.kind = .paragraph)).flatMap fun n => containerNodes n.container?

theorem paragraphSpans_eq (ns : List Node) :
    paragraphSpans ns = Node.spansOfAll (paragraphNodes ns) := by
  induction ns with
  | nil => simp [paragraphSpans, paragraphNodes, Node.spansOfAll]
  | cons n ns ih =>
    by_cases h : n.kind = .paragraph
    · have hnodes : paragraphNodes (n :: ns) =
          containerNodes n.container? ++ paragraphNodes ns := by
        simp [paragraphNodes, h]
      rw [hnodes, spansOfAll_append, ← ih, ← containerSpans_eq, paragraphSpans, if_pos h]
    · have hnodes : paragraphNodes (n :: ns) = paragraphNodes ns := by
        simp [paragraphNodes, h]
      rw [hnodes, ← ih, paragraphSpans, if_neg h]

theorem listItems_eq_mapM (kind : ListKind) (items : List Node) :
    listItems kind items = items.mapM (listItem kind) := by
  induction items with
  | nil => rfl
  | cons item rest ih => simp [listItems, ih]

theorem tableCells_eq_mapM (cells : List Node) : tableCells cells = cells.mapM tableCell := by
  induction cells with
  | nil => rfl
  | cons cell rest ih => simp [tableCells, ih]

theorem tableRows_eq_mapM (rows : List Node) : tableRows rows = rows.mapM tableRow := by
  induction rows with
  | nil => rfl
  | cons row rest ih => simp [tableRows, ih]

/-- The paragraph of a cell that a node in it gives, if it has spans. -/
def cellParagraph? (n : Node) : Keyed (Option TextBlock) := do
  let spans ← iterated n.spans
  if spans.isEmpty then return none
  else return some ⟨← draw, .normal, none, none, spans⟩

theorem cellContent_eq_mapM (ns : List Node) :
    cellContent ns = List.reduceOption <$> ns.mapM cellParagraph? := by
  induction ns with
  | nil => rfl
  | cons n ns ih =>
    simp only [cellContent, ih, List.mapM_cons, cellParagraph?, map_bind, bind_assoc]
    refine bind_congr fun spans => ?_
    -- without spans the walk goes on at once, otherwise only after the paragraph's key
    by_cases h : spans.isEmpty
    · simp only [h, if_true, pure_bind, map_pure, bind_pure_comp, Functor.map_map]
      rfl
    · simp [h]

theorem convert_eq_mapM (ns : List Node) : convert ns = List.flatten <$> ns.mapM Node.toBlocks := by
  induction ns with
  | nil => simp [convert]
  | cons n ns ih => simp [convert, ih]

/-! ### Parts of a document -/

variable {n : Node}

theorem run_heading_iff {b : TextBlock} :
    (heading n).run source start = .ok (b, stop) ↔
      ∃ depth key spans level, tagNumber? n = some depth ∧ source start = .ok key ∧
        (Node.spansOfAll (containerNodes n.container?)).run source (start + 1) =
          .ok (spans, stop) ∧
        levelOf depth = .ok level ∧ b = ⟨key, .heading level, some level, none, spans⟩ := by
  unfold heading
  cases tagNumber? n with
  | none => simp
  | some depth =>
    simp only [run_draw_bind_eq_ok, containerSpans_eq]
    simp only [run_bind_eq_ok (m := Node.spansOfAll _), run_require_bind_eq_ok, run_pure_eq_ok]
    constructor
    · rintro ⟨key, hkey, spans, _, hs, level, hl, rfl, rfl⟩
      exact ⟨depth, key, spans, level, rfl, hkey, hs, hl, rfl⟩
    · rintro ⟨_, key, spans, level, hd, hkey, hs, hl, rfl⟩
      cases hd
      exact ⟨key, hkey, spans, _, hs, level, hl, rfl, rfl⟩

theorem run_image_iff {b : ImageBlock} :
    (image n).run source start = .ok (b, stop) ↔
      ∃ key address title, source start = .ok key ∧ address? n = some address ∧
        caption n = .ok title ∧
        b = ⟨key, address, if n.content.isEmpty then none else some n.content, title⟩ ∧
        stop = start + 1 := by
  simp only [image, run_draw_bind_eq_ok]
  cases address? n with
  | none => simp
  | some address =>
    simp only [run_require_bind_eq_ok, run_pure_eq_ok, exists_and_left, Option.some.injEq,
      exists_eq_left']

theorem run_paragraph_iff {b : Block} :
    (paragraph n).run source start = .ok (b, stop) ↔
      (∃ i picture, loneImage? n.container? = some i ∧
        (image i).run source start = .ok (picture, stop) ∧ b = .image picture) ∨
      (∃ key spans, loneImage? n.container? = none ∧ source start = .ok key ∧
        (Node.spansOfAll (containerNodes n.container?)).run source (start + 1) =
          .ok (spans, stop) ∧
        b = .text ⟨key, .normal, none, none, spans⟩) := by
  unfold paragraph
  rw [containerSpans_eq]
  cases loneImage? n.container? with
  | none => simp [run_draw_bind_eq_ok]
  | some i => simp

theorem run_code_iff {b : CodeBlock} :
    (code n).run source start = .ok (b, stop) ↔
      ∃ key, source start = .ok key ∧
        b = ⟨key, (FenceInfo.of (if n.kind = .fence then n.info else "")).language,
          (FenceInfo.of (if n.kind = .fence then n.info else "")).filename,
          codeText n.content⟩ ∧ stop = start + 1 := by
  simp only [code, run_draw_bind_eq_ok, run_pure_eq_ok]

theorem run_blockquote_iff {b : TextBlock} :
    (blockquote n).run source start = .ok (b, stop) ↔
      ∃ key spans, source start = .ok key ∧
        (Node.spansOfAll (paragraphNodes n.children)).run source (start + 1) =
          .ok (spans, stop) ∧
        b = ⟨key, .blockquote, none, none, spans⟩ := by
  simp only [blockquote, paragraphSpans_eq, run_draw_bind_eq_ok, bind_pure_comp, run_map_eq_ok,
    exists_and_left]

theorem run_highlight?_eq_none_iff :
    (highlight? n).run source start = .ok (none, stop) ↔ Trigger.of? n = none ∧ stop = start := by
  unfold highlight?
  cases Trigger.of? n with
  | none => simp
  | some trigger =>
    dsimp only
    cases trigger.kind? <;> simp [run_bind_eq_ok]

theorem run_highlight?_eq_some_iff {b : HighlightBlock} :
    (highlight? n).run source start = .ok (some b, stop) ↔
      ∃ trigger key content kind, Trigger.of? n = some trigger ∧ source start = .ok key ∧
        (blockquote n).run source (start + 1) = .ok (content, stop) ∧
        trigger.kind? = some kind ∧ b = ⟨key, kind, trigger.title, [content]⟩ := by
  unfold highlight?
  cases Trigger.of? n with
  | none => simp
  | some trigger =>
    dsimp only
    cases hk : trigger.kind? with
    | none => simp [hk, run_bind_eq_ok]
    | some kind => simp [hk, run_draw_bind_eq_ok]

theorem run_listItem_iff {kind : ListKind} {b : TextBlock} :
    (listItem kind n).run source start = .ok (b, stop) ↔
      ∃ key spans, source start = .ok key ∧
        (Node.spansOfAll (paragraphNodes n.children)).run source (start + 1) =
          .ok (spans, stop) ∧
        b = ⟨key, .normal, none, some kind, spans⟩ := by
  simp only [listItem, paragraphSpans_eq, run_draw_bind_eq_ok, bind_pure_comp, run_map_eq_ok,
    exists_and_left]

theorem run_cellParagraph?_eq_none_iff :
    (cellParagraph? n).run source start = .ok (none, stop) ↔
      n.spans.run source start = .ok ([], stop) := by
  simp only [cellParagraph?, run_bind_eq_ok, run_iterated_eq_ok]
  constructor
  · rintro ⟨spans, mid, hs, h⟩
    cases spans with
    | nil =>
      obtain ⟨-, rfl⟩ := run_pure_eq_ok.mp h
      exact hs
    | cons s ss => simp at h
  · intro h
    exact ⟨[], stop, h, by simp⟩

theorem run_cellParagraph?_eq_some_iff {b : TextBlock} :
    (cellParagraph? n).run source start = .ok (some b, stop) ↔
      ∃ spans mid key, n.spans.run source start = .ok (spans, mid) ∧ spans ≠ [] ∧
        source mid = .ok key ∧ b = ⟨key, .normal, none, none, spans⟩ ∧ stop = mid + 1 := by
  simp only [cellParagraph?, run_bind_eq_ok, run_iterated_eq_ok]
  constructor
  · rintro ⟨spans, mid, hs, h⟩
    cases spans with
    | nil => simp at h
    | cons s ss =>
      rw [if_neg (by simp), run_draw_bind_eq_ok] at h
      obtain ⟨key, hkey, h⟩ := h
      obtain ⟨hb, rfl⟩ := run_pure_eq_ok.mp h
      exact ⟨_, mid, key, hs, by simp, hkey, Option.some.inj hb, rfl⟩
  · rintro ⟨spans, mid, key, hs, hne, hkey, rfl, rfl⟩
    refine ⟨spans, mid, hs, ?_⟩
    rw [if_neg (by simpa using hne), run_draw_bind_eq_ok]
    exact ⟨key, hkey, run_pure_eq_ok.mpr ⟨rfl, rfl⟩⟩

theorem run_tableCell_iff {c : TableCell} :
    (tableCell n).run source start = .ok (c, stop) ↔
      ∃ key content, source start = .ok key ∧
        (cellContent (containerNodes n.container?)).run source (start + 1) = .ok (content, stop) ∧
        c = ⟨key, content⟩ := by
  simp only [tableCell, run_draw_bind_eq_ok, bind_pure_comp, run_map_eq_ok, exists_and_left]

theorem run_tableRow_iff {r : TableRow} :
    (tableRow n).run source start = .ok (r, stop) ↔
      ∃ key cells, source start = .ok key ∧
        (tableCells n.children).run source (start + 1) = .ok (cells, stop) ∧ r = ⟨key, cells⟩ := by
  simp only [tableRow, run_draw_bind_eq_ok, bind_pure_comp, run_map_eq_ok, exists_and_left]

theorem run_table_iff {b : TableBlock} :
    (table n).run source start = .ok (b, stop) ↔
      ∃ rows mid key, (tableRows (rowNodes n)).run source start = .ok (rows, mid) ∧
        source mid = .ok key ∧ b = ⟨key, rows⟩ ∧ stop = mid + 1 := by
  rw [table, run_bind_eq_ok]
  simp only [run_draw_bind_eq_ok, run_pure_eq_ok, exists_and_left]

theorem run_separator_iff {b : Block} :
    separator.run source start = .ok (b, stop) ↔
      ∃ key, source start = .ok key ∧ b = .separator key ∧ stop = start + 1 := by
  simp only [separator, run_draw_bind_eq_ok, run_pure_eq_ok]

theorem run_placeholder_iff {b : TextBlock} :
    placeholder.run source start = .ok (b, stop) ↔
      ∃ key key', source start = .ok key ∧ source (start + 1) = .ok key' ∧
        b = ⟨key, .normal, none, none, [⟨key', "", []⟩]⟩ ∧ stop = start + 2 := by
  simp only [placeholder, run_draw_bind_eq_ok, run_pure_eq_ok, exists_and_left]

/-! ### Nodes at the top -/

/-- The kinds of node that have a block of their own at the top of a document. -/
def blockKinds : List NodeKind :=
  [.heading, .paragraph, .fence, .indentedCode, .blockquote, .bulletList, .orderedList, .table,
    .thematicBreak]

/-- The runs of a node at the top of a document: the blocks, and the number of keys drawn. -/
inductive Lowered (source : Key.Source) (n : Node) (start : Nat) : List Block → Nat → Prop where
  | heading {b stop} (kind : n.kind = .heading)
      (run : (heading n).run source start = .ok (b, stop)) : Lowered source n start [.text b] stop
  | paragraph {b stop} (kind : n.kind = .paragraph)
      (run : (paragraph n).run source start = .ok (b, stop)) : Lowered source n start [b] stop
  | code {b stop} (kind : n.kind = .fence ∨ n.kind = .indentedCode)
      (run : (code n).run source start = .ok (b, stop)) : Lowered source n start [.code b] stop
  | highlight {b stop} (kind : n.kind = .blockquote)
      (run : (highlight? n).run source start = .ok (some b, stop)) :
      Lowered source n start [.highlight b] stop
  | blockquote {b stop} (kind : n.kind = .blockquote) (plain : Trigger.of? n = none)
      (run : (blockquote n).run source start = .ok (b, stop)) :
      Lowered source n start [.text b] stop
  | list {bs stop} (kind : n.kind = .bulletList ∨ n.kind = .orderedList)
      (run : (list n).run source start = .ok (bs, stop)) :
      Lowered source n start (bs.map .text) stop
  | table {b stop} (kind : n.kind = .table)
      (run : (table n).run source start = .ok (b, stop)) : Lowered source n start [.table b] stop
  | separator {b stop} (kind : n.kind = .thematicBreak)
      (run : separator.run source start = .ok (b, stop)) : Lowered source n start [b] stop
  | placeholder {b stop} (kind : n.kind ∉ blockKinds)
      (run : placeholder.run source start = .ok (b, stop)) : Lowered source n start [.text b] stop

theorem run_toBlocks_of_lowered {bs : List Block} (h : Lowered source n start bs stop) :
    n.toBlocks.run source start = .ok (bs, stop) := by
  unfold Node.toBlocks
  cases h with
  | heading kind run => simp [kind, run]
  | paragraph kind run => simp [kind, run]
  | code kind run => rcases kind with kind | kind <;> simp [kind, run]
  | highlight kind run => simp [kind, run_bind, run]
  | blockquote kind plain run =>
    have hn : (highlight? n).run source start = .ok (none, start) :=
      run_highlight?_eq_none_iff.mpr ⟨plain, rfl⟩
    simp [kind, run_bind (highlight? n), hn, run]
  | list kind run => rcases kind with kind | kind <;> simp [kind, run]
  | table kind run => simp [kind, run]
  | separator kind run => simp [kind, run]
  | placeholder kind run =>
    -- each kind that has a case of its own is excluded by one of these
    simp only [blockKinds, List.mem_cons, List.not_mem_nil, or_false, not_or] at kind
    obtain ⟨h₁, h₂, h₃, h₄, h₅, h₆, h₇, h₈, h₉⟩ := kind
    split <;> first | contradiction | simp [run]

theorem lowered_of_run_toBlocks {bs : List Block}
    (h : n.toBlocks.run source start = .ok (bs, stop)) : Lowered source n start bs stop := by
  simp only [Node.toBlocks, bind_pure_comp] at h
  split at h
  case h_1 kind =>
    obtain ⟨_, run, rfl⟩ := run_map_eq_ok.mp h
    exact .heading kind run
  case h_2 kind =>
    obtain ⟨_, run, rfl⟩ := run_map_eq_ok.mp h
    exact .paragraph kind run
  case h_3 kind =>
    obtain ⟨_, run, rfl⟩ := run_map_eq_ok.mp h
    exact .code (.inl kind) run
  case h_4 kind =>
    obtain ⟨_, run, rfl⟩ := run_map_eq_ok.mp h
    exact .code (.inr kind) run
  case h_5 kind =>
    rw [run_bind_eq_ok] at h
    obtain ⟨highlight, mid, run, h⟩ := h
    cases highlight with
    | some b =>
      obtain ⟨rfl, rfl⟩ := run_pure_eq_ok.mp h
      exact .highlight kind run
    | none =>
      obtain ⟨plain, rfl⟩ := run_highlight?_eq_none_iff.mp run
      obtain ⟨_, run, rfl⟩ := run_map_eq_ok.mp h
      exact .blockquote kind plain run
  case h_6 kind =>
    obtain ⟨_, run, rfl⟩ := run_map_eq_ok.mp h
    exact .list (.inl kind) run
  case h_7 kind =>
    obtain ⟨_, run, rfl⟩ := run_map_eq_ok.mp h
    exact .list (.inr kind) run
  case h_8 kind =>
    obtain ⟨_, run, rfl⟩ := run_map_eq_ok.mp h
    exact .table kind run
  case h_9 kind =>
    obtain ⟨_, run, rfl⟩ := run_map_eq_ok.mp h
    exact .separator kind run
  case h_10 =>
    obtain ⟨_, run, rfl⟩ := run_map_eq_ok.mp h
    exact .placeholder (by simp_all [blockKinds]) run

/-- **The runs of a node at the top** are those that `Lowered` lists. -/
theorem run_toBlocks_iff {bs : List Block} :
    n.toBlocks.run source start = .ok (bs, stop) ↔ Lowered source n start bs stop :=
  ⟨lowered_of_run_toBlocks, run_toBlocks_of_lowered⟩

end Conversion

end ContentBlocks
