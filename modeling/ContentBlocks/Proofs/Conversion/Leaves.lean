import ContentBlocks.Conversion.Notice
import ContentBlocks.Proofs.Conversion.Drawn
import Mathlib.Data.List.Induction
import Mathlib.Data.List.Nodup

/-!
# The leaves of inline text

An inline tree is a row of leaves, each under some decorations. Its spans are one for each leaf, in
order; the marks of a span are read off the way from the leaf up to the root, and a mark that is met
again is passed over. The marks are put on from the inside out, one decoration after the other, so
that the proof runs over trees that stand under further decorations.

## Main definitions

* `Leaf`: a leaf and the decorations that it stands under
* `Node.leaves`: the leaves of an inline tree
* `Leaf.ShownBy`: what the span of a leaf looks like
* `Node.undecorated`: an inline tree without its decorations

## Main results

* `spans_eq_mapM`: the spans of a tree are drawn leaf by leaf
* `spans_show_leaves`: text and marks of every span, and when a tree has spans
-/

namespace ContentBlocks

open Conversion

/-! ### Marks without repetition -/

section Repetition

variable {α : Type} [DecidableEq α]

/-- One more member at the end is kept if it is the first of its kind. -/
theorem eraseDups_concat (l : List α) (a : α) :
    (l ++ [a]).eraseDups = if a ∈ l then l.eraseDups else l.eraseDups ++ [a] := by
  rw [List.eraseDups_append, List.removeAll]
  by_cases h : a ∈ l <;> simp [h, List.eraseDups_cons]

theorem nodup_eraseDups (l : List α) : l.eraseDups.Nodup := by
  induction l using List.reverseRecOn with
  | nil => exact .nil
  | append_singleton l a ih =>
    rw [eraseDups_concat]
    split
    · exact ih
    · next h =>
      rw [List.nodup_append]
      refine ⟨ih, List.nodup_singleton a, ?_⟩
      rintro b hb _ ha rfl
      rw [List.mem_singleton.mp ha, List.mem_eraseDups] at hb
      exact h hb

end Repetition

/-! ### Leaves -/

/-- A leaf of an inline tree: the node, and the marks of the decorations above it from the innermost
to the outermost. -/
structure Leaf where
  node : Node
  above : List Mark

namespace Leaf

/-- The text of a leaf. -/
def text (l : Leaf) : String :=
  match l.node.kind with
  | .text => l.node.content
  | .codeSpan => l.node.content
  | .softBreak => "\n"
  | .hardBreak => "\n"
  | _ => ""

/-- The mark that a leaf has by itself. -/
def own (l : Leaf) : List Mark := if l.node.kind = .codeSpan then [.code] else []

/-- The marks of a leaf: its own, then those of the decorations above it, each once. -/
def marks (l : Leaf) : List Mark := (l.own ++ l.above).eraseDups

/-- A leaf under further decorations. -/
def under (outer : List Mark) (l : Leaf) : Leaf := { l with above := l.above ++ outer }

/-- The span of a leaf with a given key. -/
def span (l : Leaf) (key : String) : Span := ⟨key, l.text, l.marks⟩

/-- The span of a leaf with the next key. -/
def toSpan (l : Leaf) : Keyed Span := return l.span (← draw)

theorem nodup_marks (l : Leaf) : l.marks.Nodup := nodup_eraseDups _

/-- A decoration puts its mark on a span where it stands above the leaf. -/
theorem span_under_singleton (m : Mark) (l : Leaf) (key : String) :
    (l.under [m]).span key = (l.span key).mark m := by
  have hmem : m ∈ l.marks ↔ m ∈ l.own ++ l.above := List.mem_eraseDups
  -- `m` comes last in the row that repetitions are taken out of
  have hmarks : (l.under [m]).marks = if m ∈ l.own ++ l.above then l.marks else l.marks ++ [m] := by
    rw [marks, show (l.under [m]).own ++ (l.under [m]).above = (l.own ++ l.above) ++ [m] from
      (List.append_assoc ..).symm, eraseDups_concat]
    rfl
  by_cases h : m ∈ l.own ++ l.above
  · rw [Span.mark, if_pos (show m ∈ (l.span key).marks from hmem.mpr h), span, hmarks, if_pos h]
    rfl
  · rw [Span.mark, if_neg (show m ∉ (l.span key).marks from fun h' => h (hmem.mp h')), span,
      hmarks, if_neg h]
    rfl

end Leaf

mutual

/-- The leaves of an inline tree under some decorations. Decorations are no leaves, and a text
without characters is none. -/
def Node.leavesUnder (above : List Mark) : Node → List Leaf
  | ⟨kind, tag, content, info, attrs, children⟩ =>
    match kind.mark? with
    | some m => Node.leavesUnderAll (m :: above) children
    | none =>
      if kind = .text ∧ content = "" then []
      else [⟨⟨kind, tag, content, info, attrs, children⟩, above⟩]

/-- The leaves of inline trees in a row, under some decorations. -/
def Node.leavesUnderAll (above : List Mark) : List Node → List Leaf
  | [] => []
  | n :: ns => n.leavesUnder above ++ Node.leavesUnderAll above ns

end

/-- The leaves of an inline tree. -/
def Node.leaves (n : Node) : List Leaf := n.leavesUnder []

/-- The leaves of inline trees in a row. -/
def Node.leavesOfAll (ns : List Node) : List Leaf := Node.leavesUnderAll [] ns

theorem leavesUnder_of_mark {n : Node} {m : Mark} (hm : n.kind.mark? = some m)
    (above : List Mark) : n.leavesUnder above = Node.leavesUnderAll (m :: above) n.children := by
  cases n
  simp_all [Node.leavesUnder]

theorem leavesUnder_of_no_mark {n : Node} (hm : n.kind.mark? = none) (above : List Mark) :
    n.leavesUnder above = if n.kind = .text ∧ n.content = "" then [] else [⟨n, above⟩] := by
  cases n
  simp_all [Node.leavesUnder]

/-- A leaf is no decoration and no text without characters. -/
def Leaf.IsLeaf (l : Leaf) : Prop :=
  l.node.kind.mark? = none ∧ ¬ (l.node.kind = .text ∧ l.node.content = "")

mutual

theorem isLeaf_of_mem_leavesUnder (above : List Mark) :
    (n : Node) → ∀ l ∈ n.leavesUnder above, l.IsLeaf
  | ⟨kind, tag, content, info, attrs, children⟩ => by
    cases hm : kind.mark? with
    | some m =>
      rw [leavesUnder_of_mark hm]
      exact isLeaf_of_mem_leavesUnderAll (m :: above) children
    | none =>
      rw [leavesUnder_of_no_mark hm]
      intro l hl
      split at hl
      · cases hl
      · next h =>
        obtain rfl := List.mem_singleton.mp hl
        exact ⟨hm, h⟩

theorem isLeaf_of_mem_leavesUnderAll (above : List Mark) :
    (ns : List Node) → ∀ l ∈ Node.leavesUnderAll above ns, l.IsLeaf
  | [], l, hl => by cases hl
  | n :: ns, l, hl => by
    rw [Node.leavesUnderAll, List.mem_append] at hl
    rcases hl with hl | hl
    · exact isLeaf_of_mem_leavesUnder above n l hl
    · exact isLeaf_of_mem_leavesUnderAll above ns l hl

end

/-- A leaf without text is empty program text or a node of an unknown kind. -/
theorem Leaf.IsLeaf.of_text_eq_empty {l : Leaf} (hl : l.IsLeaf) (h : l.text = "") :
    (l.node.kind = .codeSpan ∧ l.node.content = "") ∨ isKnownLeaf l.node.kind = false := by
  obtain ⟨-, hne⟩ := hl
  unfold Leaf.text at h
  split at h
  case h_1 kind => exact absurd ⟨kind, h⟩ hne
  case h_2 kind => exact .inl ⟨kind, h⟩
  case h_3 => simp at h
  case h_4 => simp at h
  case h_5 => exact .inr (by simp_all [isKnownLeaf])

mutual

theorem leavesUnder_append (above outer : List Mark) :
    (n : Node) → n.leavesUnder (above ++ outer) = (n.leavesUnder above).map (Leaf.under outer)
  | ⟨kind, tag, content, info, attrs, children⟩ => by
    cases hm : kind.mark? with
    | some m =>
      rw [leavesUnder_of_mark hm, leavesUnder_of_mark hm]
      exact leavesUnderAll_append (m :: above) outer children
    | none =>
      rw [leavesUnder_of_no_mark hm, leavesUnder_of_no_mark hm]
      split <;> rfl

theorem leavesUnderAll_append (above outer : List Mark) :
    (ns : List Node) →
      Node.leavesUnderAll (above ++ outer) ns =
        (Node.leavesUnderAll above ns).map (Leaf.under outer)
  | [] => rfl
  | n :: ns => by
    rw [Node.leavesUnderAll, Node.leavesUnderAll, leavesUnder_append above outer n,
      leavesUnderAll_append above outer ns, List.map_append]

end

/-! ### Trees without decorations -/

mutual

/-- What is left of an inline tree when its decorations are taken off, at every depth. -/
def Node.undecorated : Node → List Node
  | ⟨kind, tag, content, info, attrs, children⟩ =>
    match kind.mark? with
    | some _ => Node.undecoratedAll children
    | none => [⟨kind, tag, content, info, attrs, children⟩]

/-- What is left of inline trees in a row. -/
def Node.undecoratedAll : List Node → List Node
  | [] => []
  | n :: ns => n.undecorated ++ Node.undecoratedAll ns

end

theorem undecorated_of_mark {n : Node} {m : Mark} (hm : n.kind.mark? = some m) :
    n.undecorated = Node.undecoratedAll n.children := by
  cases n
  simp_all [Node.undecorated]

theorem undecorated_of_no_mark {n : Node} (hm : n.kind.mark? = none) : n.undecorated = [n] := by
  cases n
  simp_all [Node.undecorated]

theorem leavesUnderAll_concat (above : List Mark) (ns ns' : List Node) :
    Node.leavesUnderAll above (ns ++ ns') =
      Node.leavesUnderAll above ns ++ Node.leavesUnderAll above ns' := by
  induction ns with
  | nil => rfl
  | cons n ns ih => rw [List.cons_append, Node.leavesUnderAll, Node.leavesUnderAll, ih,
      List.append_assoc]

mutual

/-- The leaves stay, in their order, when decorations are taken off. -/
theorem leavesUnder_undecorated (above above' : List Mark) :
    (n : Node) →
      (Node.leavesUnderAll above' n.undecorated).map Leaf.node =
        (n.leavesUnder above).map Leaf.node
  | ⟨kind, tag, content, info, attrs, children⟩ => by
    cases hm : kind.mark? with
    | some m =>
      rw [undecorated_of_mark hm, leavesUnder_of_mark hm]
      exact leavesUnderAll_undecorated (m :: above) above' children
    | none =>
      rw [undecorated_of_no_mark hm, Node.leavesUnderAll, Node.leavesUnderAll, List.append_nil,
        leavesUnder_of_no_mark hm, leavesUnder_of_no_mark hm]
      split <;> rfl

theorem leavesUnderAll_undecorated (above above' : List Mark) :
    (ns : List Node) →
      (Node.leavesUnderAll above' (Node.undecoratedAll ns)).map Leaf.node =
        (Node.leavesUnderAll above ns).map Leaf.node
  | [] => rfl
  | n :: ns => by
    rw [Node.undecoratedAll, leavesUnderAll_concat, List.map_append,
      leavesUnder_undecorated above above' n, leavesUnderAll_undecorated above above' ns,
      Node.leavesUnderAll, List.map_append]

end

/-- The texts of leaves are those of their nodes, whatever stands above. -/
theorem map_text_eq_of_map_node_eq {ls ls' : List Leaf} (h : ls.map Leaf.node = ls'.map Leaf.node) :
    ls.map Leaf.text = ls'.map Leaf.text := by
  have htext : Leaf.text = (fun n => (⟨n, []⟩ : Leaf).text) ∘ Leaf.node := rfl
  rw [htext, ← List.map_map, h, List.map_map]

/-! ### Spans -/

namespace Conversion

/-- What is done to every result of a walk may be done after the walk. -/
theorem mapM_map_eq {α β γ : Type} (f : α → Keyed β) (g : β → γ) (xs : List α) :
    xs.mapM (fun x => g <$> f x) = List.map g <$> xs.mapM f := by
  induction xs with
  | nil => rfl
  | cons x xs ih => simp [ih]

theorem toSpan_under_singleton (m : Mark) (l : Leaf) :
    (l.under [m]).toSpan = Span.mark m <$> l.toSpan := by
  simp [Leaf.toSpan, Leaf.span_under_singleton]

theorem spans_of_mark {n : Node} {m : Mark} (hm : n.kind.mark? = some m) :
    n.spans = List.map (Span.mark m) <$> Node.spansOfAll n.children := by
  cases n
  simp_all [Node.spans]

theorem spans_of_no_mark {n : Node} (hm : n.kind.mark? = none) :
    n.spans =
      if n.kind = .text ∧ n.content = "" then pure []
      else (fun s => [s]) <$> (⟨n, []⟩ : Leaf).toSpan := by
  obtain ⟨kind, tag, content, info, attrs, children⟩ := n
  unfold Node.spans
  by_cases h : kind = .text ∧ content = ""
  · obtain ⟨rfl, rfl⟩ := h
    rfl
  · rw [if_neg h]
    -- the spans of a leaf are made kind by kind, so the kinds have to be told apart
    cases kind <;>
      simp_all [NodeKind.leaf?, NodeKind.mark?, Leaf.toSpan, Leaf.span, Leaf.text, Leaf.marks,
        Leaf.own, List.eraseDups_cons]

mutual

/-- **The spans of an inline tree** are drawn leaf by leaf. -/
theorem spans_eq_mapM : (n : Node) → n.spans = n.leaves.mapM Leaf.toSpan
  | ⟨kind, tag, content, info, attrs, children⟩ => by
    cases hm : kind.mark? with
    | some m =>
      -- the decoration becomes the outermost one above every leaf of its children
      have hu : Node.leavesUnderAll [m] children =
          (Node.leavesOfAll children).map (Leaf.under [m]) := leavesUnderAll_append [] [m] children
      rw [spans_of_mark hm, Node.leaves, leavesUnder_of_mark hm, hu, List.mapM_map,
        spansOfAll_eq_leaves children, ← mapM_map_eq]
      exact congrArg (List.mapM · _) (funext fun l => (toSpan_under_singleton m l).symm)
    | none =>
      rw [spans_of_no_mark hm, Node.leaves, leavesUnder_of_no_mark hm]
      split
      · rfl
      · simp

theorem spansOfAll_eq_leaves :
    (ns : List Node) → Node.spansOfAll ns = (Node.leavesOfAll ns).mapM Leaf.toSpan
  | [] => by simp [Node.spansOfAll, Node.leavesOfAll, Node.leavesUnderAll]
  | n :: ns => by
    rw [Node.spansOfAll, spans_eq_mapM n, spansOfAll_eq_leaves ns]
    simp [Node.leavesOfAll, Node.leavesUnderAll, Node.leaves]

end

variable {source : Key.Source} {start stop : Nat} {spans : List Span}

theorem run_toSpan_iff {l : Leaf} {s : Span} :
    l.toSpan.run source start = .ok (s, stop) ↔
      ∃ key, source start = .ok key ∧ s = l.span key ∧ stop = start + 1 := by
  simp only [Leaf.toSpan, run_draw_bind_eq_ok, run_pure_eq_ok]

theorem run_mapM_toSpan_iff {ls : List Leaf} :
    (ls.mapM Leaf.toSpan).run source start = .ok (spans, stop) ↔
      ∃ keys, Drawn source start keys stop ∧ keys.length = ls.length ∧
        spans = List.zipWith Leaf.span ls keys := by
  induction ls generalizing start spans with
  | nil =>
    rw [List.mapM_nil, run_pure_eq_ok]
    constructor
    · rintro ⟨rfl, rfl⟩
      exact ⟨[], .nil _, rfl, rfl⟩
    · rintro ⟨keys, hd, hlen, rfl⟩
      obtain rfl := List.length_eq_zero_iff.mp hlen
      cases hd
      exact ⟨rfl, rfl⟩
  | cons l ls ih =>
    rw [List.mapM_cons, run_bind_eq_ok]
    simp only [run_toSpan_iff, bind_pure_comp, run_map_eq_ok, ih]
    constructor
    · rintro ⟨_, _, ⟨key, hkey, rfl, rfl⟩, _, ⟨keys, hd, hlen, rfl⟩, rfl⟩
      exact ⟨key :: keys, .cons hkey hd, by simp [hlen], rfl⟩
    · rintro ⟨keys, hd, hlen, rfl⟩
      cases hd with
      | nil => simp at hlen
      | @cons _ key keys _ hkey hd =>
        exact ⟨_, _, ⟨key, hkey, rfl, rfl⟩, _, ⟨keys, hd, by simpa using hlen, rfl⟩, rfl⟩

/-- The spans of a tree are its leaves with the next keys. -/
theorem run_spans_iff {n : Node} :
    n.spans.run source start = .ok (spans, stop) ↔
      ∃ keys, Drawn source start keys stop ∧ keys.length = n.leaves.length ∧
        spans = List.zipWith Leaf.span n.leaves keys := by
  rw [spans_eq_mapM, run_mapM_toSpan_iff]

theorem run_spansOfAll_iff {ns : List Node} :
    (Node.spansOfAll ns).run source start = .ok (spans, stop) ↔
      ∃ keys, Drawn source start keys stop ∧ keys.length = (Node.leavesOfAll ns).length ∧
        spans = List.zipWith Leaf.span (Node.leavesOfAll ns) keys := by
  rw [spansOfAll_eq_leaves, run_mapM_toSpan_iff]

theorem map_key_zipWith_span {ls : List Leaf} {keys : List String}
    (h : keys.length = ls.length) : (List.zipWith Leaf.span ls keys).map Span.key = keys := by
  induction ls generalizing keys with
  | nil => simpa [eq_comm] using h
  | cons l ls ih =>
    cases keys with
    | nil => simp at h
    | cons key keys => simp [Leaf.span, ih (by simpa using h)]

/-- What a span has without regard to its key is what its leaf has. -/
theorem map_zipWith_span {α : Type} {f : Span → α} {g : Leaf → α}
    (hfg : ∀ l key, f (l.span key) = g l) {ls : List Leaf} {keys : List String}
    (h : keys.length = ls.length) : (List.zipWith Leaf.span ls keys).map f = ls.map g := by
  induction ls generalizing keys with
  | nil => rfl
  | cons l ls ih =>
    cases keys with
    | nil => simp at h
    | cons key keys => simp [hfg, ih (by simpa using h)]

theorem map_text_zipWith_span {ls : List Leaf} {keys : List String}
    (h : keys.length = ls.length) :
    (List.zipWith Leaf.span ls keys).map Span.text = ls.map Leaf.text :=
  map_zipWith_span (fun _ _ => rfl) h

theorem forall₂_zipWith_span {R : Leaf → Span → Prop} {ls : List Leaf} {keys : List String}
    (h : keys.length = ls.length) (hR : ∀ l ∈ ls, ∀ key, R l (l.span key)) :
    List.Forall₂ R ls (List.zipWith Leaf.span ls keys) := by
  induction ls generalizing keys with
  | nil => exact .nil
  | cons l ls ih =>
    cases keys with
    | nil => simp at h
    | cons key keys =>
      exact .cons (hR l List.mem_cons_self key)
        (ih (by simpa using h) fun l' hl' => hR l' (List.mem_cons_of_mem l hl'))

theorem nodup_of_mem_zipWith_span {ls : List Leaf} {keys : List String} :
    ∀ s ∈ List.zipWith Leaf.span ls keys, s.marks.Nodup := by
  induction ls generalizing keys with
  | nil => simp
  | cons l ls ih =>
    cases keys with
    | nil => simp
    | cons key keys =>
      intro s hs
      rcases List.mem_cons.mp hs with rfl | hs
      · exact l.nodup_marks
      · exact ih s hs

end Conversion

/-- A span shows a leaf with its text and its marks. Its marks are all different, and it has a text
unless the leaf is empty program text or of an unknown kind. -/
structure Leaf.ShownBy (l : Leaf) (s : Span) : Prop where
  text : s.text = l.text
  marks : s.marks = l.marks
  nodup : s.marks.Nodup
  of_empty : s.text = "" →
    (l.node.kind = .codeSpan ∧ l.node.content = "") ∨ isKnownLeaf l.node.kind = false

theorem Leaf.IsLeaf.shownBy_span {l : Leaf} (hl : l.IsLeaf) (key : String) :
    l.ShownBy (l.span key) where
  text := rfl
  marks := rfl
  nodup := l.nodup_marks
  of_empty := hl.of_text_eq_empty

/-- **The spans of an inline tree** show its leaves, one each and in order, and are there whenever
the source has a key for each leaf. Taking off decorations, at any depth, changes neither keys nor
texts. -/
theorem spans_show_leaves (n : Node) (source : Key.Source) (start : Nat) :
    ((∃ spans stop, n.spans.run source start = .ok (spans, stop)) ↔
      ∀ i < n.leaves.length, ∃ key, source (start + i) = .ok key) ∧
    ∀ spans stop, n.spans.run source start = .ok (spans, stop) →
      stop = start + n.leaves.length ∧ List.Forall₂ Leaf.ShownBy n.leaves spans ∧
      ∃ bare, (Node.spansOfAll n.undecorated).run source start = .ok (bare, stop) ∧
        bare.map Span.key = spans.map Span.key ∧ bare.map Span.text = spans.map Span.text := by
  refine ⟨?_, fun spans stop h => ?_⟩
  · rw [← exists_drawn_iff]
    constructor
    · rintro ⟨spans, stop, h⟩
      obtain ⟨keys, hd, hlen, -⟩ := run_spans_iff.mp h
      exact ⟨keys, stop, hd, hlen⟩
    · rintro ⟨keys, stop, hd, hlen⟩
      exact ⟨_, stop, run_spans_iff.mpr ⟨keys, hd, hlen, rfl⟩⟩
  · obtain ⟨keys, hd, hlen, rfl⟩ := run_spans_iff.mp h
    have hnodes : (Node.leavesOfAll n.undecorated).map Leaf.node = n.leaves.map Leaf.node :=
      leavesUnder_undecorated [] [] n
    have hbare : keys.length = (Node.leavesOfAll n.undecorated).length := by
      rw [hlen, ← List.length_map Leaf.node, ← hnodes, List.length_map]
    refine ⟨hlen ▸ hd.stop_eq, ?_, _, run_spansOfAll_iff.mpr ⟨keys, hd, hbare, rfl⟩, ?_, ?_⟩
    · exact forall₂_zipWith_span hlen fun l hl key =>
        (isLeaf_of_mem_leavesUnder [] n l hl).shownBy_span key
    · rw [map_key_zipWith_span hbare, map_key_zipWith_span hlen]
    · rw [map_text_zipWith_span hbare, map_text_zipWith_span hlen,
        map_text_eq_of_map_node_eq hnodes]

/-- Emphasis in strong text in emphasis is marked once; program text keeps its own mark first. -/
theorem spans_of_nested_decorations :
    (Node.plain .emphasis ""
        [.plain .strong "" [.plain .emphasis "" [.plain .text "a" []], .plain .codeSpan "" []],
          .plain .softBreak "" []]).spans.run Key.Source.counted 0 =
      .ok
        ([⟨"k0", "a", [.em, .strong]⟩, ⟨"k1", "", [.code, .strong, .em]⟩, ⟨"k2", "\n", [.em]⟩],
          3) ∧
    List.Forall₂ Leaf.ShownBy
      (Node.plain .emphasis ""
        [.plain .strong "" [.plain .emphasis "" [.plain .text "a" []], .plain .codeSpan "" []],
          .plain .softBreak "" []]).leaves
      [⟨"k0", "a", [.em, .strong]⟩, ⟨"k1", "", [.code, .strong, .em]⟩, ⟨"k2", "\n", [.em]⟩] :=
  ⟨rfl, ((spans_show_leaves _ Key.Source.counted 0).2 _ 3 rfl).2.1⟩

end ContentBlocks
