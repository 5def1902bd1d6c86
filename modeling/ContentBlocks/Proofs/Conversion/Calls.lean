import ContentBlocks.Proofs.Conversion.Leaves
import Mathlib.Algebra.GroupWithZero.Nat

/-!
# The keys that conversion asks for

How often conversion calls its source, from where, and whether it ends in a failure of its own, is
read off the tree: no key has a say in it. A source that answers all these calls is asked for
nothing more, and one that fails at any of them ends the conversion there, with the failure of the
source as it is passed on from where it was called.

## Main definitions

* `Call`: where the source is called from
* `Answers source start calls`: the source answers some calls, the first of which has a number
* `Draws m calls failure`: a computation makes these calls and then fails in that way, if at all
* `Node.refusal?`: why a node cannot become blocks, if it cannot
* `Node.calls`, `callsOf`: the calls made for a node and for a document

## Main results

* `Draws.bind`, `Draws.mapM`: computations in a row
* `Draws.iterated`: computations inside of an iterator
* `draws_toBlocks`: what is drawn for a node
* `draws_convert`, `run_convert_cases`: what is drawn for a document, and how it ends
-/

namespace ContentBlocks

namespace Conversion

/-! ### Calls that are answered -/

/-- Where a key source is called from. -/
inductive Call where
  | direct
  /-- From inside of an iterator. -/
  | iterated
  deriving DecidableEq

/-- How a failure of the source at a call is passed on. -/
def Call.passOn : Call → Key.Failure → Key.Failure
  | .direct, cause => cause
  | .iterated, cause => cause.outOfIterator

/-- A failure that is passed on is the source's own, unless a call from inside of an iterator comes
to the end of the source. -/
theorem Call.passOn_eq_iff {call : Call} {cause : Key.Failure} :
    call.passOn cause = cause ↔ ¬ (call = .iterated ∧ cause = .ended) := by
  cases call <;> cases cause <;> simp [passOn, Key.Failure.outOfIterator]

section Draws

variable {α β : Type} {source : Key.Source} {start : Nat} {calls calls' : List Call}

/-- The source answers some calls, the first of which has a number. -/
def Answers (source : Key.Source) (start : Nat) (calls : List Call) : Prop :=
  ∀ i < calls.length, ∃ key, source (start + i) = .ok key

/-- The source answers the calls up to one, and fails there. -/
inductive FailsAt (source : Key.Source) (start : Nat) (calls : List Call) (call : Call)
    (cause : Key.Failure) : Prop where
  | intro (i : Nat) (called : calls[i]? = some call) (fails : source (start + i) = .error cause)
      (earlier : ∀ j < i, ∃ key, source (start + j) = .ok key)

theorem answers_nil : Answers source start [] := fun i hi => absurd hi (Nat.not_lt_zero i)

theorem answers_append :
    Answers source start (calls ++ calls') ↔
      Answers source start calls ∧ Answers source (start + calls.length) calls' := by
  unfold Answers
  rw [List.length_append]
  constructor
  · intro h
    refine ⟨fun i hi => h i (by omega), fun i hi => ?_⟩
    rw [Nat.add_assoc]
    exact h (calls.length + i) (by omega)
  · rintro ⟨hfirst, hsecond⟩ i hi
    -- a call belongs to the first part or to the second one
    by_cases hlt : i < calls.length
    · exact hfirst i hlt
    · obtain ⟨key, hkey⟩ := hsecond (i - calls.length) (by omega)
      exact ⟨key, by rw [← hkey]; congr 1; omega⟩

/-- A source that does not answer all calls fails at one of them. -/
theorem answers_or_failsAt (source : Key.Source) (start : Nat) (calls : List Call) :
    Answers source start calls ∨ ∃ call cause, FailsAt source start calls call cause := by
  induction calls generalizing start with
  | nil => exact .inl answers_nil
  | cons call calls ih =>
    cases hfirst : source start with
    | error cause => exact .inr ⟨call, cause, 0, rfl, hfirst, fun j hj => by omega⟩
    | ok key =>
      have hbefore : Answers source start [call] := by
        intro i hi
        obtain rfl : i = 0 := by simpa using hi
        exact ⟨key, hfirst⟩
      obtain hall | ⟨call', cause, i, hcall, hsource, hearlier⟩ := ih (start + 1)
      · exact .inl (answers_append.mpr ⟨hbefore, hall⟩)
      · refine .inr ⟨call', cause, i + 1, hcall, ?_, fun j hj => ?_⟩
        · rw [← hsource]
          congr 1
          omega
        · cases j with
          | zero => exact ⟨key, hfirst⟩
          | succ j =>
            rw [show start + (j + 1) = start + 1 + j by omega]
            exact hearlier j (by omega)

theorem FailsAt.not_answers {call : Call} {cause : Key.Failure}
    (h : FailsAt source start calls call cause) : ¬ Answers source start calls := by
  obtain ⟨i, hcall, hsource, -⟩ := h
  intro hall
  obtain ⟨hi, -⟩ := List.getElem?_eq_some_iff.mp hcall
  obtain ⟨key, hkey⟩ := hall i hi
  rw [hsource] at hkey
  cases hkey

/-- A call at which the source fails belongs to the first part, or to the second one when the first
one is answered. -/
theorem failsAt_append {call : Call} {cause : Key.Failure}
    (h : FailsAt source start (calls ++ calls') call cause) :
    FailsAt source start calls call cause ∨
      Answers source start calls ∧ FailsAt source (start + calls.length) calls' call cause := by
  obtain ⟨i, hcall, hsource, hearlier⟩ := h
  by_cases hlt : i < calls.length
  · rw [List.getElem?_append_left hlt] at hcall
    exact .inl ⟨i, hcall, hsource, hearlier⟩
  · rw [List.getElem?_append_right (by omega)] at hcall
    refine .inr ⟨fun j hj => hearlier j (by omega), i - calls.length, hcall, ?_, fun j hj => ?_⟩
    · rw [← hsource]
      congr 1
      omega
    · rw [Nat.add_assoc]
      exact hearlier (calls.length + j) (by omega)

/-- How a computation ends that is given all the keys it asks for. -/
def EndsWith (failure : Option Failure) (stop : Nat) (result : Except Failure (α × Nat)) : Prop :=
  match failure with
  | none => ∃ a, result = .ok (a, stop)
  | some e => result = .error e

/-- A computation that makes some calls, whatever the answers are, and then ends in a failure or
with a result. Nothing but these answers has a say in what it gives. -/
structure Draws (m : Keyed α) (calls : List Call) (failure : Option Failure) : Prop where
  ends : ∀ {source start}, Answers source start calls →
    EndsWith failure (start + calls.length) (m.run source start)
  fails : ∀ {source start call cause}, FailsAt source start calls call cause →
    m.run source start = .error (.keys (call.passOn cause))
  congr : ∀ {source source' : Key.Source} {start},
    (∀ i < calls.length, source (start + i) = source' (start + i)) →
      m.run source start = m.run source' start

theorem Draws.of_no_call {m : Keyed α} {failure : Option Failure}
    (hends : ∀ {source start}, EndsWith failure start (m.run source start))
    (hcongr : ∀ {source source' start}, m.run source start = m.run source' start) :
    Draws m [] failure where
  ends _ := hends
  fails h := absurd answers_nil h.not_answers
  congr _ := hcongr

theorem Draws.pure (a : α) : Draws (pure a) [] none := .of_no_call ⟨a, rfl⟩ rfl

theorem Draws.fail (e : Failure) : Draws (fail e : Keyed α) [] (some e) := .of_no_call rfl rfl

theorem draws_draw : Draws draw [.direct] none where
  ends h := by
    obtain ⟨key, hkey⟩ := h 0 Nat.one_pos
    exact ⟨key, run_draw_eq_ok.mpr ⟨hkey, rfl⟩⟩
  fails := by
    rintro source start call cause ⟨i, hcall, hsource, -⟩
    obtain ⟨hi, rfl⟩ := List.getElem?_eq_some_iff.mp hcall
    obtain rfl : i = 0 := by simpa using hi
    exact draw_of_error hsource
  congr {source source' start} h := by
    unfold Keyed.run draw
    rw [show source start = source' start from h 0 Nat.one_pos]

/-- A computation without a failure of its own either gets its keys or fails as the source does. -/
theorem Draws.run_cases {m : Keyed α} (h : Draws m calls none) (source : Key.Source) (start : Nat) :
    (Answers source start calls ∧ ∃ a, m.run source start = .ok (a, start + calls.length)) ∨
      ∃ call cause, FailsAt source start calls call cause ∧
        m.run source start = .error (.keys (call.passOn cause)) := by
  obtain hall | ⟨call, cause, hfails⟩ := answers_or_failsAt source start calls
  · exact .inl ⟨hall, h.ends hall⟩
  · exact .inr ⟨call, cause, hfails, h.fails hfails⟩

/-- A computation without a failure of its own has a result if it gets its keys. -/
theorem Draws.exists_run_iff {m : Keyed α} (h : Draws m calls none) (source : Key.Source)
    (start : Nat) :
    (∃ a stop, m.run source start = .ok (a, stop)) ↔ Answers source start calls := by
  obtain ⟨hall, a, hrun⟩ | ⟨call, cause, hfails, hrun⟩ := h.run_cases source start
  · exact iff_of_true ⟨a, _, hrun⟩ hall
  · exact iff_of_false (by simp [hrun]) hfails.not_answers

/-- What comes second begins where the first part ended, and depends on what that gave. -/
theorem Draws.bind_of_run {m : Keyed α} {f : α → Keyed β} {failure : Option Failure}
    (hm : Draws m calls none)
    (hf : ∀ {source start a stop}, m.run source start = .ok (a, stop) →
      Draws (f a) calls' failure) : Draws (m >>= f) (calls ++ calls') failure where
  ends {source start} h := by
    obtain ⟨hfirst, hsecond⟩ := answers_append.mp h
    obtain ⟨a, ha⟩ := hm.ends hfirst
    rw [run_bind, ha, List.length_append, ← Nat.add_assoc]
    exact (hf ha).ends hsecond
  fails {source start call cause} h := by
    rw [run_bind]
    -- if the first part gets its keys, it is in the second part that the source fails
    obtain hfirst | ⟨hfirst, hsecond⟩ := failsAt_append h
    · rw [hm.fails hfirst]
    · obtain ⟨a, ha⟩ := hm.ends hfirst
      rw [ha]
      exact (hf ha).fails hsecond
  congr {source source' start} h := by
    rw [List.length_append] at h
    rw [run_bind, run_bind, ← hm.congr fun i hi => h i (by omega)]
    obtain ⟨-, a, ha⟩ | ⟨_, _, -, hrun⟩ := hm.run_cases source start
    · rw [ha]
      refine (hf ha).congr fun i hi => ?_
      rw [Nat.add_assoc]
      exact h (calls.length + i) (by omega)
    · rw [hrun]

/-- What comes second may draw nothing. -/
theorem Draws.bind_of_run_nil {m : Keyed α} {f : α → Keyed β} {failure : Option Failure}
    (hm : Draws m calls none)
    (hf : ∀ {source start a stop}, m.run source start = .ok (a, stop) → Draws (f a) [] failure) :
    Draws (m >>= f) calls failure := by
  simpa only [List.append_nil] using hm.bind_of_run hf

theorem Draws.bind {m : Keyed α} {f : α → Keyed β} {failure : Option Failure}
    (hm : Draws m calls none) (hf : ∀ a, Draws (f a) calls' failure) :
    Draws (m >>= f) (calls ++ calls') failure :=
  hm.bind_of_run fun {_ _ a _} _ => hf a

theorem Draws.bind_nil {m : Keyed α} {f : α → Keyed β} {failure : Option Failure}
    (hm : Draws m calls none) (hf : ∀ a, Draws (f a) [] failure) :
    Draws (m >>= f) calls failure :=
  hm.bind_of_run_nil fun {_ _ a _} _ => hf a

/-- Nothing comes after a failure. -/
theorem Draws.bind_failed {m : Keyed α} {f : α → Keyed β} {e : Failure}
    (hm : Draws m calls (some e)) : Draws (m >>= f) calls (some e) where
  ends h := by
    rw [run_bind, show m.run _ _ = .error e from hm.ends h]
    rfl
  fails h := by rw [run_bind, hm.fails h]
  congr {source source' start} h := by
    rw [run_bind, run_bind, ← hm.congr h]
    obtain hall | ⟨_, _, hfails⟩ := answers_or_failsAt source start calls
    · rw [show m.run source start = .error e from hm.ends hall]
    · rw [hm.fails hfails]

theorem Draws.map {m : Keyed α} {failure : Option Failure} (hm : Draws m calls failure)
    (f : α → β) : Draws (f <$> m) calls failure := by
  rw [map_eq_pure_bind]
  cases failure with
  | none => exact hm.bind_nil fun a => .pure (f a)
  | some e => exact hm.bind_failed

theorem Draws.mapM {f : α → Keyed β} {callsFor : α → List Call} (xs : List α)
    (hf : ∀ x ∈ xs, Draws (f x) (callsFor x) none) :
    Draws (xs.mapM f) (xs.flatMap callsFor) none := by
  induction xs with
  | nil => exact .pure []
  | cons x xs ih =>
    rw [List.mapM_cons, List.flatMap_cons]
    refine (hf x List.mem_cons_self).bind fun y => ?_
    exact (ih fun x' hx' => hf x' (List.mem_cons_of_mem x hx')).bind_nil fun ys => .pure (y :: ys)

/-- Inside of an iterator the same calls are made, all of them from there. -/
theorem Draws.iterated {m : Keyed α} (hm : Draws m calls none) :
    Draws (iterated m) (calls.map fun _ => .iterated) none where
  ends {source start} h := by
    have hanswers : Answers source start calls := fun i hi => h i (by simpa using hi)
    obtain ⟨a, ha⟩ := hm.ends hanswers
    rw [List.length_map]
    exact ⟨a, run_iterated_eq_ok.mpr ha⟩
  fails := by
    rintro source start call cause ⟨i, hcall, hsource, hearlier⟩
    rw [List.getElem?_map, Option.map_eq_some_iff] at hcall
    obtain ⟨call', hcall', rfl⟩ := hcall
    have hrun : m source start = .error (.keys (call'.passOn cause)) :=
      hm.fails ⟨i, hcall', hsource, hearlier⟩
    -- it makes no difference whether the failure leaves one iterator or two
    have htwice : (call'.passOn cause).outOfIterator = cause.outOfIterator := by
      cases call' <;> cases cause <;> rfl
    show (m source start).mapError Failure.outOfIterator = _
    rw [hrun]
    exact congrArg (Except.error ∘ Failure.keys) htwice
  congr {source source' start} h := by
    have hrun : m source start = m source' start := hm.congr fun i hi => h i (by simpa using hi)
    simp only [Keyed.run, Conversion.iterated, hrun]

/-- The failure of a check whose issues end the conversion. -/
def refusalOf : Schema.Checked α → Option Failure
  | .ok _ => none
  | .error issues => some (.invalid issues)

/-- A check draws nothing. -/
theorem Draws.require_bind (checked : Schema.Checked α) {f : α → Keyed β}
    (hf : ∀ a, Draws (f a) [] none) : Draws (require checked >>= f) [] (refusalOf checked) := by
  cases checked with
  | ok a => exact hf a
  | error issues => exact (Draws.fail (.invalid issues)).bind_failed

end Draws

/-! ### What is asked for -/

/-- The calls for a text block with some nodes: one for the block and one for each leaf. -/
def textCalls (ns : List Node) : List Call :=
  .direct :: (Node.leavesOfAll ns).map fun _ => .direct

/-- The calls for a node in a cell: one for each leaf, from inside of an iterator, and then one for
their paragraph, if there are any leaves. -/
def paragraphCalls (n : Node) : List Call :=
  if n.leaves.isEmpty then [] else (n.leaves.map fun _ => .iterated) ++ [.direct]

/-- The calls for a cell: one for itself, then those of the nodes in it. -/
def cellCalls (cell : Node) : List Call :=
  .direct :: (containerNodes cell.container?).flatMap paragraphCalls

/-- The calls for a row: one for itself, then those of its cells. -/
def rowCalls (row : Node) : List Call := .direct :: row.children.flatMap cellCalls

end Conversion

open Conversion

/-- Why there is no highlight for a trigger, if there is none. -/
def Trigger.refusal? (t : Trigger) : Option Failure :=
  match t.kind? with
  | some _ => none
  | none => some (.invalid [⟨[.field "kind"], .notListed⟩])

/-- Why there is no image for a node, if there is none. -/
def Node.imageRefusal? (i : Node) : Option Failure :=
  match address? i with
  | none => some .unwritableAddress
  | some _ => refusalOf (caption i)

/-- Why a node cannot become blocks, if it cannot. -/
def Node.refusal? (n : Node) : Option Failure :=
  match n.kind with
  | .heading =>
    match tagNumber? n with
    | none => some .unreadableLevel
    | some depth => refusalOf (levelOf depth)
  | .paragraph => (loneImage? n.container?).bind Node.imageRefusal?
  | .blockquote => (Trigger.of? n).bind Trigger.refusal?
  | _ => none

/-- The calls for a node at the top of a document. -/
def Node.calls (n : Node) : List Call :=
  match n.kind with
  | .heading => if (tagNumber? n).isSome then textCalls (containerNodes n.container?) else []
  | .paragraph =>
    if (loneImage? n.container?).isSome then [.direct] else textCalls (containerNodes n.container?)
  | .fence => [.direct]
  | .indentedCode => [.direct]
  | .blockquote =>
    (if (Trigger.of? n).isSome then [.direct] else []) ++ textCalls (paragraphNodes n.children)
  | .bulletList => n.children.flatMap fun item => textCalls (paragraphNodes item.children)
  | .orderedList => n.children.flatMap fun item => textCalls (paragraphNodes item.children)
  | .table => (rowNodes n).flatMap rowCalls ++ [.direct]
  | .thematicBreak => [.direct]
  | _ => [.direct, .direct]

/-- The calls for a document. None are made for what comes after a node that cannot become
blocks. -/
def callsOf : List Node → List Call
  | [] => []
  | n :: ns => n.calls ++ if n.refusal?.isSome then [] else callsOf ns

theorem Conversion.iterated_not_mem_textCalls (ns : List Node) : Call.iterated ∉ textCalls ns := by
  simp [textCalls]

/-- Only for a table calls are made from inside of an iterator. -/
theorem kind_of_iterated_mem_calls {n : Node} (h : Call.iterated ∈ n.calls) : n.kind = .table := by
  cases hkind : n.kind with
  | table => rfl
  | heading | paragraph | blockquote =>
    rw [Node.calls, hkind] at h
    dsimp only at h
    split at h <;> simp [iterated_not_mem_textCalls] at h
  | bulletList | orderedList => simp [Node.calls, hkind, iterated_not_mem_textCalls] at h
  | _ => simp [Node.calls, hkind] at h

theorem exists_table_of_iterated_mem {ns : List Node} (h : Call.iterated ∈ callsOf ns) :
    ∃ n ∈ ns, n.kind = .table := by
  induction ns with
  | nil => cases h
  | cons n ns ih =>
    rw [callsOf, List.mem_append] at h
    obtain h | h := h
    · exact ⟨n, List.mem_cons_self, kind_of_iterated_mem_calls h⟩
    · split at h
      · cases h
      · obtain ⟨table, hmem, hkind⟩ := ih h
        exact ⟨table, List.mem_cons_of_mem n hmem, hkind⟩

namespace Conversion

variable (n : Node)

theorem draws_toSpan (l : Leaf) : Draws l.toSpan [.direct] none :=
  draws_draw.bind_nil fun key => .pure (l.span key)

theorem draws_leaves (ls : List Leaf) :
    Draws (ls.mapM Leaf.toSpan) (ls.map fun _ => .direct) none := by
  rw [List.map_eq_flatMap]
  exact Draws.mapM ls fun l _ => draws_toSpan l

theorem draws_spansOfAll (ns : List Node) :
    Draws (Node.spansOfAll ns) ((Node.leavesOfAll ns).map fun _ => .direct) none := by
  rw [spansOfAll_eq_leaves]
  exact draws_leaves _

theorem draws_textBlock {α : Type} (ns : List Node) {build : String → List Span → Keyed α}
    {failure : Option Failure} (hbuild : ∀ key spans, Draws (build key spans) [] failure) :
    Draws (do build (← draw) (← Node.spansOfAll ns)) (textCalls ns) failure :=
  draws_draw.bind fun key => (draws_spansOfAll ns).bind_nil fun spans => hbuild key spans

/-! ### Nodes, by their kinds -/

variable {n}

theorem draws_heading (kind : n.kind = .heading) : Draws (heading n) n.calls n.refusal? := by
  simp only [heading, Node.calls, Node.refusal?, kind, containerSpans_eq]
  cases tagNumber? n with
  | none => exact .fail _
  | some depth =>
    exact draws_textBlock _ fun _ _ => Draws.require_bind (levelOf depth) fun _ => .pure _

/-- An image draws its key, and only then are its address and its caption looked at. -/
theorem draws_image (i : Node) : Draws (image i) [.direct] i.imageRefusal? := by
  unfold image Node.imageRefusal?
  cases address? i with
  | none => exact draws_draw.bind fun _ => .fail _
  | some address =>
    exact draws_draw.bind fun _ => Draws.require_bind (caption i) fun _ => .pure _

theorem draws_paragraph (kind : n.kind = .paragraph) : Draws (paragraph n) n.calls n.refusal? := by
  simp only [paragraph, Node.calls, Node.refusal?, kind, containerSpans_eq]
  cases loneImage? n.container? with
  | none => exact draws_textBlock _ fun _ _ => .pure _
  | some i => exact (draws_image i).map Block.image

theorem draws_code (n : Node) : Draws (code n) [.direct] none := by
  unfold code
  generalize FenceInfo.of (if n.kind = .fence then n.info else "") = info
  exact draws_draw.bind fun _ => .pure _

theorem draws_blockquote (n : Node) :
    Draws (blockquote n) (textCalls (paragraphNodes n.children)) none := by
  rw [blockquote, paragraphSpans_eq]
  exact draws_textBlock _ fun _ _ => .pure _

theorem draws_listItem (kind : ListKind) (item : Node) :
    Draws (listItem kind item) (textCalls (paragraphNodes item.children)) none := by
  rw [listItem, paragraphSpans_eq]
  exact draws_textBlock _ fun _ _ => .pure _

theorem draws_list (n : Node) :
    Draws (list n) (n.children.flatMap fun item => textCalls (paragraphNodes item.children))
      none := by
  rw [list, listItems_eq_mapM]
  exact .mapM _ fun item _ => draws_listItem _ item

/-- A node has spans if it has leaves. -/
theorem isEmpty_of_run_spans {source : Key.Source} {start stop : Nat} {spans : List Span}
    (h : n.spans.run source start = .ok (spans, stop)) : spans.isEmpty = n.leaves.isEmpty := by
  obtain ⟨keys, -, hlen, rfl⟩ := run_spans_iff.mp h
  have hlength : (List.zipWith Leaf.span n.leaves keys).length = n.leaves.length := by
    rw [List.length_zipWith, hlen, Nat.min_self]
  rw [Bool.eq_iff_iff, List.isEmpty_iff_length_eq_zero, List.isEmpty_iff_length_eq_zero, hlength]

theorem draws_cellParagraph? (n : Node) : Draws (cellParagraph? n) (paragraphCalls n) none := by
  have hspans : Draws (iterated n.spans) (n.leaves.map fun _ => .iterated) none := by
    have hleaves := (draws_leaves n.leaves).iterated
    rw [← spans_eq_mapM, List.map_map] at hleaves
    exact hleaves
  have hempty {source : Key.Source} {start stop : Nat} {spans : List Span}
      (h : (iterated n.spans).run source start = .ok (spans, stop)) :
      spans.isEmpty = n.leaves.isEmpty := isEmpty_of_run_spans (run_iterated_eq_ok.mp h)
  unfold cellParagraph? paragraphCalls
  by_cases hl : n.leaves.isEmpty
  · rw [List.isEmpty_iff.mp hl, List.map_nil] at hspans
    rw [if_pos hl]
    refine hspans.bind_of_run_nil fun h => ?_
    rw [if_pos (hempty h ▸ hl)]
    exact .pure none
  · rw [if_neg hl]
    refine hspans.bind_of_run fun h => ?_
    rw [if_neg (hempty h ▸ hl)]
    exact draws_draw.bind_nil fun _ => .pure _

theorem draws_tableCell (cell : Node) : Draws (tableCell cell) (cellCalls cell) none := by
  rw [tableCell, cellContent_eq_mapM, cellCalls]
  refine draws_draw.bind fun _ => ?_
  exact ((Draws.mapM _ fun n _ => draws_cellParagraph? n).map _).bind_nil fun _ => .pure _

theorem draws_tableRow (row : Node) : Draws (tableRow row) (rowCalls row) none := by
  rw [tableRow, tableCells_eq_mapM, rowCalls]
  have hcells : Draws (row.children.mapM tableCell) (row.children.flatMap cellCalls) none :=
    Draws.mapM _ fun cell _ => draws_tableCell cell
  exact draws_draw.bind fun _ => hcells.bind_nil fun _ => .pure _

theorem draws_table (n : Node) :
    Draws (table n) ((rowNodes n).flatMap rowCalls ++ [.direct]) none := by
  rw [table, tableRows_eq_mapM]
  have hrows : Draws ((rowNodes n).mapM tableRow) ((rowNodes n).flatMap rowCalls) none :=
    Draws.mapM _ fun row _ => draws_tableRow row
  exact hrows.bind fun _ => draws_draw.bind_nil fun _ => .pure _

theorem draws_separator : Draws separator [.direct] none := draws_draw.bind_nil fun _ => .pure _

theorem draws_placeholder : Draws placeholder [.direct, .direct] none :=
  draws_draw.bind fun _ => draws_draw.bind_nil fun _ => .pure _

/-- A highlight draws its key and then those of its content, and only then is its kind looked
at. -/
theorem draws_highlight? {trigger : Trigger} (h : Trigger.of? n = some trigger) :
    Draws (highlight? n) ([.direct] ++ textCalls (paragraphNodes n.children))
      trigger.refusal? := by
  simp only [highlight?, h, Trigger.refusal?]
  cases trigger.kind? with
  | some kind => exact draws_draw.bind fun _ => (draws_blockquote n).bind_nil fun _ => .pure _
  | none => exact draws_draw.bind fun _ => (draws_blockquote n).bind_nil fun _ => .fail _

theorem draws_quotation (kind : n.kind = .blockquote) : Draws n.toBlocks n.calls n.refusal? := by
  simp only [Node.toBlocks, Node.calls, Node.refusal?, kind]
  cases h : Trigger.of? n with
  | none =>
    have hnone : highlight? n = pure none := by simp only [highlight?, h]
    rw [hnone, pure_bind, bind_pure_comp]
    exact (draws_blockquote n).map _
  | some trigger =>
    have hh := draws_highlight? h
    rw [Option.isSome_some, if_pos rfl, Option.bind_some]
    cases hr : trigger.refusal? with
    | none =>
      rw [hr] at hh
      refine hh.bind_of_run_nil fun {_ _ highlight _} hrun => ?_
      cases highlight with
      | some b => exact .pure _
      | none => exact absurd (run_highlight?_eq_none_iff.mp hrun).1 (by simp [h])
    | some e =>
      rw [hr] at hh
      exact hh.bind_failed

/-! ### Documents -/

/-- **What is drawn for a node** at the top of a document. -/
theorem draws_toBlocks (n : Node) : Draws n.toBlocks n.calls n.refusal? := by
  cases kind : n.kind with
  | heading =>
    simp only [Node.toBlocks, kind, bind_pure_comp]
    exact (draws_heading kind).map _
  | paragraph =>
    simp only [Node.toBlocks, kind, bind_pure_comp]
    exact (draws_paragraph kind).map _
  | blockquote => exact draws_quotation kind
  | fence | indentedCode =>
    simp only [Node.toBlocks, Node.calls, Node.refusal?, kind, bind_pure_comp]
    exact (draws_code n).map _
  | bulletList | orderedList =>
    simp only [Node.toBlocks, Node.calls, Node.refusal?, kind, bind_pure_comp]
    exact (draws_list n).map _
  | table =>
    simp only [Node.toBlocks, Node.calls, Node.refusal?, kind, bind_pure_comp]
    exact (draws_table n).map _
  | thematicBreak =>
    simp only [Node.toBlocks, Node.calls, Node.refusal?, kind, bind_pure_comp]
    exact draws_separator.map _
  | _ =>
    simp only [Node.toBlocks, Node.calls, Node.refusal?, kind, bind_pure_comp]
    exact draws_placeholder.map _

/-- **What is drawn for a document**: a node that cannot become blocks ends it. -/
theorem draws_convert (ns : List Node) :
    Draws (convert ns) (callsOf ns) (ns.findSome? Node.refusal?) := by
  induction ns with
  | nil => exact .pure []
  | cons n ns ih =>
    -- a node that is refused ends it all, and any other one is followed by the rest
    rw [convert, callsOf, List.findSome?_cons]
    have hn := draws_toBlocks n
    cases hr : n.refusal? with
    | none =>
      rw [hr] at hn
      simp only [bind_pure_comp]
      exact hn.bind fun _ => ih.map _
    | some e =>
      rw [hr] at hn
      rw [Option.isSome_some, if_pos rfl, List.append_nil]
      exact hn.bind_failed

/-- A document that gets its keys is converted if no node is refused, and otherwise fails as the
first refused node does. -/
theorem run_convert_cases {ns : List Node} {source : Key.Source} {start : Nat}
    (h : Answers source start (callsOf ns)) :
    (ns.findSome? Node.refusal? = none ∧
        ∃ bs, (convert ns).run source start = .ok (bs, start + (callsOf ns).length)) ∨
      ∃ e, ns.findSome? Node.refusal? = some e ∧ (convert ns).run source start = .error e := by
  have hends := (draws_convert ns).ends h
  cases hr : ns.findSome? Node.refusal? with
  | none =>
    rw [hr] at hends
    exact .inl ⟨rfl, hends⟩
  | some e =>
    rw [hr] at hends
    exact .inr ⟨e, rfl, hends⟩

end Conversion

end ContentBlocks
