import ContentBlocks.Proofs.Conversion.Keys
import ContentBlocks.Proofs.Conversion.Refusal
import ContentBlocks.Proofs.Conversion.Renaming
import Mathlib.Logic.Function.Basic

/-!
# Other sources and joined documents

The conversion of a document over one source of distinct keys tells what it gives over every other
source: the same with the keys exchanged for those of the other source, if that answers as many
calls as the document needs, and otherwise the failure of the source. Only where the source comes
to its end at a span of a cell, the failure is not the source's own: spans of cells are made inside
of an iterator. A document that comes after another one is a case of another source, since its
conversion goes on where the first one stopped.

## Main definitions

* `Key.Source.endless keys`: the source that never fails

## Main results

* `run_limited_eq_keys_iff`: how many answers a document needs
* `run_of_failsAt`: the failure of a document that does not get them
* `run_eq_map_rename`: what a document gives over another source
* `sources_exchanged_and_documents_joined`: all this for every source and all documents
* `not_passed_on_from_cell`: a source that ends at a span of a cell
-/

namespace ContentBlocks

/-- The source that never fails. -/
def Key.Source.endless (keys : Nat → String) : Key.Source := fun i => .ok (keys i)

namespace Conversion

variable {keys : Nat → String} {ns ns' : List Node}

/-- Distinct keys can be exchanged for any others. -/
theorem exists_renaming (distinct : Function.Injective keys) (given : Nat → String) :
    ∃ f : String → String, ∀ i, f (keys i) = given i :=
  ⟨Function.extend keys given id, distinct.extend_apply given id⟩

/-! ### How many answers are needed -/

theorem answers_endless (keys : Nat → String) (start : Nat) (calls : List Call) :
    Answers (.endless keys) start calls := fun i _ => ⟨keys (start + i), rfl⟩

theorem answers_limited_iff {most : Nat} {cause : Key.Failure} {calls : List Call} :
    Answers (.limited most cause (.endless keys)) 0 calls ↔ calls.length ≤ most := by
  constructor
  · intro h
    by_contra hlt
    obtain ⟨key, hkey⟩ := h most (by omega)
    simp [Key.Source.limited] at hkey
  · intro hle i hi
    have hlt : 0 + i < most := by omega
    exact ⟨keys (0 + i), by rw [Key.Source.limited, if_pos hlt, Key.Source.endless]⟩

/-- A node that is refused is not refused for lack of keys. -/
theorem findSome?_refusal?_ne_keys (cause : Key.Failure) :
    ns.findSome? Node.refusal? ≠ some (.keys cause) := by
  intro h
  obtain ⟨n, -, hn⟩ := List.exists_of_findSome?_eq_some h
  have hrefused : n.Refused (.keys cause) := refusal?_eq_some_iff.mp hn
  cases hrefused

/-- A document fails as its source does where this fails first, as that is passed on from there. -/
theorem run_of_failsAt {source : Key.Source} {start : Nat} {call : Call} {cause : Key.Failure}
    (h : FailsAt source start (callsOf ns) call cause) :
    (convert ns).run source start = .error (.keys (call.passOn cause)) :=
  (draws_convert ns).fails h

/-- **How many answers a document needs**: with fewer its conversion fails for the keys, with as
many it ends in some other way. -/
theorem run_limited_eq_keys_iff {most : Nat} {cause : Key.Failure} :
    (∃ passed, (convert ns).run (.limited most cause (.endless keys)) 0 = .error (.keys passed)) ↔
      most < (callsOf ns).length := by
  constructor
  · rintro ⟨passed, hrun⟩
    by_contra hle
    -- with all its answers the conversion ends on its own account, which is never for the keys
    have hanswers : Answers (.limited most cause (.endless keys)) 0 (callsOf ns) :=
      answers_limited_iff.mpr (by omega)
    obtain ⟨-, bs, hrun'⟩ | ⟨e, hr, hrun'⟩ := run_convert_cases hanswers
    · rw [hrun] at hrun'
      cases hrun'
    · rw [hrun] at hrun'
      cases hrun'
      exact findSome?_refusal?_ne_keys passed hr
  · intro hlt
    obtain hanswers | ⟨call, cause', hfails⟩ :=
      answers_or_failsAt (.limited most cause (.endless keys)) 0 (callsOf ns)
    · have hle := answers_limited_iff.mp hanswers
      omega
    · exact ⟨_, run_of_failsAt hfails⟩

theorem stop_of_run_convert {bs : List Block} {stop : Nat}
    (h : (convert ns).run (.endless keys) 0 = .ok (bs, stop)) : stop = (callsOf ns).length := by
  obtain ⟨-, bs', hrun⟩ | ⟨e, -, hrun⟩ := run_convert_cases (answers_endless keys 0 (callsOf ns))
  · rw [h] at hrun
    cases hrun
    exact Nat.zero_add _
  · rw [h] at hrun
    cases hrun

/-! ### What is given over another source -/

/-- **What a document gives over another source**, from some call on: what it gives over the first
source from the first call on, with the keys exchanged. -/
theorem run_eq_map_rename {f : String → String} {source : Key.Source} {shift : Nat}
    (hf : ∀ i < (callsOf ns).length, source (shift + i) = .ok (f (keys i))) :
    (convert ns).run source shift =
      ((convert ns).run (.endless keys) 0).map fun (bs, stop) =>
        (bs.map (Block.rename f), shift + stop) := by
  -- conversion follows a source that goes on for ever, and cannot tell it from this one
  obtain ⟨longer, hlonger⟩ : ∃ longer : Key.Source, ∀ i, longer (shift + i) = .ok (f (keys i)) :=
    ⟨fun j => .ok (f (keys (j - shift))), fun i => by dsimp only; rw [Nat.add_sub_cancel_left]⟩
  have hagree : ∀ i < (callsOf ns).length, source (shift + i) = longer (shift + i) := by
    intro i hi
    rw [hf i hi, hlonger]
  have hmap : ∀ i, longer (shift + i) = (Key.Source.endless keys i).map f := hlonger
  calc (convert ns).run source shift
      = (convert ns).run longer shift := (draws_convert ns).congr hagree
    _ = ((convert ns).run (.endless keys) 0).map fun (bs, stop) =>
          (bs.map (Block.rename f), shift + stop) := follows_convert hmap ns 0

theorem convert_append (ns ns' : List Node) :
    convert (ns ++ ns') = do return (← convert ns) ++ (← convert ns') := by
  induction ns with
  | nil => simp [convert]
  | cons n ns ih =>
    simp only [List.cons_append, convert, ih, bind_assoc, pure_bind, List.append_assoc]

/-- The second of two documents is converted where the first one stopped. -/
theorem run_convert_append {source : Key.Source} {start mid stop : Nat} {as bs : List Block}
    (h : (convert ns).run source start = .ok (as, mid))
    (h' : (convert ns').run source mid = .ok (bs, stop)) :
    (convert (ns ++ ns')).run source start = .ok (as ++ bs, stop) := by
  rw [convert_append, run_bind, h]
  dsimp only
  rw [run_bind, h']
  rfl

end Conversion

open Conversion

/-- **Sources are exchanged, and documents joined**, at no other cost than other keys. A document
makes a number of calls. Over any source that answers them it does what it does over an endless
source of distinct keys, with its keys exchanged for these answers. Over any other source it fails,
and that with the failure of the source at the first call that is not answered, except that the end
of the source at a call from inside of an iterator, which is one for a span of a cell, is passed on
as a failure of the iterator; there is no such call for a document without tables. If two documents
can be converted, the two in a row give the blocks of both, those of the second one with the keys
that follow. -/
theorem sources_exchanged_and_documents_joined {keys : Nat → String}
    (distinct : Function.Injective keys) (ns : List Node) :
    (∀ most cause,
      (∃ passed, (convert ns).run (.limited most cause (.endless keys)) 0 =
        .error (.keys passed)) ↔ most < (callsOf ns).length) ∧
    (∀ bs stop, (convert ns).run (.endless keys) 0 = .ok (bs, stop) →
      stop = (callsOf ns).length) ∧
    (∀ (source : Key.Source) (given : Nat → String),
      (∀ i < (callsOf ns).length, source i = .ok (given i)) →
      ∃ f : String → String, (∀ i, f (keys i) = given i) ∧
        (convert ns).run source 0 =
          ((convert ns).run (.endless keys) 0).map fun (bs, stop) =>
            (bs.map (Block.rename f), stop)) ∧
    (∀ (source : Key.Source) (i : Nat) (call : Call) (cause : Key.Failure),
      (∀ j < i, ∃ key, source j = .ok key) → (callsOf ns)[i]? = some call →
      source i = .error cause →
        (convert ns).run source 0 = .error (.keys (call.passOn cause)) ∧
        (call.passOn cause = cause ↔ ¬ (call = .iterated ∧ cause = .ended)) ∧
        (call = .iterated → ∃ n ∈ ns, n.kind = .table)) ∧
    ∀ (ns' : List Node) (as bs : List Block) (a b : Nat),
      (convert ns).run (.endless keys) 0 = .ok (as, a) →
      (convert ns').run (.endless keys) 0 = .ok (bs, b) →
      ∃ f : String → String, (∀ i, f (keys i) = keys (a + i)) ∧
        (convert (ns ++ ns')).run (.endless keys) 0 =
          .ok (as ++ bs.map (Block.rename f), a + b) := by
  refine ⟨fun most cause => run_limited_eq_keys_iff, fun bs stop => stop_of_run_convert, ?_, ?_, ?_⟩
  · intro source given hgiven
    obtain ⟨f, hf⟩ := exists_renaming distinct given
    refine ⟨f, hf, ?_⟩
    have hsource : ∀ i < (callsOf ns).length, source (0 + i) = .ok (f (keys i)) := by
      intro i hi
      rw [Nat.zero_add, hgiven i hi, hf]
    simpa only [Nat.zero_add] using run_eq_map_rename hsource
  · intro source i call cause hearlier hcall hsource
    refine ⟨run_of_failsAt (.intro i hcall ?_ fun j hj => ?_), Call.passOn_eq_iff, ?_⟩
    · rw [Nat.zero_add, hsource]
    · rw [Nat.zero_add]
      exact hearlier j hj
    · rintro rfl
      exact exists_table_of_iterated_mem (List.mem_of_getElem? hcall)
  · intro ns' as bs a b ha hb
    obtain ⟨f, hf⟩ := exists_renaming distinct fun i => keys (a + i)
    refine ⟨f, hf, run_convert_append ha ?_⟩
    -- the second document is converted over the same source, but from a later call on
    have hsource : ∀ i < (callsOf ns').length,
        Key.Source.endless keys (a + i) = .ok (f (keys i)) := by
      intro i _
      rw [Key.Source.endless, hf]
    rw [run_eq_map_rename hsource, hb]
    rfl

/-- The keys k0, k1, k2, … with a document that needs three of them and one that needs two. -/
theorem three_answers_then_two :
    (Function.Injective fun i : Nat => "k" ++ toString i) ∧
    (convert [.plain .thematicBreak "" [], .plain (.other "html_block") "" []]).run
        (.limited 2 .ended (.endless fun i => "k" ++ toString i)) 0 = .error (.keys .ended) ∧
    ∃ f : String → String, (∀ i : Nat, f ("k" ++ toString i) = "k" ++ toString (3 + i)) ∧
      (convert
          ([.plain .thematicBreak "" [], .plain (.other "html_block") "" []] ++
            [.plain .paragraph "" [.plain .container "" [.plain .text "a" []]]])).run
          (.endless fun i => "k" ++ toString i) 0 =
        .ok
          ([.separator "k0", .text ⟨"k1", .normal, none, none, [⟨"k2", "", []⟩]⟩] ++
            [.text ⟨"k0", .normal, none, none, [⟨"k1", "a", []⟩]⟩].map (Block.rename f),
            3 + 2) := by
  have distinct : Function.Injective fun i : Nat => "k" ++ toString i := fun i j h =>
    counted_injective i j _ rfl (congrArg Except.ok h.symm)
  obtain ⟨-, -, -, hfails, hjoined⟩ := sources_exchanged_and_documents_joined distinct
    [.plain .thematicBreak "" [], .plain (.other "html_block") "" []]
  refine ⟨distinct, ?_, hjoined _ _ _ _ _ rfl rfl⟩
  refine (hfails _ 2 .direct .ended (fun j hj => ⟨"k" ++ toString j, ?_⟩) (by decide) rfl).1
  rw [Key.Source.limited, if_pos hj, Key.Source.endless]

/-- A table with one cell that has a text in it. -/
def tableOfOneText : Node :=
  .plain .table ""
    [.plain (.other "tbody") "" [.plain (.other "tr") "" [.plain (.other "td") ""
      [.plain .container "" [.plain .text "a" []]]]]]

/-- The end of the source is not always passed on as it is: here it comes at the span of a cell. -/
theorem not_passed_on_from_cell :
    ¬ ∀ (ns : List Node) (keys : Nat → String) (most : Nat) (cause : Key.Failure),
      most < (callsOf ns).length →
        (convert ns).run (.limited most cause (.endless keys)) 0 = .error (.keys cause) := by
  intro h
  have hrun := h [tableOfOneText] (fun i => "k" ++ toString i) 2 .ended (by decide)
  cases hrun

end ContentBlocks
