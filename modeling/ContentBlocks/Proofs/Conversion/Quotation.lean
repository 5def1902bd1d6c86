import ContentBlocks.Proofs.Conversion.Refusal
import ContentBlocks.Proofs.Text.Case

/-!
# Quotations

A quotation becomes one block. If its first line opens with a keyword between double asterisks that
counts as the name of a kind, the block is a highlight of that kind, and else a text block in the
style of quotations. Only the three letters that count as others when case is ignored break this:
with one of them the keyword counts as a name and is none, and the quotation is refused.

## Main definitions

* `Node.Asks n keyword kind`: a quotation asks for a highlight

## Main results

* `Trigger.kind?_eq_some_of_countsAs`, `Trigger.kind?_eq_none_of_loose`: the kind of a keyword that
  counts as a name
* `block_of_quotation`: what becomes of a quotation
-/

namespace ContentBlocks

open Conversion Schema

/-! ### Keywords that count as names -/

namespace Trigger

open Text

variable {t : Trigger} {kind : HighlightKind}

theorem mem_asciiSmall_of_mem_name {c : Char} (hc : c ∈ kind.name.toList) : c ∈ asciiSmall := by
  have hall : (kind.name.toList.all fun c => c ∈ asciiSmall) = true := by cases kind <;> decide
  exact of_decide_eq_true (List.all_eq_true.mp hall c hc)

/-- A keyword without loose letters names the kind that it counts as. -/
theorem kind?_eq_some_of_countsAs (h : CountsAs t.keyword kind)
    (hloose : ∀ c ∈ t.keyword, c ∉ looseLetters) : t.kind? = some kind := by
  have hletters : ∀ c ∈ t.keyword, fold c ∈ asciiSmall := by
    intro c hc
    exact mem_asciiSmall_of_mem_name (h ▸ List.mem_map_of_mem hc)
  have hword : t.word = kind.name := by
    rw [word, lower_eq_map_fold hletters hloose, h, String.ofList_toList]
  rw [kind?, hword]
  cases kind <;> decide

/-- A keyword with a loose letter names no kind. -/
theorem kind?_eq_none_of_loose {c : Char} (hc : c ∈ t.keyword) (hloose : c ∈ looseLetters) :
    t.kind? = none := by
  refine kind?_eq_none_iff.mpr fun kind hname => ?_
  obtain ⟨x, hx, hbeyond⟩ := exists_mem_lower_of_loose hc hloose
  exact hbeyond (mem_asciiSmall_of_mem_name (hname ▸ hx))

end Trigger

/-- The first line of a quotation opens with a keyword between double asterisks that counts as the
name of a kind when case is ignored. -/
def Node.Asks (n : Node) (keyword : List Char) (kind : HighlightKind) : Prop :=
  ∃ line rest, Trigger.lineOf? n = some line ∧
    Trigger.Opens (Text.strip line) keyword rest ∧ Trigger.CountsAs keyword kind

/-! ### What becomes of a quotation -/

section Quotation

variable {n : Node} {keyword : List Char} {like : HighlightKind} {source : Key.Source}

/-- A quotation that asks has a trigger with the keyword that it asks in, and no other. -/
theorem Node.Asks.exists_trigger (h : n.Asks keyword like) :
    ∃ t, Trigger.of? n = some t ∧ t.keyword = keyword := by
  obtain ⟨line, rest, hline, hopens, hcounts⟩ := h
  refine ⟨⟨keyword, Trigger.titleOf rest⟩, ?_, rfl⟩
  rw [Trigger.of?, hline, Option.bind_some]
  exact Trigger.ofLine?_eq_some_iff.mpr ⟨like, rest, hopens, hcounts, rfl⟩

theorem Trigger.of?_eq_none_of_not_asks (h : ∀ keyword like, ¬ n.Asks keyword like) :
    Trigger.of? n = none := by
  refine Option.eq_none_iff_forall_ne_some.mpr fun t ht => ?_
  obtain ⟨line, hline, hof⟩ := Option.bind_eq_some_iff.mp ht
  obtain ⟨like, rest, hopens, hcounts, -⟩ := Trigger.ofLine?_eq_some_iff.mp hof
  exact h t.keyword like ⟨line, rest, hline, hopens, hcounts⟩

/-- A quotation that does not ask becomes a text block. -/
theorem text_of_quotation (hs : ∀ i, ∃ key, source i = .ok key) (kind : n.kind = .blockquote)
    (hasks : ∀ keyword like, ¬ n.Asks keyword like) (start : Nat) :
    ∃ b stop, n.toBlocks.run source start = .ok ([.text b], stop) ∧ b.style = .blockquote := by
  have hplain : Trigger.of? n = none := Trigger.of?_eq_none_of_not_asks hasks
  obtain ⟨b, hrun⟩ := (draws_blockquote n).ends fun i _ => hs (start + i)
  obtain ⟨key, spans, -, -, rfl⟩ := run_blockquote_iff.mp hrun
  exact ⟨_, _, run_toBlocks_of_lowered (.blockquote kind hplain hrun), rfl⟩

/-- A quotation that asks in a keyword without loose letters becomes a highlight. -/
theorem highlight_of_quotation (hs : ∀ i, ∃ key, source i = .ok key)
    (kind : n.kind = .blockquote) (hasks : n.Asks keyword like)
    (hloose : ∀ c ∈ keyword, c ∉ Text.looseLetters) (start : Nat) :
    ∃ b stop, n.toBlocks.run source start = .ok ([.highlight b], stop) ∧ b.kind = like := by
  obtain ⟨t, ht, rfl⟩ := hasks.exists_trigger
  obtain ⟨-, -, -, -, hcounts⟩ := hasks
  have hkind : t.kind? = some like := Trigger.kind?_eq_some_of_countsAs hcounts hloose
  have hends := (draws_highlight? ht).ends fun i _ => hs (start + i)
  simp only [Trigger.refusal?, hkind] at hends
  obtain ⟨highlight, hrun⟩ := hends
  cases highlight with
  | none => exact absurd (run_highlight?_eq_none_iff.mp hrun).1 (by simp [ht])
  | some b =>
    obtain ⟨t', key, content, found, ht', -, -, hfound, rfl⟩ := run_highlight?_eq_some_iff.mp hrun
    obtain rfl : t = t' := Option.some.inj (ht.symm.trans ht')
    refine ⟨_, _, run_toBlocks_of_lowered (.highlight kind hrun), ?_⟩
    exact Option.some.inj (hfound.symm.trans hkind)

/-- A quotation that asks in a keyword with a loose letter is refused. -/
theorem refused_of_quotation (hs : ∀ i, ∃ key, source i = .ok key)
    (kind : n.kind = .blockquote) (hasks : n.Asks keyword like)
    (hloose : ∃ c ∈ keyword, c ∈ Text.looseLetters) (start : Nat) :
    n.toBlocks.run source start = .error (.invalid [⟨[.field "kind"], .notListed⟩]) := by
  obtain ⟨t, ht, rfl⟩ := hasks.exists_trigger
  obtain ⟨c, hc, hmem⟩ := hloose
  have hkind : t.kind? = none := Trigger.kind?_eq_none_of_loose hc hmem
  have hends := (draws_quotation kind).ends fun i _ => hs (start + i)
  simp only [Node.refusal?, kind, ht, Option.bind_some, Trigger.refusal?, hkind] at hends
  exact hends

end Quotation

/-- **What becomes of a quotation**, given a source that is never dry: one block, unless it asks for
a highlight in a keyword with a loose letter. -/
theorem block_of_quotation {source : Key.Source} (hs : ∀ i, ∃ key, source i = .ok key) (n : Node)
    (kind : n.kind = .blockquote) (start : Nat) :
    ((∀ keyword like, ¬ n.Asks keyword like) →
      ∃ b stop, n.toBlocks.run source start = .ok ([.text b], stop) ∧ b.style = .blockquote) ∧
    ∀ keyword like, n.Asks keyword like →
      ((∀ c ∈ keyword, c ∉ Text.looseLetters) →
        ∃ b stop, n.toBlocks.run source start = .ok ([.highlight b], stop) ∧ b.kind = like) ∧
      ((∃ c ∈ keyword, c ∈ Text.looseLetters) →
        n.toBlocks.run source start = .error (.invalid [⟨[.field "kind"], .notListed⟩])) := by
  constructor
  · intro hasks
    exact text_of_quotation hs kind hasks start
  · intro keyword like hasks
    constructor
    · intro hloose
      exact highlight_of_quotation hs kind hasks hloose start
    · intro hloose
      exact refused_of_quotation hs kind hasks hloose start

/-- A quotation that asks for a warning in capitals. -/
def warningInCapitals : Node :=
  .plain .blockquote ""
    [.plain .paragraph "" [.plain .container "**WARNING**: hot" [.plain .text "hot" []]]]

/-- A keyword in capitals makes a highlight. -/
theorem block_of_warning_in_capitals :
    warningInCapitals.kind = .blockquote ∧ (∀ i, ∃ key, Key.Source.counted i = .ok key) ∧
      warningInCapitals.Asks "WARNING".toList .warning ∧
      (∀ c ∈ "WARNING".toList, c ∉ Text.looseLetters) ∧
      ∃ b stop, warningInCapitals.toBlocks.run Key.Source.counted 0 = .ok ([.highlight b], stop) ∧
        b.kind = .warning := by
  have kind : warningInCapitals.kind = .blockquote := rfl
  have hs : ∀ i, ∃ key, Key.Source.counted i = .ok key := fun i => ⟨_, rfl⟩
  have hasks : warningInCapitals.Asks "WARNING".toList .warning :=
    ⟨_, ": hot".toList, rfl, rfl, by decide⟩
  have hloose : ∀ c ∈ "WARNING".toList, c ∉ Text.looseLetters := by
    have hall : ("WARNING".toList.all fun c => c ∉ Text.looseLetters) = true := by decide
    exact fun c hc => of_decide_eq_true (List.all_eq_true.mp hall c hc)
  exact ⟨kind, hs, hasks, hloose, ((block_of_quotation hs _ kind 0).2 _ _ hasks).1 hloose⟩

/-- A quotation that asks in a keyword with a dotless i. -/
def dotlessInfo : Node :=
  .plain .blockquote "" [.plain .paragraph "" [.plain .container "**ınfo**: a" []]]

/-- Not every quotation becomes a block: one that asks in a keyword with a dotless i does not. -/
theorem quotation_refused_at_dotless_keyword :
    ¬ ∀ (source : Key.Source) (n : Node) (start : Nat), (∀ i, ∃ key, source i = .ok key) →
      n.kind = .blockquote → ∃ b stop, n.toBlocks.run source start = .ok ([b], stop) := by
  intro h
  have hs : ∀ i, ∃ key, Key.Source.counted i = .ok key := fun i => ⟨_, rfl⟩
  have kind : dotlessInfo.kind = .blockquote := rfl
  have hasks : dotlessInfo.Asks "ınfo".toList .info := ⟨_, ": a".toList, rfl, rfl, by decide⟩
  have hloose : ∃ c ∈ "ınfo".toList, c ∈ Text.looseLetters := ⟨'ı', by decide, by decide⟩
  obtain ⟨b, stop, hrun⟩ := h Key.Source.counted dotlessInfo 0 hs kind
  rw [refused_of_quotation hs kind hasks hloose] at hrun
  cases hrun

end ContentBlocks
