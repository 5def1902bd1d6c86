import ContentBlocks.Proofs.Conversion.Quotation

/-!
# What a highlight keeps of its quotation

A quotation whose first line opens with the name of a kind, in whatever case, is a highlight of that
kind: the rest of the line is its title, and its content is the text block that the quotation would
have been otherwise, begun one key later. A quotation whose first line does not even open with
something that resembles a name is that text block itself, and looking for a highlight in it draws
no key.

## Main definitions

* `Node.OpensWith n line`: the first line of a quotation, without the blanks at its ends
* `Trigger.Names`, `Trigger.Resembles`: a keyword is the name of a kind but for the case of its
  letters, or but for letters that resemble its own

## Main results

* `Trigger.countsAs_iff_resembles`: what counts as a name is what resembles one
* `run_highlight?_of_trigger`: the highlight of a quotation that has a trigger
* `highlight_keeps_quotation`: the two ways of a quotation
-/

namespace ContentBlocks

open Conversion

/-! ### Keywords like a name -/

namespace Text

variable {c : Char}

theorem toNat_toLower_of_capital (hA : 'A' ≤ c) (hZ : c ≤ 'Z') :
    c.toLower.toNat = c.toNat + 32 := by
  have hhigh : c.toNat ≤ 90 := hZ
  have hrange : c.val ≥ 'A'.val ∧ c.val ≤ 'Z'.val := ⟨hA, hZ⟩
  have hval : c.toLower.toNat = (c.val + ('a'.val - 'A'.val)).toNat :=
    congrArg Char.toNat (dif_pos hrange)
  have hshift : ('a'.val - 'A'.val).toNat = 32 := by decide
  have hc : c.val.toNat = c.toNat := rfl
  rw [hval, UInt32.toNat_add, hshift, hc]
  omega

theorem toLower_of_not_capital (h : ¬ ('A' ≤ c ∧ c ≤ 'Z')) : c.toLower = c :=
  dif_neg h

/-- The small letter of ASCII that a letter resembles: its own for a capital, `i` for the `i` with a
dot too many or too few, and `s` for the long one. -/
def likeness (c : Char) : Char :=
  if c = 'İ' ∨ c = 'ı' then 'i' else if c = 'ſ' then 's' else c.toLower

theorem likeness_of_not_loose (h : c ∉ looseLetters) : likeness c = c.toLower := by
  simp only [looseLetters, List.mem_cons, List.not_mem_nil, or_false, not_or] at h
  rw [likeness, if_neg (not_or.mpr ⟨h.1, h.2.1⟩), if_neg h.2.2]

/-- A letter counts as what it resembles, if it is not the sign of the kelvin. -/
theorem fold_eq_likeness (h : c ≠ '\u212A') : fold c = likeness c := by
  unfold fold likeness
  simp only [h, if_false, Bool.or_eq_true, Bool.and_eq_true, decide_eq_true_eq]
  congr 2
  -- what is left is the case of a letter, which is changed in the same way on both sides
  by_cases hcapital : 'A' ≤ c ∧ c ≤ 'Z'
  · rw [if_pos hcapital, ← toNat_toLower_of_capital hcapital.1 hcapital.2, Char.ofNat_toNat]
  · rw [if_neg hcapital, toLower_of_not_capital hcapital]

end Text

namespace Trigger

open Text

variable {keyword : List Char} {kind : HighlightKind}

/-- A keyword is the name of a kind but for the case of its letters. -/
def Names (keyword : List Char) (kind : HighlightKind) : Prop :=
  keyword.map Char.toLower = kind.name.toList

/-- A keyword is the name of a kind but for letters that resemble its own. -/
def Resembles (keyword : List Char) (kind : HighlightKind) : Prop :=
  keyword.map likeness = kind.name.toList

instance : Decidable (Names keyword kind) := inferInstanceAs (Decidable (_ = _))

instance : Decidable (Resembles keyword kind) := inferInstanceAs (Decidable (_ = _))

/-- The sign of the kelvin stands in no keyword, since no name has a `k` in it. -/
theorem map_fold_eq_map_likeness
    (h : ∀ c ∈ keyword, fold c ∈ kind.name.toList ∨ likeness c ∈ kind.name.toList) :
    keyword.map fold = keyword.map likeness := by
  refine List.map_congr_left fun c hc => fold_eq_likeness ?_
  rintro rfl
  have hfold : fold '\u212A' ∉ kind.name.toList := by cases kind <;> decide
  have hlikeness : likeness '\u212A' ∉ kind.name.toList := by cases kind <;> decide
  rcases h _ hc with hmem | hmem
  · exact hfold hmem
  · exact hlikeness hmem

/-- **What counts as a name** is what resembles one. -/
theorem countsAs_iff_resembles : CountsAs keyword kind ↔ Resembles keyword kind := by
  constructor
  · intro h
    have heq := map_fold_eq_map_likeness fun c hc => .inl (h ▸ List.mem_map_of_mem hc)
    exact heq.symm.trans h
  · intro h
    have heq := map_fold_eq_map_likeness fun c hc => .inr (h ▸ List.mem_map_of_mem hc)
    exact heq.trans h

/-- A loose letter has no case in ASCII, so it stands in no name. -/
theorem Names.not_loose (h : Names keyword kind) : ∀ c ∈ keyword, c ∉ looseLetters := by
  intro c hc hloose
  have hname : c.toLower ∈ kind.name.toList := h ▸ List.mem_map_of_mem hc
  have hsmall : c.toLower ∈ asciiSmall := mem_asciiSmall_of_mem_name hname
  simp only [looseLetters, List.mem_cons, List.not_mem_nil, or_false] at hloose
  rcases hloose with rfl | rfl | rfl
  · exact absurd hsmall (by decide)
  · exact absurd hsmall (by decide)
  · exact absurd hsmall (by decide)

theorem Names.countsAs (h : Names keyword kind) : CountsAs keyword kind := by
  have heq : keyword.map likeness = keyword.map Char.toLower :=
    List.map_congr_left fun c hc => likeness_of_not_loose (h.not_loose c hc)
  exact countsAs_iff_resembles.mpr (heq.trans h)

end Trigger

/-! ### First lines -/

/-- The first line of the paragraph that a quotation begins with, as it was written, without the
blanks at its two ends. -/
def Node.OpensWith (n : Node) (line : List Char) : Prop :=
  ∃ paragraph others content more,
    n.children = paragraph :: others ∧ paragraph.kind = .paragraph ∧
      paragraph.children = content :: more ∧
      line = Text.strip (content.content.toList.takeWhile (· ≠ '\n'))

variable {n : Node} {line keyword rest : List Char} {like : HighlightKind}

theorem Node.opensWith_iff :
    n.OpensWith line ↔ ∃ raw, Trigger.lineOf? n = some raw ∧ line = Text.strip raw := by
  unfold Node.OpensWith Trigger.lineOf? Node.container?
  constructor
  · rintro ⟨paragraph, others, content, more, hchildren, kind, hcontent, hline⟩
    refine ⟨_, ?_, hline⟩
    rw [hchildren]
    dsimp only
    rw [if_pos kind, hcontent]
    rfl
  · rintro ⟨raw, hraw, hline⟩
    split at hraw
    · next paragraph others hchildren =>
      split at hraw
      · next kind =>
        obtain ⟨content, hcontent, rfl⟩ := Option.map_eq_some_iff.mp hraw
        obtain ⟨more, hmore⟩ := List.head?_eq_some_iff.mp hcontent
        exact ⟨paragraph, others, content, more, hchildren, kind, hmore, hline⟩
      · cases hraw
    · cases hraw

/-- A quotation has one first line only. -/
theorem Node.OpensWith.unique {line' : List Char} (h : n.OpensWith line)
    (h' : n.OpensWith line') : line = line' := by
  obtain ⟨raw, hraw, rfl⟩ := Node.opensWith_iff.mp h
  obtain ⟨raw', hraw', rfl⟩ := Node.opensWith_iff.mp h'
  obtain rfl : raw = raw' := Option.some.inj (hraw.symm.trans hraw')
  rfl

/-- A quotation asks for a highlight just if its first line opens with what counts as a name. -/
theorem Node.asks_iff :
    n.Asks keyword like ↔
      ∃ line rest, n.OpensWith line ∧ Trigger.Opens line keyword rest ∧
        Trigger.CountsAs keyword like := by
  simp only [Node.opensWith_iff]
  constructor
  · rintro ⟨raw, rest, hraw, hopens, hcounts⟩
    exact ⟨_, rest, ⟨raw, hraw, rfl⟩, hopens, hcounts⟩
  · rintro ⟨_, rest, ⟨raw, hraw, rfl⟩, hopens, hcounts⟩
    exact ⟨raw, rest, hraw, hopens, hcounts⟩

/-- The trigger of a quotation is read off its first line. -/
theorem Trigger.of?_of_opens (hline : n.OpensWith line) (hopens : Trigger.Opens line keyword rest)
    (hcounts : Trigger.CountsAs keyword like) :
    Trigger.of? n = some ⟨keyword, Trigger.titleOf rest⟩ := by
  obtain ⟨raw, hraw, rfl⟩ := Node.opensWith_iff.mp hline
  rw [Trigger.of?, hraw, Option.bind_some]
  exact Trigger.ofLine?_eq_some_iff.mpr ⟨like, rest, hopens, hcounts, rfl⟩

/-! ### The two ways of a quotation -/

section Runs

variable {source : Key.Source} {start : Nat}

/-- **The highlight of a quotation that has a trigger**: its key comes first, and its content is
what the quotation is as a text block from the next key on. -/
theorem run_highlight?_of_trigger {t : Trigger} (ht : Trigger.of? n = some t)
    (hkind : t.kind? = some like) :
    (highlight? n).run source start =
      match source start with
      | .error cause => .error (.keys cause)
      | .ok key =>
        ((blockquote n).run source (start + 1)).map fun (content, stop) =>
          (some ⟨key, like, t.title, [content]⟩, stop) := by
  simp only [highlight?, ht, hkind]
  rw [run_bind draw]
  cases hkey : source start with
  | error cause =>
    have hdraw : draw.run source start = .error (.keys cause) := draw_of_error hkey
    rw [hdraw]
  | ok key =>
    have hdraw : draw.run source start = .ok (key, start + 1) := draw_of_ok hkey
    rw [hdraw]
    dsimp only
    rw [run_bind (blockquote n)]
    cases (blockquote n).run source (start + 1) <;> rfl

/-- The text block of a quotation needs nothing but its keys. -/
theorem exists_run_blockquote (hs : ∀ i, ∃ key, source i = .ok key) :
    ∃ content stop, (blockquote n).run source start = .ok (content, stop) := by
  obtain ⟨content, hrun⟩ := (draws_blockquote n).ends fun i _ => hs (start + i)
  exact ⟨content, _, hrun⟩

theorem run_toBlocks_of_trigger {t : Trigger} (kind : n.kind = .blockquote)
    (ht : Trigger.of? n = some t) :
    n.toBlocks.run source start =
      ((highlight? n).run source start).map fun (b, stop) => (b.toList.map .highlight, stop) := by
  simp only [Node.toBlocks, kind]
  rw [run_bind (highlight? n)]
  cases hrun : (highlight? n).run source start with
  | error e => rfl
  | ok result =>
    obtain ⟨b, stop⟩ := result
    cases b with
    | some b => rfl
    | none =>
      rw [(run_highlight?_eq_none_iff.mp hrun).1] at ht
      cases ht

theorem run_toBlocks_of_no_trigger (kind : n.kind = .blockquote) (ht : Trigger.of? n = none) :
    n.toBlocks.run source start =
      ((blockquote n).run source start).map fun (b, stop) => ([.text b], stop) := by
  have hnone : highlight? n = pure none := by simp only [highlight?, ht]
  simp only [Node.toBlocks, kind, hnone, pure_bind]
  rw [run_bind (blockquote n)]
  cases (blockquote n).run source start <;> rfl

end Runs

/-- **A highlight keeps its quotation.** If the first line opens with the name of a kind, in
whatever case, the quotation is a highlight of that kind, with the rest of the line as its title and
with the text block that it is otherwise, begun one key later, as its content; it is found whenever
the source is never dry. If the line opens with nothing that resembles a name, no highlight is
found, whatever the source answers, and the quotation is that text block. -/
theorem highlight_keeps_quotation (kind : n.kind = .blockquote) (source : Key.Source)
    (start : Nat) :
    (∀ line keyword rest like, n.OpensWith line → Trigger.Opens line keyword rest →
      Trigger.Names keyword like →
      (highlight? n).run source start =
        (match source start with
        | .error cause => .error (.keys cause)
        | .ok key =>
          ((blockquote n).run source (start + 1)).map fun (content, stop) =>
            (some ⟨key, like, Trigger.titleOf rest, [content]⟩, stop)) ∧
      n.toBlocks.run source start =
        (((highlight? n).run source start).map fun (b, stop) =>
          (b.toList.map .highlight, stop)) ∧
      ((∀ i, ∃ key, source i = .ok key) →
        ∃ b stop, (highlight? n).run source start = .ok (some b, stop))) ∧
    ((∀ line keyword rest like, n.OpensWith line → Trigger.Opens line keyword rest →
      ¬ Trigger.Resembles keyword like) →
      (highlight? n).run source start = .ok (none, start) ∧
      n.toBlocks.run source start =
        ((blockquote n).run source start).map fun (b, stop) => ([.text b], stop)) := by
  constructor
  · intro line keyword rest like hline hopens hnames
    have ht := Trigger.of?_of_opens hline hopens hnames.countsAs
    have hkind := Trigger.kind?_eq_some_of_countsAs (t := ⟨keyword, Trigger.titleOf rest⟩)
      hnames.countsAs hnames.not_loose
    refine ⟨run_highlight?_of_trigger ht hkind, run_toBlocks_of_trigger kind ht, fun hs => ?_⟩
    obtain ⟨key, hkey⟩ := hs start
    obtain ⟨content, stop, hrun⟩ :
        ∃ content stop, (blockquote n).run source (start + 1) = .ok (content, stop) :=
      exists_run_blockquote hs
    rw [run_highlight?_of_trigger ht hkind, hkey, hrun]
    exact ⟨_, _, rfl⟩
  · intro hplain
    have ht : Trigger.of? n = none := by
      refine Trigger.of?_eq_none_of_not_asks fun keyword like hasks => ?_
      obtain ⟨line, rest, hline, hopens, hcounts⟩ := Node.asks_iff.mp hasks
      exact hplain line keyword rest like hline hopens (Trigger.countsAs_iff_resembles.mp hcounts)
    exact ⟨run_highlight?_eq_none_iff.mpr ⟨ht, rfl⟩, run_toBlocks_of_no_trigger kind ht⟩

/-- A quotation of one text, with the source line that it comes from. -/
def quotationOf (line text : String) : Node :=
  .plain .blockquote "" [.plain .paragraph "" [.plain .container line [.plain .text text []]]]

/-- A highlight in mixed case with two colons, of which one goes, and a quotation that only begins
like one. -/
theorem quotations_kept :
    ((quotationOf "**WaRNing**:: hot" "hot").OpensWith "**WaRNing**:: hot".toList ∧
      (highlight? (quotationOf "**WaRNing**:: hot" "hot")).run Key.Source.counted 4 =
        .ok (some ⟨"k4", .warning, some ": hot", [⟨"k5", .blockquote, none, none,
          [⟨"k6", "hot", []⟩]⟩]⟩, 7)) ∧
    (quotationOf "**warn**: hot" "hot").OpensWith "**warn**: hot".toList ∧
      (quotationOf "**warn**: hot" "hot").toBlocks.run Key.Source.counted 0 =
        .ok ([.text ⟨"k0", .blockquote, none, none, [⟨"k1", "hot", []⟩]⟩], 2) := by
  constructor
  · have kind : (quotationOf "**WaRNing**:: hot" "hot").kind = .blockquote := rfl
    have hline : (quotationOf "**WaRNing**:: hot" "hot").OpensWith "**WaRNing**:: hot".toList :=
      ⟨_, _, _, _, rfl, rfl, rfl, by decide⟩
    have hopens : Trigger.Opens "**WaRNing**:: hot".toList "WaRNing".toList ":: hot".toList := rfl
    have hrun := ((highlight_keeps_quotation kind Key.Source.counted 4).1 _ _ _ .warning hline
      hopens (by decide)).1
    exact ⟨hline, hrun.trans rfl⟩
  · have kind : (quotationOf "**warn**: hot" "hot").kind = .blockquote := rfl
    have hline : (quotationOf "**warn**: hot" "hot").OpensWith "**warn**: hot".toList :=
      ⟨_, _, _, _, rfl, rfl, rfl, by decide⟩
    have hopens : Trigger.Opens "**warn**: hot".toList "warn".toList ": hot".toList := rfl
    have hplain : ∀ line keyword rest like, (quotationOf "**warn**: hot" "hot").OpensWith line →
        Trigger.Opens line keyword rest → ¬ Trigger.Resembles keyword like := by
      intro line keyword rest like hline' hopens' hresembles
      obtain rfl : line = "**warn**: hot".toList := hline'.unique hline
      have hstar : '*' ∉ keyword := (Trigger.countsAs_iff_resembles.mpr hresembles).star_not_mem
      obtain ⟨rfl, -⟩ := hopens'.unique hopens hstar (by decide)
      revert hresembles
      cases like <;> decide
    exact ⟨hline, (((highlight_keeps_quotation kind Key.Source.counted 0).2 hplain).2).trans rfl⟩

end ContentBlocks
