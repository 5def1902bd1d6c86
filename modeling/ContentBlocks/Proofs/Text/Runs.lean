import ContentBlocks.Slug
import Mathlib.Data.List.Chain

/-!
# Runs of characters, joined by hyphens

The runs of a class of characters are what a text is cut into by all others. Joined by hyphens they
make a text with single hyphens and none at its ends, which is cut into the same runs again. The
same text comes about without any cutting: a hyphen is written for each row of other characters, and
those at the ends are taken off.

## Main definitions

* `CutInto p cs pieces`: a text and the maximal runs that it is cut into
* `Hyphenated p cs`: a text of some characters with single hyphens in between
* `collapse q cs`: a text with one hyphen for each row of the characters of a class
* `trimHyphens cs`: a text without the hyphens at its ends

## Main results

* `cutInto_iff`: a text is cut into its runs, and into nothing else
* `runs_hyphenate`, `hyphenated_hyphenate`: joined pieces are cut again, and are hyphenated
* `trimHyphens_collapse`: joined runs by writing hyphens
* `filter_splitOnP`: runs as the pieces between other characters
-/

namespace ContentBlocks

/-- A text and the maximal runs of a class of characters in it. Before a run there are other
characters only; there is at least one character in it, and behind it the text is at its end or goes
on with another character. -/
inductive CutInto (p : Char → Bool) : List Char → List (List Char) → Prop where
  | rest {gap} (other : ∀ c ∈ gap, p c = false) : CutInto p gap []
  | run {gap run behind pieces} (other : ∀ c ∈ gap, p c = false) (nonempty : run ≠ [])
      (within : ∀ c ∈ run, p c = true) (ends : ∀ c ∈ behind.head?, p c = false)
      (tail : CutInto p behind pieces) : CutInto p (gap ++ run ++ behind) (run :: pieces)

variable {p q : Char → Bool} {c : Char} {cs gap run behind : List Char} {pieces : List (List Char)}

/-! ### Runs -/

theorem runs_cons_of_not (h : p c = false) : runs p (c :: cs) = runs p cs := by
  conv_lhs => unfold runs
  exact if_neg (Bool.eq_false_iff.mp h)

theorem runs_append_of_gap (h : ∀ c ∈ gap, p c = false) : runs p (gap ++ cs) = runs p cs := by
  induction gap with
  | nil => rfl
  | cons c gap ih =>
    rw [List.cons_append, runs_cons_of_not (h c List.mem_cons_self),
      ih fun c' hc' => h c' (List.mem_cons_of_mem c hc')]

/-- A run goes on up to another character or to the end. -/
theorem runs_append_of_run (hne : run ≠ []) (hrun : ∀ c ∈ run, p c = true)
    (hends : ∀ c ∈ behind.head?, p c = false) : runs p (run ++ behind) = run :: runs p behind := by
  induction run with
  | nil => exact absurd rfl hne
  | cons c run ih =>
    rw [List.cons_append]
    conv_lhs => unfold runs
    refine (if_pos (hrun c List.mem_cons_self)).trans ?_
    cases run with
    | nil =>
      cases behind with
      | nil => rfl
      | cons d behind =>
        have hd : p d = false := hends d rfl
        rw [List.nil_append]
        cases runs p (d :: behind) <;> simp [hd]
    | cons d run =>
      have hd : p d = true := hrun d (by simp)
      rw [ih (List.cons_ne_nil d run) fun c' hc' => hrun c' (List.mem_cons_of_mem c hc')]
      simp [hd]

/-- The runs are what is left of a text without the other characters. -/
theorem flatten_runs (p : Char → Bool) (cs : List Char) : (runs p cs).flatten = cs.filter p := by
  induction cs with
  | nil => rfl
  | cons c cs ih =>
    unfold runs
    by_cases hc : p c
    · -- the character joins the first run after it or stands alone, and is kept in both cases
      rw [if_pos hc, List.filter_cons_of_pos hc, ← ih]
      split
      · next d _ run rest hruns =>
        rw [hruns]
        split <;> rfl
      · rfl
    · rw [if_neg hc, List.filter_cons_of_neg hc, ih]

theorem runs_eq_nil_iff : runs p cs = [] ↔ ∀ c ∈ cs, p c = false := by
  constructor
  · intro h c hc
    have hfilter : cs.filter p = [] := by rw [← flatten_runs, h, List.flatten_nil]
    exact Bool.eq_false_iff.mpr (List.filter_eq_nil_iff.mp hfilter c hc)
  · intro h
    have hgap : runs p (cs ++ []) = runs p [] := runs_append_of_gap h
    simpa [runs] using hgap

/-! ### Cutting -/

namespace CutInto

theorem runs_eq (h : CutInto p cs pieces) : runs p cs = pieces := by
  induction h with
  | rest other => exact runs_eq_nil_iff.mpr other
  | run other nonempty within ends _ ih =>
    rw [List.append_assoc, runs_append_of_gap other, runs_append_of_run nonempty within ends, ih]

theorem cons_of_not (hc : p c = false) (h : CutInto p cs pieces) : CutInto p (c :: cs) pieces := by
  cases h with
  | rest other => exact .rest (List.forall_mem_cons.mpr ⟨hc, other⟩)
  | run other nonempty within ends tail =>
    rw [← List.cons_append, ← List.cons_append]
    exact .run (List.forall_mem_cons.mpr ⟨hc, other⟩) nonempty within ends tail

/-- One more character of the class makes the first run longer, if it stands at the front, or is a
run by itself. -/
theorem exists_cons (hc : p c = true) (h : CutInto p cs pieces) :
    ∃ pieces', CutInto p (c :: cs) pieces' := by
  have hnone : ∀ c ∈ ([] : List Char), p c = false := by simp
  have halone (hends : ∀ d ∈ cs.head?, p d = false) : CutInto p ([] ++ [c] ++ cs) ([c] :: pieces) :=
    .run hnone (List.cons_ne_nil c []) (by simpa using hc) hends h
  cases h with
  | rest other => exact ⟨_, halone fun d hd => other d (List.mem_of_mem_head? hd)⟩
  | @run gap run behind _ other nonempty within ends tail =>
    cases gap with
    | nil =>
      have hlonger : CutInto p ([] ++ (c :: run) ++ behind) ((c :: run) :: _) :=
        .run hnone (List.cons_ne_nil c run) (List.forall_mem_cons.mpr ⟨hc, within⟩) ends tail
      exact ⟨_, hlonger⟩
    | cons d gap =>
      refine ⟨_, halone fun d' hd' => ?_⟩
      obtain rfl : d = d' := by simpa using hd'
      exact other d List.mem_cons_self

theorem exists_pieces (p : Char → Bool) (cs : List Char) : ∃ pieces, CutInto p cs pieces := by
  induction cs with
  | nil => exact ⟨[], .rest (by simp)⟩
  | cons c cs ih =>
    obtain ⟨pieces, h⟩ := ih
    by_cases hc : p c = true
    · exact h.exists_cons hc
    · exact ⟨pieces, h.cons_of_not (Bool.eq_false_iff.mpr hc)⟩

end CutInto

/-- **A text is cut into its runs**, and into nothing else. -/
theorem cutInto_iff : CutInto p cs pieces ↔ runs p cs = pieces := by
  refine ⟨CutInto.runs_eq, fun h => ?_⟩
  obtain ⟨pieces', h'⟩ := CutInto.exists_pieces p cs
  rw [h'.runs_eq] at h
  exact h ▸ h'

/-! ### Pieces joined by hyphens -/

/-- A piece of a class of characters: some of them, and no others. -/
def IsPiece (p : Char → Bool) (piece : List Char) : Prop := piece ≠ [] ∧ ∀ c ∈ piece, p c = true

theorem isPiece_of_mem_runs {piece : List Char} (h : piece ∈ runs p cs) : IsPiece p piece := by
  have hcut : CutInto p cs (runs p cs) := cutInto_iff.mpr rfl
  generalize runs p cs = pieces at h hcut
  induction hcut with
  | rest => cases h
  | run _ nonempty within _ _ ih =>
    rcases List.mem_cons.mp h with rfl | h
    · exact ⟨nonempty, within⟩
    · exact ih h

theorem hyphenate_eq_intercalate (pieces : List (List Char)) :
    hyphenate pieces = ['-'].intercalate pieces := by
  fun_induction hyphenate pieces with
  | case1 => rfl
  | case2 piece => rw [List.intercalate_singleton]
  | case3 piece rest hrest ih =>
    rw [List.intercalate_cons_of_ne_nil hrest, ih, List.append_assoc, List.singleton_append]

theorem mem_of_mem_hyphenate (h : c ∈ hyphenate pieces) :
    c = '-' ∨ ∃ piece ∈ pieces, c ∈ piece := by
  fun_induction hyphenate pieces with
  | case1 => cases h
  | case2 piece => exact .inr ⟨piece, List.mem_cons_self, h⟩
  | case3 piece rest _ ih =>
    rcases List.mem_append.mp h with h | h
    · exact .inr ⟨piece, List.mem_cons_self, h⟩
    · rcases List.mem_cons.mp h with h | h
      · exact .inl h
      · obtain h | ⟨piece', hmem, h⟩ := ih h
        · exact .inl h
        · exact .inr ⟨piece', List.mem_cons_of_mem _ hmem, h⟩

theorem hyphenate_eq_nil_iff (h : ∀ piece ∈ pieces, IsPiece p piece) :
    hyphenate pieces = [] ↔ pieces = [] := by
  cases pieces with
  | nil => simp [hyphenate]
  | cons piece rest =>
    have hpiece := (h piece List.mem_cons_self).1
    cases rest <;> simp [hyphenate, hpiece]

section Joined

variable (hp : p '-' = false) (h : ∀ piece ∈ pieces, IsPiece p piece)

include hp

theorem ne_hyphen_of_mem_piece {piece : List Char} (hpiece : IsPiece p piece) (hc : c ∈ piece) :
    c ≠ '-' := by
  rintro rfl
  rw [hpiece.2 '-' hc] at hp
  cases hp

include h

/-- **Joined pieces** are cut into the same pieces again. -/
theorem runs_hyphenate : runs p (hyphenate pieces) = pieces := by
  fun_induction hyphenate pieces with
  | case1 => rfl
  | case2 piece =>
    obtain ⟨hne, hwithin⟩ := h piece List.mem_cons_self
    have hrun : runs p (piece ++ []) = piece :: runs p [] :=
      runs_append_of_run hne hwithin (by simp)
    simpa [runs] using hrun
  | case3 piece rest _ ih =>
    obtain ⟨hne, hwithin⟩ := h piece List.mem_cons_self
    rw [runs_append_of_run hne hwithin (by simpa using hp), runs_cons_of_not hp,
      ih fun piece' hmem => h piece' (List.mem_cons_of_mem piece hmem)]

theorem head?_hyphenate_ne : (hyphenate pieces).head? ≠ some '-' := by
  intro hhead
  cases pieces with
  | nil => cases hhead
  | cons piece rest =>
    have hpiece := h piece List.mem_cons_self
    obtain ⟨d, piece, rfl⟩ := List.exists_cons_of_ne_nil hpiece.1
    have hd : d ≠ '-' := ne_hyphen_of_mem_piece hp hpiece List.mem_cons_self
    cases rest <;> exact hd (Option.some.inj hhead)

theorem getLast?_hyphenate_ne : (hyphenate pieces).getLast? ≠ some '-' := by
  fun_induction hyphenate pieces with
  | case1 => nofun
  | case2 piece =>
    intro hlast
    exact ne_hyphen_of_mem_piece hp (h piece List.mem_cons_self) (List.mem_of_mem_getLast? hlast) rfl
  | case3 piece rest hrest ih =>
    have hpieces : ∀ piece' ∈ rest, IsPiece p piece' := fun piece' hmem =>
      h piece' (List.mem_cons_of_mem piece hmem)
    obtain ⟨d, ds, hds⟩ := List.exists_cons_of_ne_nil ((hyphenate_eq_nil_iff hpieces).not.mpr hrest)
    -- the last character is that of the pieces behind the hyphen, of which there are some
    have hih := ih hpieces
    rw [hds] at hih
    rw [hds, List.getLast?_append_of_ne_nil _ (List.cons_ne_nil _ _), List.getLast?_cons_cons]
    exact hih

theorem isChain_hyphenate :
    (hyphenate pieces).IsChain fun a b => ¬(a = '-' ∧ b = '-') := by
  have hchain : ∀ piece ∈ pieces, piece.IsChain fun a b => ¬(a = '-' ∧ b = '-') :=
    fun piece hmem => List.Pairwise.isChain (List.pairwise_iff_forall_sublist.mpr fun hab hboth =>
      ne_hyphen_of_mem_piece hp (h piece hmem) (hab.subset List.mem_cons_self) hboth.1)
  fun_induction hyphenate pieces with
  | case1 => exact .nil
  | case2 piece => exact hchain piece List.mem_cons_self
  | case3 piece rest _ ih =>
    have hpieces : ∀ piece' ∈ rest, IsPiece p piece' := fun piece' hmem =>
      h piece' (List.mem_cons_of_mem piece hmem)
    refine List.isChain_append.mpr ⟨hchain piece List.mem_cons_self, List.isChain_cons.mpr
      ⟨fun d hd hboth => ?_, ih hpieces fun piece' hmem =>
        hchain piece' (List.mem_cons_of_mem piece hmem)⟩, fun a ha _ _ hboth => ?_⟩
    · exact head?_hyphenate_ne hp hpieces (hboth.2 ▸ hd)
    · exact ne_hyphen_of_mem_piece hp (h piece List.mem_cons_self) (List.mem_of_mem_getLast? ha)
        hboth.1

end Joined

/-- A text of some characters with single hyphens in between. -/
structure Hyphenated (p : Char → Bool) (cs : List Char) : Prop where
  chars : ∀ c ∈ cs, p c = true ∨ c = '-'
  head : cs.head? ≠ some '-'
  last : cs.getLast? ≠ some '-'
  single : ¬['-', '-'] <:+: cs

/-- **Joined pieces** have single hyphens in between, and none at their ends. -/
theorem hyphenated_hyphenate (hp : p '-' = false) (h : ∀ piece ∈ pieces, IsPiece p piece) :
    Hyphenated p (hyphenate pieces) where
  chars c hc := by
    obtain rfl | ⟨piece, hmem, hc⟩ := mem_of_mem_hyphenate hc
    · exact .inr rfl
    · exact .inl ((h piece hmem).2 c hc)
  head := head?_hyphenate_ne hp h
  last := getLast?_hyphenate_ne hp h
  single hinfix := by
    obtain ⟨before, behind, hsplit⟩ := hinfix
    have hchain := isChain_hyphenate hp h
    rw [← hsplit] at hchain
    have hpair := hchain.left_of_append.right_of_append
    simp at hpair

/-! ### Hyphens for rows of characters -/

/-- A text with one hyphen for each row of the characters of a class. It is written where the row
ends. -/
def collapse (q : Char → Bool) : List Char → List Char
  | [] => []
  | c :: cs =>
    if q c then if cs.head?.any q then collapse q cs else '-' :: collapse q cs
    else c :: collapse q cs

/-- A text without the hyphens at its two ends. -/
def trimHyphens (cs : List Char) : List Char :=
  Text.dropEndWhile (· == '-') (cs.dropWhile (· == '-'))

theorem collapse_append_of_run (h : ∀ c ∈ run, q c = false) :
    collapse q (run ++ cs) = run ++ collapse q cs := by
  induction run with
  | nil => rfl
  | cons c run ih =>
    rw [List.cons_append, collapse, if_neg (by simp [h c List.mem_cons_self]),
      ih fun c' hc' => h c' (List.mem_cons_of_mem c hc'), List.cons_append]

theorem collapse_append_of_gap (hne : gap ≠ []) (h : ∀ c ∈ gap, q c = true)
    (hends : ∀ c ∈ cs.head?, q c = false) : collapse q (gap ++ cs) = '-' :: collapse q cs := by
  induction gap with
  | nil => exact absurd rfl hne
  | cons c gap ih =>
    rw [List.cons_append, collapse, if_pos (h c List.mem_cons_self)]
    cases gap with
    | nil =>
      have hany : cs.head?.any q = false := by
        rw [Option.any_eq_false]
        intro d hd
        rw [hends d hd]
      rw [List.nil_append, hany, if_neg Bool.false_ne_true]
    | cons d gap =>
      have hd : q d = true := h d (by simp)
      rw [List.cons_append, List.head?_cons, Option.any_some, hd, if_pos rfl, ← List.cons_append]
      exact ih (List.cons_ne_nil d gap) fun c' hc' => h c' (List.mem_cons_of_mem c hc')

/-- Hyphens for all that is not in the runs of a text: at the front if it begins with another
character, between two runs, and at the end if something is left behind the last run. -/
theorem CutInto.collapse_eq (h : CutInto p cs pieces) :
    ∃ trail, (trail = [] ∨ trail = ['-']) ∧ (pieces = [] → trail = []) ∧
      collapse (fun c => !p c) cs =
        (if cs.head?.any (fun c => !p c) then ['-'] else []) ++ hyphenate pieces ++ trail := by
  induction h with
  | @rest gap other =>
    refine ⟨[], .inl rfl, fun _ => rfl, ?_⟩
    cases gap with
    | nil => rfl
    | cons c gap =>
      have hgap : collapse (fun c => !p c) (c :: gap ++ []) = '-' :: collapse (fun c => !p c) [] :=
        collapse_append_of_gap (List.cons_ne_nil c gap) (by simpa using other) (by simp)
      simpa [hyphenate, collapse, other c List.mem_cons_self] using hgap
  | @run gap run behind pieces other nonempty within ends tail ih =>
    obtain ⟨trail, htrail, hnil, ih⟩ := ih
    obtain ⟨d, run, rfl⟩ := List.exists_cons_of_ne_nil nonempty
    have hd : p d = true := within d List.mem_cons_self
    have hrun : collapse (fun c => !p c) (d :: run ++ behind) =
        d :: run ++ collapse (fun c => !p c) behind :=
      collapse_append_of_run (by simpa using within)
    -- what is behind the run gives the rest, and begins with a hyphen if there is anything
    obtain ⟨trail', htrail', hrest⟩ : ∃ trail', (trail' = [] ∨ trail' = ['-']) ∧
        d :: run ++ collapse (fun c => !p c) behind =
          hyphenate ((d :: run) :: pieces) ++ trail' := by
      cases behind with
      | nil =>
        obtain rfl : pieces = [] := tail.runs_eq.symm
        exact ⟨[], .inl rfl, by simp [hyphenate, collapse]⟩
      | cons e behind =>
        have he : p e = false := ends e rfl
        cases pieces with
        | nil =>
          rw [hnil rfl] at ih
          exact ⟨['-'], .inr rfl, by simp [ih, hyphenate, he]⟩
        | cons piece pieces => exact ⟨trail, htrail, by simp [ih, hyphenate, he]⟩
    refine ⟨trail', htrail', nofun, ?_⟩
    cases gap with
    | nil => simpa [hd, hrest] using hrun
    | cons c gap =>
      have hgap : collapse (fun c => !p c) (c :: gap ++ (d :: run ++ behind)) =
          '-' :: collapse (fun c => !p c) (d :: run ++ behind) :=
        collapse_append_of_gap (List.cons_ne_nil c gap) (by simpa using other) (by simpa using hd)
      rw [hrun, hrest] at hgap
      simpa [other c List.mem_cons_self] using hgap

theorem dropWhile_hyphens {hyphens : List Char} (h : ∀ c ∈ hyphens, c = '-')
    (hcs : cs.head? ≠ some '-') : (hyphens ++ cs).dropWhile (· == '-') = cs := by
  rw [List.dropWhile_append_of_pos fun c hc => beq_iff_eq.mpr (h c hc)]
  cases cs with
  | nil => rfl
  | cons c cs =>
    refine List.dropWhile_cons_of_neg fun hc => hcs ?_
    rw [List.head?_cons, eq_of_beq hc]

theorem trimHyphens_of_hyphenated {lead trail : List Char} (hlead : ∀ c ∈ lead, c = '-')
    (htrail : ∀ c ∈ trail, c = '-') (h : Hyphenated p cs) :
    trimHyphens (lead ++ cs ++ trail) = cs := by
  rw [trimHyphens, Text.dropEndWhile, List.append_assoc]
  by_cases hcs : cs = []
  · -- nothing but hyphens is left, and all of it is taken off the front
    have hall : (lead ++ trail ++ []).dropWhile (· == '-') = [] :=
      dropWhile_hyphens (List.forall_mem_append.mpr ⟨hlead, htrail⟩) nofun
    rw [List.append_nil] at hall
    rw [hcs, List.nil_append, hall]
    rfl
  · have hhead : (cs ++ trail).head? ≠ some '-' := by
      rw [List.head?_append_of_ne_nil _ hcs]
      exact h.head
    have hlast : cs.reverse.head? ≠ some '-' := by
      rw [List.head?_reverse]
      exact h.last
    rw [dropWhile_hyphens hlead hhead, List.reverse_append,
      dropWhile_hyphens (fun c hc => htrail c (List.mem_reverse.mp hc)) hlast, List.reverse_reverse]

/-- **Joined runs** by writing one hyphen for each row of other characters. -/
theorem trimHyphens_collapse (hp : p '-' = false) (cs : List Char) :
    trimHyphens (collapse (fun c => !p c) cs) = hyphenate (runs p cs) := by
  obtain ⟨trail, htrail, -, hcollapse⟩ := (cutInto_iff.mpr (rfl : runs p cs = _)).collapse_eq
  rw [hcollapse]
  refine trimHyphens_of_hyphenated ?_ ?_
    (hyphenated_hyphenate hp fun piece hmem => isPiece_of_mem_runs hmem)
  · intro c hc
    split at hc
    · exact List.mem_singleton.mp hc
    · cases hc
  · rcases htrail with rfl | rfl <;> simp

/-- A hyphen comes first where a row or a hyphen did. -/
theorem any_head?_collapse (q : Char → Bool) (cs : List Char) :
    (collapse q cs).head?.any (· == '-') = cs.head?.any fun c => q c || c == '-' := by
  induction cs with
  | nil => rfl
  | cons c cs ih =>
    rw [collapse, List.head?_cons, Option.any_some]
    by_cases hc : q c = true
    · rw [if_pos hc, hc, Bool.true_or]
      cases cs with
      | nil => rfl
      | cons d cs =>
        rw [List.head?_cons, Option.any_some]
        by_cases hd : q d = true
        · rw [if_pos hd, ih, List.head?_cons, Option.any_some, hd, Bool.true_or]
        · rw [if_neg hd]
          rfl
    · rw [if_neg hc, Bool.eq_false_iff.mpr hc, Bool.false_or]
      rfl

/-- Hyphens may be written in two rounds, in the second one for those of the first. -/
theorem collapse_collapse (q : Char → Bool) (cs : List Char) :
    collapse (· == '-') (collapse q cs) = collapse (fun c => q c || c == '-') cs := by
  induction cs with
  | nil => rfl
  | cons c cs ih =>
    have hhead := any_head?_collapse q cs
    by_cases hc : q c = true
    · have hrow : cs.head?.any q = true → cs.head?.any (fun c => q c || c == '-') = true := by
        simp only [Option.any_eq_true]
        rintro ⟨d, hd, hq⟩
        exact ⟨d, hd, by rw [hq, Bool.true_or]⟩
      rw [collapse, if_pos hc]
      conv_rhs => rw [collapse, hc, Bool.true_or, if_pos rfl]
      by_cases hnext : cs.head?.any q = true
      · rw [if_pos hnext, if_pos (hrow hnext), ih]
      · rw [if_neg hnext, collapse, hhead, ih]
        rfl
    · rw [collapse, if_neg hc]
      conv_lhs => rw [collapse]
      conv_rhs => rw [collapse]
      rw [hhead, ih, Bool.eq_false_iff.mpr hc, Bool.false_or]

/-- **Runs are the pieces** between other characters, the empty ones left out. -/
theorem filter_splitOnP (p : Char → Bool) (cs : List Char) :
    (cs.splitOnP fun c => !p c).filter (!·.isEmpty) = runs p cs := by
  have hcut : CutInto p cs (runs p cs) := cutInto_iff.mpr rfl
  generalize runs p cs = pieces at hcut
  have hgap : ∀ {gap cs : List Char}, (∀ c ∈ gap, p c = false) →
      ((gap ++ cs).splitOnP fun c => !p c).filter (!·.isEmpty) =
        (cs.splitOnP fun c => !p c).filter (!·.isEmpty) := by
    intro gap cs hgap
    induction gap with
    | nil => rfl
    | cons c gap ih =>
      rw [List.cons_append, List.splitOnP_cons_eq_if_modifyHead, hgap c List.mem_cons_self]
      simpa using ih fun c' hc' => hgap c' (List.mem_cons_of_mem c hc')
  induction hcut with
  | @rest gap other =>
    have hnone : ((gap ++ []).splitOnP fun c => !p c).filter (!·.isEmpty) =
        (([] : List Char).splitOnP fun c => !p c).filter (!·.isEmpty) := hgap other
    simpa [List.splitOnP_nil] using hnone
  | @run gap run behind pieces other nonempty within ends _ ih =>
    rw [List.append_assoc, hgap other]
    cases behind with
    | nil =>
      rw [List.append_nil, List.splitOnP_eq_singleton (by simpa using within)]
      simpa [nonempty, List.splitOnP_nil] using ih
    | cons d behind =>
      have hd : p d = false := ends d rfl
      rw [List.splitOnP_append_cons_of_forall_mem (by simpa using within) d (by simp [hd])]
      rw [List.splitOnP_cons_eq_if_modifyHead, hd] at ih
      simpa [nonempty] using ih

end ContentBlocks
