import ContentBlocks.Block.Outline
import ContentBlocks.Block.Stats
import Mathlib.Algebra.GroupWithZero.Nat
import Mathlib.Data.List.Induction
import Mathlib.Data.List.Nodup

/-!
# Counts and the histogram of kinds

Blocks are counted twice: by the name of their kind, in the histogram, and by what they are, in the
numbers beside it. The two agree on any list of blocks, and so does the outline, as far as headings
have levels; a heading without one is counted and not listed.

## Main definitions

* `Stats.occurrences`: what the histogram says of a name
* `Stats.IsSum`, `Stats.Agree`: counts taken together, and counts that are the same
* `Block.isUnlisted`: the headings that are counted and not listed

## Main results

* `lookup_typeCounts`: the histogram has the number of occurrences of every name that occurs
* `headingCount_eq`: the headings that are counted are listed or without a level
* `counts_agree_with_histogram`: counts, histogram and outline of a list of blocks
-/

namespace ContentBlocks

variable {bs cs : List Block}

/-! ### The histogram -/

/-- What the histogram says of a name, where a name that it does not have does not occur. -/
def Stats.occurrences (s : Stats) (name : String) : Nat := (s.typeCounts.lookup name).getD 0

/-- One more occurrence of a name changes the entry of this name only. -/
theorem lookup_tally (name other : String) (counts : List (String × Nat)) :
    (tally name counts).lookup other =
      if other = name then some ((counts.lookup name).getD 0 + 1) else counts.lookup other := by
  induction counts with
  | nil =>
    by_cases h : other = name
    · simp [tally, h]
    · simp [tally, List.lookup_cons, h, beq_eq_false_iff_ne.mpr h]
  | cons entry counts ih =>
    obtain ⟨first, k⟩ := entry
    rw [tally]
    by_cases hfirst : first = name
    · subst hfirst
      rw [if_pos rfl]
      by_cases h : other = first
      · simp [h]
      · simp [List.lookup_cons, h, beq_eq_false_iff_ne.mpr h]
    · rw [if_neg hfirst, List.lookup_cons, List.lookup_cons, List.lookup_cons, ih,
        beq_eq_false_iff_ne.mpr (Ne.symm hfirst)]
      by_cases h : other = first
      · have hname : other ≠ name := fun heq => hfirst (h.symm.trans heq)
        simp [h, hfirst]
      · simp [beq_eq_false_iff_ne.mpr h]

theorem map_fst_tally (name : String) (counts : List (String × Nat)) :
    (tally name counts).map Prod.fst =
      if name ∈ counts.map Prod.fst then counts.map Prod.fst
      else counts.map Prod.fst ++ [name] := by
  induction counts with
  | nil => rfl
  | cons entry counts ih =>
    obtain ⟨first, k⟩ := entry
    rw [tally]
    by_cases hfirst : first = name
    · simp [hfirst]
    · rw [if_neg hfirst, List.map_cons, ih, List.map_cons]
      by_cases hmem : name ∈ counts.map Prod.fst
      · rw [if_pos hmem, if_pos (List.mem_cons_of_mem _ hmem)]
      · rw [if_neg hmem, if_neg (by simp [Ne.symm hfirst, hmem]), List.cons_append]

theorem sum_map_snd_tally (name : String) (counts : List (String × Nat)) :
    ((tally name counts).map Prod.snd).sum = (counts.map Prod.snd).sum + 1 := by
  induction counts with
  | nil => rfl
  | cons entry counts ih =>
    obtain ⟨first, k⟩ := entry
    rw [tally]
    split
    · simp only [List.map_cons, List.sum_cons]
      omega
    · simp only [List.map_cons, List.sum_cons, ih]
      omega

theorem typeCounts_concat (bs : List Block) (b : Block) :
    typeCounts (bs ++ [b]) = tally b.typeName (typeCounts bs) := by
  rw [typeCounts, List.foldl_concat]
  rfl

/-- **The histogram** has every name that occurs, with the number of its occurrences. -/
theorem lookup_typeCounts (bs : List Block) (name : String) :
    (typeCounts bs).lookup name =
      if name ∈ bs.map Block.typeName then some ((bs.map Block.typeName).count name)
      else none := by
  -- the last block is the last one to be tallied
  induction bs using List.reverseRecOn generalizing name with
  | nil => rfl
  | append_singleton bs b ih =>
    rw [typeCounts_concat, lookup_tally, List.map_append, List.map_singleton, List.count_append,
      List.count_singleton, ih, ih]
    by_cases hname : name = b.typeName
    · subst hname
      by_cases hmem : b.typeName ∈ bs.map Block.typeName
      · simp [hmem]
      · simp [hmem, List.count_eq_zero_of_not_mem hmem]
    · simp [hname, Ne.symm hname]

theorem nodup_names_typeCounts (bs : List Block) : ((typeCounts bs).map Prod.fst).Nodup := by
  induction bs using List.reverseRecOn with
  | nil => exact .nil
  | append_singleton bs b ih =>
    rw [typeCounts_concat, map_fst_tally]
    split
    · exact ih
    · next hnew =>
      rw [← List.concat_eq_append]
      exact ih.concat hnew

theorem sum_typeCounts (bs : List Block) : ((typeCounts bs).map Prod.snd).sum = bs.length := by
  induction bs using List.reverseRecOn with
  | nil => rfl
  | append_singleton bs b ih =>
    rw [typeCounts_concat, sum_map_snd_tally, ih, List.length_append, List.length_singleton]

theorem occurrences_stats (bs : List Block) (name : String) :
    (stats bs).occurrences name = (bs.map Block.typeName).count name := by
  rw [Stats.occurrences, show (stats bs).typeCounts = typeCounts bs from rfl, lookup_typeCounts]
  split
  · rfl
  · next hmem => rw [Option.getD_none, List.count_eq_zero_of_not_mem hmem]

/-- A count of the blocks of one kind is what the histogram has for the name of the kind. -/
theorem countP_eq_occurrences {p : Block → Bool} {name : String}
    (hp : ∀ b, p b = (b.typeName == name)) : bs.countP p = (stats bs).occurrences name := by
  rw [occurrences_stats, List.count_eq_countP, List.countP_map]
  exact List.countP_congr fun b _ => by rw [hp, Function.comp_apply]

/-! ### Headings that are listed -/

/-- A block that is counted as a heading and has no entry in the outline. -/
def Block.isUnlisted (b : Block) : Bool := b.hasHeadingStyle && !b.outlineEntry?.isSome

theorem hasHeadingStyle_of_isSome {b : Block} (h : b.outlineEntry?.isSome) :
    b.hasHeadingStyle = true := by
  cases b with
  | text t =>
    rw [Block.outlineEntry?] at h
    split at h
    · next hstyle => exact hstyle
    · cases h
  | _ => cases h

/-- A heading is listed unless it has no level. -/
theorem isUnlisted_iff {b : Block} :
    b.isUnlisted = true ↔ ∃ t, b = .text t ∧ t.style.isHeading = true ∧ t.level = none := by
  cases b with
  | text t =>
    rw [Block.isUnlisted, Block.hasHeadingStyle, Block.outlineEntry?]
    by_cases hstyle : t.style.isHeading <;> simp [hstyle]
  | _ => simp [Block.isUnlisted, Block.hasHeadingStyle]

/-- **The headings that are counted** are those that the outline lists and those without a level. -/
theorem headingCount_eq (bs : List Block) :
    (stats bs).headingCount = (outline bs).length + bs.countP Block.isUnlisted := by
  rw [outline, List.length_filterMap_eq_countP]
  show bs.countP Block.hasHeadingStyle = _
  induction bs with
  | nil => rfl
  | cons b bs ih =>
    simp only [List.countP_cons, ih, Block.isUnlisted]
    by_cases hentry : b.outlineEntry?.isSome = true
    · simp only [hentry, hasHeadingStyle_of_isSome hentry, Bool.not_true, Bool.and_false, if_true,
        Bool.false_eq_true, if_false]
      omega
    · simp only [hentry, Bool.not_false, Bool.and_true, if_false, Bool.false_eq_true]
      omega

/-! ### Blocks taken together -/

/-- Counts that are those of two others taken together. -/
structure Stats.IsSum (u s t : Stats) : Prop where
  total : u.totalBlocks = s.totalBlocks + t.totalBlocks
  occurrences : ∀ name, u.occurrences name = s.occurrences name + t.occurrences name
  headings : u.headingCount = s.headingCount + t.headingCount
  code : u.codeBlockCount = s.codeBlockCount + t.codeBlockCount
  images : u.imageCount = s.imageCount + t.imageCount
  tables : u.tableCount = s.tableCount + t.tableCount

theorem isSum_stats_append (bs cs : List Block) :
    (stats (bs ++ cs)).IsSum (stats bs) (stats cs) where
  total := List.length_append
  occurrences name := by
    rw [occurrences_stats, occurrences_stats, occurrences_stats, List.map_append,
      List.count_append]
  headings := List.countP_append
  code := List.countP_append
  images := List.countP_append
  tables := List.countP_append

/-- Counts that are the same, whatever the order of the names in the histogram. -/
structure Stats.Agree (s t : Stats) : Prop where
  total : s.totalBlocks = t.totalBlocks
  entries : ∀ name, s.typeCounts.lookup name = t.typeCounts.lookup name
  headings : s.headingCount = t.headingCount
  code : s.codeBlockCount = t.codeBlockCount
  images : s.imageCount = t.imageCount
  tables : s.tableCount = t.tableCount

theorem agree_stats_of_perm (h : bs.Perm cs) : (stats bs).Agree (stats cs) where
  total := h.length_eq
  entries name := by
    have hnames := h.map Block.typeName
    show (typeCounts bs).lookup name = (typeCounts cs).lookup name
    rw [lookup_typeCounts, lookup_typeCounts, hnames.count_eq]
    simp only [hnames.mem_iff]
  headings := h.countP_eq _
  code := h.countP_eq _
  images := h.countP_eq _
  tables := h.countP_eq _

/-! ### Counts, histogram and outline -/

/-- **Counts agree with the histogram** on every list of blocks. The histogram has exactly the names
that occur, and its numbers add up to all blocks; the counts of code, images and tables are in it.
The counts of blocks in a row are sums, and their order does not matter. There are at least as many
headings as the outline lists, and as many exactly when no heading is without a level. -/
theorem counts_agree_with_histogram (bs : List Block) :
    (stats bs).totalBlocks = bs.length ∧
      ((stats bs).typeCounts.map Prod.snd).sum = bs.length ∧
      ((stats bs).typeCounts.map Prod.fst).Nodup ∧
      (∀ name, (stats bs).typeCounts.lookup name =
        if name ∈ bs.map Block.typeName then some ((bs.map Block.typeName).count name)
        else none) ∧
      (stats bs).codeBlockCount = (stats bs).occurrences "codeBlock" ∧
      (stats bs).imageCount = (stats bs).occurrences "image" ∧
      (stats bs).tableCount = (stats bs).occurrences "table" ∧
      (∀ cs, (stats (bs ++ cs)).IsSum (stats bs) (stats cs)) ∧
      (∀ cs, bs.Perm cs → (stats bs).Agree (stats cs)) ∧
      (outline bs).length ≤ (stats bs).headingCount ∧
      ((stats bs).headingCount = (outline bs).length ↔
        ∀ t, .text t ∈ bs → t.style.isHeading = true → t.level ≠ none) ∧
      (stats bs).headingCount ≤ (stats bs).occurrences "block" := by
  refine ⟨rfl, sum_typeCounts bs, nodup_names_typeCounts bs, lookup_typeCounts bs,
    countP_eq_occurrences ?_, countP_eq_occurrences ?_, countP_eq_occurrences ?_,
    isSum_stats_append bs, fun _ => agree_stats_of_perm, ?_, ?_, ?_⟩
  · intro b
    cases b <;> rfl
  · intro b
    cases b <;> rfl
  · intro b
    cases b <;> rfl
  · rw [headingCount_eq]
    exact Nat.le_add_right _ _
  · rw [headingCount_eq, Nat.add_eq_left, List.countP_eq_zero]
    simp only [isUnlisted_iff, not_exists, not_and]
    constructor
    · intro h t ht
      exact h _ ht t rfl
    · rintro h b hb t rfl
      exact h t hb
  · have hname : ∀ b : Block, b.hasHeadingStyle = true → (b.typeName == "block") = true := by
      rintro (_ | _ | _ | _ | _ | _) h <;> first | rfl | cases h
    rw [occurrences_stats, List.count_eq_countP, List.countP_map]
    exact List.countP_mono_left fun b _ => hname b

/-- Two headings, one of them without a level, and an image between them, from either end. -/
theorem counts_of_unlevelled_heading :
    ∃ bs : List Block,
      bs = [.text ⟨"k0", .heading ⟨1, by decide, by decide⟩, none, none, [⟨"k1", "a", []⟩]⟩,
        .image ⟨"k2", "a.png", none, none⟩,
        .text ⟨"k3", .heading ⟨2, by decide, by decide⟩, some ⟨2, by decide, by decide⟩, none,
          []⟩] ∧
      bs.Perm bs.reverse ∧ (stats bs).Agree (stats bs.reverse) ∧
      (stats bs).typeCounts = [("block", 2), ("image", 1)] ∧
      (stats bs).headingCount = 2 ∧ (outline bs).length = 1 := by
  refine ⟨_, rfl, (List.reverse_perm _).symm, ?_, rfl, rfl, rfl⟩
  have hall := counts_agree_with_histogram
    [.text ⟨"k0", .heading ⟨1, by decide, by decide⟩, none, none, [⟨"k1", "a", []⟩]⟩,
      .image ⟨"k2", "a.png", none, none⟩,
      .text ⟨"k3", .heading ⟨2, by decide, by decide⟩, some ⟨2, by decide, by decide⟩, none, []⟩]
  exact hall.2.2.2.2.2.2.2.2.1 _ (List.reverse_perm _).symm

end ContentBlocks
