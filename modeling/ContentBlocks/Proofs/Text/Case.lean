import ContentBlocks.Text.Letter
import Mathlib.Data.List.Basic

/-!
# Two ways of ignoring case

Keywords are compared by `fold`, and what they name is looked up in small letters. The two agree on
every character that counts as a small letter of ASCII, except on three: the dotted capital `İ`, the
dotless `ı` and the long `ſ` count as an `i` or an `s`, but become something else in small letters.

## Main definitions

* `looseLetters`: the three letters

## Main results

* `lower_eq_map_fold`: without these letters, a text becomes in small letters what it counts as
* `exists_mem_lower_of_loose`: with one of them, it keeps a character beyond ASCII
-/

namespace ContentBlocks.Text

variable {c : Char} {cs : List Char}

/-- The letters that count as a letter of ASCII when case is ignored, but do not become it when they
are made small. -/
def looseLetters : List Char := ['İ', 'ı', 'ſ']

/-! ### Texts in small letters -/

/-- Without the two characters that look around or grow, each character is made small by itself. -/
theorem lower_eq_map (h : ∀ c ∈ cs, c ≠ 'Σ' ∧ c ≠ 'İ') : lower cs = cs.map smallLetter := by
  suffices hafter : ∀ cased, lowerAfter cased cs = cs.map smallLetter from hafter false
  induction cs with
  | nil => exact fun _ => rfl
  | cons c cs ih =>
    intro cased
    obtain ⟨hsigma, hdotted⟩ := h c List.mem_cons_self
    rw [lowerAfter, if_neg hsigma, if_neg hdotted, List.map_cons,
      ih fun c' hc' => h c' (List.mem_cons_of_mem c hc')]

/-- What a character becomes at the front of any text, it becomes wherever it stands. -/
theorem mem_lower {x : Char} (hx : ∀ cased rest, x ∈ lowerAfter cased (c :: rest)) (hc : c ∈ cs) :
    x ∈ lower cs := by
  suffices hafter : ∀ cased, x ∈ lowerAfter cased cs from hafter false
  induction cs with
  | nil => cases hc
  | cons d cs ih =>
    intro cased
    rcases List.mem_cons.mp hc with rfl | hc
    · exact hx cased cs
    · -- whatever the first character becomes, the rest stands behind it
      have hrest := ih hc
      rw [lowerAfter]
      split
      · exact List.mem_cons_of_mem _ (hrest _)
      · split
        · exact List.mem_cons_of_mem _ (List.mem_cons_of_mem _ (hrest _))
        · exact List.mem_cons_of_mem _ (hrest _)

theorem smallLetter_mem_lower (hsigma : c ≠ 'Σ') (hdotted : c ≠ 'İ') (hc : c ∈ cs) :
    smallLetter c ∈ lower cs := by
  refine mem_lower (fun cased rest => ?_) hc
  rw [lowerAfter, if_neg hsigma, if_neg hdotted]
  exact List.mem_cons_self

/-- The dotted capital leaves its dot behind. -/
theorem dot_mem_lower (hc : 'İ' ∈ cs) : '\u0307' ∈ lower cs := by
  refine mem_lower (fun cased rest => ?_) hc
  rw [lowerAfter, if_neg (by decide), if_pos rfl]
  exact List.mem_cons_of_mem _ List.mem_cons_self

/-! ### Small letters of ASCII -/

/-- The small letters of ASCII. -/
def asciiSmall : List Char := "abcdefghijklmnopqrstuvwxyz".toList

theorem smallLetter_of_mem_asciiSmall (h : c ∈ asciiSmall) : smallLetter c = c := by
  have hall : (asciiSmall.all fun c => smallLetter c = c) = true := by decide +kernel
  exact of_decide_eq_true (List.all_eq_true.mp hall c h)

theorem smallLetter_of_asciiCapital (hA : 'A' ≤ c) (hZ : c ≤ 'Z') :
    smallLetter c = Char.ofNat (c.toNat + 32) := by
  -- the first run of the table covers all of them
  have hrun : (CaseRun.mk 0x41 0x5A 1 32).image? c.toNat = some (c.toNat + 32) := by
    have hlow : 0x41 ≤ c.toNat := hA
    have hhigh : c.toNat ≤ 0x5A := hZ
    simp only [CaseRun.image?, hlow, hhigh, Nat.mod_one, and_self, if_true]
    congr 1
  simp only [smallLetter, mapByRuns, smallRuns, List.findSome?_cons, hrun]

/-- Apart from the loose letters, what counts as a small letter becomes it. -/
theorem smallLetter_eq_fold (h : fold c ∈ asciiSmall) (hloose : c ∉ looseLetters) :
    smallLetter c = fold c := by
  simp only [looseLetters, List.mem_cons, List.not_mem_nil, or_false, not_or] at hloose
  obtain ⟨hdotted, hdotless, hlong⟩ := hloose
  simp only [fold, hdotted, hdotless, hlong, decide_false, Bool.or_self, if_false,
    Bool.false_eq_true, Bool.and_eq_true, decide_eq_true_eq] at h ⊢
  by_cases hkelvin : c = '\u212A'
  · subst hkelvin
    decide +kernel
  · rw [if_neg hkelvin] at h ⊢
    by_cases hcapital : 'A' ≤ c ∧ c ≤ 'Z'
    · rw [if_pos hcapital]
      exact smallLetter_of_asciiCapital hcapital.1 hcapital.2
    · rw [if_neg hcapital] at h ⊢
      exact smallLetter_of_mem_asciiSmall h

/-- **Without loose letters**, a text that counts as one of small letters becomes it. -/
theorem lower_eq_map_fold (h : ∀ c ∈ cs, fold c ∈ asciiSmall)
    (hloose : ∀ c ∈ cs, c ∉ looseLetters) : lower cs = cs.map fold := by
  have hplain : ∀ c ∈ cs, c ≠ 'Σ' ∧ c ≠ 'İ' := by
    intro c hc
    constructor
    · rintro rfl
      exact absurd (h _ hc) (by decide)
    · rintro rfl
      exact hloose _ hc (by decide)
  rw [lower_eq_map hplain]
  exact List.map_congr_left fun c hc => smallLetter_eq_fold (h c hc) (hloose c hc)

/-- **With a loose letter**, a text has a character beyond ASCII in small letters too. -/
theorem exists_mem_lower_of_loose (hc : c ∈ cs) (hloose : c ∈ looseLetters) :
    ∃ x ∈ lower cs, x ∉ asciiSmall := by
  simp only [looseLetters, List.mem_cons, List.not_mem_nil, or_false] at hloose
  rcases hloose with rfl | rfl | rfl
  · exact ⟨_, dot_mem_lower hc, by decide⟩
  · exact ⟨_, smallLetter_mem_lower (by decide) (by decide) hc, by decide +kernel⟩
  · exact ⟨_, smallLetter_mem_lower (by decide) (by decide) hc, by decide +kernel⟩

end ContentBlocks.Text
