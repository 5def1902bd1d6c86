import ContentBlocks.Proofs.Text.Case

/-!
# Small letters stay small

What a text becomes in small letters is made of characters that are their own small letters, so that
it stays as it is from then on. Of the two characters that take more than a look at the table
neither is left, and of the table it has to be known that no run leads to where another one begins.

## Main definitions

* `IsSmall c`: a character that stays as it is wherever it stands
* `CaseRun.misses`: a run leads to no character that another one covers

## Main results

* `image?_eq_none_of_image?`: the runs of the table miss one another
* `isSmall_of_mem_lower`: the characters of a text in small letters
* `lower_eq_self`: texts that stay as they are
-/

namespace ContentBlocks.Text

/-- A character that stays as it is in small letters, wherever it stands. -/
def IsSmall (c : Char) : Prop := smallLetter c = c ∧ c ≠ 'İ'

instance : DecidablePred IsSmall := fun _ => inferInstanceAs (Decidable (_ ∧ _))

/-! ### The table -/

section Table

variable {r r' : CaseRun} {n m : Nat}

/-- The code point that a run leads to from another one. -/
def CaseRun.imageOf (r : CaseRun) (n : Nat) : Nat := ((n : Int) + r.offset).toNat

/-- A run leads upwards, by steps of two, to code points between those that another one covers. -/
def CaseRun.between (r r' : CaseRun) : Bool :=
  (r.step == 2 || r.first == r.last) && r'.step == 2 && 0 ≤ r.offset &&
    (r.imageOf r.first + r'.first) % 2 == 1

/-- A run leads to no code point that another one covers: it leads to lower ones, to higher ones, or
to those in between. -/
def CaseRun.misses (r r' : CaseRun) : Bool :=
  (r.imageOf r.last).blt r'.first || r'.last.blt (r.imageOf r.first) || r.between r'

theorem CaseRun.image?_eq_some_iff :
    r.image? n = some m ↔
      (r.first ≤ n ∧ n ≤ r.last ∧ (n - r.first) % r.step = 0) ∧ r.imageOf n = m := by
  rw [CaseRun.image?, CaseRun.imageOf]
  split <;> simp_all

theorem CaseRun.image?_eq_none_of_misses (h : r.misses r' = true) (hn : r.image? n = some m) :
    r'.image? m = none := by
  obtain ⟨⟨hfirst, hlast, hstep⟩, hm⟩ := CaseRun.image?_eq_some_iff.mp hn
  refine if_neg fun ⟨hfirst', hlast', hstep'⟩ => ?_
  simp only [CaseRun.misses, CaseRun.between, CaseRun.imageOf, Bool.and_eq_true, Bool.or_eq_true,
    decide_eq_true_eq, beq_iff_eq, Nat.blt_eq] at h
  rw [CaseRun.imageOf] at hm
  obtain (hbelow | habove) | ⟨⟨⟨htwo | hsingle, htwo'⟩, hup⟩, hodd⟩ := h
  · omega
  · omega
  · rw [htwo] at hstep
    rw [htwo'] at hstep'
    omega
  · rw [htwo'] at hstep'
    omega

/-- The dotted capital as a run, for it is covered by none. -/
def dottedRun : CaseRun := ⟨'İ'.toNat, 'İ'.toNat, 1, 0⟩

/-- **The runs miss one another**, and the dotted capital. -/
theorem image?_eq_none_of_image? (hr : r ∈ smallRuns) (hr' : r' ∈ dottedRun :: smallRuns)
    (h : r.image? n = some m) : r'.image? m = none := by
  have hall : (smallRuns.all fun r => (dottedRun :: smallRuns).all r.misses) = true := by
    decide +kernel
  exact CaseRun.image?_eq_none_of_misses (List.all_eq_true.mp (List.all_eq_true.mp hall r hr) r' hr')
    h

end Table

/-! ### Characters -/

variable {c : Char} {cs : List Char}

/-- A character that no run covers, the dotted capital's included, stays as it is. -/
theorem isSmall_of_uncovered (h : ∀ r ∈ dottedRun :: smallRuns, r.image? c.toNat = none) :
    IsSmall c := by
  have hnone : smallRuns.findSome? (·.image? c.toNat) = none :=
    List.findSome?_eq_none_iff.mpr fun r hr => h r (List.mem_cons_of_mem _ hr)
  refine ⟨by rw [smallLetter, mapByRuns, hnone], ?_⟩
  rintro rfl
  have hdotted := h dottedRun List.mem_cons_self
  revert hdotted
  decide

theorem toNat_ofNat_cases (n : Nat) : (Char.ofNat n).toNat = n ∨ (Char.ofNat n).toNat = 0 := by
  by_cases hn : n.isValidChar
  · exact .inl (by rw [Char.ofNat, dif_pos hn]; rfl)
  · exact .inr (by rw [Char.ofNat, dif_neg hn]; rfl)

theorem isSmall_smallLetter (hdotted : c ≠ 'İ') : IsSmall (smallLetter c) := by
  cases h : smallRuns.findSome? (·.image? c.toNat) with
  | none =>
    have hsame : smallLetter c = c := by rw [smallLetter, mapByRuns, h]
    rw [hsame]
    exact ⟨hsame, hdotted⟩
  | some n =>
    obtain ⟨r, hr, himage⟩ := List.exists_of_findSome?_eq_some h
    have hsmall : smallLetter c = Char.ofNat n := by rw [smallLetter, mapByRuns, h]
    rw [hsmall]
    refine isSmall_of_uncovered fun r' hr' => ?_
    rcases toNat_ofNat_cases n with htoNat | htoNat <;> rw [htoNat]
    · exact image?_eq_none_of_image? hr hr' himage
    · -- a code point that is no character would be read as zero, which no run covers
      have hzero : ((dottedRun :: smallRuns).all fun r => (r.image? 0).isNone) = true := by
        decide +kernel
      exact Option.isNone_iff_eq_none.mp (List.all_eq_true.mp hzero r' hr')

/-! ### Texts -/

/-- **A text in small letters** is made of characters that stay as they are. -/
theorem isSmall_of_mem_lower (h : c ∈ lower cs) : IsSmall c := by
  suffices hafter : ∀ cased, c ∈ lowerAfter cased cs → IsSmall c from hafter false h
  clear h
  induction cs with
  | nil => exact fun _ h => absurd h List.not_mem_nil
  | cons d cs ih =>
    intro cased h
    rw [lowerAfter] at h
    split at h
    · rcases List.mem_cons.mp h with rfl | h
      · split <;> decide +kernel
      · exact ih _ h
    · split at h
      · rcases List.mem_cons.mp h with rfl | h
        · decide +kernel
        · rcases List.mem_cons.mp h with rfl | h
          · decide +kernel
          · exact ih _ h
      · next hdotted =>
        rcases List.mem_cons.mp h with rfl | h
        · exact isSmall_smallLetter hdotted
        · exact ih _ h

theorem IsSmall.ne_sigma (h : IsSmall c) : c ≠ 'Σ' := by
  rintro rfl
  revert h
  decide +kernel

theorem lower_eq_self (h : ∀ c ∈ cs, IsSmall c) : lower cs = cs := by
  rw [lower_eq_map fun c hc => ⟨(h c hc).ne_sigma, (h c hc).2⟩]
  exact (List.map_congr_left fun c hc => (h c hc).1).trans (List.map_id cs)

end ContentBlocks.Text
