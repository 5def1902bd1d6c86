import ContentBlocks.Proofs.Text.Lower
import ContentBlocks.Proofs.Text.Runs

/-!
# Anchors and slugs

An anchor joins the runs of its characters in a text in small letters, and a slug the words that are
left of the text without its punctuation. Both are names that stay as they are when a name is made
of them again: their characters are small already, they are all of the kind that is kept, and the
hyphens fall between the same pieces.

## Main results

* `lower_hyphenate_runs`: joined runs of small characters stay as they are
* `anchor_joins_runs`: what an anchor is made of
* `slug_joins_words`: what a slug is made of
-/

namespace ContentBlocks

open Text (IsSmall isBlank isWord lower)

variable {p : Char → Bool} {c : Char} {cs : List Char}

/-! ### Joined runs -/

theorem mem_of_mem_runs {piece : List Char} (hpiece : piece ∈ runs p cs) (hc : c ∈ piece) :
    c ∈ cs := by
  have hleft := List.mem_flatten_of_mem hpiece hc
  rw [flatten_runs] at hleft
  exact (List.mem_filter.mp hleft).1

/-- **Joined runs** of small characters stay as they are in small letters. -/
theorem lower_hyphenate_runs (h : ∀ c ∈ cs, IsSmall c) :
    lower (hyphenate (runs p cs)) = hyphenate (runs p cs) := by
  refine Text.lower_eq_self fun c hc => ?_
  obtain rfl | ⟨piece, hpiece, hc⟩ := mem_of_mem_hyphenate hc
  · decide +kernel
  · exact h c (mem_of_mem_runs hpiece hc)

/-! ### Anchors -/

theorem toList_anchor (s : String) :
    (anchor s).toList = hyphenate (runs isAnchorChar (lower s.toList)) := String.toList_ofList

/-- An anchor has no character that is neither a hyphen nor one of its own. -/
theorem not_mem_anchor (s : String) (hc : (isAnchorChar c || c == '-') = false) :
    c ∉ (anchor s).toList := by
  intro hmem
  rw [Bool.or_eq_false_iff] at hc
  rw [toList_anchor] at hmem
  obtain rfl | ⟨piece, hpiece, hmem⟩ := mem_of_mem_hyphenate hmem
  · exact absurd hc.2 (by decide)
  · have hchar := (isPiece_of_mem_runs hpiece).2 c hmem
    rw [hc.1] at hchar
    cases hchar

/-- **An anchor joins runs** by single hyphens: the maximal runs of `a` to `z`, the ten digits and
the CJK ideographs in the text in small letters. So it comes about, too, by writing a hyphen for
each row of other characters and taking those at the ends off; it is empty only if there are no such
runs; and it is its own anchor. -/
theorem anchor_joins_runs (s : String) :
    (∃ pieces, CutInto isAnchorChar (lower s.toList) pieces ∧
      (anchor s).toList = ['-'].intercalate pieces) ∧
    (anchor s).toList = trimHyphens (collapse (fun c => !isAnchorChar c) (lower s.toList)) ∧
    Hyphenated isAnchorChar (anchor s).toList ∧
    (anchor s = "" ↔ ∀ c ∈ lower s.toList, isAnchorChar c = false) ∧
    anchor (anchor s) = anchor s := by
  have hhyphen : isAnchorChar '-' = false := by decide
  have hpieces : ∀ piece ∈ runs isAnchorChar (lower s.toList), IsPiece isAnchorChar piece :=
    fun piece => isPiece_of_mem_runs
  refine ⟨⟨_, cutInto_iff.mpr rfl, ?_⟩, ?_, ?_, ?_, ?_⟩
  · rw [toList_anchor, hyphenate_eq_intercalate]
  · rw [toList_anchor, trimHyphens_collapse hhyphen]
  · rw [toList_anchor]
    exact hyphenated_hyphenate hhyphen hpieces
  · rw [← String.toList_eq_nil_iff, toList_anchor, hyphenate_eq_nil_iff hpieces, runs_eq_nil_iff]
  · have hsame : (anchor (anchor s)).toList = (anchor s).toList := by
      rw [toList_anchor (anchor s), toList_anchor s,
        lower_hyphenate_runs fun _ => Text.isSmall_of_mem_lower, runs_hyphenate hhyphen hpieces]
    exact String.toList_inj.mp hsame

/-- The dotted capital leaves a dot behind, which is passed over, and the kelvin sign becomes a
letter. -/
theorem anchor_of_kelvin_sign :
    anchor " İ--5\u212A, 中文!" = "i-5k-中文" ∧
      anchor (anchor " İ--5\u212A, 中文!") = anchor " İ--5\u212A, 中文!" ∧
      ¬∀ c ∈ lower " İ--5\u212A, 中文!".toList, isAnchorChar c = false := by
  have hanchor : anchor " İ--5\u212A, 中文!" = "i-5k-中文" := by decide +kernel
  obtain ⟨-, -, -, hempty, hsame⟩ := anchor_joins_runs " İ--5\u212A, 中文!"
  refine ⟨hanchor, hsame, ?_⟩
  rw [← hempty, hanchor]
  decide

/-! ### Slugs -/

/-- What is left of a text for its slug: its words, in small letters, and what separates them. -/
def slugMaterial (s : String) : List Char := (lower s.toList).filter isSlugMaterial

/-- The characters of the words of a slug. -/
def isSlugChar (c : Char) : Bool := isWord c && !isSlugSeparator c

theorem toList_slug (s : String) :
    (slug s).toList = hyphenate (runs (fun c => !isSlugSeparator c) (slugMaterial s)) :=
  String.toList_ofList

/-- What is left of a text and separates no words belongs to one. -/
theorem isSlugChar_of_material (hc : isSlugMaterial c = true) (hword : isSlugSeparator c = false) :
    isSlugChar c = true := by
  have hword' := hword
  simp only [isSlugSeparator, Bool.or_eq_false_iff] at hword'
  obtain ⟨⟨hblank, -⟩, hhyphen⟩ := hword'
  rw [isSlugMaterial, hblank, hhyphen, Bool.or_false, Bool.or_false] at hc
  rw [isSlugChar, hc, hword]
  rfl

/-- Every word of a slug is a piece of its characters. -/
theorem isPiece_of_mem_words {s : String} {piece : List Char}
    (h : piece ∈ runs (fun c => !isSlugSeparator c) (slugMaterial s)) :
    IsPiece isSlugChar piece := by
  obtain ⟨hne, hwords⟩ := isPiece_of_mem_runs h
  refine ⟨hne, fun c hc => isSlugChar_of_material ?_ (by simpa using hwords c hc)⟩
  exact (List.mem_filter.mp (mem_of_mem_runs h hc)).2

theorem hyphenated_slug (s : String) : Hyphenated isSlugChar (slug s).toList := by
  rw [toList_slug]
  exact hyphenated_hyphenate (by decide +kernel) fun piece => isPiece_of_mem_words

/-- A slug has no character that is neither a hyphen nor one of its words. -/
theorem not_mem_slug (s : String) (hc : (isSlugChar c || c == '-') = false) :
    c ∉ (slug s).toList := by
  intro hmem
  rw [Bool.or_eq_false_iff] at hc
  rcases (hyphenated_slug s).chars c hmem with hchar | rfl
  · rw [hc.1] at hchar
    cases hchar
  · exact absurd hc.2 (by decide)

/-- What a slug is made of is left when a slug is made of it. -/
theorem slugMaterial_slug (s : String) : slugMaterial (slug s) = (slug s).toList := by
  have hsmall : ∀ c ∈ slugMaterial s, IsSmall c := fun c hc =>
    Text.isSmall_of_mem_lower (List.mem_filter.mp hc).1
  rw [slugMaterial, show lower (slug s).toList = (slug s).toList by
    rw [toList_slug, lower_hyphenate_runs hsmall], List.filter_eq_self]
  intro c hc
  rcases (hyphenated_slug s).chars c hc with hchar | rfl
  · rw [isSlugChar, Bool.and_eq_true] at hchar
    rw [isSlugMaterial, hchar.1, Bool.true_or, Bool.true_or]
  · decide +kernel

/-- **A slug joins words** by single hyphens: of the text in small letters, without what is no
character of a word, no blank and no hyphen, the pieces between blanks, low lines and hyphens. So it
comes about, too, by writing a hyphen first for each row of blanks and low lines and then for each
row of hyphens, and taking those at the ends off; and it is its own slug. -/
theorem slug_joins_words (s : String) :
    (slug s).toList =
      ['-'].intercalate (((slugMaterial s).splitOnP isSlugSeparator).filter (!·.isEmpty)) ∧
    (slug s).toList =
      trimHyphens (collapse (· == '-') (collapse (fun c => isBlank c || c == '_')
        (slugMaterial s))) ∧
    Hyphenated isSlugChar (slug s).toList ∧
    ('_' ∉ (slug s).toList ∧ '.' ∉ (slug s).toList ∧ '/' ∉ (slug s).toList ∧
      (slug s).toList.all (!isBlank ·) = true) ∧
    slug (slug s) = slug s := by
  have hhyphen : (!isSlugSeparator '-') = false := by decide
  refine ⟨?_, ?_, hyphenated_slug s, ⟨?_, ?_, ?_, ?_⟩, ?_⟩
  · rw [toList_slug, hyphenate_eq_intercalate, ← filter_splitOnP]
    simp only [Bool.not_not]
  · rw [toList_slug, ← trimHyphens_collapse hhyphen, collapse_collapse]
    simp only [Bool.not_not]
    rfl
  · exact not_mem_slug s (by decide)
  · exact not_mem_slug s (by decide +kernel)
  · exact not_mem_slug s (by decide +kernel)
  · rw [List.all_eq_true]
    intro c hc
    rcases (hyphenated_slug s).chars c hc with hchar | rfl
    · simp only [isSlugChar, isSlugSeparator, Bool.and_eq_true, Bool.not_eq_true',
        Bool.or_eq_false_iff] at hchar
      rw [hchar.2.1.1]
      rfl
    · decide
  · have hsame : (slug (slug s)).toList = (slug s).toList := by
      rw [toList_slug (slug s), slugMaterial_slug, toList_slug s, runs_hyphenate hhyphen fun piece =>
        isPiece_of_mem_runs]
    exact String.toList_inj.mp hsame

/-- The dot that the dotted capital leaves behind is taken away, and the words on both sides of the
punctuation come together. -/
theorem slug_of_dotted_capital :
    slug "İ's_(2nd) -- ΟΔΟΣ.md" = "is-2nd-οδοσmd" ∧
      slug (slug "İ's_(2nd) -- ΟΔΟΣ.md") = slug "İ's_(2nd) -- ΟΔΟΣ.md" :=
  ⟨by decide +kernel, (slug_joins_words _).2.2.2.2⟩

end ContentBlocks
