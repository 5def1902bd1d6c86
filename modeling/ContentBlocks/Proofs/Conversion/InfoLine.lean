import ContentBlocks.Conversion.FenceInfo
import ContentBlocks.Proofs.Conversion.Run
import ContentBlocks.Proofs.Text.Runs
import Mathlib.Data.List.DropRight

/-!
# The language of a fence

An info line is freed of the blanks at its ends and cut at its first space: the language is in front
of it, and what may hold a file name behind. Blanks of all kinds count for the first step and only
the space for the second. So the language begins with the first word of the line, and is this word
if a space or nothing follows it; another blank is taken into the language with all that follows up
to the next space.

## Main definitions

* `FirstWord cs gap word behind`: the first word of a text, and what stands around it
* `FenceInfo.languagePart`, `FenceInfo.attributePart`: the two parts of an info line

## Main results

* `strip_of_firstWord`: a text without the blanks at its ends begins with its first word
* `parts_of_firstWord`: the parts of an info line with a word in it
* `language_of_fence`: the language of a fence
-/

namespace ContentBlocks

open Text (isBlank allBlank dropEndWhile strip)

variable {p : Char → Bool} {c : Char} {cs gap word behind : List Char}

/-! ### The first word of a text -/

/-- The first word of a text: a maximal run of characters that are no blanks, with blanks only in
front of it. -/
structure FirstWord (cs gap word behind : List Char) : Prop where
  text : cs = gap ++ word ++ behind
  gap : ∀ c ∈ gap, isBlank c = true
  nonempty : word ≠ []
  within : ∀ c ∈ word, isBlank c = false
  ends : ∀ c ∈ behind.head?, isBlank c = true

/-- A text that is more than blanks has a first word. -/
theorem exists_firstWord (h : allBlank cs = false) :
    ∃ gap word behind, FirstWord cs gap word behind := by
  have hcut : CutInto (fun c => !isBlank c) cs (runs (fun c => !isBlank c) cs) :=
    cutInto_iff.mpr rfl
  generalize runs (fun c => !isBlank c) cs = pieces at hcut
  cases hcut with
  | rest other =>
    -- without a run there are blanks only
    have hall : allBlank cs = true := List.all_eq_true.mpr fun c hc => by simpa using other c hc
    rw [hall] at h
    cases h
  | @run gap word behind _ other nonempty within ends _ =>
    refine ⟨gap, word, behind, rfl, ?_, nonempty, ?_, ?_⟩
    · intro c hc
      simpa using other c hc
    · intro c hc
      simpa using within c hc
    · intro c hc
      simpa using ends c hc

/-! ### Blanks at the ends -/

/-- A character that is kept protects all that stands in front of it. -/
theorem dropEndWhile_append_cons (hc : p c = false) (cs tail : List Char) :
    dropEndWhile p (cs ++ c :: tail) = cs ++ c :: dropEndWhile p tail := by
  induction tail using List.reverseRecOn with
  | nil =>
    show List.rdropWhile p (cs ++ [c]) = cs ++ [c]
    exact List.rdropWhile_concat_neg p cs c (by simp [hc])
  | append_singleton tail d ih =>
    show List.rdropWhile p (cs ++ c :: (tail ++ [d])) = cs ++ c :: List.rdropWhile p (tail ++ [d])
    rw [← List.cons_append, ← List.append_assoc, List.rdropWhile_concat, List.rdropWhile_concat]
    -- either the last character is dropped on both sides, or nothing is
    by_cases hd : p d = true
    · rw [if_pos hd, if_pos hd]
      exact ih
    · rw [if_neg hd, if_neg hd, List.append_assoc, List.cons_append]

theorem dropEndWhile_append_of_last {d : Char} (hlast : cs.getLast? = some d) (hd : p d = false)
    (tail : List Char) : dropEndWhile p (cs ++ tail) = cs ++ dropEndWhile p tail := by
  obtain ⟨init, rfl⟩ := List.getLast?_eq_some_iff.mp hlast
  rw [List.append_assoc, List.singleton_append, dropEndWhile_append_cons hd, List.append_assoc,
    List.singleton_append]

theorem head?_dropEndWhile (h : dropEndWhile p cs ≠ []) : (dropEndWhile p cs).head? = cs.head? := by
  obtain ⟨tail, hcs⟩ : dropEndWhile p cs <+: cs := List.rdropWhile_prefix p cs
  conv_rhs => rw [← hcs]
  rw [List.head?_append_of_ne_nil _ h]

theorem dropEndWhile_blank_eq_nil_iff : dropEndWhile isBlank cs = [] ↔ allBlank cs = true := by
  rw [allBlank, List.all_eq_true]
  exact List.rdropWhile_eq_nil_iff

/-- **A text without the blanks at its ends** begins with its first word. -/
theorem strip_of_firstWord (h : FirstWord cs gap word behind) :
    strip cs = word ++ dropEndWhile isBlank behind := by
  obtain ⟨rfl, hgap, hne, hwithin, -⟩ := h
  obtain ⟨first, rest, rfl⟩ := List.exists_cons_of_ne_nil hne
  have hfirst : isBlank first = false := hwithin first List.mem_cons_self
  have hfront : Text.dropBlanks (gap ++ first :: rest ++ behind) = first :: rest ++ behind := by
    rw [Text.dropBlanks, List.append_assoc, List.dropWhile_append_of_pos hgap, List.cons_append,
      List.dropWhile_cons_of_neg (by simp [hfirst])]
  have hlast : (first :: rest).getLast? = some ((first :: rest).getLast hne) :=
    List.getLast?_eq_some_getLast hne
  rw [strip, hfront]
  exact dropEndWhile_append_of_last hlast (hwithin _ (List.getLast_mem hne)) behind

theorem strip_of_allBlank (h : allBlank cs = true) : strip cs = [] := by
  have hnone : Text.dropBlanks cs = [] := by
    rw [Text.dropBlanks, List.dropWhile_eq_nil_iff]
    exact List.all_eq_true.mp h
  rw [strip, hnone]
  rfl

/-! ### The two parts of an info line -/

namespace FenceInfo

/-- The part of an info line that the language is taken from: up to the first space. -/
def languagePart (info : List Char) : List Char := (strip info).takeWhile (· ≠ ' ')

/-- The part of an info line that the file name is looked for in: behind the first space. -/
def attributePart (info : List Char) : List Char := ((strip info).dropWhile (· ≠ ' ')).drop 1

theorem language_of (info : String) : (of info).language = nonEmpty? (languagePart info.toList) :=
  rfl

theorem filename_of (info : String) :
    (of info).filename = (findAttribute? (attributePart info.toList)).bind nonEmpty? := rfl

theorem nonEmpty?_eq_some_iff {cs : List Char} {s : String} :
    nonEmpty? cs = some s ↔ s ≠ "" ∧ s.toList = cs := by
  unfold nonEmpty?
  cases cs with
  | nil =>
    refine iff_of_false nofun ?_
    rintro ⟨hne, hnil⟩
    exact hne (String.toList_eq_nil_iff.mp hnil)
  | cons c cs =>
    simp only [List.isEmpty_cons, Bool.false_eq_true, if_false, Option.some.injEq]
    constructor
    · rintro rfl
      refine ⟨fun h => ?_, String.toList_ofList⟩
      rw [← String.toList_eq_nil_iff, String.toList_ofList] at h
      cases h
    · rintro ⟨-, h⟩
      rw [← h, String.ofList_toList]

theorem nonEmpty?_of_ne_nil {cs : List Char} (h : cs ≠ []) : nonEmpty? cs = some (.ofList cs) :=
  if_neg (by simpa using h)

/-- **The parts of an info line** with a word in it: all up to the first space, which is not in the
word, and all behind that. -/
theorem parts_of_firstWord {info : List Char} (h : FirstWord info gap word behind) :
    languagePart info = word ++ (dropEndWhile isBlank behind).takeWhile (· ≠ ' ') ∧
      attributePart info = ((dropEndWhile isBlank behind).dropWhile (· ≠ ' ')).drop 1 := by
  have hword : ∀ c ∈ word, decide (c ≠ ' ') = true := by
    intro c hc
    apply decide_eq_true
    rintro rfl
    exact absurd (h.within ' ' hc) (by decide)
  rw [languagePart, attributePart, strip_of_firstWord h]
  exact ⟨List.takeWhile_append_of_pos hword,
    congrArg (List.drop 1) (List.dropWhile_append_of_pos hword)⟩

/-- What the language has behind the first word is nothing if the line goes on with a space, or with
blanks only, and otherwise begins with a blank. -/
theorem more_eq_nil_iff (hends : ∀ c ∈ behind.head?, isBlank c = true) :
    ((dropEndWhile isBlank behind).takeWhile (· ≠ ' ') = [] ↔
      behind.head? = some ' ' ∨ allBlank behind = true) ∧
    ((∃ c ∈ (dropEndWhile isBlank behind).takeWhile (· ≠ ' '), isBlank c = true) ↔
      (dropEndWhile isBlank behind).takeWhile (· ≠ ' ') ≠ []) := by
  by_cases hnil : dropEndWhile isBlank behind = []
  · have hblank := dropEndWhile_blank_eq_nil_iff.mp hnil
    simp [hnil, hblank]
  · have hblank : allBlank behind ≠ true := fun h => hnil (dropEndWhile_blank_eq_nil_iff.mpr h)
    have hhead := head?_dropEndWhile hnil
    obtain ⟨c, rest, hrest⟩ := List.exists_cons_of_ne_nil hnil
    rw [hrest, List.head?_cons] at hhead
    have hc : isBlank c = true := hends c hhead.symm
    rw [hrest, ← hhead]
    -- the character behind the word is a blank, and stays unless it is the space
    by_cases hspace : c = ' '
    · simp [hspace]
    · rw [List.takeWhile_cons_of_pos (by simpa using hspace)]
      refine ⟨?_, ?_⟩
      · simp [hspace, hblank]
      · exact iff_of_true ⟨c, List.mem_cons_self, hc⟩ (List.cons_ne_nil _ _)

end FenceInfo

/-! ### The language of a fence -/

open Conversion FenceInfo

/-- **The language of a fence** is absent if its info line is blank. Otherwise it begins with the
first word of the line, and has behind it what comes before the first space: nothing if the space is
next, or if only blanks are left, and a text with a blank in it in all other cases. -/
theorem language_of_fence {n : Node} {source : Key.Source} {start : Nat} {key : String}
    (kind : n.kind = .fence) (hkey : source start = .ok key) :
    ∃ b, (code n).run source start = .ok (b, start + 1) ∧
      (b.language = none ↔ allBlank n.info.toList = true) ∧
      ∀ gap word behind, FirstWord n.info.toList gap word behind →
        ∃ more, more = (dropEndWhile isBlank behind).takeWhile (· ≠ ' ') ∧
          b.language = some (.ofList (word ++ more)) ∧
          (more = [] ↔ behind.head? = some ' ' ∨ allBlank behind = true) ∧
          ((∃ c ∈ word ++ more, isBlank c = true) ↔ more ≠ []) := by
  have hlanguage : ∀ gap word behind, FirstWord n.info.toList gap word behind →
      (FenceInfo.of n.info).language =
        some (.ofList (word ++ (dropEndWhile isBlank behind).takeWhile (· ≠ ' '))) := by
    intro gap word behind hword
    rw [language_of, (parts_of_firstWord hword).1, nonEmpty?_of_ne_nil]
    simp [hword.nonempty]
  refine ⟨_, run_code_iff.mpr ⟨key, hkey, rfl, rfl⟩, ?_, ?_⟩
  · rw [if_pos kind]
    cases hblank : allBlank n.info.toList with
    | true =>
      rw [language_of, languagePart, strip_of_allBlank hblank]
      exact iff_of_true rfl rfl
    | false =>
      obtain ⟨gap, word, behind, hword⟩ := exists_firstWord hblank
      rw [hlanguage gap word behind hword]
      simp
  · intro gap word behind hword
    rw [if_pos kind]
    refine ⟨_, rfl, hlanguage gap word behind hword, (more_eq_nil_iff hword.ends).1, ?_⟩
    rw [← (more_eq_nil_iff hword.ends).2]
    -- there is no blank in the word itself
    constructor
    · rintro ⟨c, hc, hblank⟩
      rcases List.mem_append.mp hc with hc | hc
      · rw [hword.within c hc] at hblank
        cases hblank
      · exact ⟨c, hc, hblank⟩
    · rintro ⟨c, hc, hblank⟩
      exact ⟨c, List.mem_append_right word hc, hblank⟩

/-- A fence with a tabulator behind the first word of its info line. -/
def fenceAtTabulator : Node := ⟨.fence, "", "", "\u3000c++\t17 title=a", [], []⟩

/-- A tabulator does not end the language. -/
theorem language_of_words_at_tabulator :
    fenceAtTabulator.kind = .fence ∧ Key.Source.counted 0 = .ok "k0" ∧
      FirstWord fenceAtTabulator.info.toList ['\u3000'] "c++".toList "\t17 title=a".toList ∧
      ∃ b, (code fenceAtTabulator).run Key.Source.counted 0 = .ok (b, 1) ∧
        b.language = some "c++\t17" := by
  have kind : fenceAtTabulator.kind = .fence := rfl
  have hkey : Key.Source.counted 0 = .ok "k0" := rfl
  have hword :
      FirstWord fenceAtTabulator.info.toList ['\u3000'] "c++".toList "\t17 title=a".toList := by
    refine ⟨rfl, List.all_eq_true.mp rfl, by decide, ?_, ?_⟩
    · simp only [← Bool.not_eq_true']
      exact List.all_eq_true.mp rfl
    · rintro c ⟨⟩
      rfl
  obtain ⟨b, hrun, -, hlanguage⟩ := language_of_fence kind hkey
  obtain ⟨more, rfl, hb, -⟩ := hlanguage _ _ _ hword
  exact ⟨kind, hkey, hword, b, hrun, hb⟩

/-- The language is not always the first word: a tabulator behind it brings in the second one. -/
theorem language_not_first_word :
    ¬∀ (n : Node) (source : Key.Source) (start stop : Nat) (b : CodeBlock)
      (gap word behind : List Char), n.kind = .fence →
        (code n).run source start = .ok (b, stop) → FirstWord n.info.toList gap word behind →
          b.language = some (.ofList word) := by
  intro h
  have hword : FirstWord "python\tx".toList [] "python".toList "\tx".toList := by
    refine ⟨rfl, nofun, by decide, ?_, ?_⟩
    · simp only [← Bool.not_eq_true']
      exact List.all_eq_true.mp rfl
    · rintro c ⟨⟩
      rfl
  have hlanguage := h ⟨.fence, "", "", "python\tx", [], []⟩ Key.Source.counted 0 1 _ _ _ _ rfl rfl
    hword
  revert hlanguage
  decide

end ContentBlocks
