import ContentBlocks.Text.Class
import Mathlib.Algebra.GroupWithZero.Nat
import Mathlib.Data.List.Basic

/-!
# The pieces of a text

A text is its pieces between the occurrences of a character. Cut at its line ends it is a number of
lines that are ended and a last one that is not, which may be empty.

## Main definitions

* `Text.endedLines`, `Text.lastLine`: the lines of a text
* `Text.unlines`: the text with some lines

## Main results

* `after?_eq_some_iff`: what follows the start of a text
* `after?_append_cons`: the start of a text that has a separator
* `splitAt_append`: what follows a text without a separator goes to its last piece
* `unlines_lines`: a text has its lines, and no line has a line end in it
* `endedLines_unlines`, `lastLine_unlines`: the lines of a text that is made of lines
* `length_endedLines`, `count_unlines`: as many lines are ended as there are line ends
-/

namespace ContentBlocks

namespace Text

variable {cs rest ending : List Char} {sep : Char}

theorem after?_eq_some_iff {start : List Char} :
    after? start cs = some rest ↔ cs = start ++ rest := by
  induction start generalizing cs with
  | nil => simp [after?]
  | cons s start ih =>
    cases cs with
    | nil => simp [after?]
    | cons c cs =>
      rw [after?, List.cons_append, List.cons.injEq]
      by_cases h : s = c
      · rw [if_pos h, ih]
        exact ⟨fun hcs => ⟨h.symm, hcs⟩, And.right⟩
      · rw [if_neg h]
        exact ⟨nofun, fun ⟨hc, _⟩ => absurd hc.symm h⟩

/-- A start without a separator lies before the first one. -/
theorem after?_append_cons {start : List Char} (h : sep ∉ start) (line rest : List Char) :
    after? start (line ++ sep :: rest) = (after? start line).map (· ++ sep :: rest) := by
  induction start generalizing line with
  | nil => rfl
  | cons s start ih =>
    rw [List.mem_cons, not_or] at h
    cases line with
    | nil => simp [after?, Ne.symm h.1]
    | cons c line =>
      rw [List.cons_append, after?, after?]
      by_cases hc : s = c
      · rw [if_pos hc, if_pos hc, ih h.2]
      · rw [if_neg hc, if_neg hc, Option.map_none]

/-! ### Pieces -/

theorem splitAt_of_not_mem (h : sep ∉ ending) : splitAt sep ending = [ending] := by
  induction ending with
  | nil => rfl
  | cons c cs ih =>
    rw [List.mem_cons, not_or] at h
    rw [splitAt, if_neg (Ne.symm h.1), ih h.2]

/-- What follows a text without a separator goes to its last piece. -/
theorem splitAt_append (h : sep ∉ ending) (cs : List Char) :
    ∃ pieces last, splitAt sep cs = pieces ++ [last] ∧
      splitAt sep (cs ++ ending) = pieces ++ [last ++ ending] := by
  induction cs with
  | nil => exact ⟨[], [], rfl, splitAt_of_not_mem h⟩
  | cons c cs ih =>
    obtain ⟨pieces, last, hcs, happend⟩ := ih
    rw [List.cons_append, splitAt, splitAt, hcs, happend]
    by_cases hc : c = sep
    · exact ⟨[] :: pieces, last, by simp [hc], by simp [hc]⟩
    · cases pieces with
      | nil => exact ⟨[], c :: last, by simp [hc], by simp [hc]⟩
      | cons piece rest => exact ⟨(c :: piece) :: rest, last, by simp [hc], by simp [hc]⟩

/-- There is one piece more than there are separators. -/
theorem length_splitAt (cs : List Char) : (splitAt sep cs).length = cs.count sep + 1 := by
  induction cs with
  | nil => rfl
  | cons c cs ih =>
    rw [splitAt]
    by_cases hc : c = sep
    · rw [if_pos hc, List.length_cons, ih, hc, List.count_cons_self]
    · rw [if_neg hc, List.count_cons_of_ne hc, ← ih]
      cases hsplit : splitAt sep cs with
      | nil => simp [hsplit] at ih
      | cons piece rest => rfl

/-- The pieces on both sides of a separator. -/
theorem splitAt_append_sep (cs rest : List Char) :
    splitAt sep (cs ++ sep :: rest) = splitAt sep cs ++ splitAt sep rest := by
  induction cs with
  | nil =>
    show splitAt sep (sep :: rest) = [] :: splitAt sep rest
    rw [splitAt, if_pos rfl]
  | cons c cs ih =>
    rw [List.cons_append, splitAt, splitAt, ih]
    by_cases hc : c = sep
    · rw [if_pos hc, if_pos hc, List.cons_append]
    · rw [if_neg hc, if_neg hc]
      -- the character goes to the first piece, and there is one
      cases hsplit : splitAt sep cs with
      | nil =>
        have hlength : (splitAt sep cs).length = cs.count sep + 1 := length_splitAt cs
        rw [hsplit] at hlength
        cases hlength
      | cons piece pieces => rfl

/-! ### Lines -/

/-- The lines of a text that are ended, in order. -/
def endedLines (cs : List Char) : List (List Char) := (splitAt '\n' cs).dropLast

/-- What stands after the last line end. -/
def lastLine (cs : List Char) : List Char := (splitAt '\n' cs).getLastD []

/-- The text with some ended lines and a last one. -/
def unlines : List (List Char) → List Char → List Char
  | [], last => last
  | line :: lines, last => line ++ '\n' :: unlines lines last

/-- **A text has its lines**, and no line has a line end in it. -/
theorem unlines_lines (cs : List Char) :
    unlines (endedLines cs) (lastLine cs) = cs ∧ (∀ line ∈ endedLines cs, '\n' ∉ line) ∧
      '\n' ∉ lastLine cs := by
  suffices h : ∃ lines last, splitAt '\n' cs = lines ++ [last] ∧ unlines lines last = cs ∧
      (∀ line ∈ lines, '\n' ∉ line) ∧ '\n' ∉ last by
    obtain ⟨lines, last, hsplit, hcs, hlines, hlast⟩ := h
    rw [endedLines, lastLine, hsplit, List.dropLast_concat, List.getLastD_concat]
    exact ⟨hcs, hlines, hlast⟩
  induction cs with
  | nil => exact ⟨[], [], rfl, rfl, by simp, by simp⟩
  | cons c cs ih =>
    obtain ⟨lines, last, hsplit, hcs, hlines, hlast⟩ := ih
    rw [splitAt, hsplit]
    by_cases hc : c = '\n'
    · refine ⟨[] :: lines, last, by simp [hc], by rw [unlines, hcs, hc]; rfl, ?_, hlast⟩
      simpa using hlines
    · -- the character goes to the first line, or to the last one if there is no other
      cases lines with
      | nil =>
        refine ⟨[], c :: last, by simp [hc], by rw [← hcs]; rfl, by simp, ?_⟩
        simp [Ne.symm hc, hlast]
      | cons line lines =>
        refine ⟨(c :: line) :: lines, last, by simp [hc], by rw [← hcs]; rfl, ?_, hlast⟩
        simp_all [Ne.symm hc]

/-- **A text that is made of lines** has these lines, if there is no line end inside of them. -/
theorem endedLines_unlines {lines : List (List Char)} {last : List Char}
    (hlines : ∀ line ∈ lines, '\n' ∉ line) (hlast : '\n' ∉ last) :
    endedLines (unlines lines last) = lines := by
  suffices hsplit : splitAt '\n' (unlines lines last) = lines ++ [last] by
    rw [endedLines, hsplit, List.dropLast_concat]
  induction lines with
  | nil => exact splitAt_of_not_mem hlast
  | cons line lines ih =>
    rw [List.forall_mem_cons] at hlines
    rw [unlines, splitAt_append_sep, splitAt_of_not_mem hlines.1, ih hlines.2, List.cons_append]
    rfl

/-- What is not ended is left, whatever the lines in front of it. -/
theorem lastLine_unlines {last : List Char} (hlast : '\n' ∉ last) (lines : List (List Char)) :
    lastLine (unlines lines last) = last := by
  induction lines with
  | nil => rw [lastLine, unlines, splitAt_of_not_mem hlast]; rfl
  | cons line lines ih =>
    have hne : splitAt '\n' (unlines lines last) ≠ [] := by
      rw [← List.length_pos_iff, length_splitAt]
      exact Nat.succ_pos _
    rw [lastLine, List.getLastD_eq_getLast?] at ih ⊢
    rw [unlines, splitAt_append_sep, List.getLast?_append_of_ne_nil _ hne, ih]

/-- **As many lines are ended** as there are line ends. -/
theorem length_endedLines (cs : List Char) : (endedLines cs).length = cs.count '\n' := by
  rw [endedLines, List.length_dropLast, length_splitAt, Nat.add_sub_cancel]

theorem count_unlines (lines : List (List Char)) (last : List Char) :
    (unlines lines last).count '\n' =
      (lines.map fun line => line.count '\n' + 1).sum + last.count '\n' := by
  induction lines with
  | nil => simp [unlines]
  | cons line lines ih =>
    rw [unlines, List.count_append, List.count_cons_self, ih, List.map_cons, List.sum_cons]
    omega

end Text

end ContentBlocks
