import ContentBlocks.Proofs.Text.Pieces
import ContentBlocks.Source.Header

/-!
# Headers, line by line

A header is cut out of a text character by character, with a choice among line ends wherever blanks
stand between a fence and what follows it. Line by line no choice is left: the header begins with
the first line that is not blank and ends before the next fence, and the body begins where the blank
lines after that fence end.

## Main definitions

* `Header.IsFence`: three hyphens and blanks
* `Header.fromBreak? next`: the choice among line ends, by what stands after them

## Main results

* `split_unlines`: a header is looked for after a fence at the start
* `cut?_unlines`, `cut?_eq_none`: the text is cut at the next fence, or not at all
* `read_agrees_with_lines`: what is read, from the lines of a text
-/

namespace ContentBlocks

namespace Header

open Text (allBlank unlines)

/-- A line that is a fence. -/
def IsFence (line : List Char) : Prop := ∃ blanks, line = mark ++ blanks ∧ allBlank blanks = true

variable {α : Type} {next : List Char → Option α} {line last rest blanks : List Char}
  {lines : List (List Char)}

theorem isFence_of_after?_eq_some (h : Text.after? mark line = some blanks) :
    IsFence line ↔ allBlank blanks = true := by
  have hline : line = mark ++ blanks := Text.after?_eq_some_iff.mp h
  constructor
  · rintro ⟨blanks', hline', hblank⟩
    obtain rfl : blanks = blanks' := List.append_cancel_left (hline.symm.trans hline')
    exact hblank
  · intro hblank
    exact ⟨blanks, hline, hblank⟩

theorem not_isFence_of_after?_eq_none (h : Text.after? mark line = none) : ¬ IsFence line := by
  rintro ⟨blanks, hline, -⟩
  rw [Text.after?_eq_some_iff.mpr hline] at h
  cases h

instance : DecidablePred IsFence := fun line =>
  match h : Text.after? mark line with
  | some _ => decidable_of_iff _ (isFence_of_after?_eq_some h).symm
  | none => .isFalse (not_isFence_of_after?_eq_none h)

/-! ### The choice among line ends -/

/-- What `next` gives after a line end among the blanks at the start of a text: after the last one
of those after which it gives anything. -/
def atBreak? (next : List Char → Option α) : List Char → Option α
  | [] => none
  | c :: cs =>
    if Text.isBlank c then atBreak? next cs <|> (if c = '\n' then next cs else none) else none

/-- The same, or what `next` gives at the start of the text. -/
def fromBreak? (next : List Char → Option α) (cs : List Char) : Option α :=
  atBreak? next cs <|> next cs

theorem afterBreak?_eq_atBreak? : afterBreak? = atBreak? some := by
  funext cs
  induction cs with
  | nil => rfl
  | cons c cs ih => rw [afterBreak?, atBreak?, ih]

theorem opened?_eq_atBreak? : opened? = atBreak? cut? := by
  funext cs
  induction cs with
  | nil => rfl
  | cons c cs ih => rw [opened?, atBreak?, ih]

theorem atBreak?_of_not_mem (h : '\n' ∉ last) : atBreak? next last = none := by
  induction last with
  | nil => rfl
  | cons c cs ih =>
    rw [List.mem_cons, not_or] at h
    rw [atBreak?, ih h.2, if_neg (Ne.symm h.1)]
    split <;> rfl

/-- A line that is not blank stands between the start of a text and any line end. -/
theorem atBreak?_line (h : '\n' ∉ line) :
    atBreak? next (line ++ '\n' :: rest) =
      if allBlank line then fromBreak? next rest else none := by
  induction line with
  | nil => rfl
  | cons c line ih =>
    rw [List.mem_cons, not_or] at h
    -- there is no line end at this character, so all there is comes from the rest of the line
    rw [List.cons_append, atBreak?, ih h.2, if_neg (Ne.symm h.1), Option.orElse_eq_orElse,
      Option.orElse_eq_or, Option.or_none]
    by_cases hc : Text.isBlank c <;> simp [allBlank, hc]

/-- The choice stays at a line that is not blank. -/
theorem fromBreak?_cons (h : '\n' ∉ line) (hblank : ¬ allBlank line = true) :
    fromBreak? next (unlines (line :: lines) last) = next (unlines (line :: lines) last) := by
  rw [unlines, fromBreak?, atBreak?_line h, if_neg hblank]
  rfl

/-- A fence is left behind, together with what it takes to make the choice after it. -/
theorem after?_mark_bind (h : '\n' ∉ line) :
    (Text.after? mark (line ++ '\n' :: rest)).bind (atBreak? next) =
      if IsFence line then fromBreak? next rest else none := by
  rw [Text.after?_append_cons (by decide)]
  cases hmark : Text.after? mark line with
  | none => rw [if_neg (not_isFence_of_after?_eq_none hmark)]; rfl
  | some blanks =>
    -- what follows the mark is the rest of the line, which is blank if the line is a fence
    have hline : line = mark ++ blanks := Text.after?_eq_some_iff.mp hmark
    have hbreak : '\n' ∉ blanks := fun hmem => h (hline ▸ List.mem_append_right mark hmem)
    rw [Option.map_some, Option.bind_some, atBreak?_line hbreak]
    simp only [isFence_of_after?_eq_some hmark]

theorem after?_mark_bind_of_not_mem (h : '\n' ∉ last) :
    (Text.after? mark last).bind (atBreak? next) = none := by
  cases hmark : Text.after? mark last with
  | none => rfl
  | some blanks =>
    have hlast : last = mark ++ blanks := Text.after?_eq_some_iff.mp hmark
    exact atBreak?_of_not_mem fun hmem => h (hlast ▸ List.mem_append_right mark hmem)

/-! ### The two ends of a header -/

/-- After a fence the blank lines are left out. -/
theorem fromBreak?_some (hlines : ∀ line ∈ lines, '\n' ∉ line) (hlast : '\n' ∉ last) :
    fromBreak? some (unlines lines last) = some (unlines (lines.dropWhile allBlank) last) := by
  induction lines with
  | nil =>
    rw [fromBreak?, unlines, atBreak?_of_not_mem hlast]
    rfl
  | cons line lines ih =>
    rw [List.forall_mem_cons] at hlines
    by_cases hblank : allBlank line = true
    · rw [List.dropWhile_cons_of_pos hblank, unlines, fromBreak?, atBreak?_line hlines.1,
        if_pos hblank, ih hlines.2]
      rfl
    · rw [List.dropWhile_cons_of_neg hblank, fromBreak?_cons hlines.1 hblank]

/-- What follows a line is cut off it if it begins with a fence, and is cut itself otherwise. -/
theorem cut?_line (h : '\n' ∉ line) :
    cut? (line ++ '\n' :: rest) =
      match (Text.after? mark rest).bind afterBreak? with
      | some body => some (line, body)
      | none => (cut? rest).map fun (header, body) => (line ++ '\n' :: header, body) := by
  -- a fence is looked for after a line end only, and this line has none before its last character
  induction line with
  | nil => rw [List.nil_append, cut?, if_pos rfl]; rfl
  | cons c line ih =>
    rw [List.mem_cons, not_or] at h
    rw [List.cons_append, cut?, if_neg (Ne.symm h.1), ih h.2]
    dsimp only
    cases (Text.after? mark rest).bind afterBreak? with
    | some body => rfl
    | none =>
      dsimp only
      rw [Option.map_map]
      rfl

theorem cut?_of_not_mem (h : '\n' ∉ last) : cut? last = none := by
  induction last with
  | nil => rfl
  | cons c cs ih =>
    rw [List.mem_cons, not_or] at h
    rw [cut?, if_neg (Ne.symm h.1), ih h.2]
    rfl

/-- The text after its first line is cut at the second one, if that is a fence, or behind it. -/
theorem cut?_cons_cons {line' : List Char} (hline : '\n' ∉ line) (hline' : '\n' ∉ line')
    (hlines : ∀ line ∈ lines, '\n' ∉ line) (hlast : '\n' ∉ last) :
    cut? (unlines (line :: line' :: lines) last) =
      if IsFence line' then some (line, unlines (lines.dropWhile allBlank) last)
      else (cut? (unlines (line' :: lines) last)).map fun (header, body) =>
        (line ++ '\n' :: header, body) := by
  rw [unlines, cut?_line hline, afterBreak?_eq_atBreak?, unlines, after?_mark_bind hline',
    fromBreak?_some hlines hlast]
  by_cases hfence : IsFence line'
  · rw [if_pos hfence, if_pos hfence]
  · rw [if_neg hfence, if_neg hfence]

/-- A text without a fence after its first line is not cut. -/
theorem cut?_eq_none (hline : '\n' ∉ line) (hlines : ∀ line ∈ lines, '\n' ∉ line)
    (hlast : '\n' ∉ last) (hfence : ∀ line ∈ lines, ¬ IsFence line) :
    cut? (unlines (line :: lines) last) = none := by
  induction lines generalizing line with
  | nil =>
    rw [unlines, unlines, cut?_line hline, afterBreak?_eq_atBreak?,
      after?_mark_bind_of_not_mem hlast, cut?_of_not_mem hlast]
    rfl
  | cons line' lines ih =>
    rw [List.forall_mem_cons] at hlines hfence
    rw [cut?_cons_cons hline hlines.1 hlines.2 hlast, if_neg hfence.1,
      ih hlines.1 hlines.2 hfence.2]
    rfl

/-- **A text is cut at the first fence** after its first line, and the blank lines after the fence
are left out. -/
theorem cut?_unlines {between after : List (List Char)} {closing : List Char}
    (hline : '\n' ∉ line) (hlines : ∀ line ∈ between ++ closing :: after, '\n' ∉ line)
    (hlast : '\n' ∉ last) (hbetween : ∀ line ∈ between, ¬ IsFence line)
    (hclosing : IsFence closing) :
    cut? (unlines (line :: (between ++ closing :: after)) last) =
      some (['\n'].intercalate (line :: between), unlines (after.dropWhile allBlank) last) := by
  -- by induction on the lines of the header: each is the first line of the text that is left
  induction between generalizing line with
  | nil =>
    rw [List.nil_append, List.forall_mem_cons] at hlines
    rw [List.nil_append, cut?_cons_cons hline hlines.1 hlines.2 hlast, if_pos hclosing,
      List.intercalate_singleton]
  | cons line' between ih =>
    rw [List.cons_append, List.forall_mem_cons] at hlines
    rw [List.forall_mem_cons] at hbetween
    rw [List.cons_append, cut?_cons_cons hline hlines.1 hlines.2 hlast, if_neg hbetween.1,
      ih hlines.1 hlines.2 hbetween.2, List.intercalate_cons_cons, List.append_assoc]
    rfl

/-! ### Texts with and without a header -/

/-- **A header is looked for** after a fence at the start of a text. -/
theorem split_unlines (h : '\n' ∉ line) :
    split (unlines (line :: lines) last) =
      if IsFence line then fromBreak? cut? (unlines lines last) else none := by
  rw [split, opened?_eq_atBreak?, unlines, after?_mark_bind h]

/-- After blank lines the choice fails where it fails at each of them. -/
theorem fromBreak?_cut?_eq_none (hlines : ∀ line ∈ lines, '\n' ∉ line) (hlast : '\n' ∉ last)
    (hfence : ∀ line ∈ lines, ¬ IsFence line) : fromBreak? cut? (unlines lines last) = none := by
  induction lines with
  | nil =>
    rw [unlines, fromBreak?, atBreak?_of_not_mem hlast, cut?_of_not_mem hlast]
    rfl
  | cons line lines ih =>
    rw [List.forall_mem_cons] at hlines hfence
    -- the text is not cut from this line on, nor from any later one
    rw [fromBreak?, cut?_eq_none hlines.1 hlines.2 hlast hfence.2, unlines,
      atBreak?_line hlines.1, ih hlines.2 hfence.2, ite_self]
    rfl

/-- A text without a fence at its start or without a later one has no header. -/
theorem split_eq_none (hlines : ∀ line ∈ lines, '\n' ∉ line) (hlast : '\n' ∉ last)
    (h : ∀ first rest, lines = first :: rest → IsFence first → ∀ line ∈ rest, ¬ IsFence line) :
    split (unlines lines last) = none := by
  cases lines with
  | nil => rw [split, opened?_eq_atBreak?, unlines, after?_mark_bind_of_not_mem hlast]
  | cons first rest =>
    rw [List.forall_mem_cons] at hlines
    rw [split_unlines hlines.1]
    by_cases hfirst : IsFence first
    · rw [if_pos hfirst, fromBreak?_cut?_eq_none hlines.2 hlast (h first rest rfl hfirst)]
    · rw [if_neg hfirst]

/-- Before a fence the blank lines at the start are left out, if there is any other line. -/
theorem fromBreak?_cut? {between after : List (List Char)} {closing : List Char}
    (hlines : ∀ line ∈ between ++ closing :: after, '\n' ∉ line) (hlast : '\n' ∉ last)
    (hbetween : ∀ line ∈ between, ¬ IsFence line) (hclosing : IsFence closing)
    (hfilled : ∃ line ∈ between, ¬ allBlank line = true) :
    fromBreak? cut? (unlines (between ++ closing :: after) last) =
      some (['\n'].intercalate (between.dropWhile allBlank),
        unlines (after.dropWhile allBlank) last) := by
  induction between with
  | nil => simp at hfilled
  | cons line between ih =>
    rw [List.cons_append, List.forall_mem_cons] at hlines
    rw [List.forall_mem_cons] at hbetween
    by_cases hblank : allBlank line = true
    · -- the line is passed over, since the choice can be made after it
      have hlater : ∃ line ∈ between, ¬ allBlank line = true := by
        obtain ⟨line', hmem, hline'⟩ := hfilled
        rcases List.mem_cons.mp hmem with rfl | hmem
        · exact absurd hblank hline'
        · exact ⟨line', hmem, hline'⟩
      rw [List.dropWhile_cons_of_pos hblank, List.cons_append, unlines, fromBreak?,
        atBreak?_line hlines.1, if_pos hblank, ih hlines.2 hbetween.2 hlater]
      rfl
    · rw [List.dropWhile_cons_of_neg hblank, List.cons_append, fromBreak?_cons hlines.1 hblank,
        cut?_unlines hlines.1 hlines.2 hlast hbetween.2 hclosing]

/-! ### Reading -/

theorem read_eq_readWith : read = readWith Yaml.read := rfl

theorem readWith_of_error {load : String → Except Yaml.Failure Yaml.Value} {text : String}
    {header body : List Char} {cause : Yaml.Failure}
    (hsplit : split text.toList = some (header, body))
    (hload : load (.ofList header) = .error cause) :
    readWith load text = .error (.yaml cause) := by
  rw [readWith, hsplit]
  dsimp only
  rw [hload]

theorem readWith_of_ok {load : String → Except Yaml.Failure Yaml.Value} {text : String}
    {header body : List Char} {v : Yaml.Value} (hsplit : split text.toList = some (header, body))
    (hload : load (.ofList header) = .ok v) :
    readWith load text = (ofValue v).map (·, .ofList body) := by
  rw [readWith, hsplit]
  dsimp only
  rw [hload]

theorem ofValue_of_falsy {v : Yaml.Value} (h : v.truthy = false) : ofValue v = .ok [] := by
  unfold ofValue
  rw [h]
  rfl

theorem ofValue_map (entries : Header) : ofValue (.map entries) = .ok entries := by
  cases entries <;> rfl

theorem ofValue_of_truthy {v : Yaml.Value} (h : v.truthy = true)
    (hmap : ∀ entries, v ≠ .map entries) : ofValue v = .error (.notMapping v.kindName) := by
  unfold ofValue
  rw [h]
  cases v with
  | map entries => exact absurd rfl (hmap entries)
  | _ => rfl

/-- **What is read agrees with the lines of a text**, whatever reads the YAML. A text whose first
line is no fence, or that has no fence after it, has no header and is its own body. If a line that
is not blank stands between the first line and the next fence, the header is what stands there from
the first such line on, and the body is what stands after that fence, without the blank lines at its
start; a line that is not ended is not left out. -/
theorem read_agrees_with_lines :
    read = readWith Yaml.read ∧
    ∀ (load : String → Except Yaml.Failure Yaml.Value) (text : String),
      ((∀ first rest, Text.endedLines text.toList = first :: rest → IsFence first →
          ∀ line ∈ rest, ¬ IsFence line) →
        readWith load text = .ok ([], text)) ∧
      ∀ first between closing after,
        Text.endedLines text.toList = first :: (between ++ closing :: after) →
        IsFence first → (∀ line ∈ between, ¬ IsFence line) → IsFence closing →
        (∃ line ∈ between, ¬ allBlank line = true) →
        ∃ header body : String,
          header.toList = ['\n'].intercalate (between.dropWhile allBlank) ∧
          body.toList = unlines (after.dropWhile allBlank) (Text.lastLine text.toList) ∧
          (∀ cause, load header = .error cause → readWith load text = .error (.yaml cause)) ∧
          (∀ v, load header = .ok v → v.truthy = false → readWith load text = .ok ([], body)) ∧
          (∀ entries, load header = .ok (.map entries) →
            readWith load text = .ok (entries, body)) ∧
          ∀ v, load header = .ok v → v.truthy = true → (∀ entries, v ≠ .map entries) →
            readWith load text = .error (.notMapping v.kindName) := by
  refine ⟨read_eq_readWith, fun load text => ?_⟩
  obtain ⟨htext, hlines, hlast⟩ := Text.unlines_lines text.toList
  constructor
  · intro h
    have hsplit : split text.toList = none := htext ▸ split_eq_none hlines hlast h
    rw [readWith, hsplit]
  · intro first between closing after hended hfirst hbetween hclosing hfilled
    rw [hended] at hlines htext
    have hinner := List.forall_mem_cons.mp hlines
    have hsplit : split text.toList = some (['\n'].intercalate (between.dropWhile allBlank),
        unlines (after.dropWhile allBlank) (Text.lastLine text.toList)) := by
      conv_lhs => rw [← htext]
      rw [split_unlines hinner.1, if_pos hfirst,
        fromBreak?_cut? hinner.2 hlast hbetween hclosing hfilled]
    refine ⟨.ofList _, .ofList _, String.toList_ofList, String.toList_ofList, ?_, ?_, ?_, ?_⟩
    · intro cause hload
      exact readWith_of_error hsplit hload
    · intro v hload hfalse
      rw [readWith_of_ok hsplit hload, ofValue_of_falsy hfalse]
      rfl
    · intro entries hload
      rw [readWith_of_ok hsplit hload, ofValue_map]
      rfl
    · intro v hload htrue hmap
      rw [readWith_of_ok hsplit hload, ofValue_of_truthy htrue hmap]
      rfl

/-- A header with blank lines around it and an indented body with a further fence, read by a reader
that knows one text; and a text with a fence at its start only. -/
theorem read_lines_of_indented_body :
    (∃ body : String, body.toList = "  b\n---\n".toList ∧
      readWith
          (fun s => if s = "a: 1\n" then .ok (.map [(.str "a", .int 1)]) else .error .malformed)
          "---\n \na: 1\n\n--- \n\n\t\n  b\n---\n" =
        .ok ([(.str "a", .int 1)], body)) ∧
    readWith (fun _ => .error .malformed) "---\na: 1\n---" = .ok ([], "---\na: 1\n---") := by
  constructor
  · obtain ⟨header, body, hheader, hbody, -, -, hmap, -⟩ :=
      (read_agrees_with_lines.2
        (fun s => if s = "a: 1\n" then .ok (.map [(.str "a", .int 1)]) else .error .malformed)
        "---\n \na: 1\n\n--- \n\n\t\n  b\n---\n").2 "---".toList
        [" ".toList, "a: 1".toList, []] "--- ".toList [[], "\t".toList, "  b".toList, "---".toList]
        (by decide) (by decide) (by decide) (by decide) (by decide)
    have hknown : header = "a: 1\n" := String.toList_inj.mp hheader
    exact ⟨body, hbody, hmap _ (if_pos hknown)⟩
  · refine (read_agrees_with_lines.2 _ _).1 ?_
    have hended : Text.endedLines "---\na: 1\n---".toList = ["---".toList, "a: 1".toList] := by
      decide
    intro first rest hlines _
    obtain ⟨rfl, rfl⟩ := List.cons.inj (hended.symm.trans hlines)
    decide

end Header

end ContentBlocks
