import ContentBlocks.Proofs.Source.Header
import Mathlib.Data.List.TakeWhile

/-!
# Headers that say nothing

Two fences with only blank lines between them look like a header that says nothing. What is read
depends on what follows. The header begins after the last line end from which on it has an end: with
a third fence in the text that is the line end before the second, which so becomes the first line of
the header. Without a third fence the header is the last of the blank lines, and if there is no such
line the text has no header.

## Main definitions

* `Header.ofParts load`: what is read of a header and a body

## Main results

* `Yaml.read_of_spaces`: a text of spaces has no value
* `Header.fromBreak?_cut?_of_blank`: the choice among the line ends when all lines are blank
* `Header.read_of_blank_header`: what is read of a text that begins with two such fences
-/

namespace ContentBlocks

/-! ### A text of spaces -/

namespace Yaml

variable {cs : List Char} {p : Place}

theorem Place.rest_advance (n : Nat) (p : Place) : (p.advance n).rest = p.rest.drop n := by
  induction n generalizing p with
  | zero => rfl
  | succ n ih =>
    rw [advance, ih, next]
    obtain ⟨rest, offset, line, column⟩ := p
    cases rest with
    | nil => rw [List.drop_nil, List.drop_nil]
    | cons c cs =>
      dsimp only
      split_ifs <;> rfl

/-- Nothing is left behind the spaces at the end of a text. -/
theorem Place.rest_afterComment_of_spaces (h : ∀ c ∈ p.rest, c = ' ') :
    p.afterComment.rest = [] := by
  have htaken : p.taken (· == ' ') = p.rest :=
    List.takeWhile_eq_self_iff.mpr fun c hc => by simp [h c hc]
  have hskip : (p.skip (· == ' ')).rest = [] := by
    rw [skip, rest_advance, htaken, List.drop_length]
  have hhead : (p.skip (· == ' ')).head? ≠ some '#' := by
    rw [head?, hskip]
    exact nofun
  rw [afterComment, if_neg hhead, hskip]

theorem Layout.skipToToken_of_spaces (h : ∀ c ∈ p.rest, c = ' ') (fuel : Nat)
    (inFlow allowed : Bool) :
    skipToToken inFlow (fuel + 1) allowed p = (allowed, p.afterComment) := by
  have hbreak : p.afterComment.lineBreak? = none := by
    rw [Place.lineBreak?, Place.rest_afterComment_of_spaces h]
  rw [skipToToken, hbreak]

theorem Layout.toToken_start_of_spaces (h : ∀ c ∈ cs, c = ' ') :
    (start cs).toToken = .ok { start cs with place := (Place.start cs).afterComment } := by
  have hplace : (start cs).place = Place.start cs := rfl
  have hmark : (Place.start cs).head? ≠ some '\uFEFF' := by
    intro hhead
    have hmem : '\uFEFF' ∈ cs := List.mem_of_mem_head? hhead
    exact absurd (h _ hmem) (by decide)
  rw [toToken]
  simp only [hplace, hmark, decide_false, Bool.and_false, Bool.false_eq_true, if_false]
  rw [skipToToken_of_spaces (p := Place.start cs) h]
  rfl

/-- A text of spaces has no token but its end. -/
theorem tokens_of_spaces (h : ∀ c ∈ cs, c = ' ') : tokens cs = [.textEnd] := by
  have hrest : (Place.start cs).afterComment.rest = [] := Place.rest_afterComment_of_spaces h
  rw [tokens, Layout.run, Layout.toToken_start_of_spaces h]
  simp only [Place.head?, hrest, List.head?_nil]
  rfl

/-- **A text of spaces has no value.** -/
theorem read_of_spaces (h : ∀ c ∈ cs, c = ' ') : read (.ofList cs) = .ok .null := by
  have hallowed : cs.all isAllowed = true := by
    refine List.all_eq_true.mpr fun c hc => ?_
    rw [h c hc]
    decide
  have hdocument : document? cs = .ok (none, []) := by
    rw [document?, tokens_of_spaces h]
    rfl
  rw [read, String.toList_ofList, if_pos hallowed, hdocument]

end Yaml

/-! ### Lengths -/

namespace Text

variable {lines lines' : List (List Char)} {last : List Char}

theorem length_unlines_cons (line : List Char) :
    (unlines (line :: lines) last).length = line.length + (unlines lines last).length + 1 := by
  rw [unlines, List.length_append, List.length_cons]
  omega

/-- A text is no longer without its first lines. -/
theorem length_unlines_le_of_suffix (h : lines' <:+ lines) :
    (unlines lines' last).length ≤ (unlines lines last).length := by
  obtain ⟨front, rfl⟩ := h
  induction front with
  | nil => exact Nat.le_refl _
  | cons line front ih =>
    rw [List.cons_append, length_unlines_cons]
    omega

end Text

/-- What is dropped from the start of a list stands before the first item that is not. -/
theorem suffix_dropWhile_append {α : Type} {p : α → Bool} {x : α} {ys : List α} (xs : List α)
    (hx : ¬ p x = true) : x :: ys <:+ (xs ++ x :: ys).dropWhile p := by
  induction xs with
  | nil => simp [hx]
  | cons a xs ih =>
    rw [List.cons_append]
    by_cases ha : p a = true
    · rw [List.dropWhile_cons_of_pos ha]
      exact ih
    · rw [List.dropWhile_cons_of_neg ha]
      exact List.suffix_append (a :: xs) (x :: ys)

namespace Header

open Text (allBlank unlines)

variable {first closing line last : List Char} {between after : List (List Char)}

theorem not_allBlank_of_isFence (h : IsFence line) : ¬ allBlank line = true := by
  obtain ⟨blanks, rfl, -⟩ := h
  intro hblank
  have hmark : Text.isBlank '-' = true :=
    List.all_eq_true.mp hblank '-' (List.mem_append_left blanks (by decide))
  exact absurd hmark (by decide)

/-! ### Where a text is cut -/

/-- **If all lines before a fence are blank**, the fence itself begins what is cut, if that can be
cut; and if it cannot, the last of the blank lines is cut off alone. -/
theorem fromBreak?_cut?_of_blank (hlines : ∀ line ∈ between ++ closing :: after, '\n' ∉ line)
    (hlast : '\n' ∉ last) (hblank : ∀ line ∈ between, allBlank line = true)
    (hclosing : IsFence closing) :
    fromBreak? cut? (unlines (between ++ closing :: after) last) =
      (cut? (unlines (closing :: after) last)).or
        (between.getLast?.map fun line => (line, unlines (after.dropWhile allBlank) last)) := by
  -- by induction on the blank lines, from the last one on: what can be cut after a line goes first
  induction between with
  | nil =>
    rw [List.nil_append, List.forall_mem_cons] at hlines
    rw [List.nil_append, fromBreak?_cons hlines.1 (not_allBlank_of_isFence hclosing),
      List.getLast?_nil, Option.map_none, Option.or_none]
  | cons line between ih =>
    rw [List.cons_append, List.forall_mem_cons] at hlines
    rw [List.forall_mem_cons] at hblank
    have hrest := ih hlines.2 hblank.2
    rw [List.cons_append, unlines, fromBreak?, atBreak?_line hlines.1, if_pos hblank.1, hrest,
      Option.orElse_eq_orElse, Option.orElse_eq_or]
    cases between with
    | nil =>
      have hcut : cut? (unlines (line :: ([] ++ closing :: after)) last) =
          some (['\n'].intercalate [line], unlines (after.dropWhile allBlank) last) :=
        cut?_unlines hlines.1 hlines.2 hlast (by simp) hclosing
      rw [List.intercalate_singleton, unlines] at hcut
      rw [hcut, List.getLast?_nil, Option.map_none, Option.or_none, List.getLast?_singleton,
        Option.map_some]
    | cons line' between =>
      -- a later blank line is there, so there is something to choose already
      rw [List.getLast?_cons_cons, Option.or_assoc]
      cases h : (line' :: between).getLast? with
      | none => simp at h
      | some l => rfl

/-! ### What is read -/

section Reading

variable {load : String → Except Yaml.Failure Yaml.Value} {text header body body' : String}

/-- What is read of a header and a body, by any reader of YAML. -/
def ofParts (load : String → Except Yaml.Failure Yaml.Value) (header body : String) :
    Except Failure (Header × String) :=
  match load header with
  | .error cause => .error (.yaml cause)
  | .ok v => (ofValue v).map (·, body)

theorem readWith_of_split {header body : List Char}
    (h : split text.toList = some (header, body)) :
    readWith load text = ofParts load (.ofList header) (.ofList body) := by
  rw [readWith, h]
  rfl

theorem readWith_of_split_eq_none (h : split text.toList = none) :
    readWith load text = .ok ([], text) := by
  rw [readWith, h]

/-- A value counts as an empty header just if it counts as false. -/
theorem ofValue_eq_ok_nil_iff {v : Yaml.Value} : ofValue v = .ok [] ↔ v.truthy = false := by
  refine ⟨fun h => ?_, ofValue_of_falsy⟩
  by_contra htrue
  rw [Bool.not_eq_false] at htrue
  cases v with
  | map entries =>
    rw [ofValue_map] at h
    obtain rfl : entries = [] := Except.ok.inj h
    cases htrue
  | _ =>
    rw [ofValue_of_truthy htrue nofun] at h
    cases h

theorem ofParts_eq_ok_nil_iff :
    ofParts load header body = .ok ([], body') ↔
      body = body' ∧ ∃ v, load header = .ok v ∧ v.truthy = false := by
  unfold ofParts
  constructor
  · intro h
    cases hload : load header with
    | error cause => rw [hload] at h; cases h
    | ok v =>
      rw [hload] at h
      cases hvalue : ofValue v with
      | error cause => simp [hvalue, Except.map] at h
      | ok entries =>
        simp only [hvalue, Except.map, Except.ok.injEq, Prod.mk.injEq] at h
        obtain ⟨rfl, rfl⟩ := h
        exact ⟨rfl, v, rfl, ofValue_eq_ok_nil_iff.mp hvalue⟩
  · rintro ⟨rfl, v, hload, hfalse⟩
    rw [hload]
    dsimp only
    rw [ofValue_of_falsy hfalse]
    rfl

end Reading

/-! ### Two fences with blank lines between them -/

section Blank

variable {text : String} {load : String → Except Yaml.Failure Yaml.Value}

theorem split_of_blank
    (hended : Text.endedLines text.toList = first :: (between ++ closing :: after))
    (hfirst : IsFence first) (hblank : ∀ line ∈ between, allBlank line = true)
    (hclosing : IsFence closing) :
    split text.toList =
      (cut? (unlines (closing :: after) (Text.lastLine text.toList))).or
        (between.getLast?.map fun line =>
          (line, unlines (after.dropWhile allBlank) (Text.lastLine text.toList))) := by
  obtain ⟨htext, hlines, hlast⟩ := Text.unlines_lines text.toList
  rw [hended] at htext hlines
  rw [List.forall_mem_cons] at hlines
  conv_lhs => rw [← htext]
  rw [split_unlines hlines.1, if_pos hfirst,
    fromBreak?_cut?_of_blank hlines.2 hlast hblank hclosing]

/-- The lines behind the second fence, and the last one, have no line end in them. -/
theorem lines_after_of_blank
    (hended : Text.endedLines text.toList = first :: (between ++ closing :: after)) :
    (∀ line ∈ closing :: after, '\n' ∉ line) ∧ '\n' ∉ Text.lastLine text.toList := by
  obtain ⟨-, hlines, hlast⟩ := Text.unlines_lines text.toList
  rw [hended] at hlines
  refine ⟨fun line hline => hlines line ?_, hlast⟩
  exact List.mem_cons_of_mem _ (List.mem_append_right _ hline)

/-- With a third fence the header begins with the second one. -/
theorem split_of_third_fence {inner after' : List (List Char)} {third : List Char}
    (hended : Text.endedLines text.toList =
      first :: (between ++ closing :: (inner ++ third :: after')))
    (hfirst : IsFence first) (hblank : ∀ line ∈ between, allBlank line = true)
    (hclosing : IsFence closing) (hinner : ∀ line ∈ inner, ¬ IsFence line)
    (hthird : IsFence third) :
    split text.toList = some (['\n'].intercalate (closing :: inner),
      unlines (after'.dropWhile allBlank) (Text.lastLine text.toList)) := by
  obtain ⟨hlines, hlast⟩ := lines_after_of_blank hended
  rw [List.forall_mem_cons] at hlines
  rw [split_of_blank hended hfirst hblank hclosing,
    cut?_unlines hlines.1 hlines.2 hlast hinner hthird, Option.some_or]

/-- Without a third fence the header is the last of the blank lines. -/
theorem split_of_no_third_fence
    (hended : Text.endedLines text.toList = first :: (between ++ closing :: after))
    (hfirst : IsFence first) (hblank : ∀ line ∈ between, allBlank line = true)
    (hclosing : IsFence closing) (hafter : ∀ line ∈ after, ¬ IsFence line) :
    split text.toList = between.getLast?.map fun line =>
      (line, unlines (after.dropWhile allBlank) (Text.lastLine text.toList)) := by
  obtain ⟨hlines, hlast⟩ := lines_after_of_blank hended
  rw [List.forall_mem_cons] at hlines
  rw [split_of_blank hended hfirst hblank hclosing, cut?_eq_none hlines.1 hlines.2 hlast hafter,
    Option.none_or]

/-- A third fence is the first one that follows, or there is none. -/
theorem third_fence_cases (after : List (List Char)) :
    (∀ line ∈ after, ¬ IsFence line) ∨
      ∃ inner third after', after = inner ++ third :: after' ∧
        (∀ line ∈ inner, ¬ IsFence line) ∧ IsFence third := by
  cases hfind : after.find? fun line => decide (IsFence line) with
  | none =>
    left
    intro line hline
    simpa using List.find?_eq_none.mp hfind line hline
  | some third =>
    right
    obtain ⟨hthird, inner, after', hafter, hinner⟩ := List.find?_eq_some_iff_append.mp hfind
    exact ⟨inner, third, after', hafter, by simpa using hinner, of_decide_eq_true hthird⟩

/-- What follows a third fence is not what follows the second. -/
theorem body_of_third_fence_ne {inner after' : List (List Char)} {third : List Char}
    (hthird : IsFence third) :
    unlines (after'.dropWhile allBlank) last ≠
      unlines ((inner ++ third :: after').dropWhile allBlank) last := by
  intro heq
  have hfull : (unlines (third :: after') last).length ≤
      (unlines ((inner ++ third :: after').dropWhile allBlank) last).length :=
    Text.length_unlines_le_of_suffix
      (suffix_dropWhile_append inner (not_allBlank_of_isFence hthird))
  -- the third fence itself is left of what follows the second one, so the lengths differ
  have hshort : (unlines (after'.dropWhile allBlank) last).length ≤ (unlines after' last).length :=
    Text.length_unlines_le_of_suffix (List.dropWhile_suffix allBlank)
  rw [Text.length_unlines_cons] at hfull
  rw [heq] at hshort
  omega

/-- The whole text is not what follows its second fence. -/
theorem text_ne_body
    (hended : Text.endedLines text.toList = first :: (between ++ closing :: after)) :
    text.toList ≠ unlines (after.dropWhile allBlank) (Text.lastLine text.toList) := by
  obtain ⟨htext, -⟩ := Text.unlines_lines text.toList
  rw [hended] at htext
  intro heq
  have hsuffix : after.dropWhile allBlank <:+ between ++ closing :: after :=
    (List.dropWhile_suffix allBlank).trans
      ((List.suffix_cons closing after).trans (List.suffix_append between _))
  have hshort : (unlines (after.dropWhile allBlank) (Text.lastLine text.toList)).length ≤
      (unlines (between ++ closing :: after) (Text.lastLine text.toList)).length :=
    Text.length_unlines_le_of_suffix hsuffix
  have hfull := congrArg List.length htext
  rw [Text.length_unlines_cons] at hfull
  rw [← heq] at hshort
  omega

/-- What follows the second fence is read as the body of an empty header just if no fence follows,
a line stands between the two, and the last such line is read as a value that counts as false. -/
theorem readWith_eq_ok_nil_iff {body : String}
    (hbody : body.toList = unlines (after.dropWhile allBlank) (Text.lastLine text.toList))
    (hended : Text.endedLines text.toList = first :: (between ++ closing :: after))
    (hfirst : IsFence first) (hblank : ∀ line ∈ between, allBlank line = true)
    (hclosing : IsFence closing) :
    readWith load text = .ok ([], body) ↔
      (∀ line ∈ after, ¬ IsFence line) ∧ ∃ line, between.getLast? = some line ∧
        ∃ v, load (.ofList line) = .ok v ∧ v.truthy = false := by
  rcases third_fence_cases after with hafter | ⟨inner, third, after', rfl, hinner, hthird⟩
  · have hsplit := split_of_no_third_fence hended hfirst hblank hclosing hafter
    rw [← hbody] at hsplit
    cases hlast : between.getLast? with
    | none =>
      -- no header at all, and the body is too long for what follows the second fence
      rw [hlast, Option.map_none] at hsplit
      rw [readWith_of_split_eq_none hsplit]
      constructor
      · intro h
        obtain rfl : text = body := congrArg Prod.snd (Except.ok.inj h)
        exact absurd hbody (text_ne_body hended)
      · rintro ⟨-, line, hline, -⟩
        cases hline
    | some line =>
      -- the body is right, and what is left to look at is the value of the line
      rw [hlast, Option.map_some] at hsplit
      rw [readWith_of_split hsplit, String.ofList_toList, ofParts_eq_ok_nil_iff]
      constructor
      · rintro ⟨-, hvalue⟩
        exact ⟨hafter, line, rfl, hvalue⟩
      · rintro ⟨-, line', hline', hvalue⟩
        obtain rfl : line = line' := Option.some.inj hline'
        exact ⟨rfl, hvalue⟩
  · have hsplit := split_of_third_fence hended hfirst hblank hclosing hinner hthird
    rw [readWith_of_split hsplit, ofParts_eq_ok_nil_iff]
    constructor
    · rintro ⟨heq, -⟩
      rw [← heq, String.toList_ofList] at hbody
      exact absurd hbody (body_of_third_fence_ne hthird)
    · rintro ⟨hafter, -⟩
      exact absurd hthird (hafter third (List.mem_append_right _ List.mem_cons_self))

end Blank

/-- **What is read of a text that begins with two fences and blank lines between them**, whatever
reads the YAML. If a third fence follows, the second one is the first line of the header and the
body stands behind the third. If none follows, the header is the last of the blank lines, and
without such a line the whole text is the body. So the header is empty, and what follows the second
fence the body, just if no fence follows, some line stands between the two, and the reader takes the
last of them for a value that counts as false; ours does so if it is made of spaces. -/
theorem read_of_blank_header {text : String}
    (hended : Text.endedLines text.toList = first :: (between ++ closing :: after))
    (hfirst : IsFence first) (hblank : ∀ line ∈ between, allBlank line = true)
    (hclosing : IsFence closing) :
    read = readWith Yaml.read ∧
    ∃ body : String,
      body.toList = unlines (after.dropWhile allBlank) (Text.lastLine text.toList) ∧
      (∀ load : String → Except Yaml.Failure Yaml.Value,
        (∀ inner third after', after = inner ++ third :: after' →
          (∀ line ∈ inner, ¬ IsFence line) → IsFence third →
          readWith load text =
            ofParts load (.ofList (['\n'].intercalate (closing :: inner)))
              (.ofList (unlines (after'.dropWhile allBlank) (Text.lastLine text.toList)))) ∧
        ((∀ line ∈ after, ¬ IsFence line) →
          (between = [] → readWith load text = .ok ([], text)) ∧
          ∀ line, between.getLast? = some line →
            readWith load text = ofParts load (.ofList line) body) ∧
        (readWith load text = .ok ([], body) ↔
          (∀ line ∈ after, ¬ IsFence line) ∧ ∃ line, between.getLast? = some line ∧
            ∃ v, load (.ofList line) = .ok v ∧ v.truthy = false)) ∧
      ∀ line, between.getLast? = some line → (∀ c ∈ line, c = ' ') →
        (∀ line ∈ after, ¬ IsFence line) → read text = .ok ([], body) := by
  obtain ⟨body, hbody⟩ : ∃ body : String,
      body.toList = unlines (after.dropWhile allBlank) (Text.lastLine text.toList) :=
    ⟨.ofList _, String.toList_ofList⟩
  have hempty : ∀ load, readWith load text = .ok ([], body) ↔
      (∀ line ∈ after, ¬ IsFence line) ∧ ∃ line, between.getLast? = some line ∧
        ∃ v, load (.ofList line) = .ok v ∧ v.truthy = false :=
    fun load => readWith_eq_ok_nil_iff hbody hended hfirst hblank hclosing
  refine ⟨read_eq_readWith, body, hbody, fun load => ⟨?_, ?_, hempty load⟩, ?_⟩
  · rintro inner third after' rfl hinner hthird
    exact readWith_of_split (split_of_third_fence hended hfirst hblank hclosing hinner hthird)
  · intro hafter
    have hsplit := split_of_no_third_fence hended hfirst hblank hclosing hafter
    constructor
    · rintro rfl
      exact readWith_of_split_eq_none hsplit
    · intro line hline
      rw [hline, Option.map_some, ← hbody] at hsplit
      rw [readWith_of_split hsplit, String.ofList_toList]
  · intro line hline hspaces hafter
    rw [read_eq_readWith, hempty]
    exact ⟨hafter, line, hline, .null, Yaml.read_of_spaces hspaces, rfl⟩

/-- A blank line between two fences makes an empty header, and a third fence makes the second one
the first line of a header. -/
theorem read_blank_headers :
    (∃ body : String, body.toList = "b\n".toList ∧ read "---\n  \n--- \n\nb\n" = .ok ([], body)) ∧
    ∀ load, readWith load "---\n---\na: 1\n---\nb\n" =
      ofParts load (.ofList "---\na: 1".toList) (.ofList "b\n".toList) := by
  constructor
  · have hended : Text.endedLines "---\n  \n--- \n\nb\n".toList =
        "---".toList :: (["  ".toList] ++ "--- ".toList :: [[], "b".toList]) := by decide
    have hspace : ∀ c ∈ "  ".toList, c = ' ' := by simp
    obtain ⟨-, body, hbody, -, hspaces⟩ :=
      read_of_blank_header hended (by decide) (by decide) (by decide)
    exact ⟨body, hbody, hspaces "  ".toList rfl hspace (by decide)⟩
  · intro load
    have hended : Text.endedLines "---\n---\na: 1\n---\nb\n".toList =
        "---".toList :: ([] ++ "---".toList :: (["a: 1".toList] ++ "---".toList ::
          ["b".toList])) := by
      decide
    obtain ⟨-, body, -, hload, -⟩ :=
      read_of_blank_header hended (by decide) (by decide) (by decide)
    exact (hload load).1 ["a: 1".toList] "---".toList ["b".toList] rfl (by decide) (by decide)

/-- **Not every empty header is a header**: a line behind the second fence is read as a part of the
header, and lost to the body, if a third fence follows. -/
theorem line_lost_behind_blank_header :
    ¬ ∀ (text : String) (first closing : List Char) (between after : List (List Char)),
      Text.endedLines text.toList = first :: (between ++ closing :: after) →
      IsFence first → (∀ line ∈ between, allBlank line = true) → IsFence closing →
      read text =
        .ok ([], .ofList (unlines (after.dropWhile allBlank) (Text.lastLine text.toList))) := by
  intro h
  have hended : Text.endedLines "---\n---\na: 1\n---\nb\n".toList =
      "---".toList :: ([] ++ "---".toList :: ["a: 1".toList, "---".toList, "b".toList]) := by
    decide
  have hread := h _ _ _ _ _ hended (by decide) (by decide) (by decide)
  rw [read_eq_readWith, readWith_eq_ok_nil_iff String.toList_ofList hended (by decide) (by decide)
    (by decide)] at hread
  exact absurd (by decide) (hread.1 "---".toList (by decide))

end Header

end ContentBlocks
