import ContentBlocks.Proofs.Command.Building
import ContentBlocks.Proofs.Conversion.Outline
import ContentBlocks.Proofs.Text.Names
import ContentBlocks.Proofs.Text.Pieces
import Mathlib.Data.List.TakeWhile

/-!
# Outlines, line by line

A printed outline has a line for every heading: its text behind an indentation, and its anchor. But
a text may have line ends in it, which stay where they are: a heading that is underlined can go over
several lines, and a line end can be written as a character reference. Such a heading is printed on
one line more for each of them, and the outline can be read back line by line only if there are
none. They are counted on the tree, leaf by leaf; on the way to the output they are neither lost,
as sequences for the terminal are, nor joined by others, since an anchor has none.

## Main definitions

* `Report.sent`: what is seen of the lines of a report
* `Leaf.lineEnds`, `Node.lineEnds`: the line ends in the text of a leaf, and of a heading
* `Shows r headings entries`: a report shows the outline of some headings

## Main results

* `count_plain`: no line end is taken out with the sequences for the terminal
* `lineEnds_of_listed`: the line ends in the text of an outline entry are those of its heading
* `shows_of_listed`: how many lines an outline is printed on
* `outline_shown_of_exit`: what is printed of an outline
-/

namespace ContentBlocks

open Conversion
open Storage (Disk Path)

/-! ### Line ends in headings -/

/-- The line ends in the text of a leaf. -/
def Leaf.lineEnds (l : Leaf) : Nat :=
  match l.node.kind with
  | .softBreak => 1
  | .hardBreak => 1
  | .text => l.node.content.toList.count '\n'
  | .codeSpan => l.node.content.toList.count '\n'
  | _ => 0

/-- The line ends in the text of a heading. -/
def Node.lineEnds (n : Node) : Nat :=
  ((Node.leavesOfAll (containerNodes n.container?)).map Leaf.lineEnds).sum

theorem count_text_leaf (l : Leaf) : l.text.toList.count '\n' = l.lineEnds := by
  obtain ⟨⟨kind, tag, content, info, attrs, children⟩, above⟩ := l
  have hbreak : "\n".toList.count '\n' = 1 := by decide
  cases kind with
  | softBreak => exact hbreak
  | hardBreak => exact hbreak
  | _ => rfl

/-- The text of inline trees has the line ends of their leaves. -/
theorem count_plainTextOfAll (ns : List Node) :
    (Node.plainTextOfAll ns).toList.count '\n' =
      ((Node.leavesOfAll ns).map Leaf.lineEnds).sum := by
  rw [plainTextOfAll_eq_join [], String.toList_join, List.count_flatMap, List.map_map]
  congr 1
  exact List.map_congr_left fun l _ => count_text_leaf l

/-- **The line ends in the text of an entry** are those of its heading. -/
theorem lineEnds_of_listed {n : Node} {e : OutlineEntry} (h : n.ListedAs e) :
    e.text.toList.count '\n' = n.lineEnds := by
  rw [h.text, count_plainTextOfAll]
  rfl

/-! ### The line of an entry -/

namespace OutlineEntry

variable {e : OutlineEntry}

theorem toList_line (e : OutlineEntry) :
    e.line.toList = List.replicate (2 * (e.level.val - 1)) ' ' ++ e.text.toList ++
      " (#".toList ++ e.id.toList ++ ")".toList := by
  simp only [line, String.toList_append, String.toList_ofList]

/-- The line of an entry has the line ends of its text, and no others. -/
theorem count_line (hid : e.id = anchor e.text) :
    e.line.toList.count '\n' = e.text.toList.count '\n' := by
  have hspaces : (List.replicate (2 * (e.level.val - 1)) ' ').count '\n' = 0 := by
    rw [List.count_eq_zero, List.mem_replicate]
    rintro ⟨-, h⟩
    cases h
  have hanchor : e.id.toList.count '\n' = 0 := by
    rw [List.count_eq_zero, hid]
    exact not_mem_anchor _ (by decide)
  rw [toList_line, List.count_append, List.count_append, List.count_append, List.count_append,
    hspaces, hanchor]
  have hopening : " (#".toList.count '\n' = 0 := by decide
  have hclosing : ")".toList.count '\n' = 0 := by decide
  omega

/-- The line of an entry has no sequence for the terminal if its text has none. -/
theorem escape_not_mem_line (hid : e.id = anchor e.text) (h : '\x1b' ∉ e.text.toList) :
    '\x1b' ∉ e.line.toList := by
  have hanchor : '\x1b' ∉ e.id.toList := by
    rw [hid]
    exact not_mem_anchor _ (by decide)
  rw [toList_line]
  simp only [List.mem_append, List.mem_replicate, not_or]
  refine ⟨⟨⟨⟨?_, h⟩, by decide⟩, hanchor⟩, by decide⟩
  rintro ⟨-, h⟩
  cases h

end OutlineEntry

namespace Command

/-! ### What is sent -/

/-- No line end is in a sequence for the terminal. -/
theorem count_afterSequence? {cs rest : List Char} (h : afterSequence? cs = some rest) :
    cs.count '\n' = rest.count '\n' := by
  unfold afterSequence? at h
  -- the sequence is its parameters and a letter, and none of these is a line end
  have hcs := List.takeWhile_append_dropWhile (p := fun c : Char => c.isDigit || c = ';' || c = '?')
    (l := cs)
  have hparameters : '\n' ∉ cs.takeWhile fun c => c.isDigit || c = ';' || c = '?' := by
    intro hmem
    have hchar := List.mem_takeWhile_imp (p := fun c : Char => c.isDigit || c = ';' || c = '?') hmem
    revert hchar
    decide
  split at h
  · next c rest' hrest =>
    split at h
    · next halpha =>
      cases h
      have hne : c ≠ '\n' := by
        rintro rfl
        revert halpha
        decide
      rw [← hcs, hrest, List.count_append, List.count_eq_zero.mpr hparameters, Nat.zero_add,
        List.count_cons_of_ne hne]
    · cases h
  · cases h

theorem count_plainAux (fuel : Nat) (cs : List Char) :
    (plainAux fuel cs).count '\n' = cs.count '\n' := by
  fun_induction plainAux fuel cs with
  | case1 => rfl
  | case2 => rfl
  | case3 fuel cs rest hrest ih =>
    -- a sequence is left out, with the two characters that it begins with
    rw [ih, List.count_cons_of_ne (by decide), List.count_cons_of_ne (by decide),
      count_afterSequence? hrest]
  | case4 fuel cs hnone ih =>
    rw [List.count_cons, List.count_cons (l := '[' :: cs), ih]
  | case5 fuel c cs hother ih => rw [List.count_cons, ih, List.count_cons]

/-- **No line end is taken out** with the sequences for the terminal. -/
theorem count_plain (s : String) : (plain s).toList.count '\n' = s.toList.count '\n' := by
  rw [plain, String.toList_ofList, count_plainAux]

/-- What is seen of the lines of a report: each has a line end behind it. -/
def Report.sent (r : Report) : List Char := Text.unlines (r.output.map String.toList) []

/-- As many lines are seen as there are line ends, those behind the lines of the report and those
inside of them. -/
theorem Report.length_endedLines_sent (r : Report) :
    (Text.endedLines r.sent).length =
      (r.output.map fun line => line.toList.count '\n' + 1).sum := by
  rw [Text.length_endedLines, sent, Text.count_unlines, List.count_nil, Nat.add_zero, List.map_map]
  rfl

/-- A report shows the outline of some headings: the entries in order, one line for each and one
more for each line end in its heading; and the lines are those of the entries exactly if there are
no such line ends. -/
structure Shows (r : Report) (headings : List Node) (entries : List OutlineEntry) : Prop where
  output : r.output = entries.map fun e => plain e.line
  unchanged : (∀ e ∈ entries, '\x1b' ∉ e.text.toList) → r.output = entries.map OutlineEntry.line
  ended : Text.lastLine r.sent = []
  length : (Text.endedLines r.sent).length = (headings.map fun n => n.lineEnds + 1).sum
  length_iff : (Text.endedLines r.sent).length = entries.length ↔ ∀ n ∈ headings, n.lineEnds = 0
  lines_iff : Text.endedLines r.sent = entries.map (fun e => (plain e.line).toList) ↔
    ∀ n ∈ headings, n.lineEnds = 0

section Shown

variable {r : Report} {headings : List Node} {entries : List OutlineEntry}

/-- Numbers that are each raised by one add up to how many they are exactly if all of them were
zero. -/
theorem sum_map_add_one_eq_length_iff {α : Type} (f : α → Nat) (as : List α) :
    (as.map fun a => f a + 1).sum = as.length ↔ ∀ a ∈ as, f a = 0 := by
  have hsum : (as.map fun a => f a + 1).sum = (as.map f).sum + as.length := by
    induction as with
    | nil => rfl
    | cons a as ih =>
      rw [List.map_cons, List.sum_cons, ih, List.map_cons, List.sum_cons, List.length_cons]
      omega
  rw [hsum, Nat.add_eq_right, List.sum_eq_zero_iff_forall_eq_nat]
  exact List.forall_mem_map

/-- The line of an entry has the line ends of its heading. -/
theorem count_line_of_listed {n : Node} {e : OutlineEntry} (h : n.ListedAs e) :
    (plain e.line).toList.count '\n' = n.lineEnds := by
  rw [count_plain, OutlineEntry.count_line h.id, lineEnds_of_listed h]

theorem counts_of_listed (h : List.Forall₂ Node.ListedAs headings entries) :
    entries.map (fun e => (plain e.line).toList.count '\n') = headings.map Node.lineEnds := by
  induction h with
  | nil => rfl
  | cons hlisted _ ih =>
    rw [List.map_cons, List.map_cons, ih, count_line_of_listed hlisted]

/-- Every entry of an outline has the anchor of its text. -/
theorem id_of_listed (h : List.Forall₂ Node.ListedAs headings entries) :
    ∀ e ∈ entries, e.id = anchor e.text := by
  induction h with
  | nil => exact List.forall_mem_nil _
  | cons hlisted _ ih => exact List.forall_mem_cons.mpr ⟨hlisted.id, ih⟩

/-- **A report of the lines of an outline** shows it. -/
theorem shows_of_listed (h : List.Forall₂ Node.ListedAs headings entries)
    (houtput : r.output = entries.map fun e => plain e.line) : Shows r headings entries := by
  have hlength : (Text.endedLines r.sent).length =
      (headings.map fun n => n.lineEnds + 1).sum := by
    have hcounts := congrArg (List.map (· + 1)) (counts_of_listed h)
    rw [List.map_map, List.map_map] at hcounts
    rw [r.length_endedLines_sent, houtput, List.map_map]
    exact congrArg List.sum hcounts
  have hiff : (Text.endedLines r.sent).length = entries.length ↔
      ∀ n ∈ headings, n.lineEnds = 0 := by
    rw [hlength, ← h.length_eq]
    exact sum_map_add_one_eq_length_iff Node.lineEnds headings
  refine ⟨houtput, fun hplain => ?_, Text.lastLine_unlines List.not_mem_nil _, hlength, hiff, ?_⟩
  · rw [houtput]
    refine List.map_congr_left fun e he => plain_of_not_mem ?_
    exact OutlineEntry.escape_not_mem_line (id_of_listed h e he) (hplain e he)
  · constructor
    · intro hlines
      apply hiff.mp
      rw [hlines, List.length_map]
    · intro hnone
      -- there is no line end inside of a line, so the cuts are those behind the lines
      have hzero : ∀ c ∈ entries.map fun e => (plain e.line).toList.count '\n', c = 0 := by
        rw [counts_of_listed h]
        exact List.forall_mem_map.mpr hnone
      rw [Report.sent, houtput, List.map_map]
      refine Text.endedLines_unlines (List.forall_mem_map.mpr fun e he => ?_) List.not_mem_nil
      exact List.count_eq_zero.mp (List.forall_mem_map.mp hzero e he)

end Shown

/-! ### Outlines of files -/

/-- Blocks that come of a text come of its nodes, unless the text is blank and there are none. -/
theorem exists_nodes_of_convertText
    {parse : String → String → Except Markdown.Failure (List Node)} {preset text : String}
    {source : Key.Source} {start stop : Nat} {bs : List Block}
    (h : convertText parse preset text source start = .ok (bs, stop)) (hbs : bs ≠ []) :
    ∃ nodes, parse preset text = .ok nodes ∧
      (convert nodes).run source start = .ok (bs, stop) := by
  unfold convertText at h
  split at h
  · cases h
    exact absurd rfl hbs
  · split at h
    · cases h
    · next nodes hnodes =>
      split at h
      · cases h
      · next hrun =>
        cases h
        exact ⟨nodes, hnodes, hrun⟩

theorem Report.headingLines_of_ne_nil {bs : List Block} (h : outline bs ≠ []) :
    headingLines bs = (outline bs).map OutlineEntry.line := by
  unfold headingLines
  split
  · next hnone => exact absurd hnone h
  · rfl

/-- A command for the outline that ends well has found blocks, and prints the lines of their
outline. -/
theorem Report.exists_outline_of_exit {w : World} {file : String}
    (hexit : (Report.ofWords w ["headings", file]).ending = .exit 0) :
    ∃ settings source bs stop,
      Settings.load w.readers w.disk w.environment [] = .ok settings ∧
      Source.read w.readers.yaml w.disk (.ofText file) settings.maxFileSize = .ok source ∧
      convertText w.readers.markdown settings.parserConfig source.body w.keys 0 =
        .ok (bs, stop) ∧
      (Report.ofWords w ["headings", file]).output = (headingLines bs).map plain := by
  obtain ⟨-, settings, source, bs, stop, lines, hload, hread, htext, hlines, hprints⟩ :=
    exists_told_of_exit (fun bs => ([], .ok (headingLines bs))) rfl (fun _ _ => rfl) hexit
  obtain rfl := Except.ok.inj hlines
  exact ⟨settings, source, bs, stop, hload, hread, htext, hprints.output⟩

/-- **What is printed of an outline.** If the command ends well, it has found the blocks of the
file. If they have no heading at the top, it says so. If they have some, it prints the lines of
their outline, and each is one line of what is seen if its heading has no line ends in its text;
otherwise there are as many lines more as there are such line ends. -/
theorem outline_shown_of_exit {w : World} {file : String}
    (hexit : (Report.ofWords w ["headings", file]).ending = .exit 0) :
    ∃ settings source bs stop,
      Settings.load w.readers w.disk w.environment [] = .ok settings ∧
      Source.read w.readers.yaml w.disk (.ofText file) settings.maxFileSize = .ok source ∧
      convertText w.readers.markdown settings.parserConfig source.body w.keys 0 =
        .ok (bs, stop) ∧
      (outline bs = [] → (Report.ofWords w ["headings", file]).output = ["No headings found."]) ∧
      (outline bs ≠ [] → ∃ nodes,
        w.readers.markdown settings.parserConfig source.body = .ok nodes ∧
        List.Forall₂ Node.ListedAs (nodes.filter (·.kind = .heading)) (outline bs) ∧
        Shows (Report.ofWords w ["headings", file]) (nodes.filter (·.kind = .heading))
          (outline bs)) := by
  obtain ⟨settings, source, bs, stop, hload, hread, htext, houtput⟩ :=
    Report.exists_outline_of_exit hexit
  refine ⟨settings, source, bs, stop, hload, hread, htext, fun hnone => ?_, fun hsome => ?_⟩
  · rw [houtput, Report.headingLines, hnone]
    decide +kernel
  · have hbs : bs ≠ [] := by
      rintro rfl
      exact hsome rfl
    obtain ⟨nodes, hnodes, hrun⟩ := exists_nodes_of_convertText htext hbs
    -- the entries are those of the headings in the tree, so the line ends can be counted there
    have hlisted := (described_of_run_convert hrun).listed
    refine ⟨nodes, hnodes, hlisted, shows_of_listed hlisted ?_⟩
    rw [houtput, Report.headingLines_of_ne_nil hsome, List.map_map]
    rfl

/-- A disk with two headings. -/
def twoHeadings : Disk := .ofTexts [("a.md", "# a\n\n## b\n")]

/-- Two headings without line ends are shown on two lines. -/
theorem outline_shown_of_two_headings :
    ∃ (settings : Settings) (source : Source) (bs : List Block) (stop : Nat) (nodes : List Node),
      (Report.ofWords (.usual twoHeadings) ["headings", "a.md"]).ending = .exit 0 ∧
      Source.read Yaml.read twoHeadings (.ofText "a.md") settings.maxFileSize = .ok source ∧
      convertText Markdown.read settings.parserConfig source.body .counted 0 = .ok (bs, stop) ∧
      outline bs ≠ [] ∧
      Shows (Report.ofWords (.usual twoHeadings) ["headings", "a.md"]) nodes (outline bs) ∧
      Text.endedLines (Report.ofWords (.usual twoHeadings) ["headings", "a.md"]).sent =
        ["a (#a)".toList, "  b (#b)".toList] := by
  have hexit : (Report.ofWords (.usual twoHeadings) ["headings", "a.md"]).ending.code? =
      some 0 := by
    decide +kernel
  have houtput : (Report.ofWords (.usual twoHeadings) ["headings", "a.md"]).output =
      ["a (#a)", "  b (#b)"] := by
    decide +kernel
  obtain ⟨settings, source, bs, stop, -, hread, htext, hnone, hsome⟩ :=
    outline_shown_of_exit (Ending.code?_eq_some_iff.mp hexit)
  have hbs : outline bs ≠ [] := by
    intro hbs
    have habsent := houtput.symm.trans (hnone hbs)
    revert habsent
    decide
  obtain ⟨nodes, -, -, hshows⟩ := hsome hbs
  refine ⟨settings, source, bs, stop, _, Ending.code?_eq_some_iff.mp hexit, hread, htext, hbs,
    hshows, ?_⟩
  rw [Report.sent, houtput]
  decide +kernel

/-- A disk with one heading, which is underlined and goes over two lines. -/
def headingOverLines : Disk := .ofTexts [("a.md", "a\nb\n===\n")]

/-- One entry may be on two lines: a heading that is underlined can go over more than one. -/
theorem two_lines_of_one_entry :
    ∃ settings source bs stop,
      (Report.ofWords (.usual headingOverLines) ["headings", "a.md"]).ending = .exit 0 ∧
      Settings.load .standard headingOverLines [] [] = .ok settings ∧
      Source.read Yaml.read headingOverLines (.ofText "a.md") settings.maxFileSize =
        .ok source ∧
      convertText Markdown.read settings.parserConfig source.body .counted 0 = .ok (bs, stop) ∧
      (outline bs).map OutlineEntry.line = ["a\nb (#a-b)"] ∧
      Text.endedLines (Report.ofWords (.usual headingOverLines) ["headings", "a.md"]).sent =
        ["a".toList, "b (#a-b)".toList] := by
  have hexit : (Report.ofWords (.usual headingOverLines) ["headings", "a.md"]).ending.code? =
      some 0 := by
    decide +kernel
  have hprinted : (Report.ofWords (.usual headingOverLines) ["headings", "a.md"]).output =
      ["a\nb (#a-b)"] := by
    decide +kernel
  have hlines : ((Settings.load .standard headingOverLines [] []).toOption.bind fun settings =>
      (Source.read Yaml.read headingOverLines (.ofText "a.md")
        settings.maxFileSize).toOption.bind fun source =>
          (convertText Markdown.read settings.parserConfig source.body .counted 0).toOption.map
            fun found => (outline found.1).map OutlineEntry.line) = some ["a\nb (#a-b)"] := by
    decide +kernel
  obtain ⟨settings, source, bs, stop, hload, hread, htext, -⟩ :=
    Report.exists_outline_of_exit (Ending.code?_eq_some_iff.mp hexit)
  -- the same settings, source and blocks, by their readers' own names
  have hload' : Settings.load .standard headingOverLines [] [] = .ok settings := hload
  have hread' : Source.read Yaml.read headingOverLines (.ofText "a.md") settings.maxFileSize =
      .ok source := hread
  have htext' : convertText Markdown.read settings.parserConfig source.body .counted 0 =
      .ok (bs, stop) := htext
  rw [hload'] at hlines
  simp only [Except.toOption, Option.bind_some, hread', htext', Option.map_some] at hlines
  refine ⟨settings, source, bs, stop, Ending.code?_eq_some_iff.mp hexit, hload', hread', htext',
    Option.some.inj hlines, ?_⟩
  rw [Report.sent, hprinted]
  decide +kernel

end Command

end ContentBlocks
