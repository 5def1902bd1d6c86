import ContentBlocks.Proofs.Batch.Slugs
import ContentBlocks.Proofs.Command.Ending

/-!
# Commands about one file

A file that was converted can be looked at afterwards: it is checked, counted and outlined as its
document says. The commands that look at a file take a way of their own to its blocks, and draw keys
of their own; but they find the same settings and the same text, and keys carry nothing. The one
thing that a conversion may put in their way is a folder at the path of the settings, which is made
there if documents are to go there or below.

## Main definitions

* `Report.Prints`: a report that ends well with some lines
* `Agree`: what three commands say about a file is what a document says

## Main results

* `Saved.configValue`: a run leaves the settings as they are, or puts a folder there
* `Action.ofWords_singleton_iff`: a word alone is a path unless it is written like an option
* `commands_agree`: what the commands say about a file that was converted
-/

namespace ContentBlocks

open Storage (Disk Path)

/-! ### What a run leaves -/

namespace Batch

variable {load : String → Except Yaml.Failure Yaml.Value} {plan : Plan} {d d' : Disk}
  {docs : List Document}

theorem Saved.configPlace (h : Saved plan docs d d') :
    Settings.configPlace d' = Settings.configPlace d := by
  rw [Settings.configPlace, h.grows.working]
  rfl

/-- A run makes a folder in the place of the settings only on the way to the folder of documents. -/
theorem Saved.exists_upTo (h : Saved plan docs d d') (hd : d.Rooted)
    (hfolder : d'.isFolder Settings.configPath = true)
    (hbefore : d.isFolder Settings.configPath = false) :
    ∃ n, d'.resolve (Disk.upTo plan.folder n) = .ok (Settings.configPlace d') := by
  rw [Settings.isFolder_configPath_iff (h.grows.rooted hd)] at hfolder
  rw [← Bool.not_eq_true, Settings.isFolder_configPath_iff hd, ← h.configPlace] at hbefore
  obtain hold | ⟨-, hway⟩ := h.folders _ hfolder
  · exact absurd hold hbefore
  · exact hway

/-- **The settings after a run** are those before, or a folder is in the place of their file. -/
theorem Saved.configValue (h : Saved plan docs d d') (hd : d.Rooted)
    (hfolder : d'.isFolder Settings.configPath = false) :
    Settings.configValue load d' = Settings.configValue load d := by
  have hd' : d'.Rooted := h.grows.rooted hd
  have hplace := h.configPlace
  rw [← Bool.not_eq_true, Settings.isFolder_configPath_iff hd', hplace] at hfolder
  rw [Settings.configValue_eq hd', Settings.configValue_eq hd, hplace]
  -- no document has the name of the file, so the file is the same or still is not there
  have hfile : d'.fileAt? (Settings.configPlace d) = d.fileAt? (Settings.configPlace d) :=
    h.fileAt?_of_not_json List.getLast?_concat (by decide)
  cases hcontent : d'.content? (Settings.configPlace d) with
  | none =>
    have hnone : d.content? (Settings.configPlace d) = none := by
      by_contra hthere
      exact h.grows.content? hthere hcontent
    rw [hnone]
  | some c =>
    cases c with
    | folder => exact absurd hcontent hfolder
    | file bytes =>
      rw [Disk.fileAt?_eq_some_iff.mpr hcontent] at hfile
      rw [Disk.fileAt?_eq_some_iff.mp hfile.symm]

/-- What is read of a path of Markdown is what was read before any document was written. -/
theorem Saved.read {p : Path} (h : Saved plan docs d d') (hd : d.Rooted) (hp : p.isMarkdown)
    {place : List String} (hplace : d.resolve p = .ok place) (most : Int) :
    Source.read load d' p most = Source.read load d p most := by
  rw [Source.read_of_resolve (h.grows.resolve hplace), Source.read_of_resolve hplace,
    h.content?_of_resolve hp hplace hd]

/-- A run over one file that ends well has a document for it, and writes only this. -/
theorem saved_of_run {p : Path} {o : Outcome} (hd : d.WellFormed) (hp : d.discover p = .ok [p])
    (hrun : run plan d p = .ok o) (hall : o.failure = none) :
    ∃ doc stop, convertSource plan d p 0 = .ok (doc, stop) ∧ Saved plan [doc] d o.disk := by
  obtain ⟨built, rest, stop, hpaths, hbuilt, -, hsaved, hended⟩ := built_of_run hd hrun
  -- no source is left, so all that was found, which is one, has its document
  rw [hall] at hended
  cases hended
  rw [hp, List.append_nil, Except.ok.injEq] at hpaths
  obtain ⟨⟨_, doc⟩, _, rfl, rfl, hnil⟩ := List.map_eq_cons_iff.mp hpaths.symm
  obtain rfl := List.map_eq_nil_iff.mp hnil
  cases hbuilt with
  | cons hdoc hrest => exact ⟨doc, _, hdoc, hsaved⟩

end Batch

namespace Command

open Batch (Kept)

/-! ### Words -/

/-- A word alone that is written like an option is not left as it is. -/
theorem snd_of_readOptions?_option {known : OptionNames} {mixed : Bool} {word : String}
    {found : List Given × List String} (hoption : isOption word = true)
    (h : readOptions? known mixed [word] = some found) : found.2 = [] := by
  by_cases hend : word = "--"
  · subst hend
    simp only [readOptions?, Option.some.injEq] at h
    rw [← h]
  · rw [readOptions?, if_pos hoption] at h
    swap
    · exact hend
    -- it takes the value in it, or is a flag, or is refused; nothing comes after it
    generalize cutAtEquals word = cut at h
    obtain ⟨name, value⟩ := cut
    cases value with
    | none =>
      simp only [readOptions?] at h
      split at h
      · cases h
      · split at h
        · cases h
          rfl
        · cases h
    | some value =>
      simp only [readOptions?] at h
      split at h
      · cases h
        rfl
      · split at h
        · cases h
          rfl
        · cases h

theorem readOptions?_word {known : OptionNames} {mixed : Bool} {word : String}
    (hoption : isOption word = false) :
    readOptions? known mixed [word] = some ([], [word]) := by
  have hend : word ≠ "--" := by
    rintro rfl
    revert hoption
    decide
  rw [readOptions?, if_neg (by simp [hoption])]
  · cases mixed <;> rfl
  · exact hend

/-- A word alone is the path for a command exactly if it is not written like an option. -/
theorem Action.ofWords_singleton_iff {name : Name} {file : String} {action : Action} :
    Action.ofWords name [file] = .asked action ↔
      isOption file = false ∧ action = name.action file [] := by
  unfold Action.ofWords
  cases hoption : isOption file with
  | true =>
    cases hread : readOptions? name.options true [file] with
    | none => simp
    | some found =>
      obtain ⟨given, rest⟩ := found
      obtain rfl : rest = [] := snd_of_readOptions?_option hoption hread
      dsimp only
      split <;> simp
  | false =>
    rw [readOptions?_word hoption]
    simp [isGiven, eq_comm]

/-! ### Reports about one file -/

/-- The code that a command ends with. -/
def Ending.code? : Ending → Option Nat
  | .exit code => some code
  | .misused | .help | .escape _ => none

theorem Ending.code?_eq_some_iff {ending : Ending} {code : Nat} :
    ending.code? = some code ↔ ending = .exit code := by
  cases ending <;> simp [code?]

/-- A report that ends well with some lines, which stand as they are unless there may be sequences
for the terminal in them. -/
structure Report.Prints (r : Report) (lines : List String) : Prop where
  ending : r.ending = .exit 0
  output : r.output = lines.map plain
  unchanged : (∀ line ∈ lines, '\x1b' ∉ line.toList) → r.output = lines

namespace Report

variable {w : World} {level : LogLevel} {settings : Settings} {file : String} {lines : List String}

theorem prints_of_lines {log : List String} :
    Prints ⟨.exit 0, lines.map plain, log, w.disk⟩ lines where
  ending := rfl
  output := rfl
  unchanged h := by
    refine (List.map_congr_left fun line hline => ?_).trans (List.map_id lines)
    exact plain_of_not_mem (h line hline)

/-- A command that finds blocks and has lines to tell about them prints these lines. -/
theorem prints_onBlocks {source : Source} {bs : List Block} {stop : Nat}
    (hread : Source.read w.readers.yaml w.disk (.ofText file) settings.maxFileSize = .ok source)
    (htext : convertText w.readers.markdown settings.parserConfig source.body w.keys 0 =
      .ok (bs, stop))
    {tell : List Block → List Batch.LogLine × Except String (List String)}
    (htell : (tell bs).2 = .ok lines) : (onBlocks w level file settings tell).Prints lines := by
  unfold onBlocks
  simp only [hread, htext, htell]
  exact prints_of_lines

/-- Without options a command puts nothing over the settings. -/
theorem load_of_action (name : Name) :
    Settings.load w.readers w.disk w.environment (name.action file []).overrides = .ok settings ↔
      Settings.load w.readers w.disk w.environment [] = .ok settings := by
  refine Settings.load_of_silent (Settings.fromOverrides_of_null ?_)
  cases name <;> simp [Name.action, Action.overrides, overrides, lastValue?, isGiven]

/-- A command does with a path what it does with the settings, if the path is not written like an
option. -/
theorem ofWords_of_settings (name : Name) {words : List String}
    (hwords : Invocation.ofWords words = .asked ⟨none, name, [file]⟩)
    (hfile : isOption file = false)
    (hload : Settings.load w.readers w.disk w.environment [] = .ok settings) :
    ofWords w words = perform w settings.logLevel (name.action file []) settings := by
  have haction : Action.ofWords name [file] = .asked (name.action file []) :=
    Action.ofWords_singleton_iff.mpr ⟨hfile, rfl⟩
  have hlevel : threshold w none = .ok settings.logLevel := by
    rw [threshold, hload]
  unfold ofWords
  simp only [hwords, haction, hlevel]
  rw [ofAction_eq, settings_eq_ok_iff.mpr ((load_of_action name).mpr hload)]

/-- A folder in the place of the settings is in the way of every command. -/
theorem ending_of_isFolder {words : List String} {i : Invocation}
    (hwords : Invocation.ofWords words = .asked i) (hlevel : i.logLevel = none)
    (hfolder : w.disk.isFolder Settings.configPath = true) :
    (ofWords w words).ending =
      .escape (.settings (.storage ⟨.isFolder, Settings.configPath⟩)) := by
  have hload : Settings.load w.readers w.disk w.environment [] =
      .error (.storage ⟨.isFolder, Settings.configPath⟩) := by
    rw [Settings.load, Settings.configValue_of_isFolder hfolder]
    rfl
  unfold ofWords
  simp only [hwords, hlevel, threshold, hload, isToldSettings, Bool.false_eq_true, if_false]

/-! ### What a report that ends well says -/

/-- A command with one word ends well only if it takes the word for a path. -/
theorem exists_level_of_exit {name : Name} {words : List String}
    (hwords : Invocation.ofWords words = .asked ⟨none, name, [file]⟩)
    (hexit : (ofWords w words).ending = .exit 0) :
    isOption file = false ∧ ∃ level, ofWords w words = ofAction w level (name.action file []) := by
  unfold ofWords at hexit ⊢
  simp only [hwords] at hexit ⊢
  cases hlevel : threshold w none with
  | error report =>
    -- without a level of its own the log fails only in ways that are not told
    obtain ⟨cause, hescape⟩ := (escapesIff_of_threshold hlevel).1.escapes nofun
    rw [hlevel] at hexit
    exact absurd (hexit.symm.trans hescape) nofun
  | ok level =>
    simp only [hlevel] at hexit ⊢
    cases haction : Action.ofWords name [file] with
    | misused => rw [haction] at hexit; cases hexit
    | help => rw [haction] at hexit; cases hexit
    | asked action =>
      obtain ⟨hfile, rfl⟩ := Action.ofWords_singleton_iff.mp haction
      exact ⟨hfile, level, rfl⟩

/-- A command that ends well has settings. -/
theorem exists_settings_of_exit {action : Action}
    (hexit : (ofAction w level action).ending = .exit 0) :
    ∃ settings, Settings.load w.readers w.disk w.environment action.overrides = .ok settings ∧
      ofAction w level action = perform w level action settings := by
  rw [ofAction_eq] at hexit ⊢
  cases hsettings : Report.settings w action.overrides with
  | ok settings => exact ⟨settings, settings_eq_ok_iff.mp hsettings, rfl⟩
  | error report =>
    -- a report in place of the settings never ends well
    rw [hsettings] at hexit
    unfold Report.settings at hsettings
    split at hsettings
    · cases hsettings
    · split at hsettings <;> cases hsettings <;> cases hexit

/-- A conversion that ends well has run to its end. -/
theorem exists_outcome_of_exit (hexit : (convert w level file settings).ending = .exit 0) :
    ∃ outcome, Batch.run ⟨w.readers, settings, w.keys, w.now⟩ w.disk (.ofText file) = .ok outcome ∧
      outcome.failure = none ∧ (convert w level file settings).disk = outcome.disk := by
  unfold convert at hexit ⊢
  cases hrun : Batch.run ⟨w.readers, settings, w.keys, w.now⟩ w.disk (.ofText file) with
  | error trouble => rw [hrun] at hexit; cases hexit
  | ok outcome =>
    obtain ⟨disk, results, failure, log⟩ := outcome
    simp only [hrun] at hexit ⊢
    cases failure with
    | some failure => cases hexit
    | none =>
      cases results with
      | nil => cases hexit
      | cons => exact ⟨_, rfl, rfl, rfl⟩

end Report

/-! ### Agreement -/

/-- What three commands say about a file is what a document says. -/
structure Agree (w : World) (file : String) (doc : Document) : Prop where
  check : (Report.ofWords w ["check", file]).Prints
    [file ++ ": OK (" ++ toString doc.stats.totalBlocks ++ " blocks)"]
  stats : (Report.ofWords w ["stats", file]).Prints [doc.stats.toJson.write ⟨some 2, true⟩]
  headings : (Report.ofWords w ["headings", file]).Prints
    (if doc.headings = [] then ["No headings found."] else doc.headings.map OutlineEntry.line)

/-- The commands say what a document says, if they find blocks with its outline and its counts, and
the blocks are fit to be written. -/
theorem agree_of_blocks {w : World} {settings : Settings} {file : String} {source : Source}
    {doc : Document} {bs : List Block} {stop : Nat} (hfile : isOption file = false)
    (hload : Settings.load w.readers w.disk w.environment [] = .ok settings)
    (hread : Source.read w.readers.yaml w.disk (.ofText file) settings.maxFileSize = .ok source)
    (htext : convertText w.readers.markdown settings.parserConfig source.body w.keys 0 =
      .ok (bs, stop))
    (hfit : Shape.fit bs = true) (hstats : stats bs = doc.stats)
    (houtline : outline bs = doc.headings) : Agree w file doc where
  check := by
    rw [Report.ofWords_of_settings .check rfl hfile hload, Name.action, Report.perform]
    refine Report.prints_onBlocks hread htext ?_
    rw [← hstats]
    exact if_pos hfit
  stats := by
    rw [Report.ofWords_of_settings .stats rfl hfile hload, Name.action, Report.perform]
    refine Report.prints_onBlocks hread htext ?_
    rw [← hstats]
    rfl
  headings := by
    rw [Report.ofWords_of_settings .headings rfl hfile hload, Name.action, Report.perform]
    refine Report.prints_onBlocks hread htext ?_
    rw [← houtline]
    simp only [Report.headingLines]
    cases outline bs <;> simp

/-- **Commands agree about a file** that was converted. Its document is written, and with any keys
that are not empty the other commands say what the document says. Only if the way to the folder of
documents has put a folder in the place of the settings, every command ends with this. -/
theorem commands_agree (w : World) (file : String) {bytes : List UInt8} (hd : w.disk.WellFormed)
    (hkeys : ∀ n, ∃ key, w.keys n = .ok key ∧ key ≠ "")
    (hname : (Path.ofText file).isMarkdown) (hfile : w.disk.find (.ofText file) = .ok (.file bytes))
    (hexit : (Report.ofWords w ["convert", file]).ending = .exit 0) :
    ∃ settings doc after, after = (Report.ofWords w ["convert", file]).disk ∧
      Settings.load w.readers w.disk w.environment [] = .ok settings ∧
      Kept ⟨w.readers, settings, w.keys, w.now⟩ after doc ∧
      doc.stats.totalBlocks = doc.blocks.length ∧
      ∀ (keys : Key.Source) (now : String), (∀ n, ∃ key, keys n = .ok key ∧ key ≠ "") →
        (after.isFolder Settings.configPath = false →
          Agree ⟨w.readers, after, w.environment, keys, now⟩ file doc) ∧
        (after.isFolder Settings.configPath = true →
          (∃ n, after.resolve (Disk.upTo (.ofText settings.outputDir) n) =
            .ok (Settings.configPlace after)) ∧
          ∀ command ∈ ["check", "stats", "headings"],
            (Report.ofWords ⟨w.readers, after, w.environment, keys, now⟩
              [command, file]).ending =
              .escape (.settings (.storage ⟨.isFolder, Settings.configPath⟩))) := by
  have hendless : ∀ n, ∃ key, w.keys n = .ok key := fun n => (hkeys n).imp fun _ => And.left
  obtain ⟨hopt, level, hwords⟩ := Report.exists_level_of_exit rfl hexit
  rw [hwords] at hexit ⊢
  obtain ⟨settings, hload, hperform⟩ := Report.exists_settings_of_exit hexit
  have hload' := (Report.load_of_action .convert).mp hload
  rw [hperform] at hexit ⊢
  obtain ⟨outcome, hrun, hall, hdisk⟩ := Report.exists_outcome_of_exit hexit
  have hpaths : w.disk.discover (.ofText file) = .ok [.ofText file] := by
    simp [Disk.discover, hfile, hname]
  -- the conversion read a source, and the document has its blocks
  obtain ⟨doc, stop, hdoc, hsaved⟩ := Batch.saved_of_run hd hpaths hrun hall
  obtain ⟨source, bs, hread, htext, -, hmade⟩ := Batch.convertSource_eq_ok_iff.mp hdoc
  obtain ⟨hblocks, hheadings, hstats⟩ := Document.blocks_of_ofSource? hmade
  refine ⟨settings, doc, outcome.disk, hdisk.symm, hload', ?_, ?_, fun keys now hkeys' => ⟨?_, ?_⟩⟩
  · obtain ⟨place, text, hplace, hwritten, hlast⟩ := hsaved.written [] doc [] rfl
    exact ⟨place, text, hplace, hwritten, hlast nofun⟩
  · rw [hstats, hblocks]
    rfl
  · intro hfolder
    -- the source is read once more, and other keys give the same blocks apart from these
    obtain ⟨bs', stop', htext', hbs, hfit⟩ := unkeyed_of_convertText hendless hkeys' htext 0
    have hload'' : Settings.load w.readers outcome.disk w.environment [] = .ok settings := by
      rw [Settings.load, hsaved.configValue hd.rooted hfolder]
      exact hload'
    obtain ⟨place, hplace⟩ := (Storage.Disk.resolve_of_mem_discover hd hpaths List.mem_cons_self).2
    have hread' : Source.read w.readers.yaml outcome.disk (.ofText file) settings.maxFileSize =
        Source.read w.readers.yaml w.disk (.ofText file) settings.maxFileSize :=
      hsaved.read hd.rooted hname hplace _
    exact agree_of_blocks (w := ⟨w.readers, outcome.disk, w.environment, keys, now⟩) hopt hload''
      (hread'.trans hread) htext' hfit ((stats_of_unkeyed hbs).trans hstats.symm)
      ((outline_of_unkeyed hbs).trans hheadings.symm)
  · intro hfolder
    -- there was no folder before, since the conversion had settings
    refine ⟨hsaved.exists_upTo hd.rooted hfolder ?_, fun command hcommand => ?_⟩
    · rw [← Bool.not_eq_true]
      intro hbefore
      rw [Settings.load, Settings.configValue_of_isFolder hbefore] at hload
      cases hload
    · simp only [List.mem_cons, List.not_mem_nil, or_false] at hcommand
      rcases hcommand with rfl | rfl | rfl <;> exact Report.ending_of_isFolder rfl rfl hfolder

theorem exists_key_ne_empty (n : Nat) : ∃ key, Key.Source.counted n = .ok key ∧ key ≠ "" :=
  ⟨_, rfl, counted_ne_empty n _ rfl⟩

/-- A break, converted with the settings of a run that is told nothing. -/
theorem agree_of_break :
    ∃ settings doc after,
      after = (Report.ofWords (.usual Batch.oneBreak) ["convert", "a.md"]).disk ∧
      Kept ⟨.standard, settings, .counted, "now"⟩ after doc ∧ Agree (.usual after) "a.md" doc := by
  have hexit : (Report.ofWords (.usual Batch.oneBreak) ["convert", "a.md"]).ending.code? =
      some 0 := by
    decide +kernel
  have hfolder : (Report.ofWords (.usual Batch.oneBreak) ["convert", "a.md"]).disk.isFolder
      Settings.configPath = false := by
    decide +kernel
  have hfile : (World.usual Batch.oneBreak).disk.find (.ofText "a.md") =
      .ok (.file (Text.utf8 "***\n")) := rfl
  obtain ⟨settings, doc, after, rfl, -, hkept, -, hagree⟩ :=
    commands_agree (.usual Batch.oneBreak) "a.md" (by decide +kernel) exists_key_ne_empty
      (by decide) hfile (Ending.code?_eq_some_iff.mp hexit)
  exact ⟨settings, doc, _, rfl, hkept,
    (hagree .counted "now" exists_key_ne_empty).1 hfolder⟩

/-- Documents that are to go to the place of the settings. -/
def documentsAtConfig : World :=
  { World.usual Batch.oneBreak with environment := [("MDBLOCKS_OUTPUT_DIR", "config.yaml")] }

/-- Commands do not always agree: documents that go to `config.yaml` make a folder of it, and no
check gets past that. -/
theorem not_agree_of_documents_at_config :
    ¬∀ (w : World) (file : String) (bytes : List UInt8), w.disk.WellFormed →
      (∀ n, ∃ key, w.keys n = .ok key ∧ key ≠ "") → (Path.ofText file).isMarkdown →
        w.disk.find (.ofText file) = .ok (.file bytes) →
          (Report.ofWords w ["convert", file]).ending = .exit 0 →
            (Report.ofWords ⟨w.readers, (Report.ofWords w ["convert", file]).disk, w.environment,
              w.keys, w.now⟩ ["check", file]).ending = .exit 0 := by
  intro hcheck
  have hexit : (Report.ofWords documentsAtConfig ["convert", "a.md"]).ending.code? = some 0 := by
    decide +kernel
  have hfolder : (Report.ofWords documentsAtConfig ["convert", "a.md"]).disk.isFolder
      Settings.configPath = true := by
    decide +kernel
  have hending := hcheck documentsAtConfig "a.md" (Text.utf8 "***\n") (by decide +kernel)
    exists_key_ne_empty (by decide) rfl (Ending.code?_eq_some_iff.mp hexit)
  rw [Report.ending_of_isFolder rfl rfl hfolder] at hending
  cases hending

end Command

end ContentBlocks
