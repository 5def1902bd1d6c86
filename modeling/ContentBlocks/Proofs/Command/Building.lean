import ContentBlocks.Proofs.Command.Agreement
import ContentBlocks.Proofs.Storage.Listing
import ContentBlocks.Proofs.Text.Encoding

/-!
# What a document wants of a header

A header may be any mapping, but a document wants names of it: every key has to be one, and so has
the slug, if the header asks for one. Neither the blocks nor anything else of a source has a say in
this. Only a conversion makes documents, so a file whose check ends well may still have none, and is
refused there for its header.

## Main definitions

* `Yaml.Value.Spells v s`: a value is taken for a text
* `Header.Named`: a header has the names that a document wants

## Main results

* `Document.exists_ofSource?_iff`: which sources have documents
* `Command.built_iff_named`: which files are refused although their check ends well
-/

namespace ContentBlocks

open Storage (Disk Path)

/-- A value is taken for a text: for itself, for what is left of it where it is broken, or for the
one that its bytes encode. -/
inductive Yaml.Value.Spells : Yaml.Value → String → Prop
  | str (s : String) : Spells (.str s) s
  | broken (numbers : List Nat) : Spells (.broken numbers) (Yaml.charsAmong numbers)
  | bytes (s : String) : Spells (.bytes (Text.utf8 s)) s

/-- A header has the names that a document wants: each key is one, and so is the slug that it asks
for, if it asks for one. -/
structure Header.Named (header : Header) : Prop where
  keys : ∀ k v, (k, v) ∈ header → ∃ name, k.Spells name
  slug : ∀ v, Yaml.Value.field? "slug" header = some v → v.truthy = true → ∃ slug, v.Spells slug

/-! ### Sources that have documents -/

namespace Document

variable {load : String → Except Yaml.Failure Yaml.Value} {d : Disk} {p : Path} {most : Int}
  {source : Source}

theorem asText?_eq_some_iff {v : Yaml.Value} {s : String} : asText? v = some s ↔ v.Spells s := by
  constructor
  · intro h
    cases v with
    | str t =>
      obtain rfl := Option.some.inj h
      exact .str t
    | broken numbers =>
      obtain rfl := Option.some.inj h
      exact .broken numbers
    | bytes bs =>
      obtain rfl := Text.ofUtf8?_eq_some_iff.mp h
      exact .bytes s
    | _ => cases h
  · rintro (_ | _ | _)
    · rfl
    · rfl
    · exact Text.ofUtf8?_eq_some_iff.mpr rfl

/-- A walk through options finds something if it does at every step. -/
theorem exists_mapM_iff {α β : Type} {f : α → Option β} {xs : List α} :
    (∃ ys, xs.mapM f = some ys) ↔ ∀ x ∈ xs, ∃ y, f x = some y := by
  induction xs with
  | nil => simp
  | cons x xs ih =>
    rw [List.forall_mem_cons, ← ih]
    simp [List.mapM_cons, Option.bind_eq_some_iff]

theorem exists_namedHeader?_iff {header : Header} :
    (∃ entries, namedHeader? header = some entries) ↔
      ∀ k v, (k, v) ∈ header → ∃ name, k.Spells name := by
  unfold namedHeader?
  simp only [← Option.isSome_iff_exists, Option.isSome_map]
  simp only [Option.isSome_iff_exists, exists_mapM_iff, Prod.forall, ← asText?_eq_some_iff]
  refine forall₃_congr fun k v _ => ?_
  simp only [← Option.isSome_iff_exists, Option.isSome_map]

/-- The slug of a source is a name unless its header asks for one that is none. -/
theorem exists_slug_iff (h : Source.read load d p most = .ok source) :
    (∃ slug, asText? source.slug = some slug) ↔
      ∀ v, Yaml.Value.field? "slug" source.header = some v → v.truthy = true →
        ∃ slug, v.Spells slug := by
  rw [Source.slug_of_read h]
  cases Yaml.Value.field? "slug" source.header with
  | none => exact iff_of_true ⟨_, rfl⟩ nofun
  | some v =>
    -- a value that does not count as true asks for nothing
    rw [Option.filter_some]
    cases htrue : v.truthy with
    | false => simp [htrue, asText?]
    | true => simp [htrue, asText?_eq_some_iff]

/-- **Which sources have documents**: those whose headers have the names. -/
theorem exists_ofSource?_iff (h : Source.read load d p most = .ok source) (bs : List Block)
    (now : String) :
    (∃ doc, ofSource? source bs now = some doc) ↔ source.header.Named := by
  constructor
  · rintro ⟨doc, hdoc⟩
    obtain ⟨slug, header, hslug, hheader, -⟩ := ofSource?_eq_some_iff.mp hdoc
    exact ⟨exists_namedHeader?_iff.mp ⟨header, hheader⟩, (exists_slug_iff h).mp ⟨slug, hslug⟩⟩
  · intro hnamed
    obtain ⟨slug, hslug⟩ := (exists_slug_iff h).mpr hnamed.slug
    obtain ⟨header, hheader⟩ := exists_namedHeader?_iff.mpr hnamed.keys
    exact ⟨_, ofSource?_eq_some_iff.mpr ⟨slug, header, hslug, hheader, rfl⟩⟩

end Document

/-! ### Runs over one source -/

namespace Batch

variable {plan : Plan} {d : Disk} {p : Path}

/-- A source with blocks that are fit to be written only lacks a document if its header lacks
names. -/
theorem convertSource_eq_noDocument_iff {source : Source} {bs : List Block} {start stop : Nat}
    (hread : Source.read plan.readers.yaml d p plan.settings.maxFileSize = .ok source)
    (htext : convertText plan.readers.markdown plan.settings.parserConfig source.body plan.keys
      start = .ok (bs, stop))
    (hfit : Shape.fit bs = true) :
    convertSource plan d p start = .error .noDocument ↔ ¬ source.header.Named := by
  rw [← Document.exists_ofSource?_iff hread bs plan.now]
  simp only [convertSource, hread, sourceDocument, sourceBlocks, htext, Except.mapError, hfit,
    bind, Except.bind, Bool.not_true, Bool.and_false, Bool.false_eq_true, if_false]
  -- with these blocks only the making of the document is left
  cases Document.ofSource? source bs plan.now with
  | none => simp
  | some doc => simp [pure, Except.pure]

/-- Nothing but a conversion ends a run for want of a document. -/
theorem failure_of_runPaths_singleton :
    (runPaths plan [p] d 0).failure = some (p, .noDocument) ↔
      convertSource plan d p 0 = .error .noDocument := by
  unfold runPaths
  cases convertSource plan d p 0 with
  | error f => simp
  | ok result =>
    -- there is a document, and if it cannot be written, this is told in another way
    refine iff_of_false ?_ (by simp)
    dsimp only
    split <;> simp [runPaths]

end Batch

/-! ### Commands -/

namespace Command

namespace Report

variable {w : World} {file : String} {level : LogLevel} {settings : Settings}

/-- A command that ends well after looking at blocks has found them. -/
theorem exists_blocks_of_exit {tell : List Block → List Batch.LogLine × Except String (List String)}
    (hexit : (onBlocks w level file settings tell).ending = .exit 0) :
    ∃ source bs stop lines,
      Source.read w.readers.yaml w.disk (.ofText file) settings.maxFileSize = .ok source ∧
      convertText w.readers.markdown settings.parserConfig source.body w.keys 0 =
        .ok (bs, stop) ∧
      (tell bs).2 = .ok lines := by
  unfold onBlocks at hexit
  cases hread : Source.read w.readers.yaml w.disk (.ofText file) settings.maxFileSize with
  | error cause =>
    simp only [hread] at hexit
    split at hexit <;> cases hexit
  | ok source =>
    simp only [hread] at hexit
    cases htext : convertText w.readers.markdown settings.parserConfig source.body w.keys 0 with
    | error cause => simp only [htext] at hexit; cases hexit
    | ok result =>
      simp only [htext] at hexit
      cases htold : (tell result.1).2 with
      | error text => simp only [htold] at hexit; cases hexit
      | ok lines => exact ⟨source, _, _, lines, rfl, htext, htold⟩

/-- A command that looks at blocks and ends well has settings, a source and blocks, and prints what
it tells about the blocks. -/
theorem exists_told_of_exit {name : Name} {words : List String}
    (tell : List Block → List Batch.LogLine × Except String (List String))
    (hwords : Invocation.ofWords words = .asked ⟨none, name, [file]⟩)
    (htell : ∀ level settings,
      perform w level (name.action file []) settings = onBlocks w level file settings tell)
    (hexit : (ofWords w words).ending = .exit 0) :
    isOption file = false ∧ ∃ settings source bs stop lines,
      Settings.load w.readers w.disk w.environment [] = .ok settings ∧
      Source.read w.readers.yaml w.disk (.ofText file) settings.maxFileSize = .ok source ∧
      convertText w.readers.markdown settings.parserConfig source.body w.keys 0 =
        .ok (bs, stop) ∧
      (tell bs).2 = .ok lines ∧ (ofWords w words).Prints lines := by
  obtain ⟨hfile, level, haction⟩ := exists_level_of_exit hwords hexit
  rw [haction] at hexit ⊢
  obtain ⟨settings, hload, hperform⟩ := exists_settings_of_exit hexit
  rw [hperform, htell] at hexit ⊢
  obtain ⟨source, bs, stop, lines, hread, htext, hlines⟩ := exists_blocks_of_exit hexit
  exact ⟨hfile, settings, source, bs, stop, lines, (load_of_action name).mp hload, hread, htext,
    hlines, prints_onBlocks hread htext hlines⟩

/-- A check that ends well has found blocks that are fit to be written. -/
theorem exists_fit_of_check (hexit : (ofWords w ["check", file]).ending = .exit 0) :
    isOption file = false ∧ ∃ settings source bs stop,
      Settings.load w.readers w.disk w.environment [] = .ok settings ∧
      Source.read w.readers.yaml w.disk (.ofText file) settings.maxFileSize = .ok source ∧
      convertText w.readers.markdown settings.parserConfig source.body w.keys 0 =
        .ok (bs, stop) ∧
      Shape.fit bs = true := by
  obtain ⟨hfile, settings, source, bs, stop, lines, hload, hread, htext, hlines, -⟩ :=
    exists_told_of_exit (fun bs => (Batch.checkLog bs, checkLines file bs)) rfl
      (fun _ _ => rfl) hexit
  refine ⟨hfile, settings, source, bs, stop, hload, hread, htext, ?_⟩
  by_contra hunfit
  rw [show checkLines file bs = .error _ from if_neg hunfit] at hlines
  cases hlines

end Report

/-- **Which files are refused although their check ends well**: those that are taken for Markdown
and have a header without the names that a document wants. Whatever the blocks of a source, it has a
document if its header has these names. -/
theorem built_iff_named {load : String → Except Yaml.Failure Yaml.Value} {d : Disk} {p : Path}
    {most : Int} {source : Source} (h : Source.read load d p most = .ok source) :
    (∀ bs now, (∃ doc, Document.ofSource? source bs now = some doc) ↔ source.header.Named) ∧
    ∀ w file, w.readers.yaml = load → w.disk = d → Path.ofText file = p →
      (Report.ofWords w ["check", file]).ending = .exit 0 →
        ∃ settings outcome, Settings.load w.readers d w.environment [] = .ok settings ∧
          Batch.run ⟨w.readers, settings, w.keys, w.now⟩ d p = .ok outcome ∧
          Report.ofWords w ["convert", file] =
            Report.convert w settings.logLevel file settings ∧
          (outcome.failure = some (p, .noDocument) ↔ p.isMarkdown ∧ ¬ source.header.Named) := by
  refine ⟨fun bs now => Document.exists_ofSource?_iff h bs now, ?_⟩
  rintro w file rfl rfl rfl hexit
  obtain ⟨hfile, settings, source', bs, stop, hload, hread, htext, hfit⟩ :=
    Report.exists_fit_of_check hexit
  -- the check has read this source, and a conversion finds the same blocks in it
  obtain rfl := Source.read_unique h hread
  obtain ⟨hshort, bytes, -, hfind, -⟩ := Source.read_eq_ok_iff.mp h
  refine ⟨settings, _, hload, Batch.run_of_sources (Disk.sources_of_file hshort hfind),
    Report.ofWords_of_settings .convert rfl hfile hload, ?_⟩
  by_cases hname : (Path.ofText file).isMarkdown
  · rw [if_pos hname, Batch.failure_of_runPaths_singleton, and_iff_right hname]
    exact Batch.convertSource_eq_noDocument_iff hread htext hfit
  · rw [if_neg hname]
    exact iff_of_false nofun fun h => hname h.1

/-- A disk with a source whose slug does not count as true. -/
def untrueSlug : Disk := .ofTexts [("a.md", "---\nslug: 0\n---\n***\n")]

/-- A slug that does not count as true is not asked for. -/
theorem built_of_untrue_slug :
    ∃ source settings outcome,
      Source.read Yaml.read untrueSlug (.ofText "a.md") 100 = .ok source ∧ source.header.Named ∧
      (Report.ofWords (.usual untrueSlug) ["check", "a.md"]).ending = .exit 0 ∧
      Batch.run ⟨.standard, settings, .counted, "now"⟩ untrueSlug (.ofText "a.md") = .ok outcome ∧
      outcome.failure ≠ some (.ofText "a.md", .noDocument) := by
  obtain ⟨source, hread⟩ :
      ∃ source, Source.read Yaml.read untrueSlug (.ofText "a.md") 100 = .ok source := by
    rw [← Batch.isOk_iff]
    decide +kernel
  have hexit : (Report.ofWords (.usual untrueSlug) ["check", "a.md"]).ending.code? = some 0 := by
    decide +kernel
  have hbuilt : ((Source.read Yaml.read untrueSlug (.ofText "a.md") 100).toOption.bind
      fun source => Document.ofSource? source [] "now").isSome = true := by
    decide +kernel
  obtain ⟨hdoc, hrun⟩ := built_iff_named hread
  rw [hread] at hbuilt
  have hnamed := (hdoc [] "now").mp (Option.isSome_iff_exists.mp hbuilt)
  have hcheck := Ending.code?_eq_some_iff.mp hexit
  obtain ⟨settings, outcome, -, houtcome, -, hfailure⟩ :=
    hrun (.usual untrueSlug) "a.md" rfl rfl rfl hcheck
  exact ⟨source, settings, outcome, hread, hnamed, hcheck, houtcome,
    fun h => (hfailure.mp h).2 hnamed⟩

/-- A disk with a source whose slug is written in digits. -/
def slugInDigits : Disk := .ofTexts [("a.md", "---\nslug: 2024\n---\n***\n")]

/-- A check may end well where there is no document: a slug in digits is no name. -/
theorem refused_of_slug_in_digits :
    ∃ source, Source.read Yaml.read slugInDigits (.ofText "a.md") 100 = .ok source ∧
      (∀ bs now, Document.ofSource? source bs now = none) ∧
      (Report.ofWords (.usual slugInDigits) ["check", "a.md"]).ending = .exit 0 ∧
      (Report.ofWords (.usual slugInDigits) ["convert", "a.md"]).ending = .exit 1 ∧
      (Report.ofWords (.usual slugInDigits) ["convert", "a.md"]).errors =
        [errorLine (Batch.failureText (.ofText "a.md", .noDocument))] := by
  obtain ⟨source, hread⟩ :
      ∃ source, Source.read Yaml.read slugInDigits (.ofText "a.md") 100 = .ok source := by
    rw [← Batch.isOk_iff]
    decide +kernel
  have hslug : (Source.read Yaml.read slugInDigits (.ofText "a.md") 100).toOption.bind
      (fun source => Document.asText? source.slug) = none := by
    decide +kernel
  have hcheck : (Report.ofWords (.usual slugInDigits) ["check", "a.md"]).ending.code? =
      some 0 := by
    decide +kernel
  have hconvert : (Report.ofWords (.usual slugInDigits) ["convert", "a.md"]).ending.code? =
      some 1 := by
    decide +kernel
  refine ⟨source, hread, fun bs now => ?_, Ending.code?_eq_some_iff.mp hcheck,
    Ending.code?_eq_some_iff.mp hconvert, by decide +kernel⟩
  rw [hread] at hslug
  refine Option.eq_none_iff_forall_ne_some.mpr fun doc hdoc => ?_
  exact absurd (hslug.symm.trans (Document.slug_of_ofSource? hdoc)) nofun

end Command

end ContentBlocks
