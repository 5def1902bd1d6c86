import ContentBlocks.Proofs.Batch.Run
import ContentBlocks.Proofs.Text.Names

/-!
# Slugs as names of files

A document is named after its slug. A slug that was made from the name of a source holds no slash,
and its document goes straight into the folder of documents; a slug from a header is taken as it is,
and may lead anywhere. Two sources may have one slug, and then the later document takes the place of
the earlier one.

## Main definitions

* `Kept`: the file of a document holds its text
* `Collide`: two documents have one file but not one text

## Main results

* `outputPath_of_slash_not_mem`: the path of a document whose slug holds no slash
* `Saved.kept_iff`, `documents_kept_iff`: when no document is lost
* `changed_of_run`: where a run writes
-/

namespace ContentBlocks

/-! ### Slugs from names -/

/-- A slug that was made from a text holds no slash. -/
theorem slash_not_mem_slug (s : String) : '/' ∉ (slug s).toList :=
  not_mem_slug s (by decide +kernel)

namespace Batch

open Storage

/-! ### Paths of documents -/

variable {folder : Path} {name name' : String}

theorem leadingSlashes_of_not_mem {cs : List Char} (h : '/' ∉ cs) : Path.leadingSlashes cs = 0 := by
  unfold Path.leadingSlashes
  split <;> simp_all

/-- A slug without a slash names an entry of the folder of documents. -/
theorem outputPath_of_slash_not_mem (h : '/' ∉ name.toList) :
    outputPath folder name = ⟨folder.slashes, folder.parts ++ [name ++ ".json"]⟩ := by
  have hending : '/' ∉ ".json".toList := by decide
  have htext : '/' ∉ (name ++ ".json").toList := by
    rw [String.toList_append, List.mem_append, not_or]
    exact ⟨h, hending⟩
  have hkept : (!(name ++ ".json").toList.isEmpty && (name ++ ".json").toList ≠ ['.']) = true := by
    rw [String.toList_append]
    exact keeps_json name.toList
  have hpath : Path.ofText (name ++ ".json") = ⟨0, [name ++ ".json"]⟩ := by
    rw [Path.ofText, leadingSlashes_of_not_mem htext, Text.splitAt_of_not_mem htext,
      List.filter_cons, if_pos hkept]
    simp
  rw [outputPath, hpath]
  rfl

theorem eq_of_outputPath_eq (h : '/' ∉ name.toList) (h' : '/' ∉ name'.toList)
    (heq : outputPath folder name = outputPath folder name') : name = name' := by
  rw [outputPath_of_slash_not_mem h, outputPath_of_slash_not_mem h'] at heq
  have hlast := (List.append_inj' (congrArg Path.parts heq) rfl).2
  exact (String.append_left_inj ".json").mp (List.cons.inj hlast).1

/-- The document of a slug without a slash is a direct entry of the folder of documents. -/
theorem resolve_outputPath {d : Disk} {place : List String} (h : '/' ∉ name.toList)
    (hplace : d.resolve (outputPath folder name) = .ok place) :
    ∃ base, d.resolve folder = .ok base ∧ place = base ++ [name ++ ".json"] := by
  rw [outputPath_of_slash_not_mem h] at hplace
  obtain ⟨-, base, hbase, hlast⟩ := Disk.resolve_append_iff.mp hplace
  rw [Disk.foldlM_singleton] at hlast
  obtain ⟨-, ⟨hup, -⟩ | ⟨-, -, -, rfl⟩⟩ := Disk.step_eq_ok_iff.mp hlast
  · have hjson : ".json".toList <:+ (name ++ ".json").toList := by
      rw [String.toList_append]
      exact List.suffix_append _ _
    exact absurd hup (not_isMarkdownName_of_json hjson).2
  · exact ⟨base, hbase, rfl⟩

/-! ### Documents that are kept -/

section Kept

variable {plan : Plan} {docs : List Document} {d d' : Disk}

/-- The file of a document holds its text. -/
def Kept (plan : Plan) (d : Disk) (doc : Document) : Prop :=
  ∃ place text, d.resolve (plan.output doc) = .ok place ∧
    doc.text? plan.settings.jsonIndent = some text ∧ d.fileAt? place = some (Text.utf8 text)

/-- Two documents have one file but not one text. -/
def Collide (plan : Plan) (d : Disk) (doc other : Document) : Prop :=
  d.resolve (plan.output doc) = d.resolve (plan.output other) ∧
    doc.text? plan.settings.jsonIndent ≠ other.text? plan.settings.jsonIndent

/-- Of the members that have a property there is a last one. -/
theorem exists_last {α : Type} {P : α → Prop} {xs : List α} (h : ∃ x ∈ xs, P x) :
    ∃ before x after, xs = before ++ x :: after ∧ P x ∧ ∀ y ∈ after, ¬P y := by
  induction xs with
  | nil => simp at h
  | cons x xs ih =>
    by_cases hlater : ∃ y ∈ xs, P y
    · obtain ⟨before, y, after, rfl, hy, hlast⟩ := ih hlater
      exact ⟨x :: before, y, after, rfl, hy, hlast⟩
    · obtain ⟨y, hy, hP⟩ := h
      rcases List.mem_cons.mp hy with rfl | hy
      · exact ⟨[], y, xs, rfl, hP, fun z hz hPz => hlater ⟨z, hz, hPz⟩⟩
      · exact absurd ⟨y, hy, hP⟩ hlater

/-- **Documents are kept** exactly when no two collide. -/
theorem Saved.kept_iff (h : Saved plan docs d d') :
    (∀ doc ∈ docs, Kept plan d' doc) ↔
      ∀ doc ∈ docs, ∀ other ∈ docs, ¬Collide plan d' doc other := by
  constructor
  · rintro hkept doc hdoc other hother ⟨hplace, htext⟩
    obtain ⟨place, text, hto, hwritten, hfile⟩ := hkept doc hdoc
    obtain ⟨place', text', hto', hwritten', hfile'⟩ := hkept other hother
    rw [hto, hto', Except.ok.injEq] at hplace
    subst hplace
    rw [hfile, Option.some.injEq, Text.utf8_inj] at hfile'
    rw [hwritten, hwritten', hfile'] at htext
    exact htext rfl
  · intro hfree doc hdoc
    obtain ⟨before, after, rfl⟩ := List.append_of_mem hdoc
    obtain ⟨place, text, hplace, htext, -⟩ := h.written before doc after rfl
    -- the file holds the last document that denotes it, and this has the same text
    obtain ⟨before', last, after', hdocs, hlast, hlater⟩ :=
      exists_last (P := fun other => d'.resolve (plan.output other) = .ok place) ⟨doc, hdoc, hplace⟩
    obtain ⟨place', text', hplace', htext', hfile⟩ := h.written before' last after' hdocs
    rw [hlast, Except.ok.injEq] at hplace'
    subst hplace'
    have hmem : last ∈ before ++ doc :: after := by simp [hdocs]
    have hsame : doc.text? plan.settings.jsonIndent = last.text? plan.settings.jsonIndent := by
      by_contra hne
      exact hfree doc hdoc last hmem ⟨hplace.trans hlast.symm, hne⟩
    rw [hsame] at htext
    rw [htext, Option.some.injEq] at htext'
    subst htext'
    exact ⟨place, text, hplace, hsame.trans htext, hfile hlater⟩

/-- Documents with different slugs without slashes do not collide. -/
theorem not_collide_of_slug_ne {doc other : Document} (hdoc : '/' ∉ doc.slug.toList)
    (hother : '/' ∉ other.slug.toList) (hne : doc.slug ≠ other.slug) {place : List String}
    (hplace : d.resolve (plan.output doc) = .ok place) : ¬Collide plan d doc other := by
  rintro ⟨hsame, -⟩
  obtain ⟨base, -, rfl⟩ := resolve_outputPath hdoc hplace
  obtain ⟨base', -, hplace'⟩ := resolve_outputPath hother (hsame.symm.trans hplace)
  have hname := (List.append_inj' hplace' rfl).2
  exact hne ((String.append_left_inj ".json").mp (List.cons.inj hname).1)

end Kept

/-! ### Runs that lose no document -/

/-- **No document is lost** by a run that converts everything exactly when no two documents collide.
While no slug holds a slash, the paths are distinct and no document is lost exactly when the slugs
are distinct. -/
theorem documents_kept_iff (plan : Plan) (d : Disk) (path : Path) {o : Outcome} (hd : d.WellFormed)
    (hrun : run plan d path = .ok o) (hall : o.failure = none) :
    ∃ built stop, d.discover path = .ok (built.map Prod.fst) ∧ Built plan d 0 built stop ∧
      o.results = built.map (fun (p, doc) => (p, plan.output doc)) ∧
      ((∀ doc ∈ built.map Prod.snd, Kept plan o.disk doc) ↔
        ∀ doc ∈ built.map Prod.snd, ∀ other ∈ built.map Prod.snd,
          ¬Collide plan o.disk doc other) ∧
      ((∀ doc ∈ built.map Prod.snd, '/' ∉ doc.slug.toList) →
        ((o.results.map Prod.snd).Nodup ∧ (∀ doc ∈ built.map Prod.snd, Kept plan o.disk doc) ↔
          ((built.map Prod.snd).map Document.slug).Nodup)) := by
  obtain ⟨built, rest, stop, hpaths, hbuilt, hresults, hsaved, hended⟩ := built_of_run hd hrun
  rw [hall] at hended
  cases hended
  rw [List.append_nil] at hpaths
  refine ⟨built, stop, hpaths, hbuilt, hresults, hsaved.kept_iff, fun hslash => ?_⟩
  have houtputs : o.results.map Prod.snd =
      ((built.map Prod.snd).map Document.slug).map (outputPath plan.folder) := by
    rw [hresults, List.map_map, List.map_map, List.map_map]
    rfl
  rw [houtputs]
  constructor
  · rintro ⟨hnodup, -⟩
    exact hnodup.of_map _
  · intro hslugs
    refine ⟨hslugs.map_on ?_, hsaved.kept_iff.mpr ?_⟩
    · intro s hs s' hs' heq
      obtain ⟨doc, hdoc, rfl⟩ := List.mem_map.mp hs
      obtain ⟨other, hother, rfl⟩ := List.mem_map.mp hs'
      exact eq_of_outputPath_eq (hslash doc hdoc) (hslash other hother) heq
    · -- a document has one text, and any other document has another slug
      intro doc hdoc other hother hcollide
      by_cases heq : doc = other
      · exact hcollide.2 (by rw [heq])
      · have hne : doc.slug ≠ other.slug := fun hslug =>
          heq (List.inj_on_of_nodup_map hslugs hdoc hother hslug)
        obtain ⟨before, after, hsplit⟩ := List.append_of_mem hdoc
        obtain ⟨place, -, hplace, -⟩ := hsaved.written before doc after hsplit
        exact not_collide_of_slug_ne (hslash doc hdoc) (hslash other hother) hne hplace hcollide

/-- A disk with sources of two names in a folder. -/
def twoNames : Disk := .ofTexts [("docs/a.md", "***\n"), ("docs/b.md", "***\n")]

/-- Two sources of different names both keep their documents. -/
theorem documents_kept_of_two_names :
    ∃ o built stop, twoNames.WellFormed ∧ run .usual twoNames (.ofText "docs") = .ok o ∧
      o.failure = none ∧ Built .usual twoNames 0 built stop ∧
      built.map Prod.fst = [.ofText "docs/a.md", .ofText "docs/b.md"] ∧
      ∀ doc ∈ built.map Prod.snd, Kept .usual o.disk doc := by
  have hwf : twoNames.WellFormed := by decide +kernel
  have hfind : twoNames.find (.ofText "docs") = .ok (.folder
      [("a.md", .file (Text.utf8 "***\n")), ("b.md", .file (Text.utf8 "***\n"))]) := rfl
  have hpaths : twoNames.discover (.ofText "docs") =
      .ok [.ofText "docs/a.md", .ofText "docs/b.md"] :=
    Disk.discover_of_pairwise hfind rfl (by decide +kernel)
  obtain ⟨o, ho⟩ :
      ∃ o, runPaths .usual [.ofText "docs/a.md", .ofText "docs/b.md"] twoNames 0 = o := ⟨_, rfl⟩
  have hrun : run .usual twoNames (.ofText "docs") = .ok o :=
    ho ▸ run_of_sources (Disk.sources_eq_ok_iff.mpr ⟨by decide +kernel, hpaths⟩)
  have hall : o.failure = none := by
    rw [← ho]
    decide +kernel
  obtain ⟨built, stop, hfound, hbuilt, hresults, hkept, -⟩ :=
    documents_kept_iff .usual twoNames (.ofText "docs") hwf hrun hall
  rw [hpaths, Except.ok.injEq] at hfound
  refine ⟨o, built, stop, hwf, hrun, hall, hbuilt, hfound.symm, ?_⟩
  have houtputs : (built.map Prod.snd).map Plan.usual.output =
      [.ofText "dist/a.json", .ofText "dist/b.json"] := by
    have hpaths : o.results.map Prod.snd = [.ofText "dist/a.json", .ofText "dist/b.json"] := by
      rw [← ho]
      decide +kernel
    rw [hresults, List.map_map] at hpaths
    rw [List.map_map]
    exact hpaths
  have hne : o.disk.resolve (.ofText "dist/a.json") ≠ o.disk.resolve (.ofText "dist/b.json") := by
    rw [← ho]
    decide +kernel
  -- there are two documents, with outputs that lead to different places
  rw [hkept]
  generalize built.map Prod.snd = docs at houtputs ⊢
  obtain ⟨doc, _, rfl, hdoc, hrest⟩ := List.map_eq_cons_iff.mp houtputs
  obtain ⟨other, _, rfl, hother, hnil⟩ := List.map_eq_cons_iff.mp hrest
  obtain rfl := List.map_eq_nil_iff.mp hnil
  rw [← hdoc, ← hother] at hne
  simp [Collide, hne, hne.symm]

/-- A disk with sources of one name in two folders. -/
def oneName : Disk := .ofTexts [("docs/a.md", "***\n"), ("docs/b/a.md", "***\n")]

/-- Two sources of one name: the second document takes the place of the first. -/
theorem document_lost_of_one_name :
    ∃ o, oneName.WellFormed ∧ run .usual oneName (.ofText "docs") = .ok o ∧ o.failure = none ∧
      o.results = [(.ofText "docs/a.md", .ofText "dist/a.json"),
        (.ofText "docs/b/a.md", .ofText "dist/a.json")] ∧
      ¬(o.results.map Prod.snd).Nodup := by
  have hfind : oneName.find (.ofText "docs") = .ok (.folder [("a.md", .file (Text.utf8 "***\n")),
      ("b", .folder [("a.md", .file (Text.utf8 "***\n"))])]) := rfl
  have hpaths : oneName.discover (.ofText "docs") =
      .ok [.ofText "docs/a.md", .ofText "docs/b/a.md"] :=
    Disk.discover_of_pairwise hfind rfl (by decide +kernel)
  have hresults :
      (runPaths .usual [.ofText "docs/a.md", .ofText "docs/b/a.md"] oneName 0).results =
        [(.ofText "docs/a.md", .ofText "dist/a.json"),
          (.ofText "docs/b/a.md", .ofText "dist/a.json")] := by
    decide +kernel
  refine ⟨_, by decide +kernel, ?_, by decide +kernel, hresults, ?_⟩
  · exact run_of_sources (Disk.sources_eq_ok_iff.mpr ⟨by decide +kernel, hpaths⟩)
  · rw [hresults]
    decide

/-! ### Where a run writes -/

/-- **A run writes documents only**: every file that is new or changed is that of a document. If its
slug holds no slash, the file is an entry of the folder of documents with the name of the slug. This
is so for every source that asks for no slug. -/
theorem changed_of_run (plan : Plan) (d : Disk) (path : Path) {o : Outcome} (hd : d.WellFormed)
    (hrun : run plan d path = .ok o) :
    ∃ built stop, Built plan d 0 built stop ∧
      o.results = built.map (fun (p, doc) => (p, plan.output doc)) ∧
      (∀ place, o.disk.fileAt? place ≠ d.fileAt? place → ∃ p doc, (p, doc) ∈ built ∧
        o.disk.resolve (plan.output doc) = .ok place ∧
          ('/' ∉ doc.slug.toList → ∃ base, o.disk.resolve plan.folder = .ok base ∧
            place = base ++ [doc.slug ++ ".json"])) ∧
      ∀ p doc, (p, doc) ∈ built → ∀ source,
        Source.read plan.readers.yaml d p plan.settings.maxFileSize = .ok source →
        (Yaml.Value.field? "slug" source.header).filter (·.truthy) = none →
          doc.slug = slug p.stem ∧ '/' ∉ doc.slug.toList := by
  obtain ⟨built, rest, stop, -, hbuilt, hresults, hsaved, -⟩ := built_of_run hd hrun
  refine ⟨built, stop, hbuilt, hresults, fun place hchanged => ?_, ?_⟩
  · by_contra hnone
    refine hchanged (hsaved.kept place fun doc hdoc hplace => hnone ?_)
    obtain ⟨⟨p, doc⟩, hmem, rfl⟩ := List.mem_map.mp hdoc
    exact ⟨p, doc, hmem, hplace, fun hslash => resolve_outputPath hslash hplace⟩
  · intro p doc hmem source hread hasks
    obtain ⟨n, n', hdoc⟩ := hbuilt.convertSource hmem
    have hslug := slug_of_convertSource hdoc hread hasks
    exact ⟨hslug, hslug ▸ slash_not_mem_slug p.stem⟩

/-- A disk with a single break in Markdown. -/
def oneBreak : Disk := .ofTexts [("a.md", "***\n")]

/-- The document of a source that asks for no slug is all that a run writes. -/
theorem changed_of_source_without_header :
    ∃ o, oneBreak.WellFormed ∧ run .usual oneBreak (.ofText "a.md") = .ok o ∧
      ∀ place, o.disk.fileAt? place ≠ oneBreak.fileAt? place →
        place = ["w", "dist", "a.json"] := by
  have hwf : oneBreak.WellFormed := by decide +kernel
  obtain ⟨o, ho⟩ : ∃ o, runPaths .usual [.ofText "a.md"] oneBreak 0 = o := ⟨_, rfl⟩
  have hrun : run .usual oneBreak (.ofText "a.md") = .ok o :=
    ho ▸ run_of_sources (by decide +kernel)
  refine ⟨o, hwf, hrun, fun place hchanged => ?_⟩
  obtain ⟨built, stop, -, hresults, hplaces, -⟩ := changed_of_run .usual oneBreak _ hwf hrun
  obtain ⟨p, doc, hmem, hplace, -⟩ := hplaces place hchanged
  have hout : (p, Plan.usual.output doc) ∈ o.results := by
    rw [hresults]
    exact List.mem_map_of_mem hmem
  have hresult : o.results = [(.ofText "a.md", .ofText "dist/a.json")] := by
    rw [← ho]
    decide +kernel
  rw [hresult, List.mem_singleton, Prod.mk.injEq] at hout
  have hthere : o.disk.resolve (.ofText "dist/a.json") = .ok ["w", "dist", "a.json"] := by
    rw [← ho]
    decide +kernel
  rw [hout.2, hthere] at hplace
  exact (Except.ok.inj hplace).symm

/-- A disk with a source whose slug leads upward. -/
def slugUpward : Disk := .ofTexts [("a.md", "---\nslug: ../x\n---\n***\n")]

/-- A slug from a header leads out of the folder of documents. -/
theorem document_outside_of_folder :
    ∃ o, slugUpward.WellFormed ∧ run .usual slugUpward (.ofText "a.md") = .ok o ∧
      ¬∀ place, o.disk.fileAt? place ≠ slugUpward.fileAt? place →
        ∃ base name, o.disk.resolve Plan.usual.folder = .ok base ∧ name ≠ "" ∧
          place = base ++ [name ++ ".json"] := by
  obtain ⟨o, ho⟩ : ∃ o, runPaths .usual [.ofText "a.md"] slugUpward 0 = o := ⟨_, rfl⟩
  refine ⟨o, by decide +kernel, ho ▸ run_of_sources (by decide +kernel), fun hinside => ?_⟩
  have hnew : (o.disk.fileAt? ["w", "x.json"]).isSome ∧
      slugUpward.fileAt? ["w", "x.json"] = none := by
    rw [← ho]
    decide +kernel
  have hchanged : o.disk.fileAt? ["w", "x.json"] ≠ slugUpward.fileAt? ["w", "x.json"] := by
    rw [hnew.2]
    exact Option.isSome_iff_ne_none.mp hnew.1
  have hfolder : o.disk.resolve Plan.usual.folder = .ok ["w", "dist"] := by
    rw [← ho]
    decide +kernel
  obtain ⟨base, name, hbase, -, hplace⟩ := hinside _ hchanged
  rw [hfolder, Except.ok.injEq] at hbase
  subst hbase
  -- an entry of the folder is one part deeper than what was written
  have hlength := congrArg List.length hplace
  simp at hlength

end Batch

end ContentBlocks
