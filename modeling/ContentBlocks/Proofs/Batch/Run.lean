import ContentBlocks.Proofs.Batch.Output
import ContentBlocks.Proofs.Batch.Sources

/-!
# Runs over files

A run reads its sources and writes its documents on one disk, and the documents may go where the
sources are. Still every source is converted as on the first disk: documents do not come to be
where Markdown is, so none of them is read again. A run that ends early has written the documents of
the sources before, and nothing else.

## Main definitions

* `Built`: the documents of sources in order, as the files of one disk give them
* `Ended`: how a run ended
* `Account`: all that a run did
* `Plan.usual`: the readers and the settings of the program

## Main results

* `built_of_runPaths`: what a run over sources does, by induction on the sources
* `built_of_run`, `account_of_run`: what a run over everything that a path offers does
-/

namespace ContentBlocks.Batch

open Storage

/-! ### Sources in a row -/

/-- The documents of sources in order, as the files of one disk give them, from a first key on. -/
inductive Built (plan : Plan) (d : Disk) : Nat → List (Path × Document) → Nat → Prop where
  | nil (start : Nat) : Built plan d start [] start
  | cons {start mid stop : Nat} {p : Path} {doc : Document} {rest : List (Path × Document)}
      (hdoc : convertSource plan d p start = .ok (doc, mid)) (hrest : Built plan d mid rest stop) :
      Built plan d start ((p, doc) :: rest) stop

theorem Built.convertSource {plan : Plan} {d : Disk} {start stop : Nat}
    {built : List (Path × Document)} (h : Built plan d start built stop) {p : Path}
    {doc : Document} (hmem : (p, doc) ∈ built) :
    ∃ n n', Batch.convertSource plan d p n = .ok (doc, n') := by
  induction h with
  | nil => cases hmem
  | cons hdoc _ ih =>
    rcases List.mem_cons.mp hmem with heq | hmem
    · cases heq
      exact ⟨_, _, hdoc⟩
    · exact ih hmem

/-- Why writing a document reported no path. -/
def refusal? : Except Trouble (Option Path) → Option Failure
  | .error trouble => some (.storage trouble)
  | .ok none => some .unwritable
  | .ok (some _) => none

/-- How a run ended that has written some documents, with some sources left: the failure, and the
disk at the end. -/
inductive Ended (plan : Plan) (d : Disk) (docs : List Document) (drawn : Nat) :
    List Path → Option (Path × Failure) → Disk → Prop where
  /-- No source is left. -/
  | all {d' : Disk} : Ended plan d docs drawn [] none d'
  /-- The next source has no document. -/
  | unbuilt {p : Path} {rest : List Path} {f : Failure} {d' : Disk}
      (hdoc : convertSource plan d p drawn = .error f) :
      Ended plan d docs drawn (p :: rest) (some (p, f)) d'
  /-- The document of the next source cannot be written to what the others have made. -/
  | unwritten {p : Path} {rest : List Path} {f : Failure} {doc : Document} {drawn' : Nat}
      {before d' : Disk} {r : Except Trouble (Option Path)}
      (hdoc : convertSource plan d p drawn = .ok (doc, drawn'))
      (hbefore : Saved plan docs d before)
      (hwrite : (writeDocument plan.folder plan.settings.jsonIndent doc).run before = (r, d'))
      (hr : refusal? r = some f) : Ended plan d docs drawn (p :: rest) (some (p, f)) d'

section Sources

variable {plan : Plan} {d d' : Disk} {p : Path} {ps : List Path} {docs : List Document}

/-- What stands where a path of Markdown leads is what stood there before any document was
written. -/
theorem Saved.content?_of_resolve (h : Saved plan docs d d') (hp : p.isMarkdown)
    {place : List String} (hplace : d.resolve p = .ok place) (hd : d.Rooted) :
    d'.content? place = d.content? place := by
  obtain ⟨hparts, hup, hname⟩ := name_of_isMarkdown hp
  -- a folder stays a folder in any case, and a file is the same file for its name
  have hfile := h.markdown (Disk.getLast?_of_resolve hplace hparts hup) hname
  cases hc : d.content? place with
  | none => exact absurd hc (Disk.content?_of_resolve hd hplace)
  | some c =>
    cases c with
    | folder => exact h.grows.folder place hc
    | file bytes =>
      rw [Disk.fileAt?_eq_some_iff.mpr hc] at hfile
      exact Disk.fileAt?_eq_some_iff.mp hfile

/-- **No document is in the way of a source**: what is named like Markdown is converted as before
any document was written. -/
theorem Saved.convertSource (h : Saved plan docs d d') (hp : p.isMarkdown) {place : List String}
    (hplace : d.resolve p = .ok place) (hd : d.Rooted) (start : Nat) :
    Batch.convertSource plan d' p start = Batch.convertSource plan d p start :=
  convertSource_of_content? hplace (h.grows.resolve hplace) (h.content?_of_resolve hp hplace hd)

/-- **A run over sources** converts them as on the first disk and saves their documents, up to the
first that fails. -/
theorem built_of_runPaths (hd : d.Rooted)
    (hps : ∀ p ∈ ps, p.isMarkdown ∧ ∃ place, d.resolve p = .ok place)
    (hsaved : Saved plan docs d d') (start : Nat) :
    ∃ built rest stop, ps = built.map Prod.fst ++ rest ∧ Built plan d start built stop ∧
      (runPaths plan ps d' start).results = built.map (fun (p, doc) => (p, plan.output doc)) ∧
      Saved plan (docs ++ built.map Prod.snd) d (runPaths plan ps d' start).disk ∧
      Ended plan d (docs ++ built.map Prod.snd) stop rest (runPaths plan ps d' start).failure
        (runPaths plan ps d' start).disk := by
  -- by induction on the sources, for any documents that are saved before and any keys drawn
  induction ps generalizing docs d' start with
  | nil => exact ⟨[], [], start, rfl, .nil start, rfl, (List.append_nil docs).symm ▸ hsaved, .all⟩
  | cons p ps ih =>
    rw [List.forall_mem_cons] at hps
    obtain ⟨⟨hmarkdown, place, hplace⟩, hps⟩ := hps
    have hsame := hsaved.convertSource hmarkdown hplace hd start
    cases hdoc : convertSource plan d p start with
    | error f =>
      -- nothing is written for a source without a document
      rw [hdoc] at hsame
      refine ⟨[], p :: ps, start, rfl, .nil start, ?_⟩
      simp only [runPaths, hsame, List.map_nil, List.append_nil]
      exact ⟨trivial, hsaved, .unbuilt hdoc⟩
    | ok result =>
      obtain ⟨doc, drawn⟩ := result
      rw [hdoc] at hsame
      rcases hwrite : (writeDocument plan.folder plan.settings.jsonIndent doc).run d' with ⟨r, d''⟩
      have hwrite' : (writeDocument (Path.ofText plan.settings.outputDir)
        plan.settings.jsonIndent doc).run d' = (r, d'') := hwrite
      -- a document that cannot be written leaves folders at most; one that is written is saved with
      -- those before, and the run over the other sources begins there
      obtain ⟨hkept, hrefused⟩ | ⟨hmore, rfl⟩ := hsaved.snoc hd hwrite
      · refine ⟨[], p :: ps, start, rfl, .nil start, ?_⟩
        rcases hrefused with ⟨t, rfl⟩ | rfl <;>
          · simp only [runPaths, hsame, hwrite', List.map_nil, List.append_nil]
            exact ⟨trivial, hkept, .unwritten hdoc hsaved hwrite rfl⟩
      · obtain ⟨built, rest, stop, hsplit, hbuilt, hresults, hsaved', hended⟩ :=
          ih hps hmore drawn
        refine ⟨(p, doc) :: built, rest, stop, by rw [hsplit]; rfl, .cons hdoc hbuilt, ?_⟩
        simp only [runPaths, hsame, hwrite', hresults]
        rw [List.append_assoc] at hsaved' hended
        exact ⟨rfl, hsaved', hended⟩

end Sources

/-! ### Everything that a path offers -/

theorem run_of_sources {plan : Plan} {d : Disk} {path : Path} {paths : List Path}
    (h : d.sources path = .ok paths) : run plan d path = .ok (runPaths plan paths d 0) := by
  rw [run, h]
  rfl

/-- **A run** converts and saves what the path offers, up to the first source that fails. -/
theorem built_of_run {plan : Plan} {d : Disk} {path : Path} {o : Outcome} (hd : d.WellFormed)
    (hrun : run plan d path = .ok o) :
    ∃ built rest stop, d.discover path = .ok (built.map Prod.fst ++ rest) ∧
      Built plan d 0 built stop ∧ o.results = built.map (fun (p, doc) => (p, plan.output doc)) ∧
      Saved plan (built.map Prod.snd) d o.disk ∧
      Ended plan d (built.map Prod.snd) stop rest o.failure o.disk := by
  unfold run at hrun
  cases hsources : d.sources path with
  | error trouble => rw [hsources] at hrun; cases hrun
  | ok paths =>
    have hpaths := (Disk.sources_eq_ok_iff.mp hsources).2
    rw [hsources] at hrun
    cases hrun
    obtain ⟨built, rest, stop, rfl, hrest⟩ :=
      built_of_runPaths hd.rooted (fun p hp => Disk.resolve_of_mem_discover hd hpaths hp)
        (Saved.nil plan d) 0
    exact ⟨built, rest, stop, hpaths, hrest⟩

/-- All that a run did over what a path offers: the sources that were converted, with their
documents, and what came of it. -/
structure Account (plan : Plan) (d : Disk) (paths : List Path) (built : List (Path × Document))
    (o : Outcome) : Prop where
  /-- Each source is offered once. -/
  nodup : paths.Nodup
  /-- The sources that were converted come first, with the documents that the first disk gives
  them. If the run ended early, the next one failed. -/
  ended : ∃ rest stop, paths = built.map Prod.fst ++ rest ∧ Built plan d 0 built stop ∧
    Ended plan d (built.map Prod.snd) stop rest o.failure o.disk
  /-- The message about a failure begins with the source. -/
  named : ∀ p f, o.failure = some (p, f) →
    ("Failed to convert " ++ p.toText ++ ": ").toList <+: (failureText (p, f)).toList
  /-- Every source that was converted is reported with the path of its document. -/
  results : o.results = built.map fun (p, doc) => (p, plan.output doc)
  /-- By itself, with keys of its own that are not empty and at any moment, each source has the
  same document on the first disk, apart from the keys and the moment. -/
  alone : ∀ p doc, (p, doc) ∈ built → ∀ (keys : Key.Source) (now : String) (start : Nat),
    (∀ n, ∃ key, keys n = .ok key ∧ key ≠ "") →
      ∃ doc' stop,
        convertSource ⟨plan.readers, plan.settings, keys, now⟩ d p start = .ok (doc', stop) ∧
          doc'.unkeyed = doc.unkeyed
  /-- The documents were written in order, and nothing else was. -/
  saved : Saved plan (built.map Prod.snd) d o.disk
  /-- No file with a name of Markdown is new, changed or gone. -/
  markdown : ∀ parent name, IsMarkdownName name →
    o.disk.fileAt? (parent ++ [name]) = d.fileAt? (parent ++ [name])

/-- **The account of a run**: with keys that never run dry, a run over what a path offers has an
outcome, which has the account above. There is no run only if the path itself is refused. -/
theorem account_of_run (plan : Plan) (d : Disk) (path : Path) (hd : d.WellFormed)
    (hkeys : ∀ n, ∃ key, plan.keys n = .ok key) :
    (∃ trouble, d.sources path = .error trouble ∧ run plan d path = .error trouble) ∨
      ∃ paths o built, d.sources path = .ok paths ∧ d.discover path = .ok paths ∧
        run plan d path = .ok o ∧ Account plan d paths built o := by
  cases hsources : d.sources path with
  | error trouble => exact .inl ⟨trouble, rfl, by rw [run, hsources]; rfl⟩
  | ok paths =>
    have hpaths := (Disk.sources_eq_ok_iff.mp hsources).2
    have hrun : run plan d path = .ok (runPaths plan paths d 0) := run_of_sources hsources
    obtain ⟨built, rest, stop, hsplit, hbuilt, hresults, hsaved, hended⟩ := built_of_run hd hrun
    rw [hpaths, Except.ok.injEq] at hsplit
    refine .inr ⟨paths, runPaths plan paths d 0, built, rfl, hpaths, hrun, ?_⟩
    exact {
      nodup := Disk.nodup_of_discover hd hpaths
      ended := ⟨rest, stop, hsplit, hbuilt, hended⟩
      named := fun p f _ => ⟨f.message.toList, String.toList_append.symm⟩
      results := hresults
      alone := fun p doc hmem keys now start hs => by
        obtain ⟨n, n', hdoc⟩ := hbuilt.convertSource hmem
        exact unkeyed_of_convertSource hkeys hdoc hs now start
      saved := hsaved
      markdown := fun parent name hname => hsaved.markdown List.getLast?_concat hname }

/-- The plan of the program, with counted keys. -/
def Plan.usual : Plan := ⟨.standard, .standard, .counted, "now"⟩

theorem exists_key_usual (n : Nat) : ∃ key, Plan.usual.keys n = .ok key := ⟨_, rfl⟩

/-- A disk with Markdown in the folder of documents. -/
def sourceAmongDocuments : Disk := .ofTexts [("dist/a.md", "***\n")]

/-- A source in the folder of documents is converted and gets its document next to it. -/
theorem account_of_source_among_documents :
    ∃ o built, sourceAmongDocuments.WellFormed ∧ (∀ n, ∃ key, Plan.usual.keys n = .ok key) ∧
      run .usual sourceAmongDocuments (.ofText "dist/a.md") = .ok o ∧
      Account .usual sourceAmongDocuments [.ofText "dist/a.md"] built o ∧
      o.results = [(.ofText "dist/a.md", .ofText "dist/a.json")] := by
  have hwf : sourceAmongDocuments.WellFormed := by decide +kernel
  have hpaths : sourceAmongDocuments.sources (.ofText "dist/a.md") =
      .ok [.ofText "dist/a.md"] := by
    decide +kernel
  obtain ⟨trouble, hnone, -⟩ | ⟨paths, o, built, hfound, -, hrun, haccount⟩ :=
    account_of_run .usual sourceAmongDocuments (.ofText "dist/a.md") hwf exists_key_usual
  · rw [hpaths] at hnone
    cases hnone
  · rw [hpaths, Except.ok.injEq] at hfound
    subst hfound
    refine ⟨o, built, hwf, exists_key_usual, hrun, haccount, ?_⟩
    rw [run_of_sources hpaths, Except.ok.injEq] at hrun
    rw [← hrun]
    decide +kernel

end ContentBlocks.Batch
