import ContentBlocks.Batch.Run
import ContentBlocks.Proofs.Storage.Discovery
import ContentBlocks.Proofs.Storage.Writing
import ContentBlocks.Proofs.Text.Pieces

/-!
# What is written

A document is written to a file with a name in JSON, which no Markdown has. Documents that are
written one after the other leave the last one in each file that they denote, new folders on the
way to the folder of documents, and everything else as it was.

## Main definitions

* `Plan.folder`, `Plan.output`: the folder of documents, and the path of each document
* `Saved`: what documents, written in order, have made of a disk

## Main results

* `writeDocument_cases`: what writing one document can do
* `Saved.snoc`: one more document
* `Saved.markdown`: Markdown stays as it is
-/

namespace ContentBlocks

namespace Batch

open Storage

/-- A name in JSON is not among the parts that a path leaves out. -/
theorem keeps_json (cs : List Char) :
    (!(cs ++ ".json".toList).isEmpty && cs ++ ".json".toList ≠ ['.']) = true := by
  cases cs <;> simp

/-- The path of a document ends in a name in JSON. -/
theorem outputPath_name (folder : Path) (slug : String) :
    (outputPath folder slug).parts ≠ [] ∧
      ".json".toList <:+ (outputPath folder slug).name.toList := by
  have hending : '/' ∉ ".json".toList := by decide
  obtain ⟨pieces, last, -, hpieces⟩ := Text.splitAt_append hending slug.toList
  have hparts : ∃ before, (outputPath folder slug).parts =
      before ++ [String.ofList (last ++ ".json".toList)] := by
    unfold outputPath Path.join Path.ofText
    rw [String.toList_append, hpieces]
    simp only [List.filter_append, List.map_append, List.filter_cons, keeps_json, if_true,
      List.filter_nil, List.map_cons, List.map_nil]
    split
    · exact ⟨_, rfl⟩
    · exact ⟨_, (List.append_assoc ..).symm⟩
  obtain ⟨before, hparts⟩ := hparts
  have hname : (outputPath folder slug).name.toList = last ++ ".json".toList := by
    rw [Path.name, hparts, List.getLastD_concat]
    exact String.toList_ofList
  refine ⟨by simp [hparts], ?_⟩
  rw [hname]
  exact List.suffix_append last _

/-- A name in JSON is no name of Markdown, and no step upward. -/
theorem not_isMarkdownName_of_json {name : String} (h : ".json".toList <:+ name.toList) :
    ¬IsMarkdownName name ∧ name ≠ ".." := by
  constructor
  · rintro (hends | hends) <;>
      exact absurd (List.suffix_or_suffix_of_suffix h hends) (by decide)
  · rintro rfl
    revert h
    decide

/-- The place of a document has a name in JSON. -/
theorem getLast?_of_resolve_outputPath {d : Disk} {folder : Path} {slug : String}
    {place : List String} (h : d.resolve (outputPath folder slug) = .ok place) :
    ∃ name, place.getLast? = some name ∧ ".json".toList <:+ name.toList := by
  obtain ⟨hparts, hjson⟩ := outputPath_name folder slug
  exact ⟨_, Disk.getLast?_of_resolve h hparts (not_isMarkdownName_of_json hjson).2, hjson⟩

/-! ### One document -/

/-- **Writing a document** makes folders on the way to the folder of documents. After that it
either changes nothing and reports no path, or puts the text of the document to the file that its
path leads to from then on. -/
theorem writeDocument_cases {folder : Path} {indent : Nat} {doc : Document} {d d' : Disk}
    {r : Except Trouble (Option Path)} (hd : d.Rooted)
    (h : (writeDocument folder indent doc).run d = (r, d')) :
    ∃ made, d.Gains folder made ∧
      (d' = made ∧ ((∃ t, r = .error t) ∨ r = .ok none) ∨
        ∃ text place, doc.text? indent = some text ∧
          r = .ok (some (outputPath folder doc.slug)) ∧ made.content? place ≠ some .folder ∧
          made.Sets d' place (.file (Text.utf8 text)) ∧
          d'.resolve (outputPath folder doc.slug) = .ok place) := by
  -- the folders that were made stay, also where one could not be made
  have hmade := Storing.gains_makeFolders (p := folder) hd
  unfold writeDocument at h
  rw [Storing.run_bind] at h
  rcases hrun : (Storing.makeFolders folder).run d with ⟨t | _, made⟩
  · rw [hrun] at h hmade
    cases h
    exact ⟨d', hmade, .inl ⟨rfl, .inl ⟨t, rfl⟩⟩⟩
  · rw [hrun] at h hmade
    refine ⟨made, hmade, ?_⟩
    cases htext : doc.text? indent with
    | none =>
      rw [htext] at h
      cases h
      exact .inl ⟨rfl, .inr rfl⟩
    | some text =>
      simp only [htext] at h
      rw [Storing.run_bind] at h
      rcases hwrite : (Storing.write (outputPath folder doc.slug) (Text.utf8 text)).run made with
        ⟨r', d''⟩
      rw [hwrite] at h
      obtain ⟨rfl, t, rfl⟩ | ⟨rfl, place, hfree, hsets, hplace⟩ :=
        Storing.write_cases (hmade.grows.rooted hd) hwrite
      · cases h
        exact .inl ⟨rfl, .inl ⟨t, rfl⟩⟩
      · cases h
        exact .inr ⟨text, place, rfl, rfl, hfree, hsets, hplace⟩

/-! ### Documents in a row -/

/-- The folder of documents. -/
def Plan.folder (plan : Plan) : Path := .ofText plan.settings.outputDir

/-- The path of a document. -/
def Plan.output (plan : Plan) (doc : Document) : Path := outputPath plan.folder doc.slug

/-- What documents, written one after the other, have made of a disk. -/
structure Saved (plan : Plan) (docs : List Document) (d d' : Disk) : Prop where
  grows : d.Grows d'
  /-- Each document was written to a file, which holds it unless a later one was written there. -/
  written : ∀ before doc after, docs = before ++ doc :: after →
    ∃ place text, d'.resolve (plan.output doc) = .ok place ∧
      doc.text? plan.settings.jsonIndent = some text ∧
      ((∀ later ∈ after, d'.resolve (plan.output later) ≠ .ok place) →
        d'.fileAt? place = some (Text.utf8 text))
  /-- What no document denotes is the same file as before, or none as before. -/
  kept : ∀ place, (∀ doc ∈ docs, d'.resolve (plan.output doc) ≠ .ok place) →
    d'.fileAt? place = d.fileAt? place
  /-- Folders that were not there are on the way to the folder of documents. -/
  folders : ∀ place, d'.content? place = some .folder →
    d.content? place = some .folder ∨
      d.content? place = none ∧ ∃ n, d'.resolve (Disk.upTo plan.folder n) = .ok place

namespace Saved

variable {plan : Plan} {docs : List Document} {doc : Document} {d d' d'' : Disk}

theorem nil (plan : Plan) (d : Disk) : Saved plan [] d d where
  grows := .refl d
  written before doc after h := by simp at h
  kept _ _ := rfl
  folders _ h := .inl h

/-- More folders on the way to the folder of documents change nothing. -/
theorem gains (h : Saved plan docs d d') (h' : d'.Gains plan.folder d'') :
    Saved plan docs d d'' where
  grows := h.grows.trans h'.grows
  written before doc after hdocs := by
    obtain ⟨place, text, hplace, htext, hlast⟩ := h.written before doc after hdocs
    refine ⟨place, text, h'.grows.resolve hplace, htext, fun hlater => ?_⟩
    rw [h'.fileAt?]
    exact hlast fun later hmem hl => hlater later hmem (h'.grows.resolve hl)
  kept place hplace := by
    rw [h'.fileAt?]
    exact h.kept place fun doc hdoc hd => hplace doc hdoc (h'.grows.resolve hd)
  folders place hplace := by
    rcases h'.content? place with heq | ⟨hnone, -, n, hn⟩
    · rcases h.folders place (heq ▸ hplace) with hold | ⟨hnone, n, hn⟩
      · exact .inl hold
      · exact .inr ⟨hnone, n, h'.grows.resolve hn⟩
    · -- what is new now was not there at first either, since nothing goes away
      refine .inr ⟨?_, n, hn⟩
      by_contra hthere
      exact h.grows.content? hthere hnone

/-- The file of one more document holds this document, and what it denotes is as it was else. -/
theorem sets (h : Saved plan docs d d') {place : List String} {text : String}
    (htext : doc.text? plan.settings.jsonIndent = some text)
    (hfree : d'.content? place ≠ some .folder)
    (hsets : d'.Sets d'' place (.file (Text.utf8 text)))
    (hplace : d''.resolve (plan.output doc) = .ok place) : Saved plan (docs ++ [doc]) d d'' := by
  have hgrows : d'.Grows d'' := hsets.grows_of_file hfree
  have hother : ∀ other, other ≠ place → d''.fileAt? other = d'.fileAt? other := by
    intro other hne
    rw [Disk.fileAt?, hsets.of_ne hne, ← Disk.fileAt?]
  refine ⟨h.grows.trans hgrows, ?_, ?_, ?_⟩
  · intro before x after hdocs
    rcases List.eq_nil_or_concat' after with rfl | ⟨after, y, rfl⟩
    · -- the new document is the last one
      obtain ⟨rfl, hx⟩ := List.append_inj' hdocs rfl
      obtain rfl : doc = x := (List.cons.inj hx).1
      exact ⟨place, text, hplace, htext, fun _ =>
        Disk.fileAt?_eq_some_iff.mpr hsets.at_place⟩
    · -- an earlier document keeps its file if the new one, which is later, does not denote it
      rw [← List.cons_append, ← List.append_assoc] at hdocs
      obtain ⟨hinit, hy⟩ := List.append_inj' hdocs rfl
      obtain rfl : doc = y := (List.cons.inj hy).1
      obtain ⟨found, text', hfound, htext', hlast⟩ := h.written before x after hinit
      refine ⟨found, text', hgrows.resolve hfound, htext', fun hlater => ?_⟩
      have hne : found ≠ place := by
        rintro rfl
        exact hlater doc (List.mem_append_right _ List.mem_cons_self) hplace
      rw [hother found hne]
      exact hlast fun later hmem hl =>
        hlater later (List.mem_append_left _ hmem) (hgrows.resolve hl)
  · intro other hkept
    have hne : other ≠ place := by
      rintro rfl
      exact hkept doc (List.mem_append_right _ List.mem_cons_self) hplace
    rw [hother other hne]
    exact h.kept other fun x hx hl =>
      hkept x (List.mem_append_left _ hx) (hgrows.resolve hl)
  · intro other hfolder
    have hne : other ≠ place := by
      rintro rfl
      rw [hsets.at_place] at hfolder
      cases hfolder
    rw [hsets.of_ne hne] at hfolder
    rcases h.folders other hfolder with hold | ⟨hnone, n, hn⟩
    · exact .inl hold
    · exact .inr ⟨hnone, n, hgrows.resolve hn⟩

/-- **One more document**: either it is saved with the others under the path that is reported, or
none is reported and only the others are saved. -/
theorem snoc (h : Saved plan docs d d') (hd : d.Rooted) {r : Except Trouble (Option Path)}
    (hwrite : (writeDocument plan.folder plan.settings.jsonIndent doc).run d' = (r, d'')) :
    Saved plan docs d d'' ∧ ((∃ t, r = .error t) ∨ r = .ok none) ∨
      Saved plan (docs ++ [doc]) d d'' ∧ r = .ok (some (plan.output doc)) := by
  obtain ⟨made, hmade, ⟨rfl, hr⟩ | ⟨text, place, htext, hr, hfree, hsets, hplace⟩⟩ :=
    writeDocument_cases (h.grows.rooted hd) hwrite
  · exact .inl ⟨h.gains hmade, hr⟩
  · exact .inr ⟨(h.gains hmade).sets htext hfree hsets hplace, hr⟩

/-- A file with a name that is not in JSON is not new, changed or gone. -/
theorem fileAt?_of_not_json (h : Saved plan docs d d') {place : List String} {name : String}
    (hlast : place.getLast? = some name) (hname : ¬".json".toList <:+ name.toList) :
    d'.fileAt? place = d.fileAt? place := by
  refine h.kept place fun doc _ hdoc => ?_
  obtain ⟨other, hother, hjson⟩ := getLast?_of_resolve_outputPath hdoc
  obtain rfl : name = other := Option.some.inj (hlast.symm.trans hother)
  exact hname hjson

/-- **Markdown stays as it is**: no file with a name of Markdown is new, changed or gone. -/
theorem markdown (h : Saved plan docs d d') {place : List String} {name : String}
    (hlast : place.getLast? = some name) (hname : IsMarkdownName name) :
    d'.fileAt? place = d.fileAt? place :=
  h.fileAt?_of_not_json hlast fun hjson => (not_isMarkdownName_of_json hjson).1 hname

end Saved

end Batch

end ContentBlocks
