import ContentBlocks.Proofs.Storage.Discovery
import Mathlib.Data.List.Lex

/-!
# What a path offers

A path that leads to a file offers that file, if its name has a suffix of Markdown. A path that
leads to a folder offers all that stands below the folder under such a name, once each and in the
order of the parts of the paths. No difference is made between what stands there, so a folder with
such a name is offered like a file.

## Main definitions

* `HasMarkdownSuffix`: a name ends in a suffix of Markdown that does not begin it
* `Path.Before`: the order of paths by their parts

## Main results

* `isMarkdown_iff`: what a path named like Markdown is called
* `Disk.mem_markdownPlaces_iff`, `Disk.pairwise_markdownPlaces`: what is found below a folder
* `Disk.listing_of_path`: all that a path offers, and when there is no folder among it
-/

namespace ContentBlocks.Storage

/-! ### Suffixes -/

/-- A name ends in a suffix of Markdown, with something before it. -/
def HasMarkdownSuffix (name : String) : Prop :=
  ∃ stem, stem ≠ [] ∧ ∃ suffix ∈ markdownSuffixes, name.toList = stem ++ suffix.toList

namespace Path

/-- The signs behind the last dot. -/
theorem takeWhile_reverse_append {stem ext : List Char} (hext : '.' ∉ ext) :
    ((stem ++ '.' :: ext).reverse.takeWhile (· ≠ '.')).reverse = ext := by
  have hall : ∀ c ∈ ext.reverse, decide (c ≠ '.') = true := by
    intro c hc
    rw [decide_eq_true_iff]
    rintro rfl
    exact hext (List.mem_reverse.mp hc)
  rw [List.reverse_append, List.reverse_cons, List.append_assoc, List.takeWhile_append_of_pos hall]
  simp

/-- A name is cut at a dot with something before it, and after it something without a dot. -/
theorem splitName_append {stem : List Char} (hstem : stem ≠ []) (ext : List Char)
    (hext : ext ≠ []) (hdot : '.' ∉ ext) :
    splitName (stem ++ '.' :: ext) = (stem, '.' :: ext) := by
  have hlength : 0 < stem.length := List.length_pos_iff.mpr hstem
  have hshort :
      ¬ (ext.isEmpty || decide ((stem ++ '.' :: ext).length ≤ ext.length + 1)) = true := by
    simp [hext]
    omega
  have hcut : (stem ++ '.' :: ext).length - ext.length - 1 = stem.length := by
    simp only [List.length_append, List.length_cons]
    omega
  unfold splitName
  dsimp only
  rw [takeWhile_reverse_append hdot, if_neg hshort, hcut, List.take_left, List.drop_left]

/-- The two parts of a name. There is something before a suffix. -/
theorem splitName_parts (name : List Char) :
    (splitName name).1 ++ (splitName name).2 = name ∧
      ((splitName name).2 ≠ [] → (splitName name).1 ≠ []) := by
  unfold splitName
  dsimp only
  split
  · simp
  · next h =>
    refine ⟨List.take_append_drop _ _, fun _ => ?_⟩
    simp only [Bool.or_eq_true, decide_eq_true_eq, not_or] at h
    rw [← List.length_pos_iff, List.length_take]
    omega

/-- **A path is named like Markdown** if its name has a suffix of Markdown. -/
theorem isMarkdown_iff {p : Path} : p.isMarkdown ↔ HasMarkdownSuffix p.name := by
  rw [isMarkdown, List.contains_iff_mem]
  constructor
  · intro h
    obtain ⟨happend, hstem⟩ := splitName_parts p.name.toList
    have hsuffix : p.suffix.toList = (splitName p.name.toList).2 := String.toList_ofList
    refine ⟨_, hstem ?_, _, h, by rw [hsuffix, happend]⟩
    rw [← hsuffix]
    revert h
    generalize p.suffix = suffix
    simp only [markdownSuffixes, List.mem_cons, List.not_mem_nil, or_false]
    rintro (rfl | rfl) <;> decide
  · rintro ⟨stem, hstem, suffix, hsuffix, hname⟩
    -- each of the suffixes is a dot and then letters
    have hcut : (splitName p.name.toList).2 = suffix.toList := by
      rw [hname]
      simp only [markdownSuffixes, List.mem_cons, List.not_mem_nil, or_false] at hsuffix
      rcases hsuffix with rfl | rfl
      · exact congrArg Prod.snd (splitName_append hstem ['m', 'd'] (by simp) (by decide))
      · exact congrArg Prod.snd (splitName_append hstem ['m', 'd', 'x'] (by simp) (by decide))
    rw [Path.suffix, hcut, String.ofList_toList]
    exact hsuffix

/-! ### Order -/

/-- A path comes before another one: at the first difference of their parts the lower text decides,
and what is shorter comes first. -/
def Before (p q : Path) : Prop := List.Lex (· < ·) p.parts q.parts

theorem precedes_trans (a b c : List String) (hab : precedes a b) (hbc : precedes b c) :
    precedes a c := by
  induction a generalizing b c with
  | nil => rfl
  | cons x xs ih =>
    cases b with
    | nil => cases hab
    | cons y ys =>
      cases c with
      | nil => cases hbc
      | cons z zs =>
        unfold precedes at hab hbc ⊢
        by_cases hxy : x = y
        · subst hxy
          by_cases hxz : x = z
          · rw [if_pos rfl] at hab
            rw [if_pos hxz] at hbc ⊢
            exact ih ys zs hab hbc
          · rwa [if_neg hxz] at hbc ⊢
        · rw [if_neg hxy, decide_eq_true_iff] at hab
          by_cases hyz : y = z
          · subst hyz
            rwa [if_neg hxy, decide_eq_true_iff]
          · rw [if_neg hyz, decide_eq_true_iff] at hbc
            have hxz : x < z := String.lt_trans hab hbc
            rwa [if_neg (String.ne_of_lt hxz), decide_eq_true_iff]

theorem precedes_total (a b : List String) : (precedes a b || precedes b a) = true := by
  induction a generalizing b with
  | nil => rfl
  | cons x xs ih =>
    cases b with
    | nil => rfl
    | cons y ys =>
      unfold precedes
      by_cases hxy : x = y
      · subst hxy
        simpa using ih ys
      · rw [if_neg hxy, if_neg (Ne.symm hxy), Bool.or_eq_true, decide_eq_true_iff,
          decide_eq_true_iff]
        by_contra hnot
        rw [not_or, String.not_lt, String.not_lt] at hnot
        exact hxy (String.le_antisymm hnot.2 hnot.1)

/-- Parts that precede other ones and are not the same come before them. -/
theorem lex_of_precedes {a b : List String} (h : precedes a b) (hne : a ≠ b) :
    List.Lex (· < ·) a b := by
  induction a generalizing b with
  | nil =>
    cases b with
    | nil => exact absurd rfl hne
    | cons y ys => exact .nil
  | cons x xs ih =>
    cases b with
    | nil => cases h
    | cons y ys =>
      unfold precedes at h
      by_cases hxy : x = y
      · subst hxy
        rw [if_pos rfl] at h
        exact .cons (ih h fun hxs => hne (by rw [hxs]))
      · rw [if_neg hxy, decide_eq_true_iff] at h
        exact .rel h

/-- Places put in order come strictly one before the other, if they are all different. -/
theorem pairwise_lex_mergeSort {places : List (List String)} (h : places.Nodup) :
    (places.mergeSort precedes).Pairwise (List.Lex (· < ·)) := by
  have hnodup : (places.mergeSort precedes).Nodup :=
    (List.mergeSort_perm places precedes).nodup_iff.mpr h
  exact (List.pairwise_mergeSort precedes_trans precedes_total places).imp₂
    (fun _ _ hle hne => lex_of_precedes hle hne) hnodup

/-- What comes before something below one path still does so below the whole of it. -/
theorem before_join {path : Path} {place place' : List String}
    (h : List.Lex (· < ·) place place') : (path.join ⟨0, place⟩).Before (path.join ⟨0, place'⟩) :=
  List.Lex.append_left _ h path.parts

end Path

/-! ### Below a folder -/

namespace Disk

variable {d : Disk} {path p : Path} {base below : List String} {name : String}

theorem isFolder_of_resolve {place : List String} (h : d.resolve path = .ok place) :
    d.isFolder path = true ↔ d.content? place = some .folder := by
  unfold isFolder find content? Entry.content?
  rw [h]
  simp only [Except.bind]
  rcases d.root.at? place with _ | _ | es <;> simp [Entry.content]

/-- What is at a place below a folder. -/
theorem content?_append {e : Entry} (h : d.root.at? base = some e) (below : List String) :
    d.content? (base ++ below) = e.content? below := by
  rw [content?, Entry.content?_append, h, Option.bind_some]

/-- What stands below a folder is where a path says that goes on from there. -/
theorem resolve_below (hd : d.WellFormed) (hbase : d.resolve path = .ok base)
    (hthere : d.content? (base ++ below) ≠ none) :
    d.resolve (path.join ⟨0, below⟩) = .ok (base ++ below) := by
  obtain ⟨e, he⟩ : ∃ e, d.root.at? (base ++ below) = some e := by
    rw [← Option.isSome_iff_exists, Option.isSome_iff_ne_none]
    intro hnone
    exact hthere (by rw [content?, Entry.content?, hnone, Option.map_none])
  have hnames : ∀ name ∈ below, Entry.IsName name := fun name hname =>
    (hd.tree.at? he).2 name (List.mem_append_right base hname)
  refine resolve_append_iff.mpr ⟨fun part hpart => (hnames part hpart).zero, base, hbase, ?_⟩
  exact foldlM_of_names hnames hthere

/-- The places below a folder under names of Markdown, in order. -/
def markdownPlaces (es : List (String × Entry)) : List (List String) :=
  ((Entry.folder es).places.filter fun place => (Path.mk 0 place).isMarkdown).mergeSort
    Path.precedes

/-- **Below a folder** all that stands there under a name of Markdown is found. -/
theorem mem_markdownPlaces_iff {es : List (String × Entry)} {place : List String}
    (hd : d.WellFormed) (hes : d.root.at? base = some (.folder es)) :
    place ∈ markdownPlaces es ↔ ∃ below name, place = below ++ [name] ∧ HasMarkdownSuffix name ∧
      d.content? (base ++ (below ++ [name])) ≠ none := by
  have hname : ∀ below name, (⟨0, below ++ [name]⟩ : Path).name = name := by simp [Path.name]
  have hthere : ∀ place,
      (Entry.at? place (.folder es)).isSome ↔ d.content? (base ++ place) ≠ none := by
    intro place
    rw [content?_append hes, Entry.content?, ne_eq, Option.map_eq_none_iff,
      Option.isSome_iff_ne_none]
  rw [markdownPlaces, List.mem_mergeSort, List.mem_filter,
    Entry.mem_places_iff _ (hd.tree.at? hes).1, hthere]
  constructor
  · rintro ⟨⟨hne, hplace⟩, hm⟩
    obtain ⟨below, name, rfl⟩ := (List.eq_nil_or_concat' place).resolve_left hne
    rw [Path.isMarkdown_iff, hname] at hm
    exact ⟨below, name, rfl, hm, hplace⟩
  · rintro ⟨below, name, rfl, hm, hplace⟩
    rw [Path.isMarkdown_iff, hname]
    exact ⟨⟨by simp, hplace⟩, hm⟩

/-- The places found below a folder come strictly one before the other. -/
theorem pairwise_markdownPlaces {es : List (String × Entry)} (hd : d.WellFormed)
    (hes : d.root.at? base = some (.folder es)) :
    (markdownPlaces es).Pairwise (List.Lex (· < ·)) :=
  Path.pairwise_lex_mergeSort ((Entry.nodup_places _ (hd.tree.at? hes).1).filter _)

theorem discover_of_file {bytes : List UInt8} (hfile : d.find path = .ok (.file bytes)) :
    d.discover path = .ok (if path.isMarkdown then [path] else []) := by
  simp [discover, hfile]

/-- A file is the only source that its path offers, unless the path is too long. -/
theorem sources_of_file {bytes : List UInt8} (hshort : path.isTooLong = false)
    (hfile : d.find path = .ok (.file bytes)) :
    d.sources path = .ok (if path.isMarkdown then [path] else []) := by
  refine sources_eq_ok_iff.mpr ⟨?_, discover_of_file hfile⟩
  have hasked : d.askedFor path = [path] := by simp [askedFor, hfile, Entry.places]
  simpa [hasked] using hshort

theorem discover_of_folder {es : List (String × Entry)} (hbase : d.resolve path = .ok base)
    (hes : d.root.at? base = some (.folder es)) :
    d.discover path = .ok ((markdownPlaces es).map fun place => path.join ⟨0, place⟩) := by
  simp [discover, find, hbase, Except.bind, hes, markdownPlaces]

/-- There is nothing below a file. -/
theorem content?_below_file {bytes : List UInt8} (hbytes : d.root.at? base = some (.file bytes))
    (below : List String) (name : String) : d.content? (base ++ (below ++ [name])) = none := by
  rw [content?_append hbytes]
  cases below <;> rfl

/-- A folder offers what stands below it under a name of Markdown. -/
theorem mem_offered_iff {es : List (String × Entry)} (hd : d.WellFormed)
    (hes : d.root.at? base = some (.folder es)) {p : Path} :
    p ∈ (markdownPlaces es).map (fun place => path.join ⟨0, place⟩) ↔
      ∃ below name, p = path.join ⟨0, below ++ [name]⟩ ∧ HasMarkdownSuffix name ∧
        d.content? (base ++ (below ++ [name])) ≠ none := by
  simp only [List.mem_map, mem_markdownPlaces_iff hd hes]
  constructor
  · rintro ⟨_, ⟨below, name, rfl, hname, hthere⟩, rfl⟩
    exact ⟨below, name, rfl, hname, hthere⟩
  · rintro ⟨below, name, rfl, hname, hthere⟩
    exact ⟨_, ⟨below, name, rfl, hname, hthere⟩, rfl⟩

/-- What a folder offers is a folder where one stands. -/
theorem exists_isFolder_iff {paths : List Path} (hd : d.WellFormed)
    (hbase : d.resolve path = .ok base)
    (hpaths : ∀ p, p ∈ paths ↔ ∃ below name, p = path.join ⟨0, below ++ [name]⟩ ∧
      HasMarkdownSuffix name ∧ d.content? (base ++ (below ++ [name])) ≠ none) :
    (∃ p ∈ paths, d.isFolder p = true) ↔ ∃ below name, HasMarkdownSuffix name ∧
      d.content? (base ++ (below ++ [name])) = some .folder := by
  constructor
  · rintro ⟨p, hp, hfolder⟩
    obtain ⟨below, name, rfl, hname, hthere⟩ := (hpaths p).mp hp
    exact ⟨below, name, hname, (isFolder_of_resolve (resolve_below hd hbase hthere)).mp hfolder⟩
  · rintro ⟨below, name, hname, hfolder⟩
    have hthere : d.content? (base ++ (below ++ [name])) ≠ none := by simp [hfolder]
    exact ⟨_, (hpaths _).mpr ⟨below, name, rfl, hname, hthere⟩,
      (isFolder_of_resolve (resolve_below hd hbase hthere)).mpr hfolder⟩

/-- **All that a path offers** that leads somewhere. If it leads to a file, this is the path itself
or nothing, as the name says; if it leads to a folder, it is whatever stands below under a name of
Markdown, at any depth, once each and in the order of the parts. There is a folder among it just if
one with such a name stands below. All of this are sources unless a path that the system is asked
for is too long. -/
theorem listing_of_path (hd : d.WellFormed) (hbase : d.resolve path = .ok base) :
    ∃ paths, d.discover path = .ok paths ∧
      (d.sources path = .ok paths ↔ ∀ asked ∈ d.askedFor path, asked.isTooLong = false) ∧
      paths.Pairwise Path.Before ∧
      (∀ bytes, d.content? base = some (.file bytes) → ∀ p,
        p ∈ paths ↔ p = path ∧ HasMarkdownSuffix path.name) ∧
      (d.content? base = some .folder → ∀ p,
        p ∈ paths ↔ ∃ below name, p = path.join ⟨0, below ++ [name]⟩ ∧ HasMarkdownSuffix name ∧
          d.content? (base ++ (below ++ [name])) ≠ none) ∧
      ((∃ p ∈ paths, d.isFolder p = true) ↔ ∃ below name, HasMarkdownSuffix name ∧
        d.content? (base ++ (below ++ [name])) = some .folder) := by
  obtain ⟨e, he⟩ : ∃ e, d.root.at? base = some e := by
    have hthere := content?_of_resolve hd.rooted hbase
    rw [content?, Entry.content?, ne_eq, Option.map_eq_none_iff] at hthere
    exact Option.ne_none_iff_exists'.mp hthere
  have hcontent : d.content? base = some e.content := by
    rw [content?, Entry.content?, he, Option.map_some]
  cases e with
  | file bytes =>
    have hfile : d.find path = .ok (.file bytes) := by simp [find, hbase, Except.bind, he]
    have hpaths := discover_of_file hfile
    refine ⟨_, hpaths, sources_eq_ok_iff.trans (and_iff_left hpaths), ?_, fun _ _ p => ?_,
      fun h => ?_, ?_⟩
    · split <;> simp
    · rw [← Path.isMarkdown_iff]
      split <;> simp_all
    · rw [hcontent] at h
      cases h
    · -- neither does the path lead to a folder, nor is there anything below a file
      have hpath : ¬ d.isFolder path = true := by
        simp [isFolder_of_resolve hbase, hcontent, Entry.content]
      refine iff_of_false ?_ ?_
      · rintro ⟨p, hp, hfolder⟩
        obtain rfl : p = path := by
          split at hp
          · exact List.mem_singleton.mp hp
          · cases hp
        exact hpath hfolder
      · rintro ⟨below, name, -, hfolder⟩
        rw [content?_below_file he] at hfolder
        cases hfolder
  | folder es =>
    have hpaths := discover_of_folder hbase he
    refine ⟨_, hpaths, sources_eq_ok_iff.trans (and_iff_left hpaths), ?_, fun bytes h => ?_,
      fun _ _ => mem_offered_iff hd he, exists_isFolder_iff hd hbase fun _ => mem_offered_iff hd he⟩
    · exact (pairwise_markdownPlaces hd he).map _ fun _ _ => Path.before_join
    · rw [hcontent] at h
      cases h

/-- A disk with a file two folders down, and one whose name is nothing but a suffix. -/
def hiddenFiles : Disk := .ofTexts [("docs/.x/a.b.mdx", ""), ("docs/.md", "")]

/-- A file two folders down is offered, and one whose name is nothing but a suffix is not. -/
theorem listing_of_docs :
    ∃ paths, hiddenFiles.WellFormed ∧ hiddenFiles.resolve (.ofText "docs") = .ok ["w", "docs"] ∧
      hiddenFiles.discover (.ofText "docs") = .ok paths ∧
      .ofText "docs/.x/a.b.mdx" ∈ paths ∧ .ofText "docs/.md" ∉ paths := by
  have hd : hiddenFiles.WellFormed := by decide +kernel
  have hbase : hiddenFiles.resolve (.ofText "docs") = .ok ["w", "docs"] := by decide +kernel
  obtain ⟨paths, hpaths, -, -, -, hfolder, -⟩ := listing_of_path hd hbase
  have hmem := hfolder (by decide +kernel)
  refine ⟨paths, hd, hbase, hpaths, ?_, fun hsuffix => ?_⟩
  · refine (hmem _).mpr ⟨[".x"], "a.b.mdx", by decide, ?_, by decide +kernel⟩
    exact ⟨"a.b".toList, by decide, ".mdx", by decide, by decide⟩
  · obtain ⟨below, name, hp, hname, -⟩ := (hmem _).mp hsuffix
    have hname' := Path.isMarkdown_iff (p := .ofText "docs/.md")
    have hlast : (Path.ofText "docs/.md").name = name := by
      rw [hp]
      simp [Path.join, Path.isAbsolute, Path.name, ← List.append_assoc]
    rw [hlast] at hname'
    exact absurd (hname'.mpr hname) (by decide +kernel)

/-- A disk with a folder that is named like a file of Markdown. -/
def folderNamedLikeFile : Disk :=
  .ofFiles ["w"] [(.ofText "docs/a.md", [])] [.ofText "docs/b.md"]

/-- Not only files are sources: a folder is one, if it is named like one. -/
theorem not_only_files_offered :
    ¬∀ (d : Disk) (path : Path) (base : List String) (paths : List Path), d.WellFormed →
      d.resolve path = .ok base → d.sources path = .ok paths →
        ∀ p ∈ paths, d.isFolder p = false := by
  intro hfiles
  have hplaces : folderNamedLikeFile.find (.ofText "docs") =
      .ok (.folder [("a.md", .file []), ("b.md", .folder [])]) := rfl
  have hpaths : folderNamedLikeFile.discover (.ofText "docs") =
      .ok [.ofText "docs/a.md", .ofText "docs/b.md"] :=
    discover_of_pairwise hplaces rfl (by decide +kernel)
  have hfile := hfiles folderNamedLikeFile (.ofText "docs") ["w", "docs"] _ (by decide +kernel)
    (by decide +kernel) (sources_eq_ok_iff.mpr ⟨by decide +kernel, hpaths⟩) (.ofText "docs/b.md")
    (by simp)
  have hfolder : folderNamedLikeFile.isFolder (.ofText "docs/b.md") = true := by decide +kernel
  rw [hfolder] at hfile
  cases hfile

end Disk

end ContentBlocks.Storage
