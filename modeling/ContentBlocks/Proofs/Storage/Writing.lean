import ContentBlocks.Proofs.Storage.Growth

/-!
# What writing changes

Making folders and writing a file change what stands at the places that their paths name, and
nothing else, whether they succeed or not. A folder that is made stands on the way to the path that
was asked for; a file that is written stands where its path leads from then on.

## Main definitions

* `Disk.Sets`: one place holds something else
* `Disk.Gains`: new folders on the way to a path

## Main results

* `run_makeFolder`, `run_write`: what making a folder and writing a file do at a place
* `makeFolder_cases`, `write_cases`: what they can do at all
* `gains_makeFolders`: what making a folder with the folders around it can do
-/

namespace ContentBlocks.Storage

namespace Disk

variable {d d' d'' : Disk} {p : Path} {place : List String}

/-- A disk with something put at one place. -/
structure Sets (d d' : Disk) (place : List String) (c : Content) : Prop where
  working : d'.working = d.working
  content? : ∀ other, d'.content? other = if other = place then some c else d.content? other

theorem Sets.at_place {c : Content} (h : d.Sets d' place c) : d'.content? place = some c := by
  rw [h.content?, if_pos rfl]

theorem Sets.of_ne {c : Content} (h : d.Sets d' place c) {other : List String}
    (hne : other ≠ place) : d'.content? other = d.content? other := by
  rw [h.content?, if_neg hne]

theorem Sets.grows_of_new {c : Content} (h : d.Sets d' place c) (hnew : d.content? place = none) :
    d.Grows d' where
  working := h.working
  folder other hother := by
    rw [h.of_ne, hother]
    rintro rfl
    rw [hnew] at hother
    cases hother
  file other bytes hother := by
    refine ⟨bytes, ?_⟩
    rw [h.of_ne, hother]
    rintro rfl
    rw [hnew] at hother
    cases hother

theorem Sets.grows_of_file {bytes : List UInt8} (h : d.Sets d' place (.file bytes))
    (hold : d.content? place ≠ some .folder) : d.Grows d' where
  working := h.working
  folder other hother := by
    rw [h.of_ne, hother]
    rintro rfl
    exact hold hother
  file other old hother := by
    by_cases hne : other = place
    · exact ⟨bytes, by rw [hne, h.at_place]⟩
    · exact ⟨old, by rw [h.of_ne hne, hother]⟩

/-! ### New folders -/

/-- The path up to some part. -/
def upTo (p : Path) (n : Nat) : Path := ⟨p.slashes, p.parts.take n⟩

/-- A disk with nothing new but folders, each of them on the way to a path. -/
structure Gains (p : Path) (d d' : Disk) : Prop where
  working : d'.working = d.working
  content? : ∀ place, d'.content? place = d.content? place ∨
    d.content? place = none ∧ d'.content? place = some .folder ∧
      ∃ n, d'.resolve (upTo p n) = .ok place

theorem Gains.refl (p : Path) (d : Disk) : d.Gains p d := ⟨rfl, fun _ => .inl rfl⟩

theorem Gains.grows (h : d.Gains p d') : d.Grows d' where
  working := h.working
  folder place hplace := by
    rcases h.content? place with heq | ⟨hnone, -⟩
    · rw [heq, hplace]
    · rw [hnone] at hplace
      cases hplace
  file place bytes hplace := by
    refine ⟨bytes, ?_⟩
    rcases h.content? place with heq | ⟨hnone, -⟩
    · rw [heq, hplace]
    · rw [hnone] at hplace
      cases hplace

theorem Gains.trans (h : d.Gains p d') (h' : d'.Gains p d'') : d.Gains p d'' where
  working := h'.working.trans h.working
  content? place := by
    rcases h.content? place with heq | ⟨hnone, hfolder, n, hn⟩
    · rw [← heq]
      exact h'.content? place
    · exact .inr ⟨hnone, h'.grows.folder place hfolder, n, h'.grows.resolve hn⟩

/-- Files are what they were. -/
theorem Gains.fileAt? (h : d.Gains p d') (place : List String) :
    d'.fileAt? place = d.fileAt? place := by
  unfold Disk.fileAt?
  rcases h.content? place with heq | ⟨hnone, hfolder, -⟩
  · rw [heq]
  · rw [hnone, hfolder]
    rfl

theorem upTo_parent (p : Path) (n : Nat) : ∃ m, upTo p.parent n = upTo p m :=
  ⟨min n (p.parts.length - 1), by
    simp [upTo, Path.parent, List.dropLast_eq_take, List.take_take]⟩

theorem Gains.of_parent (h : d.Gains p.parent d') : d.Gains p d' where
  working := h.working
  content? place := by
    rcases h.content? place with heq | ⟨hnone, hfolder, n, hn⟩
    · exact .inl heq
    · obtain ⟨m, hm⟩ := upTo_parent p n
      exact .inr ⟨hnone, hfolder, m, hm ▸ hn⟩

theorem Gains.of_sets (h : d.Sets d' place .folder) (hnew : d.content? place = none)
    (hp : d'.resolve p = .ok place) : d.Gains p d' where
  working := h.working
  content? other := by
    by_cases hne : other = place
    · subst hne
      refine .inr ⟨hnew, h.at_place, p.parts.length, ?_⟩
      rwa [upTo, List.take_length]
    · exact .inl (h.of_ne hne)

end Disk

namespace Storing

open Disk

variable {α β : Type} {d d' : Disk} {p : Path} {place : List String}

/-! ### Steps -/

theorem run_bind (m : Storing α) (f : α → Storing β) (d : Disk) :
    (m >>= f).run d =
      match m.run d with
      | (.ok a, d') => (f a).run d'
      | (.error t, d') => (.error t, d') := by
  show (ExceptT.bindCont f (m.run d).1) (m.run d).2 = _
  rcases m.run d with ⟨_ | a, d'⟩ <;> rfl

theorem run_get (d : Disk) : (get : Storing Disk).run d = (.ok d, d) := rfl

theorem run_tryCatch (m : Storing α) (handler : Trouble → Storing α) (d : Disk) :
    (tryCatch m handler).run d =
      match m.run d with
      | (.ok a, d') => (.ok a, d')
      | (.error t, d') => (handler t).run d' := by
  simp only [tryCatch, tryCatchThe, MonadExceptOf.tryCatch, ExceptT.tryCatch, ExceptT.run,
    ExceptT.mk, bind, StateT.bind]
  rcases m d with ⟨_ | a, d'⟩ <;> rfl

theorem run_ask (p : Path) (question : Disk → Except Fault α) (d : Disk) :
    (ask p question).run d =
      match p.ifTaken (question d) with
      | .ok a => (.ok a, d)
      | .error f => (.error ⟨f, p⟩, d) := by
  unfold ask
  rw [run_bind]
  show ExceptT.run (match p.ifTaken (question d) with
    | .ok a => (pure a : Storing α)
    | .error f => throw ⟨f, p⟩) d = _
  cases p.ifTaken (question d) <;> rfl

/-- Making one folder puts it to the place that its path names, unless something is there. -/
theorem run_makeFolder (hplace : p.ifTaken (d.newPlace p) = .ok place) :
    (makeFolder p).run d =
      if d.content? place = none then
        (.ok ⟨⟩, { d with root := d.root.putAt place (.folder []) })
      else (.error ⟨.taken, p⟩, d) := by
  unfold makeFolder
  rw [run_bind, run_ask, hplace]
  simp only [run_bind, run_get]
  -- both sides look at what stands at the place
  cases hold : d.root.at? place with
  | none =>
    have hnone : d.content? place = none := by simp [Disk.content?, Entry.content?, hold]
    rw [if_pos hnone]
    rfl
  | some e =>
    have hthere : d.content? place ≠ none := by simp [Disk.content?, Entry.content?, hold]
    rw [if_neg hthere]
    rfl

/-- Making one folder either changes nothing, or puts a folder where nothing was, which the path
then leads to. -/
theorem makeFolder_cases (hd : d.Rooted) {r : Except Trouble PUnit}
    (h : (makeFolder p).run d = (r, d')) :
    d' = d ∧ (∃ t, r = .error t) ∨
      r = .ok ⟨⟩ ∧ ∃ place, d.content? place = none ∧ d.Sets d' place .folder ∧
        d'.resolve p = .ok place := by
  cases hplace : p.ifTaken (d.newPlace p) with
  | error f =>
    unfold makeFolder at h
    rw [run_bind, run_ask, hplace] at h
    cases h
    exact .inl ⟨rfl, _, rfl⟩
  | ok place =>
    rw [run_makeFolder hplace] at h
    split at h
    · next hnone =>
      -- nothing is there, so the place is a new one, in a folder
      cases h
      obtain ⟨-, hthere⟩ | ⟨-, parent, rfl, hparent, hleads⟩ :=
        newPlace_cases hd (Path.ifTaken_eq_ok_iff.mp hplace).2
      · exact absurd hnone hthere
      · refine .inr ⟨rfl, _, hnone, ?_⟩
        have hsets : d.Sets { d with root := d.root.putAt (parent ++ [p.name]) (.folder []) }
            (parent ++ [p.name]) .folder :=
          ⟨rfl, content?_put rfl hparent (by rw [hnone]; simp)⟩
        refine ⟨hsets, hleads _ (hsets.grows_of_new hnone) ?_⟩
        rw [hsets.at_place]
        exact Option.some_ne_none _
    · cases h
      exact .inl ⟨rfl, _, rfl⟩

/-- Writing puts a file to the place that its path names, unless a folder stands there. -/
theorem run_write {bytes : List UInt8} (hplace : p.ifTaken (d.newPlace p) = .ok place) :
    (write p bytes).run d =
      if d.content? place = some .folder then (.error ⟨.isFolder, p⟩, d)
      else (.ok ⟨⟩, { d with root := d.root.putAt place (.file bytes) }) := by
  unfold write
  rw [run_bind, run_ask, hplace]
  simp only [run_bind, run_get]
  -- both sides look at what stands at the place
  cases hold : d.root.at? place with
  | none =>
    rw [if_neg (by simp [Disk.content?, Entry.content?, hold])]
    rfl
  | some e =>
    cases e with
    | file old =>
      rw [if_neg (by simp [Disk.content?, Entry.content?, Entry.content, hold])]
      rfl
    | folder es =>
      rw [if_pos (by simp [Disk.content?, Entry.content?, Entry.content, hold])]
      rfl

/-- Writing a file either changes nothing, or puts the file where no folder was, and the path then
leads to it. -/
theorem write_cases (hd : d.Rooted) {bytes : List UInt8} {r : Except Trouble PUnit}
    (h : (write p bytes).run d = (r, d')) :
    d' = d ∧ (∃ t, r = .error t) ∨
      r = .ok ⟨⟩ ∧ ∃ place, d.content? place ≠ some .folder ∧ d.Sets d' place (.file bytes) ∧
        d'.resolve p = .ok place := by
  cases hplace : p.ifTaken (d.newPlace p) with
  | error f =>
    unfold write at h
    rw [run_bind, run_ask, hplace] at h
    cases h
    exact .inl ⟨rfl, _, rfl⟩
  | ok place =>
    rw [run_write hplace] at h
    split at h
    · cases h
      exact .inl ⟨rfl, _, rfl⟩
    · next hnot =>
      cases h
      refine .inr ⟨rfl, place, hnot, ?_⟩
      obtain ⟨hresolve, hthere⟩ | ⟨hnone, parent, rfl, hparent, hleads⟩ :=
        newPlace_cases hd (Path.ifTaken_eq_ok_iff.mp hplace).2
      · -- a file that is there keeps its place, which is not the root
        rcases List.eq_nil_or_concat' place with rfl | ⟨parent, name, rfl⟩
        · exact absurd (content?_root_of_rooted hd) hnot
        · have hsets : d.Sets { d with root := d.root.putAt (parent ++ [name]) (.file bytes) }
              (parent ++ [name]) (.file bytes) :=
            ⟨rfl, content?_put rfl (Entry.content?_parent hthere) hnot⟩
          exact ⟨hsets, (hsets.grows_of_file hnot).resolve hresolve⟩
      · have hsets : d.Sets { d with root := d.root.putAt (parent ++ [p.name]) (.file bytes) }
            (parent ++ [p.name]) (.file bytes) :=
          ⟨rfl, content?_put rfl hparent hnot⟩
        refine ⟨hsets, hleads _ (hsets.grows_of_new hnone) ?_⟩
        rw [hsets.at_place]
        exact Option.some_ne_none _

/-! ### Folders -/

/-- Whatever comes of it, making one folder makes no other. -/
theorem gains_makeFolder (hd : d.Rooted) : d.Gains p ((makeFolder p).run d).2 := by
  rcases hrun : (makeFolder p).run d with ⟨r, d'⟩
  obtain ⟨rfl, -⟩ | ⟨-, place, hnone, hsets, hp⟩ := makeFolder_cases hd hrun
  · exact .refl p d'
  · exact .of_sets hsets hnone hp

/-- A computation that is tried, and what is done if it fails. -/
theorem gains_tryCatch {m : Storing α} {handler : Trouble → Storing α}
    (hm : d.Gains p (m.run d).2)
    (hhandler : ∀ t d', d.Gains p d' → d'.Gains p ((handler t).run d').2) :
    d.Gains p ((tryCatch m handler).run d).2 := by
  rw [run_tryCatch]
  rcases hrun : m.run d with ⟨t | a, d'⟩
  · rw [hrun] at hm
    exact hm.trans (hhandler t d' hm)
  · rw [hrun] at hm
    exact hm

theorem gains_bind {m : Storing α} {f : α → Storing β} (hm : d.Gains p (m.run d).2)
    (hf : ∀ a d', d.Gains p d' → d'.Gains p ((f a).run d').2) :
    d.Gains p ((m >>= f).run d).2 := by
  rw [run_bind]
  rcases hrun : m.run d with ⟨t | a, d'⟩
  · rw [hrun] at hm
    exact hm
  · rw [hrun] at hm
    exact hm.trans (hf a d' hm)

/-- **Making a folder** with the folders around it makes none but these, also where it fails. -/
theorem gains_makeFoldersAux (fuel : Nat) (hd : d.Rooted) :
    d.Gains p ((makeFoldersAux fuel p).run d).2 := by
  -- induction on the bound, for any path; the folders around are on the way to the path too
  induction fuel generalizing p d with
  | zero => exact .refl p d
  | succ fuel ih =>
    rw [makeFoldersAux]
    have hunless : ∀ (t : Trouble) (d' : Disk), d'.Gains p ((do
        if t.fault ∉ [.missing, .longName] && (← get).isFolder p then pure ⟨⟩ else throw t :
          Storing PUnit).run d').2 := by
      intro t d'
      show d'.Gains p (ExceptT.run (if t.fault ∉ [.missing, .longName] && d'.isFolder p then
        (pure ⟨⟩ : Storing PUnit) else throw t) d').2
      split <;> exact .refl p d'
    refine gains_tryCatch (gains_makeFolder hd) fun t d' hd' => ?_
    have hrooted : d'.Rooted := hd'.grows.rooted hd
    split
    · -- the folders around, and then the same folder once more
      refine gains_bind (ih hrooted).of_parent fun _ d'' hd'' => ?_
      exact gains_tryCatch (gains_makeFolder (hd''.grows.rooted hrooted)) fun t _ _ => hunless t _
    · exact hunless t d'

theorem gains_makeFolders (hd : d.Rooted) : d.Gains p ((makeFolders p).run d).2 :=
  gains_makeFoldersAux _ hd

end Storing

end ContentBlocks.Storage
