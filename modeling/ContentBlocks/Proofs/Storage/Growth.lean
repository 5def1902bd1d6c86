import ContentBlocks.Proofs.Storage.Tree
import ContentBlocks.Text.Utf8

/-!
# Disks that grow

A disk grows when folders stay folders and files stay files; there may be more of both, and files
may have other bytes. Where a path leads depends only on what stands where, and a path that leads
somewhere leads to the same place on a disk that has grown.

## Main definitions

* `Disk.content?`, `Disk.fileAt?`: what stands at a place of a disk
* `Disk.WellFormed`: a well-formed tree with a working folder
* `Disk.ofTexts`: a small disk
* `Disk.Grows`: folders stay folders and files stay files

## Main results

* `Disk.Grows.resolve`: a path leads where it led before
* `Disk.getLast?_of_resolve`: a path leads to a place of its own name
* `Disk.newPlace_cases`: the place that a path names for a new entry
-/

namespace ContentBlocks.Storage

theorem Path.ifTaken_eq_ok_iff {α : Type} {p : Path} {answer : Except Fault α} {a : α} :
    p.ifTaken answer = .ok a ↔ p.isTooLong = false ∧ answer = .ok a := by
  unfold Path.ifTaken
  cases p.isTooLong <;> simp

namespace Disk

/-- What stands at a place of a disk, if there is anything. -/
def content? (d : Disk) (place : List String) : Option Content := d.root.content? place

/-- The bytes of the file at a place, if a file stands there. -/
def fileAt? (d : Disk) (place : List String) : Option (List UInt8) :=
  (d.content? place).bind Content.bytes?

/-- The working folder of the disk is there. -/
def Rooted (d : Disk) : Prop := d.content? d.working = some .folder

/-- A disk with a well-formed tree and a working folder in it. -/
structure WellFormed (d : Disk) : Prop where
  tree : d.root.WellFormed
  rooted : d.Rooted

instance : DecidablePred Rooted := fun d =>
  inferInstanceAs (Decidable (d.content? d.working = some .folder))

instance : DecidablePred WellFormed := fun d =>
  decidable_of_iff (d.root.WellFormed ∧ d.Rooted) ⟨fun h => ⟨h.1, h.2⟩, fun h => ⟨h.1, h.2⟩⟩

/-- A disk with some texts in its working folder, given by their paths. -/
def ofTexts (texts : List (String × String)) : Disk :=
  .ofFiles ["w"] (texts.map fun (path, text) => (.ofText path, Text.utf8 text)) []

theorem fileAt?_eq_some_iff {d : Disk} {place : List String} {bytes : List UInt8} :
    d.fileAt? place = some bytes ↔ d.content? place = some (.file bytes) := by
  unfold fileAt?
  rcases d.content? place with _ | _ | bs <;> simp [Content.bytes?]

theorem content?_root (d : Disk) : d.content? [] ≠ none := by
  simp [content?, Entry.content?, Entry.at?]

/-- The root is a folder if the working folder is below it. -/
theorem content?_root_of_rooted {d : Disk} (hd : d.Rooted) : d.content? [] = some .folder := by
  unfold Rooted content? Entry.content? at hd
  cases hr : d.root with
  | file bytes =>
    rw [hr] at hd
    cases hw : d.working with
    | nil => simp [hw, Entry.at?, Entry.content] at hd
    | cons name rest => simp [hw, Entry.at?, Entry.children] at hd
  | folder es => simp [content?, Entry.content?, hr, Entry.at?, Entry.content]

/-- Putting something with nothing below it into a folder, where no folder stands. -/
theorem content?_put {d : Disk} {new : Entry} {parent : List String} {name : String}
    (hnew : new.children = []) (hparent : d.content? parent = some .folder)
    (hold : d.content? (parent ++ [name]) ≠ some .folder) (place : List String) :
    ({ d with root := d.root.putAt (parent ++ [name]) new } : Disk).content? place =
      if place = parent ++ [name] then some new.content else d.content? place :=
  Entry.content?_putAt hnew hparent hold place

/-! ### Steps -/

/-- A step depends only on what stands where. -/
theorem step_eq (d : Disk) (place : List String) (part : String) :
    d.step place part =
      match d.content? place with
      | some .folder =>
        if part = ".." then .ok place.dropLast
        else if maxNameSize < part.utf8ByteSize then .error .longName
        else if (d.content? (place ++ [part])).isSome then .ok (place ++ [part])
        else .error .missing
      | some (.file _) => .error .notFolder
      | none => .error .missing := by
  unfold step
  cases hp : d.root.at? place with
  | none =>
    have hc : d.content? place = none := by simp [content?, Entry.content?, hp]
    rw [hc]
  | some e =>
    cases e with
    | file bytes =>
      have hc : d.content? place = some (.file bytes) := by
        simp [content?, Entry.content?, hp, Entry.content]
      rw [hc]
    | folder es =>
      have hc : d.content? place = some .folder := Entry.content?_eq_folder_iff.mpr ⟨es, hp⟩
      have hnext : (d.content? (place ++ [part])).isSome = (es.lookup part).isSome := by
        rw [content?, Entry.content?_append, hp]
        cases h : es.lookup part <;> simp only [Option.bind_some, Entry.content?, Entry.at?,
          Entry.children, h, Option.bind_none, Option.map_none, Option.map_some,
          Option.isSome_none, Option.isSome_some]
      rw [hc]
      simp only [hnext]

theorem step_eq_ok_iff {d : Disk} {place place' : List String} {part : String} :
    d.step place part = .ok place' ↔
      d.content? place = some .folder ∧
        (part = ".." ∧ place' = place.dropLast ∨
          part ≠ ".." ∧ part.utf8ByteSize ≤ maxNameSize ∧ d.content? (place ++ [part]) ≠ none ∧
            place' = place ++ [part]) := by
  rw [step_eq]
  rcases d.content? place with _ | _ | bytes
  · simp
  · by_cases hup : part = ".."
    · simp [hup, eq_comm]
    · by_cases hsize : maxNameSize < part.utf8ByteSize
      · simp [hup, hsize, Nat.not_le_of_lt hsize]
      · cases d.content? (place ++ [part]) <;>
          simp [hup, hsize, Nat.le_of_not_lt hsize, eq_comm]
  · simp

theorem step_eq_missing_iff {d : Disk} {place : List String} {part : String} :
    d.step place part = .error .missing ↔
      d.content? place = none ∨
        d.content? place = some .folder ∧ part ≠ ".." ∧ part.utf8ByteSize ≤ maxNameSize ∧
          d.content? (place ++ [part]) = none := by
  rw [step_eq]
  rcases d.content? place with _ | _ | bytes
  · simp
  · by_cases hup : part = ".."
    · simp [hup]
    · by_cases hsize : maxNameSize < part.utf8ByteSize
      · simp [hup, hsize, Nat.not_le_of_lt hsize]
      · cases d.content? (place ++ [part]) <;> simp [hup, hsize, Nat.le_of_not_lt hsize]
  · simp

theorem foldlM_singleton (d : Disk) (place : List String) (part : String) :
    [part].foldlM d.step place = d.step place part := by
  simp only [List.foldlM_cons, List.foldlM_nil, bind_pure]

/-- The steps from a place that is there to one that is there. -/
theorem content?_of_foldlM {d : Disk} {parts : List String} {place place' : List String}
    (hplace : d.content? place ≠ none) (h : parts.foldlM d.step place = .ok place') :
    d.content? place' ≠ none := by
  induction parts generalizing place with
  | nil =>
    obtain rfl : place = place' := Except.ok.inj h
    exact hplace
  | cons part rest ih =>
    rw [List.foldlM_cons] at h
    cases hs : d.step place part with
    | error f => rw [hs] at h; cases h
    | ok next =>
      rw [hs] at h
      refine ih ?_ h
      obtain ⟨hfolder, ⟨-, rfl⟩ | ⟨-, -, hthere, rfl⟩⟩ := step_eq_ok_iff.mp hs
      · -- a step upward leads to the folder around, and from the root nowhere
        rcases List.eq_nil_or_concat' place with rfl | ⟨parent, name, rfl⟩
        · exact hplace
        · have hparent : d.content? parent = some .folder :=
            Entry.content?_parent (show d.root.content? (parent ++ [name]) ≠ none from hplace)
          rw [List.dropLast_concat, hparent]
          exact Option.some_ne_none _
      · exact hthere

/-! ### Paths -/

/-- The place that the first part of a path is looked for in. -/
def origin (d : Disk) (p : Path) : List String := if p.isAbsolute then [] else d.working

/-- Unless a part cannot be given to the system, the parts are followed one after the other. -/
theorem resolve_eq_iff {d : Disk} {p : Path} {r : Except Fault (List String)}
    (hr : r ≠ .error .zeroByte) :
    d.resolve p = r ↔
      (∀ part ∈ p.parts, '\x00' ∉ part.toList) ∧ p.parts.foldlM d.step (d.origin p) = r := by
  unfold resolve Path.hasZeroByte
  by_cases h : ∀ part ∈ p.parts, '\x00' ∉ part.toList
  · have hany : (p.parts.any fun part => part.toList.contains '\x00') = false := by simpa using h
    rw [hany, if_neg Bool.false_ne_true]
    exact ⟨fun h' => ⟨h, h'⟩, And.right⟩
  · have hany : (p.parts.any fun part => part.toList.contains '\x00') = true := by simpa using h
    rw [hany, if_pos rfl]
    exact ⟨fun h' => absurd h'.symm hr, fun h' => absurd h'.1 h⟩

theorem resolve_eq_ok_iff {d : Disk} {p : Path} {place : List String} :
    d.resolve p = .ok place ↔
      (∀ part ∈ p.parts, '\x00' ∉ part.toList) ∧
        p.parts.foldlM d.step (d.origin p) = .ok place :=
  resolve_eq_iff (by simp)

/-- A path leads somewhere if its parts do, one after the other. -/
theorem resolve_append_iff {d : Disk} {slashes : Nat} {parts below place : List String} :
    d.resolve ⟨slashes, parts ++ below⟩ = .ok place ↔
      (∀ part ∈ below, '\x00' ∉ part.toList) ∧
        ∃ mid, d.resolve ⟨slashes, parts⟩ = .ok mid ∧ below.foldlM d.step mid = .ok place := by
  simp only [resolve_eq_ok_iff, List.foldlM_append, List.forall_mem_append]
  have horigin : d.origin ⟨slashes, parts ++ below⟩ = d.origin ⟨slashes, parts⟩ := rfl
  rw [horigin]
  -- both sides follow the same parts first
  cases parts.foldlM d.step (d.origin ⟨slashes, parts⟩) with
  | error f => exact ⟨fun h => (nomatch h.2), fun ⟨_, _, ⟨_, h⟩, _⟩ => (nomatch h)⟩
  | ok mid =>
    constructor
    · rintro ⟨⟨hparts, hbelow⟩, h⟩
      exact ⟨hbelow, mid, ⟨hparts, rfl⟩, h⟩
    · rintro ⟨hbelow, _, ⟨hparts, hmid⟩, h⟩
      cases hmid
      exact ⟨⟨hparts, hbelow⟩, h⟩

/-- Where a path leads, something stands. -/
theorem content?_of_resolve {d : Disk} (hd : d.Rooted) {p : Path} {place : List String}
    (h : d.resolve p = .ok place) : d.content? place ≠ none := by
  refine content?_of_foldlM ?_ (resolve_eq_ok_iff.mp h).2
  unfold origin
  split
  · exact content?_root d
  · rw [hd]
    exact Option.some_ne_none _

/-- A path that does not end with a step upward leads to a place with its own name. -/
theorem getLast?_of_resolve {d : Disk} {p : Path} {place : List String}
    (h : d.resolve p = .ok place) (hparts : p.parts ≠ []) (hup : p.name ≠ "..") :
    place.getLast? = some p.name := by
  obtain ⟨slashes, parts⟩ := p
  obtain ⟨init, last, rfl⟩ := (List.eq_nil_or_concat' parts).resolve_left hparts
  have hname : (⟨slashes, init ++ [last]⟩ : Path).name = last := by simp [Path.name]
  rw [hname] at hup ⊢
  obtain ⟨-, mid, -, hlast⟩ := resolve_append_iff.mp h
  rw [foldlM_singleton] at hlast
  obtain ⟨-, ⟨h', -⟩ | ⟨-, -, -, rfl⟩⟩ := step_eq_ok_iff.mp hlast
  · exact absurd h' hup
  · exact List.getLast?_concat

/-! ### Growth -/

/-- Folders stay folders and files stay files, with the working folder where it was. -/
structure Grows (d d' : Disk) : Prop where
  working : d'.working = d.working
  folder : ∀ place, d.content? place = some .folder → d'.content? place = some .folder
  file : ∀ place bytes, d.content? place = some (.file bytes) →
    ∃ bytes', d'.content? place = some (.file bytes')

namespace Grows

variable {d d' d'' : Disk}

theorem refl (d : Disk) : d.Grows d := ⟨rfl, fun _ h => h, fun _ bytes h => ⟨bytes, h⟩⟩

theorem trans (h : d.Grows d') (h' : d'.Grows d'') : d.Grows d'' where
  working := h'.working.trans h.working
  folder place hplace := h'.folder place (h.folder place hplace)
  file place bytes hplace := by
    obtain ⟨bytes', hplace'⟩ := h.file place bytes hplace
    exact h'.file place bytes' hplace'

theorem content? (h : d.Grows d') {place : List String} (hplace : d.content? place ≠ none) :
    d'.content? place ≠ none := by
  cases hc : d.content? place with
  | none => exact absurd hc hplace
  | some c =>
    cases c with
    | folder =>
      rw [h.folder place hc]
      exact Option.some_ne_none _
    | file bytes =>
      obtain ⟨bytes', hc'⟩ := h.file place bytes hc
      rw [hc']
      exact Option.some_ne_none _

theorem rooted (h : d.Grows d') (hd : d.Rooted) : d'.Rooted := by
  rw [Rooted, h.working]
  exact h.folder _ hd

theorem step (h : d.Grows d') {place place' : List String} {part : String}
    (hs : d.step place part = .ok place') : d'.step place part = .ok place' := by
  rw [step_eq_ok_iff] at hs ⊢
  obtain ⟨hfolder, hup | ⟨hne, hsize, hthere, rfl⟩⟩ := hs
  · exact ⟨h.folder place hfolder, .inl hup⟩
  · exact ⟨h.folder place hfolder, .inr ⟨hne, hsize, h.content? hthere, rfl⟩⟩

theorem foldlM (h : d.Grows d') {parts place place' : List String}
    (hs : parts.foldlM d.step place = .ok place') : parts.foldlM d'.step place = .ok place' := by
  induction parts generalizing place with
  | nil => exact hs
  | cons part rest ih =>
    rw [List.foldlM_cons] at hs ⊢
    cases hpart : d.step place part with
    | error f => rw [hpart] at hs; cases hs
    | ok next =>
      rw [hpart] at hs
      rw [h.step hpart]
      exact ih hs

/-- **A path leads where it led** before the disk grew. -/
theorem resolve (h : d.Grows d') {p : Path} {place : List String}
    (hp : d.resolve p = .ok place) : d'.resolve p = .ok place := by
  rw [resolve_eq_ok_iff] at hp ⊢
  have horigin : d'.origin p = d.origin p := by rw [origin, origin, h.working]
  exact ⟨hp.1, horigin ▸ h.foldlM hp.2⟩

end Grows

/-! ### Places for new entries -/

/-- A path names the place that it leads to, or one in a folder, where nothing is yet. As soon as
something stands there, the path leads there. -/
theorem newPlace_cases {d : Disk} (hd : d.Rooted) {p : Path} {place : List String}
    (h : d.newPlace p = .ok place) :
    (d.resolve p = .ok place ∧ d.content? place ≠ none) ∨
      d.content? place = none ∧ ∃ parent, place = parent ++ [p.name] ∧
        d.content? parent = some .folder ∧
        ∀ d' : Disk, d.Grows d' → d'.content? place ≠ none → d'.resolve p = .ok place := by
  unfold newPlace at h
  split at h
  · next found hp =>
    obtain rfl : found = place := Except.ok.inj h
    exact .inl ⟨hp, content?_of_resolve hd hp⟩
  · next hp =>
    split at h
    · cases h
    · next hname =>
      simp only [Bool.or_eq_true, List.isEmpty_iff, decide_eq_true_eq, not_or] at hname
      obtain ⟨slashes, parts⟩ := p
      obtain ⟨init, last, rfl⟩ := (List.eq_nil_or_concat' parts).resolve_left hname.1
      have hlast : (⟨slashes, init ++ [last]⟩ : Path).name = last := by simp [Path.name]
      have hparent : (⟨slashes, init ++ [last]⟩ : Path).parent = ⟨slashes, init⟩ := by
        simp [Path.parent]
      rw [hlast] at hname ⊢
      rw [hlast, hparent] at h
      cases hi : d.resolve ⟨slashes, init⟩ with
      | error f => rw [hi] at h; cases h
      | ok parent =>
        rw [hi] at h
        obtain rfl : parent ++ [last] = place := Except.ok.inj h
        -- the last part is what is missing, and only because nothing has its name
        obtain ⟨hzero, hsteps⟩ := (resolve_eq_iff (by simp)).mp hp
        rw [List.foldlM_append] at hsteps
        obtain ⟨-, hinit⟩ := resolve_eq_ok_iff.mp hi
        have horigin : d.origin ⟨slashes, init ++ [last]⟩ = d.origin ⟨slashes, init⟩ := rfl
        rw [horigin, hinit] at hsteps
        have hmissing : d.step parent last = .error .missing :=
          (foldlM_singleton d parent last).symm.trans hsteps
        obtain hnone | ⟨hfolder, hup, hsize, hnone⟩ := step_eq_missing_iff.mp hmissing
        · exact absurd hnone (content?_of_resolve hd hi)
        · refine .inr ⟨hnone, parent, rfl, hfolder, fun d' hgrows hthere => ?_⟩
          refine resolve_append_iff.mpr
            ⟨fun part hpart => hzero part (List.mem_append_right _ hpart), parent,
              hgrows.resolve hi, ?_⟩
          have hstep : d'.step parent last = .ok (parent ++ [last]) :=
            step_eq_ok_iff.mpr ⟨hgrows.folder _ hfolder, .inr ⟨hup, hsize, hthere, rfl⟩⟩
          rw [foldlM_singleton, hstep]
  · cases h

end Disk

end ContentBlocks.Storage
