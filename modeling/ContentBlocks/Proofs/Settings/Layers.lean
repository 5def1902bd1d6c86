import ContentBlocks.Proofs.Storage.Growth
import ContentBlocks.Settings.Layers

/-!
# Layers of settings

The value of the file decides whether there can be settings at all, and the other layers are then
put over its entries. Of each field the topmost layer that says anything about it is left to be
looked at. What the value is depends only on what stands at one place of the disk.

## Main definitions

* `chosen`: what the topmost layer that says anything about a field says about it
* `fields?`: the entries that a value has for the fields
* `configPlace`: the place of the file

## Main results

* `lookup_layered`: what the layers say together is what the topmost of them says
* `ofLayers_of_fields?`: the layers above are put over the entries, if there are any
* `load_of_silent`: overrides that say nothing put nothing over the settings
* `configValue_eq`: the value of the file depends on what stands at its place
-/

namespace ContentBlocks.Settings

open Schema (Coercion Scalar)
open Storage (Disk Entry)

variable {readers : Readers} {yaml : String → Except Yaml.Failure Yaml.Value} {take : Coercion}
  {d : Disk} {v : Yaml.Value} {entries : Header} {os : Overrides}

/-! ### Layers over one another -/

/-- What the topmost layer that says anything about a field says about it. -/
def chosen (config : Header) (env : Environment) (overrides : Overrides) (field : String) :
    Option Scalar :=
  fromOverrides overrides field <|> fromEnvironment env field <|>
    (Yaml.Value.field? field config).map scalarOf

theorem lookup_fromConfig (config : Header) (field : String) :
    (fromConfig config).lookup field = (Yaml.Value.field? field config).map scalarOf := by
  induction config with
  | nil => rfl
  | cons entry config ih =>
    obtain ⟨k, v⟩ := entry
    cases k with
    | str name =>
      have hcons : fromConfig ((.str name, v) :: config) =
          (name, scalarOf v) :: fromConfig config := rfl
      rw [hcons, List.lookup_cons, Yaml.Value.field?, ih]
      by_cases hname : name = field
      · simp [hname]
      · simp [hname, beq_eq_false_iff_ne.mpr (Ne.symm hname)]
    | _ => exact ih

theorem lookup_put (said : Said) (name field : String) (s : Scalar) :
    (said.put name s).lookup field = if field = name then some s else said.lookup field := by
  induction said with
  | nil =>
    rw [Said.put, List.lookup_cons]
    by_cases hfield : field = name
    · simp [hfield]
    · simp [hfield, beq_eq_false_iff_ne.mpr hfield]
  | cons entry said ih =>
    obtain ⟨name', t⟩ := entry
    rw [Said.put]
    by_cases hname : name' = name
    · subst hname
      rw [if_pos rfl, List.lookup_cons, List.lookup_cons]
      by_cases hfield : field = name'
      · simp [hfield]
      · simp [hfield, beq_eq_false_iff_ne.mpr hfield]
    · rw [if_neg hname, List.lookup_cons, List.lookup_cons, ih]
      by_cases hfield : field = name'
      · simp [hfield, hname]
      · simp [beq_eq_false_iff_ne.mpr hfield]

/-- **A layer shows through** where the one above it says nothing. -/
theorem lookup_putLayer (layer : String → Option Scalar) (fields : List String) (said : Said)
    (field : String) :
    (said.putLayer layer fields).lookup field =
      if field ∈ fields then layer field <|> said.lookup field else said.lookup field := by
  -- by induction on the fields, which are put on one by one from the first to the last
  induction fields generalizing said with
  | nil => rfl
  | cons name fields ih =>
    rw [Said.putLayer, List.foldl_cons, ← Said.putLayer, ih]
    cases hname : layer name with
    | none =>
      by_cases hfield : field = name
      · simp [hfield, hname]
      · simp [hfield]
    | some s =>
      dsimp only
      rw [lookup_put]
      by_cases hfield : field = name
      · simp [hfield, hname]
      · simp [hfield]

/-- Overrides say nothing about a field that is not among them. -/
theorem fromOverrides_of_not_mem {field : String} (h : field ∉ os.map Prod.fst) :
    fromOverrides os field = none := by
  have hnone : os.lookup field = none := by
    refine List.lookup_eq_none_iff.mpr fun entry hentry => ?_
    exact bne_iff_ne.mpr fun heq => h (heq ▸ List.mem_map_of_mem hentry)
  rw [fromOverrides, hnone]

/-- **What the layers say together** about a field of settings is what the topmost of them says that
says anything. -/
theorem lookup_layered (env : Environment) (os : Overrides) {field : String}
    (h : field ∈ fieldNames) :
    (layered entries env os).lookup field = chosen entries env os field := by
  rw [layered, lookup_putLayer, lookup_putLayer, if_pos h, lookup_fromConfig, chosen]
  split_ifs with hos
  · rfl
  · rw [fromOverrides_of_not_mem hos]
    rfl

/-- Only what is given for the fields of settings is looked at. -/
theorem check_congr {given given' : String → Option Scalar}
    (h : ∀ field ∈ fieldNames, given field = given' field) :
    check take given = check take given' := by
  simp only [fieldNames, List.forall_mem_cons] at h
  simp only [check, field, h]

theorem check_layered (entries : Header) (env : Environment) (os : Overrides) :
    (check take fun field => (layered entries env os).lookup field) =
      check take (chosen entries env os) :=
  check_congr fun _ hfield => lookup_layered env os hfield

/-! ### Files with entries -/

/-- The entries that the value of the file has for the fields; none if it is no mapping from names
but counts as true. -/
def fields? (v : Yaml.Value) : Option Header :=
  if v.truthy then
    match v with
    | .map entries => if areNames entries then some entries else none
    | _ => none
  else some []

theorem ofLayers_of_fields? (h : fields? v = some entries) (env : Environment) (os : Overrides) :
    ofLayers take v env os = (check take (chosen entries env os)).mapError .invalid := by
  unfold fields? at h
  unfold ofLayers
  by_cases htrue : v.truthy = true
  · -- of the values that count as true only mappings from names have entries
    rw [if_pos htrue] at h ⊢
    split at h
    · next es =>
      split at h
      · next hnames =>
        cases h
        simp only [hnames, if_true, check_layered]
      · cases h
    · cases h
  · rw [if_neg htrue] at h ⊢
    cases h
    rw [← check_layered]
    rfl

theorem ofLayers_of_fields?_eq_none (h : fields? v = none) (env : Environment) (os : Overrides) :
    ofLayers take v env os = .error .notFields ∨
      ofLayers take v env os = .error .notOverridable := by
  unfold fields? at h
  unfold ofLayers
  by_cases htrue : v.truthy = true
  · rw [if_pos htrue] at h ⊢
    dsimp only
    split
    · next entries =>
      have hnames : ¬areNames entries = true := by
        intro hnames
        simp [hnames] at h
      exact .inl (if_neg hnames)
    · split
      · exact .inr rfl
      · exact .inl rfl
  · rw [if_neg htrue] at h
    cases h

/-- Overrides by null say nothing. -/
theorem fromOverrides_of_null (hos : ∀ entry ∈ os, entry.2 = .null) (field : String) :
    fromOverrides os field = none := by
  unfold fromOverrides
  split
  · rfl
  · rfl
  · next v hnull hv =>
    obtain ⟨before, after, rfl, -⟩ := List.lookup_eq_some_iff.mp hv
    exact absurd (hos _ (List.mem_append_right _ List.mem_cons_self)) hnull

/-- Overrides that say nothing put nothing over the settings. -/
theorem load_of_silent {env : Environment} {settings : Settings}
    (hos : ∀ field, fromOverrides os field = none) :
    load readers d env os = .ok settings ↔ load readers d env [] = .ok settings := by
  unfold load
  cases hvalue : configValue readers.yaml d with
  | error cause => exact ⟨nofun, nofun⟩
  | ok v =>
    simp only [Except.bind]
    cases hfields : fields? v with
    | none =>
      -- a value without entries makes no settings, whatever is put over it
      have hlost : ∀ os, ofLayers readers.scalars v env os ≠ .ok settings := by
        intro os
        obtain hlost | hlost := ofLayers_of_fields?_eq_none hfields env os <;> rw [hlost] <;>
          exact nofun
      exact iff_of_false (hlost os) (hlost [])
    | some entries =>
      have hsilent : chosen entries env [] = chosen entries env os := by
        funext field
        rw [chosen, chosen, hos]
        rfl
      rw [ofLayers_of_fields? hfields, ofLayers_of_fields? hfields, hsilent]

/-! ### The file -/

theorem configValue_of_isFolder (h : d.isFolder configPath = true) :
    configValue yaml d = .error (.storage ⟨.isFolder, configPath⟩) := by
  unfold Disk.isFolder at h
  unfold configValue
  split at h
  · next es hfind => rw [hfind]
  · cases h

/-- The place of the file. -/
def configPlace (d : Disk) : List String := d.working ++ ["config.yaml"]

theorem resolve_configPath_iff (hd : d.Rooted) {place : List String} :
    d.resolve configPath = .ok place ↔ place = configPlace d ∧ d.content? place ≠ none := by
  have hparts : configPath.parts = ["config.yaml"] := by decide
  have horigin : d.origin configPath = d.working := by
    rw [Disk.origin, if_neg (by decide)]
  rw [Disk.resolve_eq_ok_iff, hparts, horigin, Disk.foldlM_singleton, Disk.step_eq_ok_iff]
  constructor
  · rintro ⟨-, -, ⟨hup, -⟩ | ⟨-, -, hthere, rfl⟩⟩
    · exact absurd hup (by decide)
    · exact ⟨rfl, hthere⟩
  · rintro ⟨rfl, hthere⟩
    exact ⟨by decide, hd, .inr ⟨by decide, by decide, hthere, rfl⟩⟩

/-- What is found of the file is what stands at its place. -/
theorem content?_configPlace (hd : d.Rooted) :
    d.content? (configPlace d) = (d.find configPath).toOption.map Entry.content := by
  unfold Disk.find
  cases hplace : d.resolve configPath with
  | error fault =>
    -- were something there, the path would lead to it
    by_contra hthere
    have hfound := (resolve_configPath_iff hd).mpr ⟨rfl, hthere⟩
    rw [hplace] at hfound
    cases hfound
  | ok place =>
    obtain ⟨rfl, -⟩ := (resolve_configPath_iff hd).mp hplace
    unfold Disk.content? Entry.content?
    simp only [Except.bind]
    cases d.root.at? (configPlace d) <;> rfl

/-- The value of the file depends on what stands at its place. -/
theorem configValue_eq (hd : d.Rooted) :
    configValue yaml d =
      match d.content? (configPlace d) with
      | none => .ok .null
      | some .folder => .error (.storage ⟨.isFolder, configPath⟩)
      | some (.file bytes) =>
        match Source.textOf bytes with
        | .error _ => .error .notUtf8
        | .ok text => (yaml text).mapError .yaml := by
  rw [content?_configPlace hd, configValue]
  rcases d.find configPath with fault | bytes | es <;> rfl

theorem isFolder_configPath_iff (hd : d.Rooted) :
    d.isFolder configPath = true ↔ d.content? (configPlace d) = some .folder := by
  rw [content?_configPlace hd, Disk.isFolder]
  rcases d.find configPath with fault | bytes | es <;> simp [Except.toOption, Entry.content]

end ContentBlocks.Settings
