import ContentBlocks.Json.Value
import Mathlib.Data.List.Nodup

/-!
# Fields and objects

There are two ways to make an object of fields, some of which have no value: to leave these out, or
to set them to null. In both every field that has a value can be found, and one that has none is not
mistaken for another.

## Main definitions

* `Json.KeepsFields`: a way to make objects in which every field with a value can be looked up
* `Json.Faithful`: a way to make objects in which fields without a value are told apart too

## Main results

* `Json.keepsFields_ofFields`, `Json.keepsFields_ofAllFields`: the two ways, for fields with a value
* `Json.faithful_ofFields`: fields without a value left out, for all fields
-/

namespace ContentBlocks

namespace Json

/-- A way to make objects in which every field with a value can be looked up. -/
def KeepsFields (object : List (String × Option Json) → Json) : Prop :=
  ∀ fields, ∃ kept, object fields = .obj kept ∧
    ∀ name v, fields.lookup name = some (some v) → kept.lookup name = some v

/-- Every field of `fields` can be found in `kept`, one without a value as nothing or as null. -/
def Keeps (kept : List (String × Json)) (fields : List (String × Option Json)) : Prop :=
  ∀ name, kept.lookup name = (fields.lookup name).join ∨
    kept.lookup name = (fields.lookup name).map (·.getD .null)

/-- A way to make objects in which every field can be found again. -/
def Faithful (object : List (String × Option Json) → Json) : Prop :=
  ∀ fields, (fields.map Prod.fst).Nodup → ∃ kept, object fields = .obj kept ∧ Keeps kept fields

variable {name : String} {v : Json} {fields : List (String × Option Json)}

/-! ### Fields without a value left out -/

theorem lookup_filterMap (h : fields.lookup name = some (some v)) :
    (fields.filterMap fun (name, v) => v.map (name, ·)).lookup name = some v := by
  induction fields with
  | nil => cases h
  | cons field fields ih =>
    obtain ⟨name', w⟩ := field
    rw [List.lookup_cons] at h
    cases hname : name == name' with
    | true =>
      rw [hname] at h
      obtain rfl : w = some v := Option.some.inj h
      simp [List.lookup_cons, hname]
    | false =>
      rw [hname] at h
      cases w with
      | none =>
        -- an absent field is dropped, and `name` was not looked up there
        simpa using ih h
      | some w => simpa [List.lookup_cons, hname] using ih h

theorem lookup_eq_none_of_not_mem {α : Type} {fields : List (String × α)}
    (h : name ∉ fields.map Prod.fst) : fields.lookup name = none :=
  List.lookup_eq_none_iff.mpr fun _ hfield =>
    bne_iff_ne.mpr fun heq => h (heq ▸ List.mem_map_of_mem hfield)

/-- A field that is left out is not found, for there is no other field of its name. -/
theorem lookup_filterMap_eq (h : (fields.map Prod.fst).Nodup) :
    (fields.filterMap fun (name, v) => v.map (name, ·)).lookup name =
      (fields.lookup name).join := by
  induction fields with
  | nil => rfl
  | cons field fields ih =>
    obtain ⟨name', v⟩ := field
    rw [List.map_cons, List.nodup_cons] at h
    cases v with
    | some v =>
      simp only [List.filterMap_cons, Option.map_some, List.lookup_cons]
      cases name == name' with
      | true => rfl
      | false => exact ih h.2
    | none =>
      simp only [List.filterMap_cons, Option.map_none, List.lookup_cons, ih h.2]
      cases hname : name == name' with
      | false => rfl
      | true =>
        obtain rfl := eq_of_beq hname
        rw [lookup_eq_none_of_not_mem h.1]
        rfl

/-! ### Fields without a value set to null -/

theorem lookup_map_eq :
    (fields.map fun (name, v) => (name, v.getD .null)).lookup name =
      (fields.lookup name).map (·.getD .null) := by
  induction fields with
  | nil => rfl
  | cons field fields ih =>
    obtain ⟨name', v⟩ := field
    rw [List.map_cons, List.lookup_cons, List.lookup_cons, ih]
    cases name == name' <;> rfl

theorem lookup_map_getD (h : fields.lookup name = some (some v)) :
    (fields.map fun (name, v) => (name, v.getD .null)).lookup name = some v := by
  rw [lookup_map_eq, h]
  rfl

/-! ### The two ways -/

theorem keepsFields_ofFields : KeepsFields ofFields :=
  fun _ => ⟨_, rfl, fun _ _ => lookup_filterMap⟩

theorem keepsFields_ofAllFields : KeepsFields ofAllFields :=
  fun _ => ⟨_, rfl, fun _ _ => lookup_map_getD⟩

theorem faithful_ofFields : Faithful ofFields :=
  fun _ h => ⟨_, rfl, fun _ => .inl (lookup_filterMap_eq h)⟩

end Json

end ContentBlocks
