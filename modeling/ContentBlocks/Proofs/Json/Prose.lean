import ContentBlocks.Json.Prose

/-!
# Values that cannot be written in running text

A value has no form in running text if, at some depth, a whole number stands in it that is too long
to be written, and for no other reason.

## Main definitions

* `Json.numbers`: the whole numbers in a value, in the order of its text

## Main results

* `Json.prose?_eq_none_iff`: the values that have no form in running text
-/

namespace ContentBlocks

namespace Json

mutual

/-- The whole numbers in a value, in the order of its text. -/
def numbers : Json → List Int
  | .int n => [n]
  | .arr vs => numbersOfItems vs
  | .obj fields => numbersOfFields fields
  | _ => []

/-- The whole numbers in the items of an array. -/
def numbersOfItems : List Json → List Int
  | [] => []
  | v :: vs => v.numbers ++ numbersOfItems vs

/-- The whole numbers in the fields of an object. -/
def numbersOfFields : List (String × Json) → List Int
  | [] => []
  | (_, v) :: fields => v.numbers ++ numbersOfFields fields

end

/-- A whole number has more decimal digits than are written. -/
def TooLong (n : Int) : Prop := Nat.pow 10 Text.maxDigits ≤ n.natAbs

theorem decimal?_eq_none_iff {n : Int} : Text.decimal? n = none ↔ TooLong n := by
  simp only [Text.decimal?, Text.isWritable, TooLong, decide_eq_true_eq, ite_eq_right_iff,
    reduceCtorEq, imp_false, Nat.not_lt]

mutual

theorem proseInner?_eq_none_iff : (v : Json) → v.proseInner? = none ↔ ∃ n ∈ v.numbers, TooLong n
  | .null => by simp [proseInner?, numbers]
  | .bool b => by cases b <;> simp [proseInner?, numbers]
  | .int n => by simp [proseInner?, numbers, decimal?_eq_none_iff]
  | .float x => by simp [proseInner?, numbers]
  | .str s => by simp [proseInner?, numbers]
  | .arr vs => by
    rw [proseInner?, numbers, Option.map_eq_none_iff]
    exact proseItems?_eq_none_iff vs
  | .obj fields => by
    rw [proseInner?, numbers, Option.map_eq_none_iff]
    exact proseFields?_eq_none_iff fields

theorem proseItems?_eq_none_iff :
    (vs : List Json) → proseItems? vs = none ↔ ∃ n ∈ numbersOfItems vs, TooLong n
  | [] => by simp [proseItems?, numbersOfItems]
  | v :: vs => by
    -- what is too long stands in the first item or in a later one
    have hfirst := proseInner?_eq_none_iff v
    have hrest := proseItems?_eq_none_iff vs
    simp only [numbersOfItems, List.mem_append, or_and_right, exists_or, ← hfirst, ← hrest]
    cases hv : v.proseInner? <;> cases hvs : proseItems? vs <;> simp [proseItems?, hv, hvs]

theorem proseFields?_eq_none_iff :
    (fields : List (String × Json)) →
      proseFields? fields = none ↔ ∃ n ∈ numbersOfFields fields, TooLong n
  | [] => by simp [proseFields?, numbersOfFields]
  | (name, v) :: fields => by
    have hfirst := proseInner?_eq_none_iff v
    have hrest := proseFields?_eq_none_iff fields
    simp only [numbersOfFields, List.mem_append, or_and_right, exists_or, ← hfirst, ← hrest]
    cases hv : v.proseInner? <;> cases hfields : proseFields? fields <;>
      simp [proseFields?, hv, hfields]

end

/-- **The values that have no form in running text** are those in which a whole number is too
long. -/
theorem prose?_eq_none_iff {v : Json} : v.prose? = none ↔ ∃ n ∈ v.numbers, TooLong n := by
  cases v with
  | str s => simp [prose?, numbers]
  | _ => exact proseInner?_eq_none_iff _

end Json

end ContentBlocks
