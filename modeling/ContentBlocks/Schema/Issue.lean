/-!
# Issues found while checking a value

A value that should have a certain shape is checked to its end, and every misfit is reported with
the place it was found at.  `Checked` is a result that carries either a value or those issues;
`both` joins two of them and keeps the issues of each in order.
-/

namespace ContentBlocks.Schema

/-- One step from a value into one of its parts. -/
inductive Step where
  | field (name : String)
  | item (index : Nat)
  deriving DecidableEq

/-- What is wrong with a value. -/
inductive Problem where
  | missing
  | notText
  | notUnicode
  | patternMismatch
  | notListed
  | notWhole
  | unreadableWhole
  | longWhole
  | fractional
  | notFinite
  | tooSmall
  | tooLarge
  | notTruth
  | unreadableTruth
  | notList
  | notObject
  | notTagged
  | unknownTag
  | noTag
  deriving DecidableEq

/-- The name under which reports show a problem. -/
def Problem.label : Problem → String
  | .missing => "missing"
  | .notText => "string_type"
  | .notUnicode => "string_unicode"
  | .patternMismatch => "string_pattern_mismatch"
  | .notListed => "literal_error"
  | .notWhole => "int_type"
  | .unreadableWhole => "int_parsing"
  | .longWhole => "int_parsing_size"
  | .fractional => "int_from_float"
  | .notFinite => "finite_number"
  | .tooSmall => "greater_than_equal"
  | .tooLarge => "less_than_equal"
  | .notTruth => "bool_type"
  | .unreadableTruth => "bool_parsing"
  | .notList => "list_type"
  | .notObject => "model_type"
  | .notTagged => "model_attributes_type"
  | .unknownTag => "union_tag_invalid"
  | .noTag => "union_tag_not_found"

/-- A problem and the way to it from the whole value. -/
structure Issue where
  path : List Step
  problem : Problem
  deriving DecidableEq

/-- An issue seen from one step further out. -/
def Issue.under (step : Step) (i : Issue) : Issue := { i with path := step :: i.path }

/-- A value, or all that is wrong with what should have been one. -/
abbrev Checked (α : Type) := Except (List Issue) α

namespace Checked

variable {α β : Type}

/-- The failure with a single problem at the value itself. -/
def fail (p : Problem) : Checked α := .error [⟨[], p⟩]

/-- A check seen from one step further out. -/
def under (step : Step) : Checked α → Checked α
  | .ok a => .ok a
  | .error is => .error (is.map (Issue.under step))

/-- Two checks side by side. -/
def both (f : Checked (α → β)) (a : Checked α) : Checked β :=
  match f, a with
  | .ok f, .ok a => .ok (f a)
  | .ok _, .error js => .error js
  | .error is, .ok _ => .error is
  | .error is, .error js => .error (is ++ js)

/-- Checks of the items of a list, counted from `start`. -/
def list (check : β → Checked α) : Nat → List β → Checked (List α)
  | _, [] => .ok []
  | start, b :: bs =>
    both (both (.ok List.cons) (under (.item start) (check b))) (list check (start + 1) bs)

@[simp] theorem both_ok (f : α → β) (a : α) : both (.ok f) (.ok a) = .ok (f a) := rfl

@[simp] theorem under_ok (step : Step) (a : α) : under step (.ok a) = .ok a := rfl

end Checked

end ContentBlocks.Schema
