import ContentBlocks.Conversion.Notice
import ContentBlocks.Markdown.Reader

/-!
# From Markdown to blocks

The conversion of a whole text, whose nodes a reader of Markdown gives, `parse`.  A text without
anything but blanks has no blocks, in any dialect, even an unknown one.  Of what goes wrong people
are told only that the conversion failed; the cause stays with the error.
-/

namespace ContentBlocks

namespace Conversion

/-- Why a text cannot be converted. -/
inductive Error where
  | unreadable (cause : Markdown.Failure)
  | unconvertible (cause : Failure)
  deriving DecidableEq

/-- What people are told. -/
def Error.message (_ : Error) : String := "Markdown conversion failed"

end Conversion

open Conversion

variable (parse : String → String → Except Markdown.Failure (List Node))

/-- The blocks of a text in a dialect, and the number of keys drawn, from a first key on. -/
def convertText (preset text : String) (source : Key.Source) (start : Nat) :
    Except Conversion.Error (List Block × Nat) :=
  if Text.allBlank text.toList then .ok ([], start)
  else match parse preset text with
    | .error cause => .error (.unreadable cause)
    | .ok nodes =>
      match (convert nodes).run source start with
      | .error cause => .error (.unconvertible cause)
      | .ok result => .ok result

/-- The remarks made while a text is converted. -/
def textNotices (preset text : String) (source : Key.Source) : List Notice :=
  if Text.allBlank text.toList then []
  else match parse preset text with
    | .error _ => []
    | .ok nodes => Notice.ofDocument source nodes

end ContentBlocks
