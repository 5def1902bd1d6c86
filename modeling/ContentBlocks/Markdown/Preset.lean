/-!
# Dialects of Markdown

A dialect says which constructs are read and how deeply they may be nested.  The plain dialect reads
paragraphs and nothing else.
-/

namespace ContentBlocks.Markdown

/-- A dialect. -/
structure Preset where
  /-- How deep blocks, and links in a text, may be nested. -/
  maxNesting : Nat
  /-- Whether anything but paragraphs is read. -/
  markup : Bool
  /-- Whether HTML is read. -/
  html : Bool
  /-- Whether tables are read. -/
  tables : Bool
  /-- Whether deletions are read. -/
  strikes : Bool
  deriving DecidableEq

namespace Preset

/-- Paragraphs only. -/
def zero : Preset := ⟨20, false, false, false, false⟩

/-- The standard constructs. -/
def commonmark : Preset := ⟨20, true, true, false, false⟩

/-- Everything but HTML. -/
def full : Preset := ⟨100, true, false, true, true⟩

/-- The standard constructs, tables and deletions. -/
def gfmLike : Preset := ⟨20, true, true, true, true⟩

/-- The dialects by name. -/
def named : List (String × Preset) :=
  [("commonmark", commonmark), ("default", full), ("js-default", full), ("zero", zero),
   ("gfm-like", gfmLike)]

/-- The dialect of a name. -/
def ofName? (name : String) : Option Preset := named.lookup name

end Preset

end ContentBlocks.Markdown
