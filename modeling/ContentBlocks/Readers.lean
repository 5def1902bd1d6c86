import ContentBlocks.Markdown.Reader
import ContentBlocks.Schema.Scalar
import ContentBlocks.Yaml.Reader

/-!
# Readers

What others wrote and a run relies on: a reader of YAML for headers and settings, a reader of
Markdown, and the coercion of scalars in settings.  Runs and commands are given them, and what holds
of a run holds with any readers.  `Readers.standard` are those of the program.
-/

namespace ContentBlocks

/-- What YAML, Markdown and the scalars of settings are read by. -/
structure Readers where
  yaml : String → Except Yaml.Failure Yaml.Value
  /-- The nodes at the top of a text, in a dialect given by its name. -/
  markdown : String → String → Except Markdown.Failure (List Node)
  scalars : Schema.Coercion

/-- The readers of the program. -/
def Readers.standard : Readers := ⟨Yaml.read, Markdown.read, .lax⟩

end ContentBlocks
