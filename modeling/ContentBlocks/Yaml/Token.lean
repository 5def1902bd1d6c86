import ContentBlocks.Yaml.Failure

/-!
# YAML tokens

What a YAML text is made of once its indentation has been turned into tokens of its own: the starts
and ends of blocks, the indicators, and the scalars.
-/

namespace ContentBlocks.Yaml

/-- What is written for a scalar: a text, or numbers of which some are no characters but halves of a
pair, which only an escape can name. -/
inductive Wording where
  | text (s : String)
  | broken (numbers : List Nat)
  deriving Inhabited

/-- The wording that numbers are written for. -/
def Wording.ofNumbers (numbers : List Nat) : Wording :=
  if numbers.all fun n => decide n.isValidChar then .text (.ofList (numbers.map Char.ofNat))
  else .broken numbers

/-- A directive before a document. -/
inductive Directive where
  | version (major : Nat)
  | tagHandle (handle start : String)
  | other

/-- A piece of a YAML text. -/
inductive Token where
  | directive (d : Directive)
  | documentStart
  | documentEnd
  | textEnd
  | sequenceStart
  | mappingStart
  | blockEnd
  | openBracket
  | closeBracket
  | openBrace
  | closeBrace
  | dash
  | comma
  | key
  | value
  | alias (name : String)
  | anchor (name : String)
  | tag (handle : Option String) (suffix : String)
  | scalar (wording : Wording) (plain : Bool)
  /-- The place from which on the text cannot be read. -/
  | fault (failure : Failure)

end ContentBlocks.Yaml
