import ContentBlocks.Block.Basic
import ContentBlocks.Json.Value

/-!
# Counts over a document

How many blocks of each kind there are.  The histogram lists the kinds in the order of their first
occurrence.
-/

namespace ContentBlocks

/-- Counts over a list of blocks. -/
structure Stats where
  totalBlocks : Nat
  typeCounts : List (String × Nat)
  headingCount : Nat
  codeBlockCount : Nat
  imageCount : Nat
  tableCount : Nat
  deriving DecidableEq

/-- A histogram with one more occurrence of a name. -/
def tally (name : String) : List (String × Nat) → List (String × Nat)
  | [] => [(name, 1)]
  | (n, k) :: rest => if n = name then (n, k + 1) :: rest else (n, k) :: tally name rest

/-- The histogram of the kinds of blocks. -/
def typeCounts (bs : List Block) : List (String × Nat) :=
  bs.foldl (fun counts b => tally b.typeName counts) []

/-- Whether a block has a heading style. -/
def Block.hasHeadingStyle : Block → Bool
  | .text b => b.style.isHeading
  | _ => false

/-- Whether a block is program text. -/
def Block.isCode : Block → Bool
  | .code _ => true
  | _ => false

/-- Whether a block is an image. -/
def Block.isImage : Block → Bool
  | .image _ => true
  | _ => false

/-- Whether a block is a table. -/
def Block.isTable : Block → Bool
  | .table _ => true
  | _ => false

/-- The counts over a list of blocks. -/
def stats (bs : List Block) : Stats where
  totalBlocks := bs.length
  typeCounts := typeCounts bs
  headingCount := bs.countP Block.hasHeadingStyle
  codeBlockCount := bs.countP Block.isCode
  imageCount := bs.countP Block.isImage
  tableCount := bs.countP Block.isTable

/-- Counts as JSON. -/
def Stats.toJson (s : Stats) : Json :=
  .obj
    [("totalBlocks", .int s.totalBlocks),
     ("blockTypeCounts", .obj (s.typeCounts.map fun (name, n) => (name, .int n))),
     ("headingCount", .int s.headingCount), ("codeBlockCount", .int s.codeBlockCount),
     ("imageCount", .int s.imageCount), ("tableCount", .int s.tableCount)]

end ContentBlocks
