import ContentBlocks.Storage.Disk

/-!
# Finding Markdown

What a path offers for conversion: itself if it is a file with a suffix of Markdown, and if it is a
folder everything below it with such a name, in the order of the parts of the paths.  To find that
out the path and all folders below it are asked for, which the system refuses if one of these paths
is too long.

## Main definitions

* `Disk.discover`: what a path offers.
* `Disk.sources`: the same, unless a path is refused on the way.
-/

namespace ContentBlocks.Storage

/-- The suffixes of Markdown. -/
def markdownSuffixes : List String := [".md", ".mdx"]

/-- Whether a path is named like Markdown. -/
def Path.isMarkdown (p : Path) : Bool := markdownSuffixes.contains p.suffix

/-- The paths that a path offers for conversion; none if it leads nowhere. -/
def Disk.discover (d : Disk) (p : Path) : Except Trouble (List Path) :=
  match d.find p with
  | .ok (.file _) => .ok (if p.isMarkdown then [p] else [])
  | .ok (.folder es) =>
    let places := (Entry.folder es).places.filter fun place => (Path.mk 0 place).isMarkdown
    .ok ((places.mergeSort Path.precedes).map fun place => p.join ⟨0, place⟩)
  | .error .longName => .error ⟨.longName, p⟩
  | .error _ => .ok []

/-- Whether a folder stands at a place below. -/
def Entry.isFolderAt (e : Entry) (place : List String) : Bool :=
  match e.at? place with
  | some (.folder _) => true
  | _ => false

/-- The paths that the system is asked for to find what a path offers. -/
def Disk.askedFor (d : Disk) (p : Path) : List Path :=
  match d.find p with
  | .ok e => p :: (e.places.filter e.isFolderAt).map fun place => p.join ⟨0, place⟩
  | .error _ => [p]

/-- The paths that a path offers for conversion, if the system takes all those it is asked for. -/
def Disk.sources (d : Disk) (p : Path) : Except Trouble (List Path) :=
  match (d.askedFor p).find? Path.isTooLong with
  | some q => .error ⟨.longName, q⟩
  | none => d.discover p

end ContentBlocks.Storage
