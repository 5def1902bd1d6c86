import ContentBlocks.Storage.Path
import ContentBlocks.Text.Quoted

/-!
# Files and folders

What a program finds and leaves in storage: a tree of folders with files in them, and the folder
that relative paths start from.  A step upward leads to the folder around, so a path is followed
part by part.

## Main definitions

* `Disk.resolve`: the place that a path leads to, or the fault that is met on the way.
* `Storing`: a computation over a disk.  What has been written before a failure stays written.
-/

namespace ContentBlocks.Storage

/-- A file or a folder. -/
inductive Entry where
  | file (bytes : List UInt8)
  | folder (entries : List (String × Entry))

/-- Why a path cannot be used. -/
inductive Fault where
  | missing
  | taken
  | notFolder
  | isFolder
  | longName
  /-- The path holds the character that ends texts for the system. -/
  | zeroByte
  deriving DecidableEq

/-- A fault and the path it was met with. -/
structure Trouble where
  fault : Fault
  path : Path
  deriving DecidableEq

/-- The number and the words of a fault. -/
def Fault.message : Fault → String
  | .missing => "[Errno 2] No such file or directory"
  | .taken => "[Errno 17] File exists"
  | .notFolder => "[Errno 20] Not a directory"
  | .isFolder => "[Errno 21] Is a directory"
  | .longName => "[Errno 36] File name too long"
  | .zeroByte => "embedded null byte"

/-- What a message says about a fault. -/
def Trouble.message (t : Trouble) : String :=
  if t.fault = .zeroByte then t.fault.message
  else t.fault.message ++ ": " ++ Text.quoted t.path.toText

namespace Entry

/-- The entries of a folder. -/
def children : Entry → List (String × Entry)
  | .file _ => []
  | .folder es => es

/-- Entries with one of them set. -/
def set (name : String) (e : Entry) : List (String × Entry) → List (String × Entry)
  | [] => [(name, e)]
  | (n, old) :: rest => if n = name then (n, e) :: rest else (n, old) :: set name e rest

/-- The entry at a place below. -/
def at? : List String → Entry → Option Entry
  | [], e => some e
  | name :: rest, e => (e.children.lookup name).bind (at? rest)

/-- A tree with an entry put to a place below, in folders as needed. -/
def putAt : Entry → List String → Entry → Entry
  | _, [], new => new
  | e, name :: rest, new =>
    .folder (set name (putAt ((e.children.lookup name).getD (.folder [])) rest new) e.children)

mutual

/-- The places of all entries below, in no particular order. -/
def places : Entry → List (List String)
  | .file _ => []
  | .folder es => placesIn es

/-- The places of entries and of all below them. -/
def placesIn : List (String × Entry) → List (List String)
  | [] => []
  | (name, e) :: rest => ([name] :: (places e).map (name :: ·)) ++ placesIn rest

end

/-- The bytes of a file. -/
def bytes? : Entry → Option (List UInt8)
  | .file bs => some bs
  | .folder _ => none

/-- All files below, each with its place. -/
def files (e : Entry) : List (List String × List UInt8) :=
  e.places.filterMap fun place => ((e.at? place).bind bytes?).map (place, ·)

end Entry

/-- The whole storage and the place of the working folder. -/
structure Disk where
  root : Entry
  working : List String

namespace Disk

/-- A disk whose working folder holds some files and folders, given by their paths. -/
def ofFiles (working : List String) (files : List (Path × List UInt8)) (folders : List Path) :
    Disk :=
  let root := (Entry.folder []).putAt working (.folder [])
  let root := files.foldl (fun e (p, bs) => e.putAt (working ++ p.parts) (.file bs)) root
  let root := folders.foldl (fun e p =>
    let place := working ++ p.parts
    if (e.at? place).isSome then e else e.putAt place (.folder [])) root
  ⟨root, working⟩

/-- The files in and below the working folder, each with its path. -/
def files (d : Disk) : List (Path × List UInt8) :=
  match d.root.at? d.working with
  | some e => e.files.map fun (place, bs) => (⟨0, place⟩, bs)
  | none => []

/-- The longest name of an entry, in bytes. -/
def maxNameSize : Nat := 255

/-- The place one part further. -/
def step (d : Disk) (place : List String) (part : String) : Except Fault (List String) :=
  match d.root.at? place with
  | some (.folder es) =>
    if part = ".." then .ok place.dropLast
    else if maxNameSize < part.utf8ByteSize then .error .longName
    else if (es.lookup part).isSome then .ok (place ++ [part])
    else .error .missing
  | some (.file _) => .error .notFolder
  | none => .error .missing

/-- The place that a path leads to. -/
def resolve (d : Disk) (p : Path) : Except Fault (List String) :=
  if p.hasZeroByte then .error .zeroByte
  else p.parts.foldlM d.step (if p.isAbsolute then [] else d.working)

/-- The entry that a path leads to. -/
def find (d : Disk) (p : Path) : Except Fault Entry :=
  (d.resolve p).bind fun place =>
    match d.root.at? place with
    | some e => .ok e
    | none => .error .missing

/-- Whether a path leads to a folder. -/
def isFolder (d : Disk) (p : Path) : Bool :=
  match d.find p with
  | .ok (.folder _) => true
  | _ => false

/-- The place that a path names for a new entry, which is in a folder that is there. -/
def newPlace (d : Disk) (p : Path) : Except Fault (List String) :=
  match d.resolve p with
  | .ok place => .ok place
  | .error .missing =>
    if p.parts.isEmpty || p.name = ".." then .error .missing
    else (d.resolve p.parent).map (· ++ [p.name])
  | .error f => .error f

end Disk

/-- An answer about a path, which the system does not give if the path is too long for it. -/
def Path.ifTaken {α : Type} (p : Path) (answer : Except Fault α) : Except Fault α :=
  if p.isTooLong then .error .longName else answer

/-- A computation over a disk, which it may change and which may refuse a path. -/
abbrev Storing := ExceptT Trouble (StateM Disk)

namespace Storing

/-- A result about the present disk, a fault of which is met with a path. -/
def ask {α : Type} (p : Path) (question : Disk → Except Fault α) : Storing α := do
  match p.ifTaken (question (← get)) with
  | .ok a => return a
  | .error f => throw ⟨f, p⟩

/-- Makes one folder, where nothing may be yet. -/
def makeFolder (p : Path) : Storing PUnit := do
  let place ← ask p fun d => d.newPlace p
  if ((← get).root.at? place).isSome then throw ⟨.taken, p⟩
  else modify fun d => { d with root := d.root.putAt place (.folder []) }

/-- Makes a folder unless it is there, with the folders around it.  The first argument bounds the
number of steps. -/
def makeFoldersAux : Nat → Path → Storing PUnit
  | 0, p => throw ⟨.missing, p⟩
  | fuel + 1, p => do
    let unlessThere (t : Trouble) : Storing PUnit := do
      if t.fault ∉ [.missing, .longName] && (← get).isFolder p then pure ⟨⟩ else throw t
    tryCatch (makeFolder p) fun t => do
      if t.fault = .missing && !p.parts.isEmpty then
        makeFoldersAux fuel p.parent
        tryCatch (makeFolder p) unlessThere
      else unlessThere t

/-- Makes a folder unless it is there, with the folders around it. -/
def makeFolders (p : Path) : Storing PUnit := makeFoldersAux (p.parts.length + 1) p

/-- Writes a file, in place of one that is there. -/
def write (p : Path) (bytes : List UInt8) : Storing PUnit := do
  let place ← ask p fun d => d.newPlace p
  match (← get).root.at? place with
  | some (.folder _) => throw ⟨.isFolder, p⟩
  | _ => modify fun d => { d with root := d.root.putAt place (.file bytes) }

end Storing

end ContentBlocks.Storage
