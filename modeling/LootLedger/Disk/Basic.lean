import LootLedger.Disk.Path
import LootLedger.Entries

/-!
# A disk

A tree of directories and files, kept as a table from locations to what is there. A location is
the list of names on the way from the root, which is itself a directory. Where a path leads
depends on the tree: every piece but the last must name a directory.

The operations fail the way a file system fails, and a failed operation changes nothing.

## Main definitions

* `Disk`, `Disk.node?`, `Disk.locate`
* `Disk.readText`, `Disk.writeText`, `Disk.makeDirectories`, `Disk.rename`, `Disk.hasPath`
-/

namespace LootLedger

/-- Why a disk refuses an operation. -/
inductive IoError
  | notFound
  | notDirectory
  | isDirectory
  | alreadyExists
  | nameTooLong
  /-- A path holds the character that ends texts for the system. -/
  | endOfTextInPath
  /-- What was read is no UTF-8. -/
  | notText
  /-- Any other refusal, in the words of the system. -/
  | other (message : String)
  deriving DecidableEq, Repr

/-- The wording of a refusal. -/
def IoError.message : IoError → String
  | .notFound => "No such file or directory (os error 2)"
  | .alreadyExists => "File exists (os error 17)"
  | .notDirectory => "Not a directory (os error 20)"
  | .isDirectory => "Is a directory (os error 21)"
  | .nameTooLong => "File name too long (os error 36)"
  | .endOfTextInPath => "file name contained an unexpected NUL byte"
  | .notText => "stream did not contain valid UTF-8"
  | .other message => message

/-- What a file holds. -/
inductive Content
  | text (s : String)
  /-- Bytes that are no UTF-8. -/
  | bytes (bs : List UInt8)
  deriving DecidableEq, Repr

/-- What is at a location. -/
inductive Node
  | file (content : Content)
  | directory
  deriving DecidableEq, Repr

/-- The names on the way from the root. -/
abbrev Location := List String

/-- A tree of directories and files. -/
structure Disk where
  /-- What is at each location but the root. -/
  nodes : List (Location × Node) := []

namespace Disk

/-- What is at a location. -/
def node? (disk : Disk) (location : Location) : Option Node :=
  if location = [] then some .directory else disk.nodes.lookup location

/-! ### Where paths lead -/

/-- The location that a name leads to from a directory. -/
def step (disk : Disk) (here : Location) (name : String) : Except IoError Location :=
  match disk.node? here with
  | none => .error .notFound
  | some (.file _) => .error .notDirectory
  | some .directory =>
    if name = "." then .ok here
    else if name = ".." then .ok here.dropLast
    else if 255 < name.utf8ByteSize then .error .nameTooLong
    else .ok (here ++ [name])

/-- The location that a path leads to from a directory. What is there need not exist. -/
def locate (disk : Disk) (here : Location) (path : String) : Except IoError Location :=
  if path = "" then .error .notFound
  else if path.toList.contains '\x00' then .error .endOfTextInPath
  else (Path.pieces path).foldlM disk.step (if Path.isAbsolute path then [] else here)

/-- What is at a path. A path that ends in a slash asks for a directory. -/
def find (disk : Disk) (here : Location) (path : String) : Except IoError (Location × Node) := do
  let location ← disk.locate here path
  match disk.node? location with
  | none => .error .notFound
  | some (.file content) =>
    if Path.endsInSlash path then .error .notDirectory else return (location, .file content)
  | some .directory => return (location, .directory)

/-! ### Operations -/

/-- There is something at the path. -/
def hasPath (disk : Disk) (here : Location) (path : String) : Bool :=
  (disk.find here path).isOk

/-- There is a directory at the path. -/
def hasDirectory (disk : Disk) (here : Location) (path : String) : Bool :=
  match disk.find here path with
  | .ok (_, .directory) => true
  | _ => false

/-- The text of a file. -/
def readText (disk : Disk) (here : Location) (path : String) : Except IoError String := do
  match ← disk.find here path with
  | (_, .directory) => .error .isDirectory
  | (_, .file (.bytes _)) => .error .notText
  | (_, .file (.text s)) => return s

/-- The disk with a file that holds the text, in place of what the file held before. -/
def writeText (disk : Disk) (here : Location) (path text : String) : Except IoError Disk := do
  let location ← disk.locate here path
  match disk.node? location with
  | some .directory => .error .isDirectory
  | _ =>
    if Path.endsInSlash path then .error .isDirectory
    else return { nodes := put location (.file (.text text)) disk.nodes }

/-- The disk with one more directory. -/
def makeDirectory (disk : Disk) (here : Location) (path : String) : Except IoError Disk := do
  let location ← disk.locate here path
  match disk.node? location with
  | some _ => .error .alreadyExists
  | none => return { nodes := put location .directory disk.nodes }

/-- Makes a directory and, as far as the limit goes, those above it. -/
def makeDirectoriesWithin (disk : Disk) (here : Location) (path : String) :
    Nat → Except IoError Disk
  | 0 => .ok disk
  | limit + 1 =>
    if path = "" then .ok disk
    else
      match disk.makeDirectory here path with
      | .ok disk => .ok disk
      | .error .notFound =>
        match Path.parent? path with
        | none => .error (.other "failed to create whole tree")
        | some above => do
          let disk ← makeDirectoriesWithin disk here above limit
          if disk.hasDirectory here path then return disk else disk.makeDirectory here path
      | .error e => if disk.hasDirectory here path then .ok disk else .error e

/-- The disk with a directory at the path and directories on the way to it. -/
def makeDirectories (disk : Disk) (here : Location) (path : String) : Except IoError Disk :=
  disk.makeDirectoriesWithin here path (path.length + 1)

/-- The disk with a file moved to another path, in place of a file that was there. -/
def rename (disk : Disk) (here : Location) (source target : String) : Except IoError Disk := do
  match ← disk.find here source with
  | (_, .directory) => .error .isDirectory
  | (old, .file content) =>
    let new ← disk.locate here target
    if Path.endsInSlash target then .error .notDirectory
    else
      match disk.node? new with
      | some .directory => .error .isDirectory
      | _ => return { nodes := put new (.file content) (without old disk.nodes) }

end Disk

end LootLedger
