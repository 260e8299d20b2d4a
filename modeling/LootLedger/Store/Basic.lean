import LootLedger.Archive.Document
import LootLedger.Disk.Access
import LootLedger.Json.Printer
import LootLedger.Json.Reader
import LootLedger.Price.Document

/-!
# Stored documents

A document that lives in a file of its own. It is written to a sibling of the file first, which
then takes the place of the file: whoever reads the file sees the old document or the new one and
never a part of one. A file that is not there stands for the empty document; a file that is
there and holds something else is an error, so nothing is ever taken for empty and overwritten.

## Main definitions

* `StoredDocument`: a kind of document, `DocumentStore`: the place of one
* `DocumentStore.load`, `DocumentStore.loadOrEmpty`, `DocumentStore.save`
* `StoreError`, `StoreError.message`
-/

namespace LootLedger

/-! ### Errors -/

/-- Why a document could not be loaded or saved. -/
inductive StoreError
  | noDataDirectory
  | read (path : String) (e : IoError)
  | write (path : String) (e : IoError)
  | makeDirectory (path : String) (e : IoError)
  /-- The file holds no document of the kind. -/
  | malformed
  deriving DecidableEq, Repr

/-- The wording of a store error. -/
def StoreError.message : StoreError → String
  | .noDataDirectory => "failed to determine data directory: no valid home directory found"
  | .read path e => s!"failed to read '{path}': {e.message}"
  | .write path e => s!"failed to write '{path}': {e.message}"
  | .makeDirectory path e => s!"failed to create directory '{path}': {e.message}"
  | .malformed => "JSON error: not a document of the expected kind"

/-! ### Kinds of documents -/

/-- A kind of document that is kept in a file. -/
class StoredDocument (D : Type) where
  /-- The document that stands for a missing file. -/
  empty : D
  ofJson? : Json → Option D
  toJson : D → Json

instance : StoredDocument FilterArchive where
  empty := {}
  ofJson? := FilterArchive.ofJson?
  toJson := FilterArchive.toJson

instance : StoredDocument (PriceHistory Float) where
  empty := {}
  ofJson? := PriceHistory.ofJson?
  toJson := PriceHistory.toJson

/-- The document that a text holds. -/
def StoredDocument.parse? {D : Type} [StoredDocument D] (text : String) : Option D :=
  (Json.parse? text.toList).bind ofJson?

/-- The written form of a document. -/
def StoredDocument.text {D : Type} [StoredDocument D] (document : D) : String :=
  String.ofList (toJson document).pretty

/-! ### Stores -/

/-- The place of a document. -/
structure DocumentStore (D : Type) where
  path : String
  deriving DecidableEq, Repr

namespace DocumentStore

variable {D : Type} [StoredDocument D] {m : Type → Type} [Monad m] [FileAccess m]

/-- The file that a document is written to before it takes the place of the old one. -/
def draftPath (store : DocumentStore D) : String :=
  Path.withExtension store.path "tmp"

/-- The document in the file. -/
def load (store : DocumentStore D) : m (Except StoreError D) := do
  match ← FileAccess.readText store.path with
  | .error e => return .error (.read store.path e)
  | .ok text =>
    match StoredDocument.parse? text with
    | some document => return .ok document
    | none => return .error .malformed

/-- The document in the file, or the empty one if there is no file. -/
def loadOrEmpty (store : DocumentStore D) : m (Except StoreError D) := do
  match ← store.load with
  | .error (.read _ .notFound) => return .ok StoredDocument.empty
  | result => return result

/-- Makes the directory that the file is in. -/
def prepare (store : DocumentStore D) : m (Except StoreError Unit) := do
  match Path.parent? store.path with
  | none => return .ok ()
  | some directory =>
    match ← FileAccess.makeDirectories directory with
    | .error e => return .error (.makeDirectory directory e)
    | .ok () => return .ok ()

/-- Puts a document into the file, in place of the one that was there. -/
def save (store : DocumentStore D) (document : D) : m (Except StoreError Unit) := do
  match ← store.prepare with
  | .error e => return .error e
  | .ok () =>
    match ← FileAccess.writeText store.draftPath (StoredDocument.text document) with
    | .error e => return .error (.write store.draftPath e)
    | .ok () =>
      match ← FileAccess.rename store.draftPath store.path with
      | .error e => return .error (.write store.path e)
      | .ok () => return .ok ()

end DocumentStore

end LootLedger
