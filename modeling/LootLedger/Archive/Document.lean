import LootLedger.Archive.Basic
import LootLedger.Json.Decode

/-!
# The archive as a document

How the filter archive is written in JSON: an object with the list of saved documents, each with
its profile, the timestamp of its save and its text.

## Main definitions

* `FilterArchive.ofJson?`, `FilterArchive.toJson`
-/

namespace LootLedger

namespace SavedFilter

/-- The fields of a saved document. -/
inductive Field
  | profile
  | savedAt
  | text
  deriving DecidableEq, Repr

/-- Saved documents as records. -/
def schema : Json.Schema Field :=
  { order := [.profile, .savedAt, .text]
    ofName := fun s =>
      if s = "profile" then some .profile
      else if s = "saved_at" then some .savedAt
      else if s = "text" then some .text
      else none }

/-- An instant, as its timestamp. -/
def instant? (j : Json) : Option Instant := do
  Instant.parse? (← j.text?).toList

/-- A saved document. -/
def ofJson? (j : Json) : Option SavedFilter := do
  let fields ← schema.fields? j
  return {
    profile := ← Json.required? fields .profile Json.text?
    savedAt := ← Json.required? fields .savedAt instant?
    text := ← Json.required? fields .text Json.text? }

/-- The written form of a saved document. -/
def toJson (saved : SavedFilter) : Json :=
  .object [
    ("profile", .text saved.profile),
    ("saved_at", .text (String.ofList saved.savedAt.text)),
    ("text", .text saved.text)]

end SavedFilter

namespace FilterArchive

/-- Archives as records with a single field. -/
def schema : Json.Schema Unit :=
  { order := [()], ofName := fun s => if s = "filters" then some () else none }

/-- The archive that a document holds. -/
def ofJson? (j : Json) : Option FilterArchive := do
  let fields ← schema.fields? j
  return { saved := ← Json.defaulted? fields () (Json.list? SavedFilter.ofJson?) [] }

/-- The written form of an archive. -/
def toJson (archive : FilterArchive) : Json :=
  .object [("filters", .array (archive.saved.map SavedFilter.toJson))]

end FilterArchive

end LootLedger
