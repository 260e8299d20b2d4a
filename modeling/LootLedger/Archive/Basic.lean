import LootLedger.Calendar.Instant
import LootLedger.Selection

/-!
# The filter archive

Every filter document that was ever saved, with its profile and the time it was saved. The
document in effect at an instant is the newest one saved strictly before it; of two saved at the
same instant, the later save.

## Main definitions

* `SavedFilter`, `FilterArchive`
* `FilterArchive.save`, `FilterArchive.latestBefore?`
* `FilterArchive.versionAt`, `FilterArchive.textAt`: the document in effect, empty if there is
  none
-/

namespace LootLedger

/-- A saved filter document. -/
structure SavedFilter where
  /-- The character or league setup that the document belongs to. -/
  profile : String
  savedAt : Instant
  text : String
  deriving DecidableEq

/-- The version key of a saved document. -/
def SavedFilter.version (saved : SavedFilter) : String :=
  saved.savedAt.versionKey

/-- Saved documents in the order in which they were saved. -/
structure FilterArchive where
  saved : List SavedFilter := []
  deriving DecidableEq

namespace FilterArchive

/-- The archive with one more document. -/
def save (archive : FilterArchive) (document : SavedFilter) : FilterArchive :=
  { saved := archive.saved ++ [document] }

/-- The documents of a profile saved strictly before an instant. -/
def savedBefore (archive : FilterArchive) (before : Instant) (profile : String) :
    List SavedFilter :=
  archive.saved.filter fun s => s.profile = profile && s.savedAt < before

/-- The newest document of a profile saved strictly before an instant. -/
def latestBefore? (archive : FilterArchive) (before : Instant) (profile : String) :
    Option SavedFilter :=
  lastGreatest (fun s => s.savedAt.ordinal) (archive.savedBefore before profile)

/-- The version in effect at an instant, empty if there is none. -/
def versionAt (archive : FilterArchive) (at_ : Instant) (profile : String) : String :=
  ((archive.latestBefore? at_ profile).map SavedFilter.version).getD ""

/-- The text in effect at an instant, empty if there is none. -/
def textAt (archive : FilterArchive) (at_ : Instant) (profile : String) : String :=
  ((archive.latestBefore? at_ profile).map SavedFilter.text).getD ""

end FilterArchive

end LootLedger
