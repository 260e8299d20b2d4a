import LootLedger.Disk.Basic

/-!
# Access to files

What a program may do with files. Programs are written against these operations alone, so the
same program works on the disk of a machine and on a `Disk`, about which statements can be
proved.

## Main definitions

* `FileAccess`: the operations
* `Disk.Session`: a disk and the directory that paths are seen from
-/

namespace LootLedger

/-- Operations on files. -/
class FileAccess (m : Type → Type) where
  readText (path : String) : m (Except IoError String)
  writeText (path text : String) : m (Except IoError Unit)
  makeDirectories (path : String) : m (Except IoError Unit)
  rename (source target : String) : m (Except IoError Unit)
  hasPath (path : String) : m Bool

namespace Disk

/-- A disk and the directory that paths are seen from. -/
structure Session where
  disk : Disk := {}
  here : Location := []

namespace Session

/-- What came of a change: the session after it, or the unchanged session and the refusal. -/
def after (session : Session) : Except IoError Disk → Except IoError Unit × Session
  | .ok disk => (.ok (), { session with disk })
  | .error e => (.error e, session)

instance : FileAccess (StateM Session) where
  readText path := fun s => (s.disk.readText s.here path, s)
  writeText path text := fun s => s.after (s.disk.writeText s.here path text)
  makeDirectories path := fun s => s.after (s.disk.makeDirectories s.here path)
  rename source target := fun s => s.after (s.disk.rename s.here source target)
  hasPath path := fun s => (s.disk.hasPath s.here path, s)

end Session

end Disk

end LootLedger
