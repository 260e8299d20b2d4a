import LootLedger.Archive.Basic
import LootLedger.Entries
import LootLedger.Filter.Document
import LootLedger.Filter.Verdict

/-!
# Compiled filters

A saved document never changes, so its compiled form is kept under its profile and version and
used again. A version is a calendar second: of two documents of one profile that were saved
within one second, the cache keeps the one that it compiled first.

## Main definitions

* `CompiledFilter`, `CompiledFilter.judge`
* `FilterCache`, `FilterCache.compiledAt`
-/

namespace LootLedger

/-- A compiled document, with the level of the area that items are matched for, once it is
known. -/
structure CompiledFilter where
  /-- The version key, empty if no document was saved. -/
  version : String
  document : Filter.Document
  areaLevel : Option Nat := none
  deriving DecidableEq

namespace CompiledFilter

/-- The compiled form of a text. -/
def ofText (version text : String) : CompiledFilter :=
  { version, document := Filter.parse text.toList }

/-- The filter for areas of a level. -/
def withAreaLevel (f : CompiledFilter) (level : Nat) : CompiledFilter :=
  { f with areaLevel := some level }

/-- What the filter decides about an item. -/
def judge (f : CompiledFilter) (item : Item) : Except Filter.Problem (Option Filter.Verdict) :=
  match f.areaLevel with
  | some level => .ok (Filter.verdict? f.document.rules level item)
  | none => .error .areaLevelNotSet

end CompiledFilter

/-- Compiled documents by profile and version. -/
structure FilterCache where
  entries : List ((String × String) × Filter.Document) := []

namespace FilterCache

/-- The compiled document kept for a profile and a version. -/
def get? (cache : FilterCache) (profile version : String) : Option Filter.Document :=
  cache.entries.lookup (profile, version)

/-- The cache with a compiled document. -/
def keep (cache : FilterCache) (profile version : String) (document : Filter.Document) :
    FilterCache :=
  { entries := put (profile, version) document cache.entries }

/-- The number of kept documents. -/
def size (cache : FilterCache) : Nat :=
  cache.entries.length

/-- The filter in effect for a profile at an instant, and the cache after it was asked for. A
document that is kept is not compiled again. -/
def compiledAt (cache : FilterCache) (archive : FilterArchive) (at_ : Instant)
    (profile : String) : CompiledFilter × FilterCache :=
  let version := archive.versionAt at_ profile
  match cache.get? profile version with
  | some document => ({ version, document }, cache)
  | none =>
    let compiled := CompiledFilter.ofText version (archive.textAt at_ profile)
    (compiled, cache.keep profile version compiled.document)

end FilterCache

end LootLedger
