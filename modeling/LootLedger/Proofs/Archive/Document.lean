import LootLedger.Proofs.Calendar.Timestamp
import LootLedger.Proofs.Json.Record
import LootLedger.Proofs.Json.RoundTrip
import LootLedger.Proofs.Outcome
import LootLedger.Store.Basic

/-!
# A stored archive is read back

The archive is kept as a text. Three things are written into it and have to come out of it again:
the tree of the document, whatever its strings are made of; the timestamps, which are strings of the
tree; and the records, whose members are looked up by name. Nothing is lost on any of these levels,
so the archive that is read is the one that was written, with the same documents in the same order.

## Main results

* `SavedFilter.ofJson?_toJson`, `FilterArchive.ofJson?_toJson`: records are read back
* `FilterArchive.parse?_stored`: so is the text of an archive
-/

namespace LootLedger

namespace SavedFilter

/-- A saved document has no doubles at all. -/
theorem isPlain_toJson {P : Float → Prop} (saved : SavedFilter) : saved.toJson.IsPlain P := by
  refine .object fun m hm => ?_
  simp only [List.mem_cons, List.not_mem_nil, or_false] at hm
  rcases hm with rfl | rfl | rfl <;> exact .text _

theorem instant?_text (t : Instant) : instant? (.text (String.ofList t.text)) = some t := by
  have hchars : (String.ofList t.text).toList = t.text := String.toList_ofList
  rw [instant?, Json.text?, Option.bind_eq_bind, Option.bind_some, hchars, Instant.parse?_text]

/-- A saved document is read back. -/
theorem ofJson?_toJson (saved : SavedFilter) : ofJson? saved.toJson = some saved := by
  obtain ⟨fields, hfields, hprofile, hsavedAt, htext⟩ : ∃ fields,
      schema.fields? saved.toJson = some fields ∧
      fields.lookup .profile = some (.text saved.profile) ∧
      fields.lookup .savedAt = some (.text (String.ofList saved.savedAt.text)) ∧
      fields.lookup .text = some (.text saved.text) := ⟨_, rfl, rfl, rfl, rfl⟩
  rw [ofJson?, hfields]
  simp only [Option.bind_eq_bind, Option.bind_some, Json.required?_of_lookup hprofile,
    Json.required?_of_lookup hsavedAt, Json.required?_of_lookup htext, instant?_text, Json.text?]
  rfl

end SavedFilter

namespace FilterArchive

theorem isPlain_toJson {P : Float → Prop} (archive : FilterArchive) :
    archive.toJson.IsPlain P := by
  refine .object fun m hm => ?_
  obtain rfl := List.mem_singleton.mp hm
  refine .array fun j hj => ?_
  obtain ⟨saved, -, rfl⟩ := List.mem_map.mp hj
  exact saved.isPlain_toJson

/-- An archive is read back from its document. -/
theorem ofJson?_toJson (archive : FilterArchive) : ofJson? archive.toJson = some archive := by
  obtain ⟨fields, hfields, hfilters⟩ : ∃ fields, schema.fields? archive.toJson = some fields ∧
      fields.lookup () = some (.array (archive.saved.map SavedFilter.toJson)) := ⟨_, rfl, rfl⟩
  have hsaved : (archive.saved.map SavedFilter.toJson).mapM SavedFilter.ofJson? =
      some archive.saved :=
    mapM_map_eq_pure _ _ fun saved _ => saved.ofJson?_toJson
  rw [ofJson?, hfields]
  simp only [Option.bind_eq_bind, Option.bind_some, Json.defaulted?_of_lookup hfilters,
    Json.list?, hsaved]
  rfl

/-- **An archive is read back from its text,** whatever its documents are made of and whenever they
were saved: the same documents in the same order, with the same timestamps. -/
theorem parse?_stored (archive : FilterArchive) :
    StoredDocument.parse? (StoredDocument.text archive) = some archive := by
  have hdocument : Json.parse? archive.toJson.pretty = some archive.toJson :=
    (Json.parse?_pretty archive.isPlain_toJson).trans
      (congrArg some archive.isPlain_toJson.reread_eq)
  rw [StoredDocument.parse?, StoredDocument.text, String.toList_ofList]
  exact (congrArg (Option.bind · ofJson?) hdocument).trans archive.ofJson?_toJson

end FilterArchive

end LootLedger
