import LootLedger.Proofs.Archive.InEffect

/-!
# The newest document

An archive answers for every profile and every instant with one document or with none. Which one that
is depends on the times of the documents alone, as long as they differ: the order of the saves counts
only among documents of one time. So the answer moves on with the instant and never back, and one
more save changes it at most for its own profile, after its own time, and where the answer was not
newer already.

## Main definitions

* `SavedFilter.IsInEffect`: the document that the saves of an archive leave in effect

## Main results

* `FilterArchive.latestBefore?_eq_none_iff`, `FilterArchive.latestBefore?_eq_some_iff_isInEffect`:
  the answer of an archive
* `FilterArchive.exists_latestBefore?_of_le`: the answer at a later instant
* `FilterArchive.eq_or_latestBefore?_save`: the answer after one more save
* `FilterArchive.answers_foldl_save`: all of it, for every sequence of saves
-/

namespace LootLedger

/-- Of the documents that were saved for the profile before the instant, the one with the greatest
time; of several with that time, the one saved last. -/
structure SavedFilter.IsInEffect (document : SavedFilter) (documents : List SavedFilter)
    (at_ : Instant) (profile : String) : Prop where
  profile_eq : document.profile = profile
  isNewest : ∃ earlier later, documents = earlier ++ document :: later ∧
    document.IsNewestAt earlier later at_

namespace FilterArchive

variable {archive : FilterArchive} {at_ at_' : Instant} {profile : String} {d document : SavedFilter}

/-! ### The answer -/

/-- An archive holds the documents in the order of their saves. -/
theorem foldl_save (archive : FilterArchive) (documents : List SavedFilter) :
    documents.foldl save archive = ⟨archive.saved ++ documents⟩ := by
  induction documents generalizing archive with
  | nil => rw [List.foldl_nil, List.append_nil]
  | cons document documents ih =>
    rw [List.foldl_cons, ih, save, List.append_assoc, List.singleton_append]

theorem latestBefore?_eq_none_iff :
    archive.latestBefore? at_ profile = none ↔
      ∀ d ∈ archive.saved, d.profile = profile → ¬ d.savedAt < at_ := by
  rw [latestBefore?, lastGreatest_eq_none_iff, List.eq_nil_iff_forall_not_mem]
  simp only [mem_savedBefore, not_and]

theorem latestBefore?_eq_some_iff_isInEffect :
    archive.latestBefore? at_ profile = some d ↔ d.IsInEffect archive.saved at_ profile := by
  rw [latestBefore?_eq_some_iff]
  constructor
  · rintro ⟨earlier, later, hsaved, hprofile, hnewest⟩
    exact ⟨hprofile, earlier, later, hsaved, hnewest⟩
  · rintro ⟨hprofile, earlier, later, hsaved, hnewest⟩
    exact ⟨earlier, later, hsaved, hprofile, hnewest⟩

/-- No document of the profile that was saved before the instant is newer. -/
theorem savedAt_le_of_latestBefore? (h : archive.latestBefore? at_ profile = some d)
    {e : SavedFilter} (he : e ∈ archive.savedBefore at_ profile) : e.savedAt ≤ d.savedAt :=
  Int.not_lt.mp (not_lt_of_lastGreatest h he)

/-- **The answer moves on with the instant**, and never back. -/
theorem exists_latestBefore?_of_le (hle : at_ ≤ at_')
    (h : archive.latestBefore? at_ profile = some d) :
    ∃ d', archive.latestBefore? at_' profile = some d' ∧ d.savedAt ≤ d'.savedAt := by
  obtain ⟨hmem, hprofile, hlt⟩ := mem_savedBefore.mp (mem_of_lastGreatest h)
  have hlater : d ∈ archive.savedBefore at_' profile :=
    mem_savedBefore.mpr ⟨hmem, hprofile, Int.lt_of_lt_of_le hlt hle⟩
  cases hfound : archive.latestBefore? at_' profile with
  | none =>
    have hnot := latestBefore?_eq_none_iff.mp hfound d hmem hprofile
    exact absurd (Int.lt_of_lt_of_le hlt hle) hnot
  | some d' => exact ⟨d', rfl, savedAt_le_of_latestBefore? hfound hlater⟩

/-! ### One more save -/

/-- **One more save** changes nothing, or is in effect now. Then it was saved for the profile before
the instant, and is no older than what was in effect. -/
theorem eq_or_latestBefore?_save (archive : FilterArchive) (document : SavedFilter) (at_ : Instant)
    (profile : String) :
    (archive.save document).latestBefore? at_ profile = archive.latestBefore? at_ profile ∨
      (archive.save document).latestBefore? at_ profile = some document ∧
        document.profile = profile ∧ document.savedAt < at_ ∧
          ∀ d, archive.latestBefore? at_ profile = some d → d.savedAt ≤ document.savedAt := by
  by_cases hnew : document.profile = profile ∧ document.savedAt < at_
  · have hsaved : (archive.save document).savedBefore at_ profile =
        archive.savedBefore at_ profile ++ [document] := by
      rw [save, savedBefore, List.filter_append, List.filter_cons_of_pos (by simpa using hnew)]
      rfl
    rw [latestBefore?, hsaved, lastGreatest_concat, ← latestBefore?]
    cases archive.latestBefore? at_ profile with
    | none => exact .inr ⟨rfl, hnew.1, hnew.2, by simp⟩
    | some d =>
      by_cases hlt : document.savedAt < d.savedAt
      · exact .inl (if_pos hlt)
      · refine .inr ⟨if_neg hlt, hnew.1, hnew.2, ?_⟩
        rintro _ ⟨⟩
        exact Int.not_lt.mp hlt
  · refine .inl ?_
    rw [latestBefore?, save, savedBefore, List.filter_append,
      List.filter_cons_of_neg (by simpa using hnew), List.filter_nil, List.append_nil]
    rfl

/-! ### Every sequence of saves -/

/-- **Which saved document is in effect.** After any saves, for any profiles and at any times, the
archive answers with the document in effect, or with none if none was saved before the instant; its
version and its text are those of the document, or empty. The answer at a later instant is no older.
One more save changes the answer for its own profile only, only after its own time, and only if the
answer was no newer. -/
theorem answers_foldl_save (documents : List SavedFilter) (profile : String) :
    let archive := documents.foldl save {}
    (∀ at_ : Instant, archive.latestBefore? at_ profile = none ↔
      ∀ d ∈ documents, d.profile = profile → ¬ d.savedAt < at_) ∧
    (∀ (at_ : Instant) (d : SavedFilter),
      archive.latestBefore? at_ profile = some d ↔ d.IsInEffect documents at_ profile) ∧
    (∀ (at_ : Instant) (d : SavedFilter), d.IsInEffect documents at_ profile →
      archive.versionAt at_ profile = d.savedAt.versionKey ∧ archive.textAt at_ profile = d.text) ∧
    (∀ at_ : Instant, (∀ d ∈ documents, d.profile = profile → ¬ d.savedAt < at_) →
      archive.versionAt at_ profile = "" ∧ archive.textAt at_ profile = "") ∧
    (∀ (at_ at_' : Instant) (d : SavedFilter), at_ ≤ at_' →
      archive.latestBefore? at_ profile = some d →
        ∃ d', archive.latestBefore? at_' profile = some d' ∧ d.savedAt ≤ d'.savedAt) ∧
    ∀ (at_ : Instant) (document : SavedFilter),
      (archive.save document).latestBefore? at_ profile ≠ archive.latestBefore? at_ profile →
        (archive.save document).latestBefore? at_ profile = some document ∧
          document.profile = profile ∧ document.savedAt < at_ ∧
            ∀ d, archive.latestBefore? at_ profile = some d → d.savedAt ≤ document.savedAt := by
  intro archive
  have hsaved : archive.saved = documents := congrArg saved (foldl_save {} documents)
  have hnone (at_ : Instant) : archive.latestBefore? at_ profile = none ↔
      ∀ d ∈ documents, d.profile = profile → ¬ d.savedAt < at_ := by
    rw [latestBefore?_eq_none_iff, hsaved]
  have hsome (at_ : Instant) (d : SavedFilter) : archive.latestBefore? at_ profile = some d ↔
      d.IsInEffect documents at_ profile := by
    rw [latestBefore?_eq_some_iff_isInEffect, hsaved]
  refine ⟨hnone, hsome, fun at_ d hd => ?_, fun at_ hd => ?_,
    fun _ _ _ => exists_latestBefore?_of_le, fun at_ document hchange => ?_⟩
  · rw [versionAt, textAt, (hsome at_ d).mpr hd]
    exact ⟨rfl, rfl⟩
  · rw [versionAt, textAt, (hnone at_).mpr hd]
    exact ⟨rfl, rfl⟩
  · exact (archive.eq_or_latestBefore?_save document at_ profile).resolve_left hchange

end FilterArchive

end LootLedger
