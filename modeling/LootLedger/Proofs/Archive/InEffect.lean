import LootLedger.Proofs.Archive.Transparency
import LootLedger.Proofs.Calendar.VersionKey

/-!
# When a document is in effect

An archive only grows at its end, but the times of its documents need not grow along with it: a
clock can be set back. So a document is found somewhere in the list, with documents before and after
it that are older or newer. It is in effect at an instant after it was saved if nothing of its
profile was saved in between, and nothing later on with the same time. At its own time, and before,
it is as if it had not been saved.

## Main definitions

* `FilterArchive.filterAt?`: the filter in effect, without a cache
* `SavedFilter.IsNewestAt`: nothing supersedes a document at an instant

## Main results

* `FilterArchive.latestBefore?_eq_some_iff`: the document in effect is the one that nothing supersedes
* `FilterArchive.filterAt?_of_isNewestAt`: the document that is in effect
* `FilterArchive.filterAt?_of_not_lt`: the document that is not in effect yet
* `FilterCache.compiledAt_empty`: what an empty cache gives
-/

namespace LootLedger

/-- A document stands in an archive between earlier and later ones. It was saved before the instant,
no other document of its profile was saved in between, and no later one at the same time. -/
structure SavedFilter.IsNewestAt (entry : SavedFilter) (earlier later : List SavedFilter)
    (at_ : Instant) : Prop where
  lt : entry.savedAt < at_
  not_between : ∀ d ∈ earlier ++ later, d.profile = entry.profile →
    ¬ (entry.savedAt < d.savedAt ∧ d.savedAt < at_)
  ne : ∀ d ∈ later, d.profile = entry.profile → d.savedAt ≠ entry.savedAt

namespace FilterArchive

/-- The filter in effect for a profile at an instant, if there is one. -/
def filterAt? (archive : FilterArchive) (at_ : Instant) (profile : String) :
    Option CompiledFilter :=
  (archive.latestBefore? at_ profile).map fun d => .ofText d.version d.text

variable {earlier later : List SavedFilter} {entry : SavedFilter} {at_ : Instant}

theorem mem_savedBefore {archive : FilterArchive} {profile : String} {d : SavedFilter} :
    d ∈ archive.savedBefore at_ profile ↔
      d ∈ archive.saved ∧ d.profile = profile ∧ d.savedAt < at_ := by
  rw [savedBefore, List.mem_filter, Bool.and_eq_true, decide_eq_true_iff, decide_eq_true_iff]

/-- **The document in effect** is the one that nothing supersedes. -/
theorem latestBefore?_eq_some_iff {archive : FilterArchive} {profile : String} {d : SavedFilter} :
    archive.latestBefore? at_ profile = some d ↔
      ∃ earlier later, archive.saved = earlier ++ d :: later ∧ d.profile = profile ∧
        d.IsNewestAt earlier later at_ := by
  rw [latestBefore?, savedBefore, lastGreatest_filter_eq_some_iff]
  simp only [Bool.and_eq_true, decide_eq_true_eq]
  refine exists_congr fun earlier => exists_congr fun later => and_congr_right fun _ => ?_
  constructor
  · rintro ⟨⟨rfl, hlt⟩, hearlier, hlater⟩
    refine ⟨rfl, hlt, fun e he hprofile hbetween => ?_, fun e he hprofile heq => ?_⟩
    · obtain he | he := List.mem_append.mp he
      · exact hearlier e he ⟨hprofile, hbetween.2⟩ hbetween.1
      · exact lt_asymm (hlater e he ⟨hprofile, hbetween.2⟩) hbetween.1
    · have hless := hlater e he ⟨hprofile, heq ▸ hlt⟩
      rw [heq] at hless
      exact lt_irrefl _ hless
  · rintro ⟨rfl, h⟩
    refine ⟨⟨rfl, h.lt⟩, fun e he hbefore hlt => ?_, fun e he hbefore => ?_⟩
    · exact h.not_between e (List.mem_append_left _ he) hbefore.1 ⟨hlt, hbefore.2⟩
    · have hnot := h.not_between e (List.mem_append_right _ he) hbefore.1
      have hle : e.savedAt.ordinal ≤ d.savedAt.ordinal := not_lt.mp fun hlt => hnot ⟨hlt, hbefore.2⟩
      exact hle.lt_of_ne fun heq => h.ne e he hbefore.1 (Instant.ordinal_injective heq)

theorem latestBefore?_of_isNewestAt (h : entry.IsNewestAt earlier later at_) :
    (⟨earlier ++ entry :: later⟩ : FilterArchive).latestBefore? at_ entry.profile = some entry :=
  latestBefore?_eq_some_iff.mpr ⟨earlier, later, rfl, rfl, h⟩

/-- A document that was not saved before an instant makes no difference at it. -/
theorem latestBefore?_of_not_lt (h : ¬ entry.savedAt < at_) (profile : String) :
    (⟨earlier ++ entry :: later⟩ : FilterArchive).latestBefore? at_ profile =
      (⟨earlier ++ later⟩ : FilterArchive).latestBefore? at_ profile := by
  rw [latestBefore?, latestBefore?, savedBefore, savedBefore, List.filter_append,
    List.filter_append, List.filter_cons_of_neg (by simp [h])]

/-- **A document that nothing supersedes is in effect.** -/
theorem filterAt?_of_isNewestAt (h : entry.IsNewestAt earlier later at_) :
    (⟨earlier ++ entry :: later⟩ : FilterArchive).filterAt? at_ entry.profile =
      some (.ofText entry.version entry.text) := by
  rw [filterAt?, latestBefore?_of_isNewestAt h, Option.map_some]

/-- **A document is not in effect yet** when it is saved, nor at any time before. -/
theorem filterAt?_of_not_lt (h : ¬ entry.savedAt < at_) (profile : String) :
    (⟨earlier ++ entry :: later⟩ : FilterArchive).filterAt? at_ profile =
      (⟨earlier ++ later⟩ : FilterArchive).filterAt? at_ profile := by
  rw [filterAt?, filterAt?, latestBefore?_of_not_lt h]

end FilterArchive

/-- What an empty cache gives: the filter in effect, or one whose version is no version. -/
theorem FilterCache.compiledAt_empty (archive : FilterArchive) (at_ : Instant) (profile : String) :
    (({} : FilterCache).compiledAt archive at_ profile).1 =
      (archive.filterAt? at_ profile).getD (.ofText "" "") := by
  rw [compiledAt_of_none (get?_empty _ _), FilterArchive.filterAt?, FilterArchive.versionAt,
    FilterArchive.textAt]
  cases archive.latestBefore? at_ profile <;> rfl

/-- A filter in effect has a version. -/
theorem FilterArchive.version_ne_empty_of_filterAt? {archive : FilterArchive} {at_ : Instant}
    {profile : String} {f : CompiledFilter} (h : archive.filterAt? at_ profile = some f) :
    f.version ≠ "" := by
  rw [filterAt?, Option.map_eq_some_iff] at h
  obtain ⟨d, -, rfl⟩ := h
  exact d.savedAt.versionKey_ne_empty

end LootLedger
