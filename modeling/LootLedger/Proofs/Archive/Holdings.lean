import LootLedger.Proofs.Archive.Transparency

/-!
# What the cache holds

A cache that was filled by calls on an archive is a record of those calls: it has one entry for
each profile and version that was asked for since it was last cleared, and no other. An entry is
never stranger than its key says. It was compiled from a document that was saved for that very
profile within the second that the key names, though not always from the last of them; and under
the empty key there is only the empty text.

What an entry was compiled from is a property of the archive that only grows, as saving never takes
anything away (`IsCompiledFrom.mono`), so it is enough to look at the call that made the entry.

## Main definitions

* `FilterSession.IsAsked`: a key that was asked for since the cache was last cleared
* `FilterSession.IsCompiledFrom`: where the document under a key may come from

## Main results

* `FilterSession.isSome_get?_iff`, `FilterSession.nodup_keys_run`: one entry for each key asked for
* `FilterSession.isCompiledFrom_answer`: where the answer of a call comes from
* `FilterSession.run_holds`: all of it, and that the cache does not show if saves are a second apart
-/

namespace LootLedger

namespace FilterSession

/-- The profile was asked for, after the cache was last cleared, at a moment at which the version
was in effect. -/
def IsAsked (requests : List Request) (profile version : String) : Prop :=
  ∃ past at_, KeptCall requests past at_ profile ∧
    (run past).archive.versionAt at_ profile = version

/-- The document is the text of a document that was saved for the profile at a time whose key is
the version; or the version is the empty one, which stands for no document, and the text empty. -/
def IsCompiledFrom (requests : List Request) (profile version : String)
    (document : Filter.Document) : Prop :=
  (∃ d, .save d ∈ requests ∧ d.profile = profile ∧ d.savedAt.versionKey = version ∧
      document = Filter.parse d.text.toList) ∨
    (version = "" ∧ document = Filter.parse [])

/-! ### Where an entry comes from -/

theorem IsCompiledFrom.mono {past requests : List Request} {profile version : String}
    {document : Filter.Document} (h : IsCompiledFrom past profile version document)
    (hsub : past ⊆ requests) : IsCompiledFrom requests profile version document := by
  rcases h with ⟨d, hd, h⟩ | h
  · exact .inl ⟨d, hsub hd, h⟩
  · exact .inr h

theorem KeptCall.past_subset {requests past : List Request} {at_ : Instant} {profile : String}
    (h : KeptCall requests past at_ profile) : past ⊆ requests := by
  obtain ⟨later, rfl, -⟩ := h
  exact List.subset_append_left _ _

/-- What is in effect for a profile is one of its documents, or nothing. -/
theorem isCompiledFrom_fresh (requests : List Request) (at_ : Instant) (profile : String) :
    IsCompiledFrom requests profile ((run requests).archive.versionAt at_ profile)
      ((run requests).fresh at_ profile).document := by
  rw [fresh, CompiledFilter.ofText, FilterArchive.versionAt, FilterArchive.textAt]
  cases h : (run requests).archive.latestBefore? at_ profile with
  | none => exact .inr ⟨rfl, rfl⟩
  | some d =>
    obtain ⟨hmem, hprofile⟩ := mem_of_latestBefore? h
    exact .inl ⟨d, save_mem_of_mem_saved hmem, hprofile, rfl, rfl⟩

theorem isCompiledFrom_of_get? {requests : List Request} {profile version : String}
    {document : Filter.Document}
    (h : (run requests).cache.get? profile version = some document) :
    IsCompiledFrom requests profile version document := by
  obtain ⟨past, at_, hkept, rfl, rfl⟩ := exists_keptCall_of_get? h
  exact (isCompiledFrom_fresh past at_ profile).mono hkept.past_subset

/-- **No profile is served the document of another,** whether it comes from the cache or not. -/
theorem isCompiledFrom_answer (requests : List Request) (at_ : Instant) (profile : String) :
    IsCompiledFrom requests profile ((run requests).archive.versionAt at_ profile)
      ((run requests).answer at_ profile).document := by
  rw [document_answer]
  cases h : (run requests).cache.get? profile ((run requests).archive.versionAt at_ profile) with
  | none => exact isCompiledFrom_fresh requests at_ profile
  | some document => exact isCompiledFrom_of_get? h

/-! ### Which entries there are -/

/-- **The cache knows exactly the keys that were asked for** since it was last cleared. -/
theorem isSome_get?_iff {requests : List Request} {profile version : String} :
    ((run requests).cache.get? profile version).isSome ↔ IsAsked requests profile version := by
  constructor
  · intro h
    obtain ⟨document, hget⟩ := Option.isSome_iff_exists.mp h
    obtain ⟨past, at_, hkept, hversion, -⟩ := exists_keptCall_of_get? hget
    exact ⟨past, at_, hkept, hversion⟩
  · rintro ⟨past, at_, hkept, rfl⟩
    rw [get?_of_keptCall hkept]
    rfl

/-- A request gives no key a second entry. -/
theorem nodup_keys_step {s : FilterSession} (h : (s.cache.entries.map Prod.fst).Nodup)
    (r : Request) : ((s.step r).cache.entries.map Prod.fst).Nodup := by
  cases r with
  | save d => exact h
  | clear => exact List.nodup_nil
  | compile at_ profile =>
    cases hget : s.cache.get? profile (s.archive.versionAt at_ profile) with
    | none =>
      rw [step, FilterCache.compiledAt_of_none hget]
      exact nodup_map_fst_put h
    | some document =>
      rw [step, FilterCache.compiledAt_of_some hget]
      exact h

theorem nodup_keys_run (requests : List Request) :
    ((run requests).cache.entries.map Prod.fst).Nodup := by
  induction requests using List.reverseRecOn with
  | nil => exact List.nodup_nil
  | append_singleton requests r ih =>
    rw [run_concat]
    exact nodup_keys_step ih r

/-! ### The contents of a cache -/

/-- **What the cache of a run holds.** Every entry was compiled from what its key says, and so was
every answer; the keys are those asked for since the cache was last cleared, each once; and every
call answers with the text in effect compiled afresh, if documents of one profile that were saved
in one calendar second have texts that compile alike. -/
theorem run_holds (requests : List Request) :
    (∀ profile version document,
        ((profile, version), document) ∈ (run requests).cache.entries →
          IsCompiledFrom requests profile version document) ∧
      (∀ at_ profile, IsCompiledFrom requests profile
        ((run requests).archive.versionAt at_ profile)
        ((run requests).answer at_ profile).document) ∧
      ((run requests).cache.entries.map Prod.fst).Nodup ∧
      (∀ profile version, (profile, version) ∈ (run requests).cache.entries.map Prod.fst ↔
        IsAsked requests profile version) ∧
      (SecondsApart requests → Transparent requests) := by
  refine ⟨fun profile version document hmem => ?_, isCompiledFrom_answer requests,
    nodup_keys_run requests, fun profile version => ?_, transparent_of_secondsApart⟩
  · exact isCompiledFrom_of_get? (lookup_eq_some_of_mem (nodup_keys_run requests) hmem)
  · rw [← isSome_get?_iff, FilterCache.get?, isSome_lookup_iff]

/-- An instant within the first minute of the epoch. -/
def atSecond (n : Nat) : Instant :=
  { Instant.midnight Date.epoch with
    second := n % 60
    second_le := Nat.le_of_lt (Nat.mod_lt n (Nat.succ_pos 59)) }

/-- Two documents of one profile that were saved a second apart, with a call after each. -/
def requestsSecondApart : List Request :=
  [.save ⟨"main", atSecond 0, "Show\n"⟩, .compile (atSecond 2) "main",
    .save ⟨"main", atSecond 1, "Hide\nHide\n"⟩, .compile (atSecond 2) "main"]

/-- A second apart, and the later document is the one that is served. -/
theorem run_holds_secondApart : SecondsApart requestsSecondApart ∧
    Transparent requestsSecondApart := by
  have h : SecondsApart requestsSecondApart := by
    intro d d' hd hd' _ _ _ _ hsecond
    simp only [requestsSecondApart, List.mem_cons, Request.save.injEq, List.not_mem_nil, or_false,
      false_or, reduceCtorEq] at hd hd'
    rcases hd with rfl | rfl <;> rcases hd' with rfl | rfl
    · rfl
    · exact absurd hsecond (by decide)
    · exact absurd hsecond (by decide)
    · rfl
  exact ⟨h, (run_holds requestsSecondApart).2.2.2.2 h⟩

end FilterSession

end LootLedger
