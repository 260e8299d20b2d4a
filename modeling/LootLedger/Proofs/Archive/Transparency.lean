import LootLedger.Archive.Cache
import LootLedger.Proofs.Calendar.VersionKey
import Mathlib.Data.List.Induction

/-!
# When the cache shows

A cache of compiled filters should not be seen from outside: asking it should give what compiling
the text in effect would give. Its entries are kept under a profile and a version key, and a key is
no finer than a calendar second, whereas the document in effect is chosen by the full instant. So
a second document saved within the same second of one profile is hidden behind the first, once the
first has been asked for.

## The history of an entry

An entry is put into the cache by the first call for its profile and key after the cache was last
cleared, and no later request changes it. That is the invariant of a run, in two halves: what is
kept was compiled by such a call (`exists_keptCall_of_get?`), and what such a call answered is kept
(`get?_of_keptCall`). `transparent_iff_agreeing` follows from the two.

## Main definitions

* `FilterSession`, `FilterSession.run`: an archive and a cache, and a run of requests to them
* `FilterSession.Transparent`: every call of a run answers with the text in effect compiled
* `FilterSession.Agreeing`: calls that meet one key find texts that compile alike

## Main results

* `FilterSession.transparent_iff_agreeing`: when the cache does not show, exactly
* `FilterSession.transparent_of_secondsApart`: it does not if saves are a second apart
* `FilterSession.not_transparent_within_second`: two saves within one second, and it does
-/

namespace LootLedger

namespace FilterCache

@[simp] theorem get?_empty (profile version : String) :
    ({} : FilterCache).get? profile version = none := rfl

@[simp] theorem get?_keep_self (cache : FilterCache) (profile version : String)
    (document : Filter.Document) :
    (cache.keep profile version document).get? profile version = some document :=
  lookup_put_self _ _ _

theorem get?_keep_of_ne {p v profile version : String} (h : (p, v) ≠ (profile, version))
    (cache : FilterCache) (document : Filter.Document) :
    (cache.keep profile version document).get? p v = cache.get? p v :=
  lookup_put_of_ne h _ _

/-- A document that is kept is the answer, and the cache stays as it is. -/
theorem compiledAt_of_some {cache : FilterCache} {archive : FilterArchive} {at_ : Instant}
    {profile : String} {document : Filter.Document}
    (h : cache.get? profile (archive.versionAt at_ profile) = some document) :
    cache.compiledAt archive at_ profile =
      ({ version := archive.versionAt at_ profile, document }, cache) := by
  rw [compiledAt, h]

/-- Otherwise the text in effect is compiled and kept. -/
theorem compiledAt_of_none {cache : FilterCache} {archive : FilterArchive} {at_ : Instant}
    {profile : String} (h : cache.get? profile (archive.versionAt at_ profile) = none) :
    cache.compiledAt archive at_ profile =
      (.ofText (archive.versionAt at_ profile) (archive.textAt at_ profile),
        cache.keep profile (archive.versionAt at_ profile)
          (Filter.parse (archive.textAt at_ profile).toList)) := by
  rw [compiledAt, h]
  rfl

end FilterCache

/-- An archive of filters, and the cache that is asked about it. -/
structure FilterSession where
  archive : FilterArchive := {}
  cache : FilterCache := {}

namespace FilterSession

/-- What is done to an archive and its cache. -/
inductive Request
  | save (document : SavedFilter)
  | clear
  /-- Asks for the filter in effect for a profile at an instant. -/
  | compile (at_ : Instant) (profile : String)
  deriving DecidableEq

/-- What a call answers. -/
def answer (s : FilterSession) (at_ : Instant) (profile : String) : CompiledFilter :=
  (s.cache.compiledAt s.archive at_ profile).1

/-- The text in effect, compiled without the cache. -/
def fresh (s : FilterSession) (at_ : Instant) (profile : String) : CompiledFilter :=
  .ofText (s.archive.versionAt at_ profile) (s.archive.textAt at_ profile)

/-- Archive and cache after one request. -/
def step (s : FilterSession) : Request → FilterSession
  | .save document => { s with archive := s.archive.save document }
  | .clear => { s with cache := {} }
  | .compile at_ profile => { s with cache := (s.cache.compiledAt s.archive at_ profile).2 }

/-- Archive and cache after some requests, both empty at first. -/
def run (requests : List Request) : FilterSession :=
  requests.foldl step {}

@[simp] theorem run_nil : run [] = {} := rfl

theorem run_concat (requests : List Request) (r : Request) :
    run (requests ++ [r]) = (run requests).step r := by
  rw [run, List.foldl_append, List.foldl_cons, List.foldl_nil, run]

/-! ### One call -/

/-- A call answers with what is kept under the profile and the key in effect, or compiles the text
in effect. -/
theorem document_answer (s : FilterSession) (at_ : Instant) (profile : String) :
    (s.answer at_ profile).document =
      (s.cache.get? profile (s.archive.versionAt at_ profile)).getD
        (s.fresh at_ profile).document := by
  cases h : s.cache.get? profile (s.archive.versionAt at_ profile) with
  | none => rw [answer, FilterCache.compiledAt_of_none h]; rfl
  | some document => rw [answer, FilterCache.compiledAt_of_some h]; rfl

/-- Only the compiled document can give the cache away: the key is the one in effect, and no area
level is set. -/
theorem answer_eq_fresh_iff {s : FilterSession} {at_ : Instant} {profile : String} :
    s.answer at_ profile = s.fresh at_ profile ↔
      (s.answer at_ profile).document = (s.fresh at_ profile).document := by
  refine ⟨congrArg CompiledFilter.document, fun h => ?_⟩
  cases hget : s.cache.get? profile (s.archive.versionAt at_ profile) with
  | none => rw [answer, FilterCache.compiledAt_of_none hget]; rfl
  | some document =>
    rw [answer, FilterCache.compiledAt_of_some hget] at h ⊢
    rw [fresh, CompiledFilter.ofText]
    exact congrArg (CompiledFilter.mk _ · none) h

/-- After a call its answer is kept under its key. -/
theorem get?_step_compile_self (s : FilterSession) (at_ : Instant) (profile : String) :
    (s.step (.compile at_ profile)).cache.get? profile (s.archive.versionAt at_ profile) =
      some (s.answer at_ profile).document := by
  cases h : s.cache.get? profile (s.archive.versionAt at_ profile) with
  | none =>
    rw [step, answer, FilterCache.compiledAt_of_none h]
    exact FilterCache.get?_keep_self _ _ _ _
  | some document =>
    rw [step, answer, FilterCache.compiledAt_of_some h]
    exact h

/-- A call leaves alone what is kept under other keys. -/
theorem get?_step_compile_of_ne {s : FilterSession} {at_ : Instant} {profile p v : String}
    (h : (p, v) ≠ (profile, s.archive.versionAt at_ profile)) :
    (s.step (.compile at_ profile)).cache.get? p v = s.cache.get? p v := by
  cases hget : s.cache.get? profile (s.archive.versionAt at_ profile) with
  | none =>
    rw [step, FilterCache.compiledAt_of_none hget]
    exact FilterCache.get?_keep_of_ne h _ _
  | some document => rw [step, FilterCache.compiledAt_of_some hget]

/-- What is kept is not replaced by a call. -/
theorem get?_step_compile {s : FilterSession} {at_ : Instant} {profile p v : String}
    {document : Filter.Document} (h : s.cache.get? p v = some document) :
    (s.step (.compile at_ profile)).cache.get? p v = some document := by
  by_cases hkey : (p, v) = (profile, s.archive.versionAt at_ profile)
  · obtain ⟨rfl, rfl⟩ := Prod.mk.inj hkey
    rw [get?_step_compile_self, document_answer, h]
    rfl
  · rw [get?_step_compile_of_ne hkey, h]

/-! ### The calls that a run still remembers -/

/-- The requests start with `past`, then call for the profile at the instant, and do not clear the
cache afterwards. -/
def KeptCall (requests past : List Request) (at_ : Instant) (profile : String) : Prop :=
  ∃ later, requests = past ++ .compile at_ profile :: later ∧ .clear ∉ later

theorem KeptCall.concat {requests past : List Request} {at_ : Instant} {profile : String}
    (h : KeptCall requests past at_ profile) {r : Request} (hr : r ≠ .clear) :
    KeptCall (requests ++ [r]) past at_ profile := by
  obtain ⟨later, rfl, hlater⟩ := h
  refine ⟨later ++ [r], by simp, ?_⟩
  simpa using ⟨hlater, hr.symm⟩

theorem keptCall_self (requests : List Request) (at_ : Instant) (profile : String) :
    KeptCall (requests ++ [.compile at_ profile]) requests at_ profile :=
  ⟨[], rfl, by simp⟩

/-- A call that is remembered after one more request is that request, or was remembered before. -/
theorem KeptCall.of_concat {requests past : List Request} {r : Request} {at_ : Instant}
    {profile : String} (h : KeptCall (requests ++ [r]) past at_ profile) :
    (past = requests ∧ r = .compile at_ profile) ∨
      (KeptCall requests past at_ profile ∧ r ≠ .clear) := by
  obtain ⟨later, heq, hlater⟩ := h
  rcases List.eq_nil_or_concat later with rfl | ⟨later, r', rfl⟩
  · obtain ⟨hpast, hr⟩ := List.append_inj' heq rfl
    exact .inl ⟨hpast.symm, List.head_eq_of_cons_eq hr⟩
  · rw [List.concat_eq_append, ← List.cons_append, ← List.append_assoc] at heq
    obtain ⟨hreq, hr⟩ := List.append_inj' heq rfl
    obtain rfl : r = r' := List.head_eq_of_cons_eq hr
    simp only [List.concat_eq_append, List.mem_append, List.mem_singleton, not_or] at hlater
    exact .inr ⟨⟨later, hreq, hlater.1⟩, fun h => hlater.2 h.symm⟩

/-- **Nothing is kept that was not compiled.** An entry of the cache is the text that was in effect
at a remembered call for its profile and key. -/
theorem exists_keptCall_of_get? {requests : List Request} {profile version : String}
    {document : Filter.Document}
    (h : (run requests).cache.get? profile version = some document) :
    ∃ past at_, KeptCall requests past at_ profile ∧
      (run past).archive.versionAt at_ profile = version ∧
      ((run past).fresh at_ profile).document = document := by
  induction requests using List.reverseRecOn with
  | nil => cases h
  | append_singleton requests r ih =>
    -- an entry from before the request is remembered from before, unless the cache was cleared
    have hold (hbefore : (run requests).cache.get? profile version = some document)
        (hr : r ≠ .clear) : ∃ past at_, KeptCall (requests ++ [r]) past at_ profile ∧
          (run past).archive.versionAt at_ profile = version ∧
          ((run past).fresh at_ profile).document = document := by
      obtain ⟨past, at_, hkept, hversion, hdocument⟩ := ih hbefore
      exact ⟨past, at_, hkept.concat hr, hversion, hdocument⟩
    rw [run_concat] at h
    cases r with
    | save d => exact hold h nofun
    | clear => cases h
    | compile at_ p =>
      cases hbefore : (run requests).cache.get? profile version with
      | some d =>
        rw [get?_step_compile hbefore] at h
        exact hold (hbefore.trans h) nofun
      | none =>
        by_cases hkey : (profile, version) = (p, (run requests).archive.versionAt at_ p)
        · obtain ⟨rfl, rfl⟩ := Prod.mk.inj hkey
          rw [get?_step_compile_self, document_answer, hbefore] at h
          exact ⟨requests, at_, keptCall_self _ _ _, rfl, Option.some.inj h⟩
        · rw [get?_step_compile_of_ne hkey, hbefore] at h
          cases h

/-- **What a remembered call answered is kept.** -/
theorem get?_of_keptCall {requests past : List Request} {at_ : Instant} {profile : String}
    (h : KeptCall requests past at_ profile) :
    (run requests).cache.get? profile ((run past).archive.versionAt at_ profile) =
      some ((run past).answer at_ profile).document := by
  induction requests using List.reverseRecOn with
  | nil =>
    obtain ⟨later, heq, -⟩ := h
    simp at heq
  | append_singleton requests r ih =>
    rw [run_concat]
    rcases h.of_concat with ⟨rfl, rfl⟩ | ⟨hkept, hr⟩
    · exact get?_step_compile_self _ _ _
    · cases r with
      | save d => exact ih hkept
      | clear => exact absurd rfl hr
      | compile at' p => exact get?_step_compile (ih hkept)

/-! ### Transparency -/

/-- Every call of a run answers with the text in effect at that moment, compiled afresh. -/
def Transparent (requests : List Request) : Prop :=
  ∀ past at_ profile later, requests = past ++ .compile at_ profile :: later →
    (run past).answer at_ profile = (run past).fresh at_ profile

/-- Any two calls of a run for one profile that meet the same version key, with no clearing of the
cache between them, find texts that compile alike. The cache is not mentioned. -/
def Agreeing (requests : List Request) : Prop :=
  ∀ past at_ profile later, requests = past ++ .compile at_ profile :: later →
    ∀ earlier at', KeptCall past earlier at' profile →
      (run earlier).archive.versionAt at' profile = (run past).archive.versionAt at_ profile →
      Filter.parse ((run earlier).archive.textAt at' profile).toList =
        Filter.parse ((run past).archive.textAt at_ profile).toList

theorem Transparent.agreeing {requests : List Request} (h : Transparent requests) :
    Agreeing requests := by
  rintro past at_ profile later rfl earlier at' hkept hversion
  -- the earlier call was itself fresh, and its answer is what the later call finds
  obtain ⟨between, rfl, -⟩ := id hkept
  have hearlier := h earlier at' profile (between ++ .compile at_ profile :: later) (by simp)
  have hlater := h _ at_ profile later rfl
  have hentry := get?_of_keptCall hkept
  rw [hversion, hearlier] at hentry
  rw [answer_eq_fresh_iff, document_answer, hentry] at hlater
  exact hlater

theorem Agreeing.transparent {requests : List Request} (h : Agreeing requests) :
    Transparent requests := by
  rintro past at_ profile later rfl
  rw [answer_eq_fresh_iff, document_answer]
  cases hentry : (run past).cache.get? profile ((run past).archive.versionAt at_ profile) with
  | none => rfl
  | some document =>
    obtain ⟨earlier, at', hkept, hversion, rfl⟩ := exists_keptCall_of_get? hentry
    exact h past at_ profile later rfl earlier at' hkept hversion

/-- **When the cache does not show.** Every call of a run answers with the text in effect compiled
afresh, exactly if calls that meet one version key find texts that compile alike. -/
theorem transparent_iff_agreeing (requests : List Request) :
    Transparent requests ↔ Agreeing requests :=
  ⟨Transparent.agreeing, Agreeing.transparent⟩

/-! ### Saves within a second -/

/-- No two documents of one profile whose texts compile differently are saved in one calendar
second. -/
def SecondsApart (requests : List Request) : Prop :=
  ∀ d d', .save d ∈ requests → .save d' ∈ requests → d.profile = d'.profile →
    d.savedAt.date = d'.savedAt.date → d.savedAt.hour = d'.savedAt.hour →
    d.savedAt.minute = d'.savedAt.minute → d.savedAt.second = d'.savedAt.second →
    Filter.parse d.text.toList = Filter.parse d'.text.toList

/-- The archive of a run holds what was saved. -/
theorem save_mem_of_mem_saved {requests : List Request} {d : SavedFilter}
    (h : d ∈ (run requests).archive.saved) : .save d ∈ requests := by
  induction requests using List.reverseRecOn with
  | nil => cases h
  | append_singleton requests r ih =>
    rw [run_concat] at h
    cases r with
    | save d' =>
      rcases List.mem_append.mp h with h | h
      · exact List.mem_append_left _ (ih h)
      · rw [List.mem_singleton] at h
        exact h ▸ List.mem_append_right _ (List.mem_singleton_self _)
    | clear => exact List.mem_append_left _ (ih h)
    | compile at_ profile => exact List.mem_append_left _ (ih h)

/-- The document in effect was saved for the profile. -/
theorem mem_of_latestBefore? {archive : FilterArchive} {at_ : Instant} {profile : String}
    {d : SavedFilter} (h : archive.latestBefore? at_ profile = some d) :
    d ∈ archive.saved ∧ d.profile = profile := by
  have hmem := mem_of_lastGreatest h
  rw [FilterArchive.savedBefore, List.mem_filter] at hmem
  simp only [Bool.and_eq_true, decide_eq_true_eq] at hmem
  exact ⟨hmem.1, hmem.2.1⟩

/-- Where one version key is met twice, there is no document in effect either time, or one with
that key each time: the empty key is not that of a document. -/
theorem latestBefore?_of_versionAt_eq {a b : FilterArchive} {t u : Instant} {profile : String}
    (h : a.versionAt t profile = b.versionAt u profile) :
    (a.latestBefore? t profile = none ∧ b.latestBefore? u profile = none) ∨
      ∃ d d', a.latestBefore? t profile = some d ∧ b.latestBefore? u profile = some d' ∧
        d.version = d'.version := by
  rw [FilterArchive.versionAt, FilterArchive.versionAt] at h
  cases hd : a.latestBefore? t profile with
  | none =>
    cases hd' : b.latestBefore? u profile with
    | none => exact .inl ⟨rfl, rfl⟩
    | some d' =>
      rw [hd, hd'] at h
      exact absurd h.symm (Instant.versionKey_ne_empty _)
  | some d =>
    cases hd' : b.latestBefore? u profile with
    | none =>
      rw [hd, hd'] at h
      exact absurd h (Instant.versionKey_ne_empty _)
    | some d' =>
      rw [hd, hd'] at h
      exact .inr ⟨d, d', rfl, rfl, h⟩

/-- **Saves a second apart keep the cache out of sight.** -/
theorem transparent_of_secondsApart {requests : List Request} (h : SecondsApart requests) :
    Transparent requests := by
  refine Agreeing.transparent ?_
  rintro past at_ profile later rfl earlier at' ⟨between, rfl, -⟩ hversion
  rw [FilterArchive.textAt, FilterArchive.textAt]
  rcases latestBefore?_of_versionAt_eq hversion with ⟨hd, hd'⟩ | ⟨d, d', hd, hd', hkey⟩
  · rw [hd, hd']
  · obtain ⟨hmem, hprofile⟩ := mem_of_latestBefore? hd
    obtain ⟨hmem', hprofile'⟩ := mem_of_latestBefore? hd'
    obtain ⟨hdate, hhour, hminute, hsecond⟩ := Instant.versionKey_eq_iff.mp hkey
    rw [hd, hd']
    refine h d d' ?_ ?_ (hprofile.trans hprofile'.symm) hdate hhour hminute hsecond
    · exact List.mem_append_left _ (List.mem_append_left _ (save_mem_of_mem_saved hmem))
    · exact List.mem_append_left _ (save_mem_of_mem_saved hmem')

/-- An instant within the first second of the epoch. -/
def atNanosecond (n : Nat) (h : n < 1000000000) : Instant :=
  { Instant.midnight Date.epoch with nanosecond := n, nanosecond_lt := h }

/-- Two saves within one second, with a call after each. -/
def requestsWithinSecond : List Request :=
  [.save ⟨"main", atNanosecond 100000000 (by decide), "Show\n"⟩,
    .compile (atNanosecond 300000000 (by decide)) "main",
    .save ⟨"main", atNanosecond 200000000 (by decide), "Hide\nHide\n"⟩,
    .compile (atNanosecond 300000000 (by decide)) "main"]

/-- **Two saves within one second, and the cache shows:** the second call still gets the first
document. -/
theorem not_transparent_within_second : ¬ Transparent requestsWithinSecond := by
  intro h
  have hagree := h.agreeing (requestsWithinSecond.take 3) _ "main" [] rfl
    (requestsWithinSecond.take 1) _ ⟨_, rfl, by decide⟩ rfl
  have hrules := congrArg (fun d => d.rules.length) hagree
  exact absurd hrules (by decide)

end FilterSession

end LootLedger
