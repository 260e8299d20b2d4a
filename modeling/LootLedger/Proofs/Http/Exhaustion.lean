import LootLedger.Proofs.Http.Settling

/-!
# Errors that are worth another try

Two places judge whether a request may do better later. The loop does so by what came of the
request, and repeats it; the error that a fetch ends with does so for its reader. They should agree:
an error that is worth another try should only reach a reader when the tries are used up.

An error is made of the outcome that settled the fetch, so the two judgements can be compared
outcome by outcome (`isRetryable_of_tableOf?_eq_error`). They part in one place there: to the loop a
service fails with the codes up to 599, to the error with all codes from 500 on. And an address that
is none is reported as an error of the network before anything is asked, so its reader is told to
try again although no try can help. Apart from these two the judgements agree.

## Main definitions

* `Http.Outcome.IsBeyond`: a reply with a code above those of failing services
* `Http.RetryPolicy.IsExhausted`: all tries are used up, and one more would have been made
* `Http.SnapshotService.RetriesAgree`: an error is worth another try exactly if that is why it is
  there

## Main results

* `Http.SnapshotService.retriesAgree_iff`: when the two judgements agree
* `Http.SnapshotService.not_retriesAgree_noAddress`: they do not for an address that is none
-/

namespace LootLedger.Http

/-! ### One outcome -/

/-- The reply has a code above those of failing services. -/
def Outcome.IsBeyond : Outcome → Prop
  | .response r => 600 ≤ r.status
  | .failure _ => False

/-- The error that a reply stands for is worth another try if the reply is, or if its code is above
those of failing services. -/
theorem Response.isRetryable_error (r : Response) (league : String) (date : Date) :
    (r.error league date).isRetryable = true ↔
      (Outcome.response r).IsTemporary ∨ (Outcome.response r).IsBeyond := by
  rw [error, Outcome.IsTemporary, Outcome.IsBeyond, notFound, tooManyRequests]
  split
  · next hmissing => simp only [ServiceError.isRetryable, Bool.false_eq_true, false_iff]; omega
  · split
    · next hlimit => exact iff_of_true rfl (.inl (.inl hlimit))
    · next hlimit =>
      have hcode (message : String) : (ServiceError.status r.status message).isRetryable = true ↔
          (r.status = 429 ∨ 500 ≤ r.status ∧ r.status ≤ 599) ∨ 600 ≤ r.status := by
        simp only [ServiceError.isRetryable, decide_eq_true_eq]
        omega
      split <;> exact hcode _

/-- **The two judgements on one outcome.** The error that an outcome ends with is worth another try
if the outcome is, or if it is a reply with a code above those of failing services. -/
theorem isRetryable_of_tableOf?_eq_error {url : Url} {league : String} {date : Date} {o : Outcome}
    {e : FetchError} (h : tableOf? url league date o = .error e) :
    e.isRetryable = true ↔ o.IsTemporary ∨ o.IsBeyond := by
  cases o with
  | failure f =>
    obtain rfl := Except.error.inj h
    exact beq_iff_eq.trans (or_iff_left not_false).symm
  | response r =>
    rw [tableOf?] at h
    split at h
    · next hsuccess =>
      split at h
      · cases h
      · obtain rfl := Except.error.inj h
        rw [isSuccess_iff] at hsuccess
        simp only [FetchError.isRetryable, Bool.false_eq_true, false_iff, Outcome.IsTemporary,
          Outcome.IsBeyond]
        omega
    · obtain rfl := Except.error.inj h
      exact r.isRetryable_error league date

/-- An outcome beyond the codes of failing services is an error. -/
theorem Outcome.IsBeyond.exists_error {o : Outcome} (h : o.IsBeyond) (url : Url)
    (league : String) (date : Date) : ∃ e, tableOf? url league date o = .error e := by
  cases o with
  | failure f => cases h
  | response r =>
    have hno : ¬ isSuccess r.status = true := by
      rw [isSuccess_iff]
      rw [IsBeyond] at h
      omega
    exact ⟨_, by rw [tableOf?, if_neg hno]⟩

theorem Outcome.IsBeyond.not_isTemporary {o : Outcome} (h : o.IsBeyond) : ¬ o.IsTemporary := by
  cases o with
  | failure f => cases h
  | response r =>
    rw [IsBeyond] at h
    rw [IsTemporary]
    omega

/-! ### A whole fetch -/

namespace RetryPolicy

/-- All requests that the policy allows were made, and the last of them may do better later. -/
structure IsExhausted (policy : RetryPolicy) (outcomes : ℕ → Outcome) (asked : List Url) :
    Prop where
  length_asked : asked.length = policy.maxRetries.toNat + 1
  isTemporary_last : (outcomes policy.maxRetries.toNat).IsTemporary

/-- A request that may do better later settles the matter only as the last one. -/
theorem IsSettledAt.eq_of_isTemporary {policy : RetryPolicy} {outcomes : ℕ → Outcome} {k : ℕ}
    (h : policy.IsSettledAt outcomes k) (hk : (outcomes k).IsTemporary) :
    k = policy.maxRetries.toNat :=
  h.1.resolve_left (not_not_intro hk)

/-- The tries are used up exactly if the request that settles the matter may do better later. -/
theorem IsSettledAt.isExhausted_iff {policy : RetryPolicy} {outcomes : ℕ → Outcome} {k : ℕ}
    (h : policy.IsSettledAt outcomes k) (url : Url) :
    policy.IsExhausted outcomes (List.replicate (k + 1) url) ↔ (outcomes k).IsTemporary := by
  constructor
  · intro hexhausted
    have hlast := hexhausted.length_asked
    rw [List.length_replicate, Nat.add_right_cancel_iff] at hlast
    rw [hlast]
    exact hexhausted.isTemporary_last
  · intro htemporary
    have hlast := h.eq_of_isTemporary htemporary
    exact ⟨by rw [List.length_replicate, hlast], hlast ▸ htemporary⟩

end RetryPolicy

namespace SnapshotService

/-- A fetch of the table of a league and a date, whatever comes of its requests: what it answers,
and the network after it. -/
def fetchRun (service : SnapshotService) (league : String) (date : Date)
    (outcomes : ℕ → Outcome) : Except FetchError (PriceTable Float) × Script :=
  (service.fetch Script.send (fun _ => Script.wait) league date).run (Script.ofOutcomes outcomes)

/-- If a fetch ends with an error, the error is worth another try exactly if the tries are used up:
all requests that the policy allows were made, and the last of them may do better later. -/
def RetriesAgree (service : SnapshotService) (league : String) (date : Date)
    (outcomes : ℕ → Outcome) : Prop :=
  ∀ e, (service.fetchRun league date outcomes).1 = .error e →
    (e.isRetryable = true ↔
      service.policy.IsExhausted outcomes (service.fetchRun league date outcomes).2.asked)

variable {service : SnapshotService} {league : String} {date : Date} {outcomes : ℕ → Outcome}

/-- At an address of the web a fetch is the run of the loop. -/
theorem fetchRun_of_isWeb {url : Url} (hurl : service.address? league date = .ok url)
    (hweb : url.isWeb = true) {k : ℕ} (hk : service.policy.IsSettledAt outcomes k) :
    service.fetchRun league date outcomes =
      (tableOf? url league date (outcomes k),
        Script.answered service.policy outcomes url k) :=
  run_fetch_of_isWeb hurl hweb hk

/-- Any other address is not asked, and no try can help. -/
theorem fetchRun_of_not_isWeb {url : Url} (hurl : service.address? league date = .ok url)
    (hweb : url.isWeb = false) :
    service.fetchRun league date outcomes =
      (.error (.transport .broken url), Script.ofOutcomes outcomes) :=
  run_fetch_of_not_isWeb hurl hweb outcomes

/-- Without an address nothing is asked either, but the error says that it is worth another try. -/
theorem fetchRun_of_no_address {e : UrlError} (h : service.address? league date = .error e) :
    service.fetchRun league date outcomes =
      (.error (.service (.network s!"invalid snapshot URL: {e.message}")),
        Script.ofOutcomes outcomes) := by
  rw [fetchRun, fetch, h]
  rfl

/-- Where nothing was asked the tries are not used up. -/
theorem not_isExhausted_nil (policy : RetryPolicy) :
    ¬ policy.IsExhausted outcomes [] := fun h => by
  cases h.length_asked

/-- The judgements part where there is no address. -/
theorem RetriesAgree.exists_address (h : service.RetriesAgree league date outcomes) :
    ∃ url, service.address? league date = .ok url := by
  cases haddress : service.address? league date with
  | ok url => exact ⟨url, rfl⟩
  | error e =>
    rw [RetriesAgree, fetchRun_of_no_address haddress] at h
    exact absurd ((h _ rfl).mp rfl) (not_isExhausted_nil _)

/-- The judgements part where the reply that settles a fetch is beyond the codes of failing
services. -/
theorem RetriesAgree.not_isBeyond (h : service.RetriesAgree league date outcomes) {url : Url}
    (hurl : service.address? league date = .ok url) (hweb : url.isWeb = true) {k : ℕ}
    (hk : service.policy.IsSettledAt outcomes k) : ¬ (outcomes k).IsBeyond := by
  intro hbeyond
  obtain ⟨e, he⟩ := hbeyond.exists_error url league date
  rw [RetriesAgree, fetchRun_of_isWeb hurl hweb hk] at h
  have hexhausted := (h e he).mp ((isRetryable_of_tableOf?_eq_error he).mpr (.inr hbeyond))
  exact hbeyond.not_isTemporary ((hk.isExhausted_iff url).mp hexhausted)

/-- **When the two judgements agree.** Whatever comes of the requests, an error is worth another try
exactly if the tries are used up, provided that the service has a valid address and the request that
settles the fetch is not answered with a code above those of failing services. Where one of these
fails, so does the agreement. -/
theorem retriesAgree_iff (service : SnapshotService) (league : String) (date : Date)
    (outcomes : ℕ → Outcome) :
    service.RetriesAgree league date outcomes ↔
      ∃ url, service.address? league date = .ok url ∧
        (url.isWeb = true → ∀ k, service.policy.IsSettledAt outcomes k →
          ¬ (outcomes k).IsBeyond) := by
  constructor
  · intro h
    obtain ⟨url, hurl⟩ := h.exists_address
    exact ⟨url, hurl, fun hweb k hk => h.not_isBeyond hurl hweb hk⟩
  · rintro ⟨url, hurl, hbeyond⟩ e he
    cases hweb : url.isWeb with
    | true =>
      obtain ⟨k, hk⟩ := service.policy.exists_isSettledAt outcomes
      rw [fetchRun_of_isWeb hurl hweb hk] at he ⊢
      rw [isRetryable_of_tableOf?_eq_error he, or_iff_left (hbeyond hweb k hk)]
      exact (hk.isExhausted_iff url).symm
    | false =>
      rw [fetchRun_of_not_isWeb hurl hweb] at he ⊢
      obtain rfl := Except.error.inj he
      exact iff_of_false Bool.false_ne_true (not_isExhausted_nil _)

/-- **An address that is none:** nothing is asked, and the error is worth another try. -/
theorem not_retriesAgree_noAddress :
    ¬ (ofUrl "nope").RetriesAgree "Standard" ⟨2021, 3, 1, by decide⟩
      fun _ => .response { status := 200 } := by
  intro h
  obtain ⟨url, hurl⟩ := h.exists_address
  have hnone : Url.parse? ((ofUrl "nope").baseUrl ++ "/rates").toList = .error .noScheme := by
    decide +kernel
  rw [address?, hnone] at hurl
  cases hurl

end SnapshotService

end LootLedger.Http
