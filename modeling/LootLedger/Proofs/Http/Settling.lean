import LootLedger.Http.Script
import LootLedger.Http.Snapshot
import LootLedger.Proofs.Text.Numeral
import Mathlib.Algebra.BigOperators.Group.Finset.Basic
import Mathlib.Data.List.TakeWhile
import Mathlib.Data.Nat.Find
import Mathlib.Order.Bounds.Basic

/-!
# Which request settles a fetch

A service is asked again as long as that may help and the policy allows it. What comes of the
requests is not known beforehand, so a fetch is run against an endless list of outcomes, of which it
takes as many as it needs: outcome `k` is what comes of request `k`, counted from zero. The request
that settles the fetch is the first one that is not worth repeating, or else the last one that the
policy allows. The outcomes of the earlier requests decide how long the client waits and nothing
more.

What a reply says is told by its parts: by its status, by the first header in which it asks for a
pause, and by its body. None of that is told by how the client reads it.

## The run

Requests can be sent in any kind of world, so the loop is run in any. All that it takes is a list of
outcomes that the world follows: before request `n` it is in a state from which the request has
outcome `n`, and after the pause that the policy has for that outcome it is in a state before
request `n + 1` (`RetryPolicy.Follows`). A network that gives its outcomes in order is such a world:
after `n` requests the address was asked `n` times, and every pause is the one the policy has for
its request (`Script.repeated`).

## Main definitions

* `Http.Outcome.IsTemporary`: the same request may do better later
* `Http.Response.HasDelay`, `Http.Response.Carries`: the pause that a reply asks for, and its text
* `Http.IsAnswer`: what an outcome says to the one who asked for a table
* `Http.RetryPolicy.IsSettledAt`: the request that settles what is asked for
* `Http.RetryPolicy.Follows`: a world in which requests have given outcomes
* `Http.Script.ofOutcomes`: a network that gives its outcomes in order
* `Http.SnapshotService.SettledBy`: what was asked, waited and answered if a request settles a fetch

## Main results

* `Http.Response.retryAfter?_eq_some_iff`: the pause that a reply asks for is the one reckoned with
* `Http.isAnswer_iff`: every outcome has one answer
* `Http.RetryPolicy.Follows.settle`: which outcome the loop ends with
* `Http.SnapshotService.exists_settledBy`: the request that settles a fetch
-/

namespace LootLedger.Http

open Text (Chars)

/-! ### Outcomes -/

/-- The same request may do better later: the service is out of reach or too slow, or it is asked
too often, or it fails. -/
def Outcome.IsTemporary : Outcome → Prop
  | .response r => r.status = 429 ∨ 500 ≤ r.status ∧ r.status ≤ 599
  | .failure f => f = .unreachable

theorem Outcome.isRetryable_iff {o : Outcome} : o.isRetryable = true ↔ o.IsTemporary := by
  cases o with
  | response r =>
    simp only [isRetryable, isBusy, tooManyRequests, isServerError, IsTemporary, Bool.or_eq_true,
      beq_iff_eq, Bool.and_eq_true, decide_eq_true_eq]
    omega
  | failure f => exact beq_iff_eq

/-! ### What replies say -/

/-- The name of the header in which a service asks for a pause, in any case of its letters. -/
def NamesRetryAfter (name : String) : Prop :=
  name.toList.map Char.toLower = "retry-after".toList

/-- The value of a header is a number of 64 bits: digits, perhaps with a plus sign in front, and
with nothing but spaces and tabs around. -/
def IsWordValue (value : Chars) (n : UInt64) : Prop :=
  ∃ left sign ds right, value = left ++ (sign ++ ds) ++ right ∧
    (∀ c ∈ left ++ right, c = ' ' ∨ c = '\t') ∧ (sign = [] ∨ sign = ['+']) ∧
    Text.IsNumeralOf n.toNat ds

/-- The reply asks for a pause of so many seconds. Of several headers of the name only the first one
counts. -/
def Response.HasDelay (r : Response) (seconds : UInt64) : Prop :=
  ∃ before name value after, r.headers = before ++ (name, value) :: after ∧ NamesRetryAfter name ∧
    (∀ h ∈ before, ¬ NamesRetryAfter h.1) ∧ IsWordValue value.toList seconds

/-- Only a reply can ask for a pause. -/
def Outcome.HasDelay (o : Outcome) (seconds : UInt64) : Prop :=
  match o with
  | .response r => r.HasDelay seconds
  | .failure _ => False

/-- The reply carries the text: its body, unless its status is one of those that have none. -/
def Response.Carries (r : Response) (text : String) : Prop :=
  text = if r.status = 204 ∨ r.status = 304 then "" else r.body

section

variable {s left right : Chars}

/-- The space around a text without any is not part of it. -/
theorem trimHeader_append (hleft : ∀ c ∈ left, c = ' ' ∨ c = '\t')
    (hright : ∀ c ∈ right, c = ' ' ∨ c = '\t') (hs : ∀ c ∈ s, ¬ (c = ' ' ∨ c = '\t')) :
    Response.trimHeader (left ++ s ++ right) = s := by
  have hpadding (c : Char) : (c == ' ' || c == '\t') = true ↔ c = ' ' ∨ c = '\t' := by simp
  simp only [← hpadding] at hleft hright hs
  rw [Response.trimHeader, List.append_assoc, List.dropWhile_append_of_pos hleft]
  rcases s with _ | ⟨c, s⟩
  · rw [List.nil_append, List.dropWhile_eq_nil_iff.mpr hright]
    rfl
  · obtain ⟨d, t, hdt⟩ := List.exists_cons_of_ne_nil
      (List.reverse_ne_nil_iff.mpr (List.cons_ne_nil c s))
    have hd : d ∈ c :: s := List.mem_reverse.mp (hdt ▸ List.mem_cons_self)
    have hkept {e : Char} (he : e ∈ c :: s) (t : Chars) :
        (e :: t).dropWhile (fun c => c == ' ' || c == '\t') = e :: t :=
      List.dropWhile_cons_of_neg (hs e he)
    rw [List.cons_append, hkept List.mem_cons_self, ← List.cons_append, List.reverse_append,
      List.dropWhile_append_of_pos fun d hd => hright d (List.mem_reverse.mp hd), hdt, hkept hd,
      ← hdt, List.reverse_reverse]

/-- A text is what is left of it without the space around, and that space. -/
theorem exists_eq_append_trimHeader (s : Chars) : ∃ left right,
    s = left ++ Response.trimHeader s ++ right ∧ ∀ c ∈ left ++ right, c = ' ' ∨ c = '\t' := by
  have hpadding (t : Chars) :
      ∀ c ∈ t.takeWhile (fun c => c == ' ' || c == '\t'), c = ' ' ∨ c = '\t' := fun c hc => by
    simpa using List.mem_takeWhile_imp hc
  have hsplit (t : Chars) := @List.takeWhile_append_dropWhile _ (fun c => c == ' ' || c == '\t') t
  refine ⟨s.takeWhile (fun c => c == ' ' || c == '\t'),
    ((s.dropWhile (fun c => c == ' ' || c == '\t')).reverse.takeWhile
      (fun c => c == ' ' || c == '\t')).reverse, ?_, fun c hc => ?_⟩
  · rw [Response.trimHeader, List.append_assoc, ← List.reverse_append, hsplit, List.reverse_reverse,
      hsplit]
  · rw [List.mem_append, List.mem_reverse] at hc
    exact hc.elim (hpadding _ c) (hpadding _ c)

end

/-- The value of a header is read as a number without the space around it. -/
theorem readNat?_trimHeader {value : Chars} {n : UInt64} :
    Text.readNat? Text.max64 (Response.trimHeader value) = some n.toNat ↔ IsWordValue value n := by
  have hle : n.toNat ≤ Text.max64 := Nat.le_sub_one_of_lt (UInt64.toNat_lt n)
  rw [Text.readNat?_eq_some_iff]
  constructor
  · rintro ⟨sign, ds, htrim, hsign, hn, -⟩
    obtain ⟨left, right, hvalue, hpadding⟩ := exists_eq_append_trimHeader value
    exact ⟨left, sign, ds, right, htrim ▸ hvalue, hpadding, hsign, hn⟩
  · rintro ⟨left, sign, ds, right, rfl, hpadding, hsign, hn⟩
    rw [List.forall_mem_append] at hpadding
    refine ⟨sign, ds, trimHeader_append hpadding.1 hpadding.2 fun c hc => ?_, hsign, hn, hle⟩
    -- neither a sign nor a digit is space
    rcases List.mem_append.mp hc with hc | hc
    · rcases hsign with rfl | rfl
      · cases hc
      · rw [List.mem_singleton.mp hc]
        decide
    · have hdigit := hn.isDigit c hc
      rintro (rfl | rfl) <;> cases hdigit

theorem equalIgnoringCase_iff {name : String} :
    Text.equalIgnoringCase name.toList "retry-after".toList = true ↔ NamesRetryAfter name := by
  have hlower : Text.lowerAscii "retry-after".toList = "retry-after".toList := by decide
  rw [Text.equalIgnoringCase, hlower, beq_iff_eq]
  rfl

/-- **The pause that is reckoned with** is the one that the reply asks for. -/
theorem Response.retryAfter?_eq_some_iff {r : Response} {seconds : UInt64} :
    r.retryAfter? = some seconds ↔ r.HasDelay seconds := by
  have hread (value : Chars) :
      (Text.readNat? Text.max64 (trimHeader value)).map (·.toUInt64) = some seconds ↔
        IsWordValue value seconds := by
    rw [← readNat?_trimHeader, Option.map_eq_some_iff]
    constructor
    · rintro ⟨n, hn, rfl⟩
      obtain ⟨-, -, -, -, -, hle⟩ := Text.readNat?_eq_some_iff.mp hn
      rw [hn, Nat.toUInt64_eq, UInt64.toNat_ofNat_of_lt' (Nat.lt_of_le_pred (by decide) hle)]
    · exact fun hn => ⟨_, hn, by rw [Nat.toUInt64_eq, UInt64.ofNat_toNat]⟩
  rw [retryAfter?, header?, Option.bind_map, Option.map_bind, Option.bind_eq_some_iff]
  constructor
  · rintro ⟨⟨name, value⟩, hfind, hvalue⟩
    obtain ⟨hname, before, after, hheaders, hbefore⟩ := List.find?_eq_some_iff_append.mp hfind
    refine ⟨before, name, value, after, hheaders, equalIgnoringCase_iff.mp hname, fun h hh => ?_,
      (hread _).mp hvalue⟩
    rw [← equalIgnoringCase_iff, Bool.not_eq_true]
    exact Bool.not_eq_true' _ ▸ hbefore h hh
  · rintro ⟨before, name, value, after, hheaders, hname, hbefore, hvalue⟩
    refine ⟨(name, value), List.find?_eq_some_iff_append.mpr ⟨equalIgnoringCase_iff.mpr hname,
      before, after, hheaders, fun h hh => ?_⟩, (hread _).mpr hvalue⟩
    rw [Bool.not_eq_true', ← Bool.not_eq_true, equalIgnoringCase_iff]
    exact hbefore h hh

theorem Outcome.retryAfter?_eq_some_iff {o : Outcome} {seconds : UInt64} :
    o.retryAfter? = some seconds ↔ o.HasDelay seconds := by
  cases o with
  | response r => exact r.retryAfter?_eq_some_iff
  | failure f => exact ⟨nofun, nofun⟩

/-- What the delay of an outcome is, is told by what it asks for. -/
theorem Response.retryAfter?_eq_iff {r : Response} {delay : Option UInt64} :
    r.retryAfter? = delay ↔ ∀ seconds, delay = some seconds ↔ r.HasDelay seconds := by
  simp only [← retryAfter?_eq_some_iff]
  constructor
  · rintro rfl seconds
    rfl
  · exact fun h => Option.ext fun seconds => (h seconds).symm

theorem Response.carries_iff {r : Response} {text : String} : r.Carries text ↔ r.text = text := by
  have hbodiless : isBodiless r.status = true ↔ r.status = 204 ∨ r.status = 304 := by
    rw [isBodiless, Bool.or_eq_true, beq_iff_eq, beq_iff_eq]
  rw [Carries, Response.text, eq_comm]
  simp only [hbodiless]

/-- What an outcome says to the one who asked for the table of a league and a date. -/
inductive IsAnswer (league : String) (date : Date) (url : Url) :
    Outcome → Except FetchError (PriceTable Float) → Prop
  | table {r text sections} : 200 ≤ r.status → r.status ≤ 299 → r.Carries text →
      (Json.parse? text.toList).bind PriceTable.sections? = some sections →
      IsAnswer league date url (.response r) (.ok { date, sections })
  | noTable {r text} : 200 ≤ r.status → r.status ≤ 299 → r.Carries text →
      (Json.parse? text.toList).bind PriceTable.sections? = none →
      IsAnswer league date url (.response r) (.error .invalidSnapshot)
  | missing {r} : r.status = 404 → IsAnswer league date url (.response r)
      (.error (.service (.noSnapshot league (String.ofList date.text))))
  | rateLimited {r delay} : r.status = 429 →
      (∀ seconds, delay = some seconds ↔ r.HasDelay seconds) →
      IsAnswer league date url (.response r) (.error (.service (.rateLimited delay)))
  /-- The reply explains itself, or the standard phrase of its status stands in. -/
  | status {r text message} : ¬ (200 ≤ r.status ∧ r.status ≤ 299) → r.status ≠ 404 →
      r.status ≠ 429 → r.Carries text →
      message = (if text = "" then (reason? r.status).getD "Unknown error" else text) →
      IsAnswer league date url (.response r) (.error (.service (.status r.status message)))
  | transport {f} : IsAnswer league date url (.failure f) (.error (.transport f url))

theorem isSuccess_iff {status : Nat} : isSuccess status = true ↔ 200 ≤ status ∧ status ≤ 299 := by
  simp only [isSuccess, Bool.and_eq_true, decide_eq_true_eq]
  omega

/-- **Every outcome has one answer.** -/
theorem isAnswer_iff {league : String} {date : Date} {url : Url} {o : Outcome}
    {answer : Except FetchError (PriceTable Float)} :
    IsAnswer league date url o answer ↔ tableOf? url league date o = answer := by
  have hno {status : Nat} (h : ¬ (200 ≤ status ∧ status ≤ 299)) : ¬ isSuccess status = true :=
    fun hs => h (isSuccess_iff.mp hs)
  constructor
  · intro h
    cases h with
    | table hlow hhigh htext hsections =>
      rw [tableOf?, if_pos (isSuccess_iff.mpr ⟨hlow, hhigh⟩), Response.carries_iff.mp htext,
        hsections]
    | noTable hlow hhigh htext hsections =>
      rw [tableOf?, if_pos (isSuccess_iff.mpr ⟨hlow, hhigh⟩), Response.carries_iff.mp htext,
        hsections]
    | missing hstatus =>
      rw [tableOf?, if_neg (hno (by omega)), Response.error, notFound, if_pos hstatus]
    | rateLimited hstatus hdelay =>
      rw [tableOf?, if_neg (hno (by omega)), Response.error, notFound, tooManyRequests,
        if_neg (by omega), if_pos hstatus, Response.retryAfter?_eq_iff.mpr hdelay]
    | status hnot hmissing hlimit htext hmessage =>
      rw [tableOf?, if_neg (hno hnot), Response.error, notFound, tooManyRequests,
        if_neg hmissing, if_neg hlimit, Response.carries_iff.mp htext, hmessage]
      split <;> rfl
    | transport => rfl
  · rintro rfl
    cases o with
    | failure f => exact .transport
    | response r =>
      have htext : r.Carries r.text := Response.carries_iff.mpr rfl
      rw [tableOf?]
      split
      · next hsuccess =>
        obtain ⟨hlow, hhigh⟩ := isSuccess_iff.mp hsuccess
        split
        · next hsections => exact .table hlow hhigh htext hsections
        · next hsections => exact .noTable hlow hhigh htext hsections
      · next hnot =>
        rw [isSuccess_iff] at hnot
        rw [Response.error]
        split
        · next hmissing => exact .missing hmissing
        · next hmissing =>
          split
          · next hlimit => exact .rateLimited hlimit (Response.retryAfter?_eq_iff.mp rfl)
          · next hlimit =>
            split
            · next hempty => exact .status hnot hmissing hlimit htext (by rw [if_pos hempty])
            · next hempty => exact .status hnot hmissing hlimit htext (by rw [if_neg hempty])

/-! ### The run -/

namespace RetryPolicy

section

variable (policy : RetryPolicy) (outcomes : ℕ → Outcome)

/-- The pause after request `n`, if it is repeated. -/
def waitAfter (n : ℕ) : Wait where
  attempt := UInt32.ofNat n
  after := outcomes n
  seconds := policy.pause (UInt32.ofNat n) (outcomes n).retryAfter?

/-- Request `k` settles what is asked for: it is the first one that is not worth repeating, or the
last one that the policy allows. -/
def IsSettledAt (k : ℕ) : Prop :=
  IsLeast {k | ¬ (outcomes k).IsTemporary ∨ k = policy.maxRetries.toNat} k

theorem exists_isSettledAt : ∃ k, policy.IsSettledAt outcomes k := by
  classical
  have hex : ∃ k, ¬ (outcomes k).IsTemporary ∨ k = policy.maxRetries.toNat := ⟨_, .inr rfl⟩
  exact ⟨Nat.find hex, Nat.find_spec hex, fun k hk => Nat.find_min' hex hk⟩

/-- The world follows the outcomes: from a state before request `n` the request has outcome `n`, and
the pause after that leads to a state before the next request. -/
structure Follows {S : Type} (send : StateM S Outcome) (wait : Wait → StateM S Unit)
    (before after : ℕ → S → Prop) : Prop where
  send : ∀ n s, before n s → (send.run s).1 = outcomes n ∧ after n (send.run s).2
  wait : ∀ n s, after n s → before (n + 1) ((wait (policy.waitAfter outcomes n)).run s).2

end

variable {policy : RetryPolicy} {outcomes : ℕ → Outcome} {S : Type} {send : StateM S Outcome}
  {wait : Wait → StateM S Unit} {before after : ℕ → S → Prop}

/-- A request that is not worth repeating ends the loop. -/
theorem settleFrom_succ_of_not_isRetryable {s : S} (h : ¬ (send.run s).1.isRetryable = true)
    (attempt : UInt32) (left : ℕ) :
    (policy.settleFrom send wait attempt (left + 1)).run s = send.run s := by
  rw [settleFrom, StateT.run_bind]
  change StateT.run (if _ then _ else _) _ = _
  rw [if_neg h]
  rfl

/-- A request that is worth repeating is repeated after its pause. -/
theorem settleFrom_succ_of_isRetryable {s : S} (h : (send.run s).1.isRetryable = true)
    (attempt : UInt32) (left : ℕ) :
    (policy.settleFrom send wait attempt (left + 1)).run s =
      (policy.settleFrom send wait (attempt + 1) left).run
        ((wait ⟨attempt, (send.run s).1, policy.pause attempt (send.run s).1.retryAfter?⟩).run
          (send.run s).2).2 := by
  rw [settleFrom, StateT.run_bind]
  change StateT.run (if _ then _ else _) _ = _
  rw [if_pos h]
  rfl

/-- A loop without requests ends at once, unless what stands for their outcome is worth another
try. -/
theorem settleFrom_pure {m : Type → Type} [Monad m] [LawfulMonad m] {o : Outcome}
    (h : ¬ o.isRetryable = true) (wait : Wait → m Unit) (attempt : UInt32) (left : ℕ) :
    policy.settleFrom (pure o) wait attempt left = pure o := by
  cases left with
  | zero => rfl
  | succ left => simp only [settleFrom, pure_bind, if_neg h]

/-- From a state before request `n`, the loop ends with request `k`, if that is the one that settles
the matter and is still to come. -/
theorem Follows.settleFrom (h : policy.Follows outcomes send wait before after) {k n left : ℕ}
    (hk : policy.IsSettledAt outcomes k) (hnk : n ≤ k)
    (hleft : n + left = policy.maxRetries.toNat) {s : S} (hs : before n s) :
    ((policy.settleFrom send wait (UInt32.ofNat n) left).run s).1 = outcomes k ∧
      after k ((policy.settleFrom send wait (UInt32.ofNat n) left).run s).2 := by
  induction left generalizing n s with
  | zero =>
    have hlast : k ≤ n := hk.2 (.inr hleft)
    obtain rfl : n = k := by omega
    exact h.send n s hs
  | succ left ih =>
    obtain ⟨houtcome, hafter⟩ := h.send n s hs
    by_cases hretry : (outcomes n).isRetryable = true
    · -- Request `k` is either no longer temporary or the last one, and this one is neither.
      have hne : n ≠ k := by
        rintro rfl
        obtain hend | hlast := hk.1
        · exact hend (Outcome.isRetryable_iff.mp hretry)
        · omega
      have hnext : UInt32.ofNat n + 1 = UInt32.ofNat (n + 1) := by simp
      have hbefore := h.wait n _ hafter
      rw [settleFrom_succ_of_isRetryable (houtcome ▸ hretry), houtcome, hnext]
      exact ih (by omega) (by omega) hbefore
    · have hend : k ≤ n := hk.2 (.inl (mt Outcome.isRetryable_iff.mpr hretry))
      obtain rfl : n = k := by omega
      rw [settleFrom_succ_of_not_isRetryable (houtcome ▸ hretry)]
      exact ⟨houtcome, hafter⟩

/-- **The run of the loop.** It ends with the request that settles the matter. -/
theorem Follows.settle (h : policy.Follows outcomes send wait before after) {k : ℕ}
    (hk : policy.IsSettledAt outcomes k) {s : S} (hs : before 0 s) :
    ((policy.settle send wait).run s).1 = outcomes k ∧
      after k ((policy.settle send wait).run s).2 :=
  h.settleFrom hk (Nat.zero_le k) (Nat.zero_add _) hs

end RetryPolicy

/-! ### A network that gives its outcomes in order -/

namespace Script

/-- A network that gives its outcomes in order, whatever it is asked. -/
def ofOutcomes (outcomes : ℕ → Outcome) : Script where
  outcome earlier _ := outcomes earlier.length

variable (policy : RetryPolicy) (outcomes : ℕ → Outcome) (url : Url)

/-- The network after `n` requests for an address, all of which are repeated. -/
def repeated (n : ℕ) : Script :=
  { ofOutcomes outcomes with
    asked := List.replicate n url
    waits := (List.range n).map (policy.waitAfter outcomes) }

/-- The network after one more request for the address. -/
def answered (n : ℕ) : Script :=
  { repeated policy outcomes url n with asked := List.replicate (n + 1) url }

theorem send_repeated (n : ℕ) :
    (send url).run (repeated policy outcomes url n) =
      (outcomes n, answered policy outcomes url n) := by
  rw [answered, List.replicate_succ']
  simp [send, StateT.run, repeated, ofOutcomes]

theorem wait_answered (n : ℕ) :
    (wait (policy.waitAfter outcomes n)).run (answered policy outcomes url n) =
      ((), repeated policy outcomes url (n + 1)) := by
  simp [wait, StateT.run, answered, repeated, List.range_succ]

theorem follows_ofOutcomes : policy.Follows outcomes (send url) wait
    (fun n s => s = repeated policy outcomes url n)
    (fun n s => s = answered policy outcomes url n) where
  send n s hs := by
    rw [hs, send_repeated]
    exact ⟨rfl, rfl⟩
  wait n s hs := by rw [hs, wait_answered]

variable {policy outcomes}

/-- Against outcomes that are given in order, the loop asks and waits as it must. -/
theorem settle_ofOutcomes {k : ℕ} (hk : policy.IsSettledAt outcomes k) :
    (policy.settle (send url) wait).run (ofOutcomes outcomes) =
      (outcomes k, answered policy outcomes url k) :=
  Prod.ext_iff.mpr ((follows_ofOutcomes policy outcomes url).settle hk rfl)

theorem paused_wait (w : Wait) (script : Script) :
    ((wait w).run script).2.paused = script.paused + w.seconds.toNat := by
  simp only [wait, StateT.run, paused]
  induction script.waits with
  | nil => simp
  | cons v waits ih => rw [List.cons_append, List.foldr_cons, List.foldr_cons, ih, Nat.add_assoc]

variable (policy outcomes)

/-- The seconds that were waited, request by request. -/
theorem paused_answered (k : ℕ) :
    (answered policy outcomes url k).paused =
      ∑ i ∈ Finset.range k, (policy.pause (UInt32.ofNat i) (outcomes i).retryAfter?).toNat := by
  induction k with
  | zero => rfl
  | succ k ih =>
    calc (answered policy outcomes url (k + 1)).paused
        = ((wait (policy.waitAfter outcomes k)).run (answered policy outcomes url k)).2.paused := by
          rw [wait_answered]; rfl
      _ = (answered policy outcomes url k).paused +
            (policy.waitAfter outcomes k).seconds.toNat := paused_wait _ _
      _ = _ := by rw [ih, Finset.sum_range_succ]; rfl

end Script

/-! ### Fetching -/

namespace SnapshotService

/-- Where a service is asked for a table, given where it has its tables. -/
def tableUrl (tables : Url) (league : String) (date : Date) : Url :=
  tables.withPairs [("league".toList, league.toList), ("date".toList, date.text)]

/-- What a fetch asked, waited and answered, if request `k` settles it: the address was asked for
the requests up to that one, the pauses are those between them, and the answer is what the outcome
of that request says. Each pause is reckoned with the delay that its outcome asks for, if any. -/
structure SettledBy (service : SnapshotService) (league : String) (date : Date) (url : Url)
    (outcomes : ℕ → Outcome) (run : Except FetchError (PriceTable Float) × Script)
    (delays : ℕ → Option UInt64) (k : ℕ) : Prop where
  settled : service.policy.IsSettledAt outcomes k
  delay : ∀ i seconds, delays i = some seconds ↔ (outcomes i).HasDelay seconds
  asked : run.2.asked = List.replicate (k + 1) url
  waits : run.2.waits = (List.range k).map fun i =>
    ⟨UInt32.ofNat i, outcomes i, service.policy.pause (UInt32.ofNat i) (delays i)⟩
  paused : run.2.paused =
    ∑ i ∈ Finset.range k, (service.policy.pause (UInt32.ofNat i) (delays i)).toNat
  answer : IsAnswer league date url (outcomes k) run.1

variable {service : SnapshotService} {tables : Url}

theorem address?_of_parse? (h : Url.parse? (service.baseUrl ++ "/rates").toList = .ok tables)
    (league : String) (date : Date) :
    service.address? league date = .ok (tableUrl tables league date) := by
  rw [address?, h]
  rfl

section

variable {league : String} {date : Date} {url : Url} (hurl : service.address? league date = .ok url)

include hurl

/-- At an address of the web a fetch is the run of the loop. -/
theorem fetch_of_isWeb {m : Type → Type} [Monad m] (hweb : url.isWeb = true)
    (send : Url → m Outcome) (wait : Url → Wait → m Unit) :
    service.fetch send wait league date =
      (do return tableOf? url league date (← service.policy.settle (send url) (wait url))) := by
  rw [fetch, hurl]
  simp only [hweb, if_true]

/-- Any other address is not asked. -/
theorem fetch_of_not_isWeb {m : Type → Type} [Monad m] [LawfulMonad m] (hweb : url.isWeb = false)
    (send : Url → m Outcome) (wait : Url → Wait → m Unit) :
    service.fetch send wait league date = pure (.error (.transport .broken url)) := by
  rw [fetch, hurl]
  simp only [hweb, Bool.false_eq_true, if_false, RetryPolicy.settle,
    RetryPolicy.settleFrom_pure (show ¬ (Outcome.failure .broken).isRetryable = true by decide),
    pure_bind]
  rfl

theorem run_fetch_of_isWeb (hweb : url.isWeb = true) {outcomes : ℕ → Outcome} {k : ℕ}
    (hk : service.policy.IsSettledAt outcomes k) :
    (service.fetch Script.send (fun _ => Script.wait) league date).run (.ofOutcomes outcomes) =
      (tableOf? url league date (outcomes k),
        Script.answered service.policy outcomes url k) := by
  rw [fetch_of_isWeb hurl hweb, StateT.run_bind, Script.settle_ofOutcomes url hk]
  rfl

theorem run_fetch_of_not_isWeb (hweb : url.isWeb = false) (outcomes : ℕ → Outcome) :
    (service.fetch Script.send (fun _ => Script.wait) league date).run (.ofOutcomes outcomes) =
      (.error (.transport .broken url), Script.ofOutcomes outcomes) := by
  rw [fetch_of_not_isWeb hurl hweb]
  rfl

end

/-- **One request settles a fetch.** At a service with a valid address, whatever comes of the
requests, a fetch ends with the first request that is not worth repeating or the last one that the
policy allows, and the outcome of that request alone is the answer. An address to which nothing can
be sent, because it is not on the web or too long, is not asked and fails at once. -/
theorem exists_settledBy (h : Url.parse? (service.baseUrl ++ "/rates").toList = .ok tables)
    (league : String) (date : Date) (outcomes : ℕ → Outcome) :
    let url := tableUrl tables league date
    let run := (service.fetch Script.send (fun _ => Script.wait) league date).run
      (Script.ofOutcomes outcomes)
    (url.isWeb = true → ∃ delays k, service.SettledBy league date url outcomes run delays k) ∧
      (url.isWeb = false →
        run = (.error (.transport .broken url), Script.ofOutcomes outcomes)) := by
  intro url run
  have hurl : service.address? league date = .ok url := address?_of_parse? h league date
  refine ⟨fun hweb => ?_, fun hweb => run_fetch_of_not_isWeb hurl hweb outcomes⟩
  obtain ⟨k, hk⟩ := service.policy.exists_isSettledAt outcomes
  have hrun : run = (tableOf? url league date (outcomes k),
      Script.answered service.policy outcomes url k) := run_fetch_of_isWeb hurl hweb hk
  rw [hrun]
  exact ⟨fun i => (outcomes i).retryAfter?, k, hk, fun _ _ => Outcome.retryAfter?_eq_some_iff,
    rfl, rfl, Script.paused_answered _ _ _ k, isAnswer_iff.mpr rfl⟩

/-- A service that fails, then is asked too often and says for how long, and then has the table. -/
theorem exists_settledBy_table :
    let service := ofUrl "http://a/" { maxRetries := 3 }
    let tables : Url := { scheme := "http".toList, authority := some { host := "a".toList },
                          path := "/rates".toList }
    let date : Date := ⟨2021, 3, 1, by decide⟩
    let outcomes : ℕ → Outcome
      | 0 => .response { status := 503 }
      | 1 => .response { status := 429, headers := [("retry-AFTER", " 7\t"), ("Retry-After", "9")] }
      | _ => .response
        { status := 200, body := "\x7b\"Currency\":\x7b\"Exalted Orb\":95.5\x7d\x7d" }
    let run := (service.fetch Script.send (fun _ => Script.wait) "Ritual" date).run
      (Script.ofOutcomes outcomes)
    Url.parse? (service.baseUrl ++ "/rates").toList = .ok tables ∧
      (tableUrl tables "Ritual" date).isWeb = true ∧
      (∃ delays k, service.SettledBy "Ritual" date (tableUrl tables "Ritual" date) outcomes run
        delays k) ∧
      run.2.asked.length = 3 ∧ run.2.waits.map Wait.seconds = [1, 7] ∧ run.2.paused = 8 ∧
      run.1.toOption.map (fun table => (table.date, table.sections)) =
        some (date, [("Currency", [("Exalted Orb", 95.5)])]) := by
  intro service tables date outcomes run
  have hparse : Url.parse? (service.baseUrl ++ "/rates").toList = .ok tables := by decide +kernel
  have hweb : (tableUrl tables "Ritual" date).isWeb = true := by decide +kernel
  exact ⟨hparse, hweb, (exists_settledBy hparse "Ritual" date outcomes).1 hweb, by decide +kernel,
    by decide +kernel, by decide +kernel, by decide +kernel⟩

end SnapshotService

/-! ### Any other network -/

namespace Script

/-- The network after `n` requests for an address. -/
def askedFor (network : Script) (url : Url) : ℕ → Script
  | 0 => network
  | n + 1 => ((ask url).run (askedFor network url n)).2

/-- What comes of request `n` for an address, counted from zero, on a network that is asked for
nothing else meanwhile. A request goes where it is sent on to. -/
def answers (network : Script) (url : Url) (n : ℕ) : Outcome :=
  ((ask url).run (network.askedFor url n)).1

/-- Pauses make no difference to what is answered. -/
theorem run_ask_withWaits (url : Url) (network : Script) (waits : List Wait) :
    (ask url).run { network with waits } =
      (((ask url).run network).1, { ((ask url).run network).2 with waits }) := by
  have hsend (url : Url) (network : Script) : (send url).run { network with waits } =
      (((send url).run network).1, { ((send url).run network).2 with waits }) := rfl
  rw [ask]
  generalize usualMoves = left
  induction left generalizing url network with
  | zero =>
    rw [askAround, StateT.run_bind, StateT.run_bind, hsend]
    rfl
  | succ left ih =>
    rw [askAround, StateT.run_bind, StateT.run_bind, hsend]
    dsimp only [Id.run, bind]
    split
    · rfl
    · split
      · exact ih _ _
      · rfl

end Script

namespace SnapshotService

/-- A fetch of the table of a league and a date has the table on a network: it is what the outcome
says that settles the fetch. -/
def Obtains (service : SnapshotService) (network : Script) (league : String) (date : Date)
    (table : PriceTable Float) : Prop :=
  ∃ url k, service.address? league date = .ok url ∧ url.isWeb = true ∧
    service.policy.IsSettledAt (network.answers url) k ∧
    IsAnswer league date url (network.answers url k) (.ok table)

/-- The table is of the date that is asked for. -/
theorem Obtains.date_eq {service : SnapshotService} {network : Script} {league : String}
    {date : Date} {table : PriceTable Float} (h : service.Obtains network league date table) :
    table.date = date := by
  obtain ⟨url, k, -, -, -, hanswer⟩ := h
  generalize network.answers url k = outcome at hanswer
  cases hanswer
  rfl

/-- There is no other table. -/
theorem Obtains.unique {service : SnapshotService} {network : Script} {league : String}
    {date : Date} {table table' : PriceTable Float} (h : service.Obtains network league date table)
    (h' : service.Obtains network league date table') : table = table' := by
  obtain ⟨url, k, hurl, -, hk, hanswer⟩ := h
  obtain ⟨url', k', hurl', -, hk', hanswer'⟩ := h'
  obtain rfl := Except.ok.inj (hurl.symm.trans hurl')
  obtain rfl := hk.unique hk'
  exact Except.ok.inj ((isAnswer_iff.mp hanswer).symm.trans (isAnswer_iff.mp hanswer'))

end SnapshotService

end LootLedger.Http
