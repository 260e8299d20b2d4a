import LootLedger.Proofs.Cli.Quiet
import LootLedger.Proofs.Http.Settling
import LootLedger.Proofs.Price.Document
import LootLedger.Proofs.Store.Saving

/-!
# What commands change

Two commands change a document. Either first takes quiet steps, all of which must succeed: only then
it saves, and after that it only talks. So a command that fails before the save has changed
nothing, and one that gets past it has succeeded. All other commands that depend on the settings are
quiet.

## Main definitions

* `Cli.FailsQuietly`: nothing was changed, and the action failed
* `Cli.Machine.Holds`: the file at a path can be read as a document
* `Cli.SavesDocument`: what happens to the files of a machine when a document is saved
* `Cli.Machine.HasAsked`: what a machine has asked of its network
* `Cli.Needs`: what has to be a document for an action to succeed

## Main results

* `Cli.runOn_withDocument`: how an action begins with a document
* `Cli.obtains_of_run_fetch`: what a machine fetches
* `Cli.runOn_saveFilter`, `Cli.runOn_fetchRates`: all that the two commands can do
* `Cli.needs_filterStore`, `Cli.needs_rateStore`: which command needs which document
-/

namespace LootLedger.Cli

variable {α β ε : Type} {k k' : Machine}

/-! ### Steps that succeed -/

theorem eq_ok_of_runOn_require {failure : ε → Failure} {x : Except ε α} {a : α}
    (h : runOn k (require failure x) = (.ok a, k')) : x = .ok a := by
  cases x with
  | ok b =>
    obtain rfl := Except.ok.inj (Prod.mk.inj h).1
    rfl
  | error e => cases (Prod.mk.inj h).1

theorem run_eq_ok_of_runOn_demand {failure : ε → Failure} {x : StateM Machine (Except ε α)} {a : α}
    (h : runOn k (demand failure x) = (.ok a, k')) : x.run k = (.ok a, k') := by
  obtain ⟨r, k₁, hrun⟩ : ∃ r k₁, x.run k = (r, k₁) := ⟨_, _, rfl⟩
  rw [demand, runOn_bind_of_ok (runOn_perform k x), hrun] at h
  rw [hrun]
  cases r with
  | ok b =>
    obtain ⟨hb, rfl⟩ := Prod.mk.inj h
    rw [Except.ok.inj hb]
  | error e => cases (Prod.mk.inj h).1

theorem readText_of_runOn_readFile {file text : String}
    (h : runOn k (readFile file) = (.ok text, k')) : k.disk.readText k.here file = .ok text :=
  (Prod.mk.inj (run_eq_ok_of_runOn_demand h)).1

/-- A save that is refused is the only failure of its step. -/
theorem runOn_demand (failure : ε → Failure) {x : StateM Machine (Except ε α)} {r : Except ε α}
    (h : x.run k = (r, k')) : runOn k (demand failure x) = (r.mapError failure, k') := by
  rw [demand, runOn_bind_of_ok (runOn_perform k x), h]
  cases r <;> rfl

/-- What was talked of has no influence on what comes of an action. -/
theorem IsTalk.runOn_bind {x : Action (StateM Machine) Unit} (hx : IsTalk x)
    (f : Unit → Action (StateM Machine) β) (k : Machine) :
    ∃ k', k.HasSaid k' ∧ runOn k (x >>= f) = runOn k' (f ()) := by
  obtain ⟨k', hrun, hk⟩ := hx k
  exact ⟨k', hk, runOn_bind_of_ok hrun f⟩

/-! ### Failing before anything is changed -/

/-- Nothing was changed, and the action failed. -/
def FailsQuietly (k : Machine) (after : Except Failure α × Machine) : Prop :=
  k.Agrees after.2 ∧ ∃ e, after.1 = .error e

theorem FailsQuietly.of_agrees {after : Except Failure α × Machine} (hk : k.Agrees k')
    (h : FailsQuietly k' after) : FailsQuietly k after :=
  ⟨hk.trans h.1, h.2⟩

/-- **A quiet step** fails and changes nothing, or the action goes on where nothing has changed. -/
theorem IsQuiet.runOn_bind {x : Action (StateM Machine) α} (hx : IsQuiet x)
    (f : α → Action (StateM Machine) β) (k : Machine) :
    FailsQuietly k (runOn k (x >>= f)) ∨
      ∃ a k', runOn k x = (.ok a, k') ∧ k.Agrees k' ∧ runOn k (x >>= f) = runOn k' (f a) := by
  have hk := hx k
  obtain ⟨r, k', hrun⟩ : ∃ r k', runOn k x = (r, k') := ⟨_, _, rfl⟩
  rw [hrun] at hk
  cases r with
  | ok a => exact .inr ⟨a, k', hrun, hk, runOn_bind_of_ok hrun f⟩
  | error e => exact .inl (by rw [runOn_bind_of_error hrun]; exact ⟨hk, e, rfl⟩)

/-! ### Loading -/

/-- A step that loads a document has the one that the file stands for. -/
theorem denotes_of_runOn_load {D : Type} [StoredDocument D] {store : DocumentStore D} {d : D}
    (hmissing : k.disk.TellsMissing k.here store.path)
    (h : runOn k (demand Failure.store store.loadOrEmpty) = (.ok d, k')) :
    StoredDocument.Denotes (k.disk.fileAt? k.here store.path) d :=
  DocumentStore.denotes_of_loadOrEmpty hmissing (run_eq_ok_of_runOn_demand h)

/-- **An action that begins with a document** fails and changes nothing, or it has the document that
the file stands for and goes on where nothing has changed. -/
theorem runOn_withDocument {D : Type} [StoredDocument D]
    (place : Environment → Except StoreError (DocumentStore D))
    (f : DocumentStore D → D → Action (StateM Machine) α) (k : Machine) :
    FailsQuietly k (runOn k (do
      let store ← require .store (place (← perform Host.environment))
      let d ← demand .store store.loadOrEmpty
      f store d)) ∨
      ∃ store d k', place k.environment = .ok store ∧ k.Agrees k' ∧
        (k.disk.TellsMissing k.here store.path →
          StoredDocument.Denotes (k.disk.fileAt? k.here store.path) d) ∧
        runOn k (do
          let store ← require .store (place (← perform Host.environment))
          let d ← demand .store store.loadOrEmpty
          f store d) = runOn k' (f store d) := by
  rw [runOn_bind_of_ok (runOn_environment k)]
  rcases (isQuiet_require Failure.store (place k.environment)).runOn_bind _ k with
    hfail | ⟨store, k₁, hplace, hk₁, hrun⟩
  · exact .inl hfail
  rw [hrun]
  clear hrun
  rcases (isQuiet_demand Failure.store (isQuietOperation_loadOrEmpty store)).runOn_bind _ k₁ with
    hfail | ⟨d, k₂, hload, hk₂, hrun⟩
  · exact .inl (.of_agrees hk₁ hfail)
  refine .inr ⟨store, d, k₂, eq_ok_of_runOn_require hplace, hk₁.trans hk₂, fun hmissing => ?_, hrun⟩
  rw [← hk₁.disk, ← hk₁.here] at hmissing ⊢
  exact denotes_of_runOn_load hmissing hload

/-- The file at a path can be read as a document. -/
def Machine.Holds {D : Type} [StoredDocument D] (k : Machine) (path : String) (d : D) : Prop :=
  ∃ text, k.disk.readText k.here path = .ok text ∧ StoredDocument.parse? text = some d

/-- What a file can be read as depends on the disk alone. -/
theorem Machine.Holds.congr {D : Type} [StoredDocument D] {path : String} {d : D}
    (h : k.Holds path d) (hdisk : k'.disk = k.disk) (hhere : k'.here = k.here) :
    k'.Holds path d := by
  rwa [Machine.Holds, hdisk, hhere]

/-- A file stands for the document that it can be read as. -/
theorem Machine.Holds.denotes {D : Type} [StoredDocument D] {path : String} {d : D}
    (h : k.Holds path d) : StoredDocument.Denotes (k.disk.fileAt? k.here path) d := by
  obtain ⟨text, hread, hparse⟩ := h
  rw [Disk.fileAt?_of_readText hread]
  exact hparse

/-- A document that a file can be read as is loaded, and nothing else happens. -/
theorem Machine.Holds.runOn_load {D : Type} [StoredDocument D] {store : DocumentStore D} {d : D}
    (h : k.Holds store.path d) :
    runOn k (demand Failure.store store.loadOrEmpty) = (.ok d, k) := by
  obtain ⟨text, hread, hparse⟩ := h
  rw [runOn_demand _ (DocumentStore.run_loadOrEmpty_of_readText hread), hparse]
  rfl

/-! ### Saving -/

/-- A document was loaded, another one was made of it and saved, and the action ended as the save
did. -/
structure SavesDocument {D : Type} [StoredDocument D] (k : Machine) (store : DocumentStore D)
    (loaded saved : D) (after : Except Failure Unit × Machine) : Prop where
  denotes : k.disk.TellsMissing k.here store.path →
    StoredDocument.Denotes (k.disk.fileAt? k.here store.path) loaded
  saves : ∃ disk' r, store.Saves saved k.here k.disk disk' r ∧
    Machine.Agrees { k with disk := disk' } after.2 ∧ after.1 = r.mapError Failure.store

theorem Machine.Agrees.withDisk (h : k.Agrees k') (disk : Disk) :
    Machine.Agrees { k with disk } { k' with disk } :=
  ⟨rfl, h.here, h.environment, h.clock, h.input⟩

section

variable {D : Type} [StoredDocument D] {store : DocumentStore D} {loaded saved : D}
  {after : Except Failure Unit × Machine}

/-- A save that succeeds leaves the new document, and it can be read. -/
theorem SavesDocument.readText_of_ok (h : SavesDocument k store loaded saved after)
    (hok : after.1 = .ok ()) :
    after.2.disk.readText k.here store.path = .ok (StoredDocument.text saved) := by
  obtain ⟨-, disk', r, hsaves, hafter, hr⟩ := h
  rw [hafter.disk]
  cases r with
  | ok _ => exact hsaves.ok rfl
  | error e => cases hok.symm.trans hr

/-- A save that succeeds leaves a file that can be read as what was saved. -/
theorem SavesDocument.holds_of_ok (h : SavesDocument k store loaded saved after)
    (hok : after.1 = .ok ())
    (hparse : StoredDocument.parse? (StoredDocument.text saved) = some saved) :
    after.2.Holds store.path saved := by
  obtain ⟨-, disk', r, -, hafter, -⟩ := id h
  refine ⟨_, ?_, hparse⟩
  rw [show after.2.here = k.here from hafter.here]
  exact h.readText_of_ok hok

/-- A save that is refused leaves the document that was there. -/
theorem SavesDocument.fileAt?_of_error (h : SavesDocument k store loaded saved after) {e : Failure}
    (herror : after.1 = .error e) :
    after.2.disk.fileAt? k.here store.path = k.disk.fileAt? k.here store.path := by
  obtain ⟨-, disk', r, hsaves, hafter, hr⟩ := h
  rw [hafter.disk]
  cases r with
  | ok _ => cases herror.symm.trans hr
  | error e => exact hsaves.error e rfl

/-- A save leaves all files where neither the document nor its draft is. -/
theorem SavesDocument.fileAt?_of_ne (h : SavesDocument k store loaded saved after) {path : String}
    (hne : Disk.place k.here path ≠ Disk.place k.here store.path)
    (hne' : Disk.place k.here path ≠ Disk.place k.here store.draftPath) :
    after.2.disk.fileAt? k.here path = k.disk.fileAt? k.here path := by
  obtain ⟨-, disk', r, hsaves, hafter, -⟩ := h
  rw [hafter.disk]
  exact Disk.fileAt?_congr (hsaves.others _ hne hne')

theorem SavesDocument.of_agrees (hk : k.Agrees k') (h : SavesDocument k' store loaded saved after) :
    SavesDocument k store loaded saved after := by
  obtain ⟨hdenotes, disk', r, hsaves, hafter, hr⟩ := h
  rw [hk.disk, hk.here] at hdenotes hsaves
  exact ⟨hdenotes, disk', r, hsaves, (hk.withDisk disk').trans hafter, hr⟩

/-- A save that is followed by nothing but talk. -/
theorem savesDocument_of_talk {x : Action (StateM Machine) Unit} (hx : IsTalk x)
    (hdenotes : k.disk.TellsMissing k.here store.path →
      StoredDocument.Denotes (k.disk.fileAt? k.here store.path) loaded) :
    SavesDocument k store loaded saved
      (runOn k (demand .store (store.save saved) >>= fun _ => x)) := by
  obtain ⟨r, disk', hrun, hsaves⟩ := store.run_save saved k
  refine ⟨hdenotes, disk', r, hsaves, ?_⟩
  have hdemand := runOn_demand Failure.store hrun
  cases r with
  | error e =>
    rw [runOn_bind_of_error hdemand]
    exact ⟨.refl _, rfl⟩
  | ok _ =>
    rw [runOn_bind_of_ok hdemand]
    obtain ⟨k', htalk, hk'⟩ := hx { k with disk := disk' }
    rw [htalk]
    exact ⟨hk'.toAgrees, rfl⟩

end

/-! ### The two commands -/

/-- **All that saving a filter can do**: to fail before anything is changed, or to save the archive
with one more entry, which holds the text of the file. The text has no problems then, or saving it
was insisted on. -/
theorem runOn_saveFilter (console : Console) (settings : Settings) (file : String)
    (profile : Option String) (force : Bool) (k : Machine) :
    FailsQuietly k (runOn k (saveFilter console settings file profile force)) ∨
      ∃ text store archive, k.disk.readText k.here file = .ok text ∧
        ((Filter.parse text.toList).isClean = true ∨ force = true) ∧
        settings.filterStore? k.environment = .ok store ∧
        SavesDocument k store archive
          (archive.save { profile := profile.getD settings.profileName, savedAt := k.clock, text })
          (runOn k (saveFilter console settings file profile force)) := by
  rw [saveFilter]
  rcases (isQuiet_readFile file).runOn_bind _ k with hfail | ⟨text, k₁, hread, hk₁, hrun⟩
  · exact .inl hfail
  have htext := readText_of_runOn_readFile hread
  rw [hrun]
  clear hrun
  obtain ⟨k₂, hk₂, hrun⟩ := IsTalk.runOn_bind
    (isTalk_tell console.log (Event.compiled (Filter.parse text.toList))) _ k₁
  rw [hrun]
  clear hrun
  have hk := hk₁.trans hk₂.toAgrees
  dsimp only
  by_cases hrefuse : (!(Filter.parse text.toList).isClean && !force) = true
  · rw [if_pos hrefuse]
    refine .inl (.of_agrees hk ?_)
    split
    · obtain ⟨k₃, hk₃, hrun⟩ := IsTalk.runOn_bind (isTalk_remark _) _ k₂
      rw [hrun]
      exact ⟨hk₃.toAgrees, _, rfl⟩
    · exact ⟨.refl _, _, rfl⟩
  · rw [if_neg hrefuse]
    have hclean : (Filter.parse text.toList).isClean = true ∨ force = true := by
      rw [Bool.and_eq_true, Bool.not_eq_true', Bool.not_eq_true'] at hrefuse
      by_contra hneither
      rw [not_or, Bool.not_eq_true, Bool.not_eq_true] at hneither
      exact hrefuse hneither
    rcases runOn_withDocument settings.filterStore? _ k₂ with
      hfail | ⟨store, archive, k₃, hplace, hk₃, hdenotes, hrun⟩
    · exact .inl (.of_agrees hk hfail)
    rw [hrun, runOn_bind_of_ok (runOn_now k₃), hk₃.clock, hk.clock]
    rw [hk.environment] at hplace
    refine .inr ⟨text, store, archive, htext, hclean, hplace, .of_agrees (hk.trans hk₃) ?_⟩
    rw [← hk₃.disk, ← hk₃.here] at hdenotes
    exact savesDocument_of_talk ((isTalk_tell _ _).bind (isTalk_report _ _ _)) hdenotes

theorem runOn_dateOrToday (date : Option Date) (k : Machine) :
    runOn k (dateOrToday date) = (.ok (date.getD k.clock.date), k) := by
  cases date <;> rfl

/-- A machine whose network has been asked for an address, and for nothing else. -/
def Machine.HasAsked (k : Machine) (url : Url) (n : ℕ) (k' : Machine) : Prop :=
  ∃ waits, k'.network = { k.network.askedFor url n with waits }

/-- A pause does nothing to the network but pass. -/
def PassesTime (wait : Http.Wait → StateM Machine Unit) : Prop :=
  ∀ w (k : Machine), ((wait w).run k).2.network = ((Http.Script.wait w).run k.network).2

/-- A pause may be told of before. -/
theorem passesTime_tellAndWait (lines : Http.Wait → String) :
    PassesTime (fun w => do
      if lines w ≠ "" then Host.printError (lines w)
      Host.wait w) := by
  intro w k
  dsimp only
  split <;> rfl

/-- On a machine requests have the outcomes that its network gives. -/
theorem follows_answers (policy : Http.RetryPolicy) (k : Machine) (url : Url)
    {wait : Http.Wait → StateM Machine Unit} (hwait : PassesTime wait) :
    policy.Follows (k.network.answers url) (Host.send url : StateM Machine Http.Outcome) wait
      (fun n => k.HasAsked url n) (fun n => k.HasAsked url (n + 1)) where
  send n k' hk' := by
    obtain ⟨waits, hnetwork⟩ := hk'
    have hask := Http.Script.run_ask_withWaits url (k.network.askedFor url n) waits
    rw [← hnetwork] at hask
    exact ⟨congrArg Prod.fst hask, waits, congrArg Prod.snd hask⟩
  wait n k' hk' := by
    obtain ⟨waits, hnetwork⟩ := hk'
    rw [Machine.HasAsked, hwait, hnetwork]
    exact ⟨_, rfl⟩

/-- **A table that a machine fetches** is the one that the service has on its network. -/
theorem obtains_of_run_fetch {service : Http.SnapshotService}
    {wait : Url → Http.Wait → StateM Machine Unit} (hwait : ∀ url, PassesTime (wait url))
    {league : String} {date : Date} {table : PriceTable Float}
    (h : StateT.run (service.fetch Host.send wait league date) k = (.ok table, k')) :
    service.Obtains k.network league date table := by
  cases hurl : service.address? league date with
  | error e =>
    rw [Http.SnapshotService.fetch, hurl] at h
    cases (Prod.mk.inj h).1
  | ok url =>
    cases hweb : url.isWeb with
    | false =>
      rw [Http.SnapshotService.fetch_of_not_isWeb hurl hweb] at h
      cases (Prod.mk.inj h).1
    | true =>
      obtain ⟨n, hn⟩ := service.policy.exists_isSettledAt (k.network.answers url)
      have hsettle := (follows_answers service.policy k url (hwait url)).settle hn
        (show k.HasAsked url 0 k from ⟨k.network.waits, rfl⟩)
      rw [Http.SnapshotService.fetch_of_isWeb hurl hweb, StateT.run_bind] at h
      have htable := (Prod.mk.inj h).1
      refine ⟨url, n, hurl, hweb, hn, Http.isAnswer_iff.mpr ?_⟩
      rw [← hsettle.1]
      exact htable

/-- A table is asked for and stored, which is what is left to do when it has been said what is going
to be fetched. -/
theorem runOn_fetchAndStore (settings : Settings) {log : Log}
    {fetch : StateM Machine (Except Http.FetchError (PriceTable Float))}
    (hquiet : IsQuietOperation fetch) {P : PriceTable Float → Prop}
    (hfetch : ∀ k₁ k' table, k₁.network = k.network → fetch.run k₁ = (.ok table, k') → P table)
    {before : Action (StateM Machine) Unit} (hbefore : IsTalk before)
    {rest : PriceTable Float → PriceHistory Float → Action (StateM Machine) Unit}
    (hrest : ∀ table history, IsTalk (rest table history))
    {after : Except Failure Unit × Machine}
    (hafter : after = runOn k (do
      before
      let table ← demand .rates fetch
      let store ← require .store (settings.rateStore? (← perform Host.environment))
      let history ← demand .store store.loadOrEmpty
      tell log [Event.storingSnapshot table]
      demand .store (store.save (history.insert table))
      rest table history)) :
    FailsQuietly k after ∨
      ∃ table store history, P table ∧ settings.rateStore? k.environment = .ok store ∧
        SavesDocument k store history (history.insert table) after := by
  rw [hafter]
  obtain ⟨k₁, hk₁, hrun⟩ := hbefore.runOn_bind _ k
  rw [hrun]
  clear hrun
  rcases (isQuiet_demand Failure.rates hquiet).runOn_bind _ k₁ with
    hfail | ⟨table, k₂, htable, hk₂, hrun⟩
  · exact .inl (.of_agrees hk₁.toAgrees hfail)
  have hk := hk₁.toAgrees.trans hk₂
  rw [hrun]
  clear hrun
  rcases runOn_withDocument settings.rateStore? _ k₂ with
    hfail | ⟨store, history, k₃, hplace, hk₃, hdenotes, hrun⟩
  · exact .inl (.of_agrees hk hfail)
  rw [hrun]
  clear hrun
  rw [hk.environment] at hplace
  obtain ⟨k₄, hk₄, hrun⟩ := (isTalk_tell log [Event.storingSnapshot table]).runOn_bind _ k₃
  have hk₃₄ := hk₃.trans hk₄.toAgrees
  rw [hrun]
  refine .inr ⟨table, store, history,
    hfetch _ _ _ hk₁.network (run_eq_ok_of_runOn_demand htable), hplace,
    .of_agrees (hk.trans hk₃₄) ?_⟩
  rw [← hk₃₄.disk, ← hk₃₄.here] at hdenotes
  exact savesDocument_of_talk (hrest table history) hdenotes

/-- **All that fetching a snapshot can do**: to fail before anything is changed, or to save the
history with the table that the service of the settings has on the network for the date that was
asked for. -/
theorem runOn_fetchRates (console : Console) (settings : Settings) (league : Option String)
    (date : Option Date) (k : Machine) :
    FailsQuietly k (runOn k (fetchRates console settings league date)) ∨
      ∃ table store history,
        (Http.SnapshotService.ofUrl settings.serviceUrl).Obtains k.network
          (league.getD settings.leagueName) (date.getD k.clock.date) table ∧
        settings.rateStore? k.environment = .ok store ∧
        SavesDocument k store history (history.insert table)
          (runOn k (fetchRates console settings league date)) := by
  rw [fetchRates, runOn_bind_of_ok (runOn_dateOrToday date k)]
  have hwait (url : Url) (w : Http.Wait) : IsQuietOperation (do
      if console.log.lines [Event.retrying url w] ≠ "" then
        Host.printError (console.log.lines [Event.retrying url w])
      Host.wait w : StateM Machine Unit) := isQuietOperation_tellAndWait _ w
  have htime (url : Url) := passesTime_tellAndWait fun w =>
    console.log.lines [Event.retrying url w]
  have hquiet := isQuietOperation_fetch (Http.SnapshotService.ofUrl settings.serviceUrl) hwait
    (league.getD settings.leagueName) (date.getD k.clock.date)
  dsimp only
  split
  · obtain ⟨k₁, hk₁, hrun⟩ := IsTalk.runOn_bind (isTalk_remark _) _ k
    rw [hrun]
    rcases runOn_fetchAndStore settings hquiet
      (fun _ _ _ hnetwork h => hnetwork ▸ obtains_of_run_fetch htime h) (isTalk_tell _ _)
      (fun _ _ => isTalk_report _ _ _) rfl with
      hfail | ⟨table, store, history, htable, hplace, hsaves⟩
    · exact .inl (.of_agrees hk₁.toAgrees hfail)
    · rw [hk₁.environment] at hplace
      rw [hk₁.network] at htable
      exact .inr ⟨table, store, history, htable, hplace, .of_agrees hk₁.toAgrees hsaves⟩
  · exact runOn_fetchAndStore settings hquiet
      (fun _ _ _ hnetwork h => hnetwork ▸ obtains_of_run_fetch htime h) (isTalk_tell _ _)
      (fun _ _ => isTalk_report _ _ _) rfl

/-! ### What commands need -/

/-- An action fails and changes nothing, unless the file at a place stands for a document. -/
def Needs {D : Type} [StoredDocument D] (place : Environment → Except StoreError (DocumentStore D))
    (x : Action (StateM Machine) α) : Prop :=
  ∀ k : Machine, FailsQuietly k (runOn k x) ∨
    ∃ (store : DocumentStore D) (d : D), place k.environment = .ok store ∧
      (k.disk.TellsMissing k.here store.path →
        StoredDocument.Denotes (k.disk.fileAt? k.here store.path) d)

section

variable {D : Type} [StoredDocument D] {place : Environment → Except StoreError (DocumentStore D)}

theorem needs_withDocument (f : DocumentStore D → D → Action (StateM Machine) α) :
    Needs place (do
      let store ← require .store (place (← perform Host.environment))
      let d ← demand .store store.loadOrEmpty
      f store d) := fun k =>
  (runOn_withDocument place f k).imp_right
    fun ⟨store, d, _, hplace, _, hdenotes, _⟩ => ⟨store, d, hplace, hdenotes⟩

/-- An action needs what its first step needs. -/
theorem Needs.bind_left {x : Action (StateM Machine) α} (hx : Needs place x)
    (f : α → Action (StateM Machine) β) : Needs place (x >>= f) := by
  refine fun k => (hx k).imp_left fun ⟨hk, e, he⟩ => ?_
  obtain ⟨r, k', hrun⟩ : ∃ r k', runOn k x = (r, k') := ⟨_, _, rfl⟩
  rw [hrun] at hk he
  obtain rfl : r = .error e := he
  rw [runOn_bind_of_error hrun]
  exact ⟨hk, e, rfl⟩

/-- An action needs what is needed after a quiet step. -/
theorem Needs.bind_right {x : Action (StateM Machine) α} (hx : IsQuiet x)
    {f : α → Action (StateM Machine) β} (hf : ∀ a, Needs place (f a)) : Needs place (x >>= f) := by
  intro k
  rcases hx.runOn_bind f k with hfail | ⟨a, k', -, hk, hrun⟩
  · exact .inl hfail
  rw [hrun]
  refine (hf a k').imp (.of_agrees hk) fun ⟨store, d, hplace, hdenotes⟩ => ?_
  rw [hk.environment] at hplace
  rw [hk.disk, hk.here] at hdenotes
  exact ⟨store, d, hplace, hdenotes⟩

end

/-- The command reads the archive. -/
def Command.readsArchive : Command → Bool
  | .saveFilter _ _ _ | .listFilters _ => true
  | .matchItems options => options.filter.isNone
  | _ => false

/-- The command reads the history. -/
def Command.readsHistory : Command → Bool
  | .fetchRates _ _ | .listRates | .price _ _ => true
  | _ => false

theorem needs_saveFilter (console : Console) (settings : Settings) (file : String)
    (profile : Option String) (force : Bool) :
    Needs settings.filterStore? (saveFilter console settings file profile force) := fun k =>
  (runOn_saveFilter console settings file profile force k).imp_right
    fun ⟨_, store, archive, _, _, hplace, hsaves⟩ => ⟨store, archive, hplace, hsaves.denotes⟩

theorem needs_fetchRates (console : Console) (settings : Settings) (league : Option String)
    (date : Option Date) : Needs settings.rateStore? (fetchRates console settings league date) :=
  fun k => (runOn_fetchRates console settings league date k).imp_right
    fun ⟨_, store, history, _, hplace, hsaves⟩ => ⟨store, history, hplace, hsaves.denotes⟩

theorem needs_listFilters (console : Console) (settings : Settings) (profile : Option String) :
    Needs settings.filterStore? (listFilters console settings profile) := by
  rw [listFilters]
  exact needs_withDocument _

theorem needs_listRates (console : Console) (settings : Settings) :
    Needs settings.rateStore? (listRates console settings) := by
  rw [listRates]
  exact needs_withDocument _

theorem needs_compileSaved (console : Console) (settings : Settings) (profile : Option String)
    (at_ : Option Instant) :
    Needs settings.filterStore? (compileSaved console settings profile at_) := by
  unfold compileSaved
  cases at_ with
  | some t => exact .bind_right (isQuiet_pure t) fun _ => needs_withDocument _
  | none => exact .bind_right (isQuiet_perform isQuietOperation_now) fun _ => needs_withDocument _

/-- Matching needs the archive, unless it is given a filter document. -/
theorem needs_matchItems (console : Console) (settings : Settings) {options : MatchOptions}
    (h : options.filter = none) :
    Needs settings.filterStore? (matchItems console settings options) := by
  rw [matchItems, chosenFilter, h]
  exact (needs_compileSaved console settings _ _).bind_left _

theorem needs_priceItems (console : Console) (settings : Settings) (items : String)
    (date : Option Date) : Needs settings.rateStore? (priceItems console settings items date) := by
  rw [priceItems]
  exact .bind_right (isQuiet_dateOrToday date) fun _ => needs_withDocument _

/-- **The commands that read the archive need it.** -/
theorem needs_filterStore (console : Console) (settings : Settings) {command : Command}
    (h : command.readsArchive = true) :
    Needs settings.filterStore? (carryOutConfigured console settings command) := by
  cases command with
  | saveFilter file profile force => exact needs_saveFilter console settings file profile force
  | listFilters profile => exact needs_listFilters console settings profile
  | matchItems options => exact needs_matchItems console settings (Option.isNone_iff_eq_none.mp h)
  | _ => cases h

/-- **The commands that read the history need it.** -/
theorem needs_rateStore (console : Console) (settings : Settings) {command : Command}
    (h : command.readsHistory = true) :
    Needs settings.rateStore? (carryOutConfigured console settings command) := by
  cases command with
  | fetchRates league date => exact needs_fetchRates console settings league date
  | listRates => exact needs_listRates console settings
  | price items date => exact needs_priceItems console settings items date
  | _ => cases h

end LootLedger.Cli
