import LootLedger.Proofs.Archive.Document
import LootLedger.Proofs.Cli.Effects

/-!
# What a command does to the stored documents

A turn is one command on one machine. Its settings say where the two documents are. On a layout that
keeps them apart a turn can do one of three things to them: nothing, which is all that most commands
can do and all that is left to a command that fails; append one entry to the archive; or put one
table into the history. Which of them happens is told from the command and from its success.

## Main definitions

* `Cli.Machine.settings?`: the settings in effect
* `Cli.Turn`: a command and the machine that it is carried out on
* `Cli.Layout`: where the two documents are
* `Cli.Layout.Suits`: the settings of a machine have the documents there
* `Cli.Turn.Records`, `Cli.Turn.Fetches`: what a turn puts into a document

## Main results

* `Cli.Turn.exists_of_isSave`, `Cli.Turn.exists_of_isFetch`: what a turn changes
* `Cli.Turn.archive_unchanged`, `Cli.Turn.history_unchanged`: when it changes nothing
* `Cli.Turn.not_succeeds_of_archive`, `Cli.Turn.not_succeeds_of_history`: no command gets around a
  document that it needs
-/

namespace LootLedger.Cli

/-! ### Settings -/

/-- The settings in effect on a machine; none if they cannot be read. -/
def Machine.settings? (k : Machine) : Option Settings := do
  let path ← k.environment.settingsPath?
  match ((Settings.loadFrom path : StateM Machine _).run k).1 with
  | .ok found => some (found.getD {})
  | .error _ => none

theorem runOn_settingsPath {k : Machine} {path : String}
    (h : k.environment.settingsPath? = some path) :
    runOn k (settingsPath : Action (StateM Machine) String) = (.ok path, k) := by
  rw [settingsPath, runOn_bind_of_ok (runOn_environment k), h]
  rfl

/-- Looking for settings leaves the machine as it is. -/
theorem exists_run_loadFrom (path : String) (k : Machine) :
    ∃ r, (Settings.loadFrom path : StateM Machine _).run k = (r, k) := by
  have hpath : (FileAccess.hasPath path : StateM Machine Bool).run k =
      (k.disk.hasPath k.here path, k) := rfl
  have hread : (FileAccess.readText path : StateM Machine (Except IoError String)).run k =
      (k.disk.readText k.here path, k) := rfl
  rw [Settings.loadFrom, StateT.run_bind, hpath]
  cases k.disk.hasPath k.here path with
  | false => exact ⟨_, rfl⟩
  | true =>
    change ∃ r, StateT.run ((FileAccess.readText path : StateM Machine _) >>= _) k = (r, k)
    rw [StateT.run_bind, hread]
    cases k.disk.readText k.here path <;> exact ⟨_, rfl⟩

/-- Whatever is logged, the settings in effect are loaded. -/
theorem runOn_loadSettings (log : Log) (k : Machine) :
    ∃ r k', runOn k (loadSettings log) = (r, k') ∧ k.HasSaid k' ∧ r.toOption = k.settings? := by
  rw [Machine.settings?]
  cases hfound : k.environment.settingsPath? with
  | none =>
    have hpath : runOn k (settingsPath : Action (StateM Machine) String) =
        (.error (.settings .noDirectory), k) := by
      rw [settingsPath, runOn_bind_of_ok (runOn_environment k), hfound]
      rfl
    rw [loadSettings, runOn_bind_of_error hpath]
    exact ⟨_, _, rfl, .refl k, rfl⟩
  | some path =>
    obtain ⟨r, hload⟩ := exists_run_loadFrom path k
    have hdemand := runOn_demand Failure.settings hload
    rw [loadSettings, runOn_bind_of_ok (runOn_settingsPath hfound), Option.bind_eq_bind,
      Option.bind_some, hload]
    cases r with
    | error e =>
      rw [runOn_bind_of_error hdemand]
      exact ⟨_, _, rfl, .refl k, rfl⟩
    | ok found =>
      rw [runOn_bind_of_ok hdemand]
      cases found with
      | some settings => exact ⟨_, _, rfl, .refl k, rfl⟩
      | none =>
        obtain ⟨k', hk', htalk⟩ := IsTalk.runOn_bind (isTalk_tell log [Event.noSettings path])
          (fun _ => pure ({} : Settings)) k
        exact ⟨_, k', htalk, hk', rfl⟩

/-- The console of a command that goes on with settings. -/
def Flags.console (flags : Flags) (env : Environment) (settings : Settings) : Console :=
  consoleOf flags env (logOf flags.verbose flags.quiet flags.noColor env) settings

/-- A command that depends on the settings goes on with those in effect. -/
theorem runOn_carryOut_of_settings? (flags : Flags) {command : Command}
    (h : command.isStandalone = false) {k : Machine} {settings : Settings}
    (hsettings : k.settings? = some settings) :
    ∃ k', k.HasSaid k' ∧ runOn k (carryOut flags command) =
      runOn k' (carryOutConfigured (flags.console k.environment settings) settings command) := by
  obtain ⟨r, k', hload, hk, hr⟩ :=
    runOn_loadSettings (logOf flags.verbose flags.quiet flags.noColor k.environment) k
  rw [carryOut, runOn_bind_of_ok (runOn_environment k)]
  dsimp only
  rw [h, if_neg Bool.false_ne_true]
  rw [toOption_eq_some_iff.mp (hr.trans hsettings)] at hload
  exact ⟨k', hk, runOn_bind_of_ok hload _⟩

/-- A command that depends on the settings fails quietly, or goes on with those in effect. -/
theorem runOn_carryOut (flags : Flags) {command : Command} (h : command.isStandalone = false)
    (k : Machine) :
    FailsQuietly k (runOn k (carryOut flags command)) ∨
      ∃ settings k', k.settings? = some settings ∧ k.HasSaid k' ∧
        runOn k (carryOut flags command) = runOn k'
          (carryOutConfigured (flags.console k.environment settings) settings command) := by
  cases hsettings : k.settings? with
  | some settings =>
    obtain ⟨k', hk, hrun⟩ := runOn_carryOut_of_settings? flags h hsettings
    exact .inr ⟨settings, k', rfl, hk, hrun⟩
  | none =>
    obtain ⟨r, k', hload, hk, hr⟩ :=
      runOn_loadSettings (logOf flags.verbose flags.quiet flags.noColor k.environment) k
    rw [carryOut, runOn_bind_of_ok (runOn_environment k)]
    dsimp only
    rw [h, if_neg Bool.false_ne_true]
    rw [hsettings] at hr
    cases r with
    | ok settings => cases hr
    | error e =>
      rw [runOn_bind_of_error hload]
      exact .inl ⟨hk.toAgrees, e, rfl⟩

/-! ### Turns -/

/-- A command and the machine that it is carried out on. -/
structure Turn where
  machine : Machine
  flags : Flags
  command : Command

/-- Where the two documents are. -/
structure Layout where
  /-- The directory that paths are seen from. -/
  here : Location
  archive : String
  history : String

/-- The place of the archive. -/
def Layout.archiveStore (l : Layout) : DocumentStore FilterArchive :=
  ⟨l.archive⟩

/-- The place of the history. -/
def Layout.historyStore (l : Layout) : DocumentStore (PriceHistory Float) :=
  ⟨l.history⟩

/-- The documents are at different places, and neither is where the draft of the other one is. -/
structure Layout.IsSeparate (l : Layout) : Prop where
  documents : Disk.place l.here l.archive ≠ Disk.place l.here l.history
  archive_draft : Disk.place l.here l.historyStore.draftPath ≠ Disk.place l.here l.archive
  history_draft : Disk.place l.here l.archiveStore.draftPath ≠ Disk.place l.here l.history

/-- The machine has its documents where the layout says, if its settings can be read, and when it
says that there is no such file, then there is none. A disk that is a tree says so. -/
structure Layout.Suits (l : Layout) (k : Machine) : Prop where
  here : k.here = l.here
  archive : ∀ s, k.settings? = some s → s.filterStore? k.environment = .ok l.archiveStore
  history : ∀ s, k.settings? = some s → s.rateStore? k.environment = .ok l.historyStore
  archive_missing : k.disk.TellsMissing k.here l.archive
  history_missing : k.disk.TellsMissing k.here l.history

theorem Command.not_isSave_and_isFetch (c : Command) : ¬ (c.isSave = true ∧ c.isFetch = true) := by
  cases c <;> simp [isSave, isFetch]

namespace Turn

/-- What the command answers, and the machine after it. -/
def result (turn : Turn) : Except Failure Unit × Machine :=
  runOn turn.machine (carryOut turn.flags turn.command)

/-- The command succeeds. -/
def succeeds (turn : Turn) : Bool :=
  turn.result.1.isOk

/-- The turn is a save that succeeds. -/
def isSave (turn : Turn) : Bool :=
  turn.command.isSave && turn.succeeds

/-- The turn is a fetch that succeeds. -/
def isFetch (turn : Turn) : Bool :=
  turn.command.isFetch && turn.succeeds

/-- The content of a file before the turn. -/
def before (turn : Turn) (path : String) : Option Content :=
  turn.machine.disk.fileAt? turn.machine.here path

/-- The content of a file after the turn. -/
def after (turn : Turn) (path : String) : Option Content :=
  turn.result.2.disk.fileAt? turn.machine.here path

/-- The turn saves a document: the text of a file, for the profile that is asked for or set, at the
time of the machine. The text has no problems, or saving it is insisted on. -/
def Records (turn : Turn) (entry : SavedFilter) : Prop :=
  ∃ file profile force settings, turn.command = .saveFilter file profile force ∧
    turn.machine.settings? = some settings ∧
    turn.machine.disk.readText turn.machine.here file = .ok entry.text ∧
    ((Filter.parse entry.text.toList).isClean = true ∨ force = true) ∧
    entry.profile = profile.getD settings.profileName ∧ entry.savedAt = turn.machine.clock

/-- The turn fetches a table: the one that the service of the settings has on the network of the
machine, for the league and the date that are asked for or, if none are, set and today. -/
def Fetches (turn : Turn) (table : PriceTable Float) : Prop :=
  ∃ league date settings, turn.command = .fetchRates league date ∧
    turn.machine.settings? = some settings ∧
    (Http.SnapshotService.ofUrl settings.serviceUrl).Obtains turn.machine.network
      (league.getD settings.leagueName) (date.getD turn.machine.clock.date) table

theorem Fetches.isStorable {turn : Turn} {table : PriceTable Float} (h : turn.Fetches table) :
    table.IsStorable := by
  obtain ⟨_, _, _, _, _, _, _, _, _, _, hanswer⟩ := h
  exact (Http.isStorable_of_tableOf? (Http.isAnswer_iff.mp hanswer)).1

/-- The table is of the date that is asked for. -/
theorem Fetches.date_eq {turn : Turn} {table : PriceTable Float} (h : turn.Fetches table)
    {league : Option String} {date : Date}
    (hcommand : turn.command = .fetchRates league (some date)) : table.date = date := by
  obtain ⟨league', date', _, hcommand', _, htable⟩ := h
  obtain ⟨rfl, rfl⟩ := Command.fetchRates.inj (hcommand'.symm.trans hcommand)
  exact htable.date_eq

/-- A turn fetches one table at most. -/
theorem Fetches.unique {turn : Turn} {table table' : PriceTable Float} (h : turn.Fetches table)
    (h' : turn.Fetches table') : table = table' := by
  obtain ⟨league, date, settings, hcommand, hsettings, htable⟩ := h
  obtain ⟨league', date', settings', hcommand', hsettings', htable'⟩ := h'
  obtain ⟨rfl, rfl⟩ := Command.fetchRates.inj (hcommand.symm.trans hcommand')
  obtain rfl := Option.some.inj (hsettings.symm.trans hsettings')
  exact htable.unique htable'

/-! ### All that a turn can do -/

variable {l : Layout} {turn : Turn}

/-- The three things that a turn can do to the documents. -/
inductive Does (l : Layout) (turn : Turn) : Prop
  | nothing (h : turn.machine.Agrees turn.result.2)
    (hsave : turn.command.isSave = true → ∃ e, turn.result.1 = .error e)
    (hfetch : turn.command.isFetch = true → ∃ e, turn.result.1 = .error e)
  | save (hcommand : turn.command.isSave = true) (archive : FilterArchive) (entry : SavedFilter)
    (h : turn.Records entry)
    (hsaves : SavesDocument turn.machine l.archiveStore archive (archive.save entry) turn.result)
  | fetch (hcommand : turn.command.isFetch = true) (history : PriceHistory Float)
    (table : PriceTable Float) (h : turn.Fetches table)
    (hsaves : SavesDocument turn.machine l.historyStore history (history.insert table) turn.result)

/-- A turn that fails quietly does nothing. -/
theorem Does.of_failsQuietly (h : FailsQuietly turn.machine turn.result) : turn.Does l :=
  .nothing h.1 (fun _ => h.2) (fun _ => h.2)

/-- A turn that is quiet does nothing, unless it ought to. -/
theorem Does.of_isQuiet {k : Machine} {x : Action (StateM Machine) Unit} (hx : IsQuiet x)
    (hk : turn.machine.Agrees k) (hresult : turn.result = runOn k x)
    (hsave : turn.command.isSave = false) (hfetch : turn.command.isFetch = false) :
    turn.Does l :=
  .nothing (by rw [hresult]; exact hk.trans (hx k)) (by rw [hsave]; nofun) (by rw [hfetch]; nofun)

/-- **All that a turn can do.** -/
theorem does (hl : l.Suits turn.machine) (hc : turn.command.isStandalone = false) :
    turn.Does l := by
  rcases runOn_carryOut turn.flags hc turn.machine with
    hfail | ⟨settings, k, hsettings, hsaid, hresult⟩
  · exact .of_failsQuietly hfail
  change turn.result = _ at hresult
  have hk := hsaid.toAgrees
  cases hcmd : turn.command with
  | saveFilter file profile force =>
    rw [hcmd, carryOutConfigured] at hresult
    rcases runOn_saveFilter _ settings file profile force k with
      hfail | ⟨text, store, archive, htext, hclean, hplace, hsaves⟩
    · exact .of_failsQuietly (by rw [hresult]; exact .of_agrees hk hfail)
    rw [hk.environment, hl.archive settings hsettings] at hplace
    obtain rfl := Except.ok.inj hplace
    rw [hk.disk, hk.here] at htext
    rw [hk.clock, ← hresult] at hsaves
    have hrecords : turn.Records ⟨profile.getD settings.profileName, turn.machine.clock, text⟩ :=
      ⟨file, profile, force, settings, hcmd, hsettings, htext, hclean, rfl, rfl⟩
    exact .save (by rw [hcmd]; rfl) archive _ hrecords (.of_agrees hk hsaves)
  | fetchRates league date =>
    rw [hcmd, carryOutConfigured] at hresult
    rcases runOn_fetchRates _ settings league date k with
      hfail | ⟨table, store, history, htable, hplace, hsaves⟩
    · exact .of_failsQuietly (by rw [hresult]; exact .of_agrees hk hfail)
    rw [hk.environment, hl.history settings hsettings] at hplace
    obtain rfl := Except.ok.inj hplace
    rw [hsaid.network, hk.clock] at htable
    rw [← hresult] at hsaves
    exact .fetch (by rw [hcmd]; rfl) history table
      ⟨league, date, settings, hcmd, hsettings, htable⟩ (.of_agrees hk hsaves)
  | _ =>
    rw [hcmd] at hresult
    exact .of_isQuiet (isQuiet_carryOutConfigured _ _ rfl rfl) hk hresult (by rw [hcmd]; rfl)
      (by rw [hcmd]; rfl)

/-- A turn changes nothing but the disk. -/
theorem exists_agrees_result (turn : Turn) (hl : l.Suits turn.machine)
    (hc : turn.command.isStandalone = false) :
    ∃ disk, Machine.Agrees { turn.machine with disk } turn.result.2 := by
  cases does hl hc with
  | nothing h _ _ => exact ⟨turn.machine.disk, h⟩
  | save _ _ _ _ hsaves | fetch _ _ _ _ hsaves =>
    obtain ⟨disk, _, -, hafter, -⟩ := hsaves.saves
    exact ⟨disk, hafter⟩

theorem succeeds_iff : turn.succeeds = true ↔ turn.result.1 = .ok () := by
  rw [succeeds]
  cases turn.result.1 <;> simp [Except.isOk, Except.toBool]

/-- A turn on the documents that does not succeed has failed. -/
theorem exists_error_of_not_succeeds (h : turn.succeeds = false) :
    ∃ e, turn.result.1 = .error e := by
  rw [succeeds] at h
  cases hr : turn.result.1 with
  | ok _ => rw [hr] at h; cases h
  | error e => exact ⟨e, rfl⟩

theorem isSave_iff : turn.isSave = true ↔ turn.command.isSave = true ∧ turn.succeeds = true := by
  rw [isSave, Bool.and_eq_true]

/-- A save depends on the settings. -/
theorem isStandalone_of_isSave (turn : Turn) (h : turn.isSave = true) :
    turn.command.isStandalone = false := by
  have hcommand := (isSave_iff.mp h).1
  cases hcmd : turn.command with
  | saveFilter _ _ _ => rfl
  | _ =>
    rw [hcmd] at hcommand
    cases hcommand

theorem isFetch_iff : turn.isFetch = true ↔ turn.command.isFetch = true ∧ turn.succeeds = true := by
  rw [isFetch, Bool.and_eq_true]

section

variable (hseparate : l.IsSeparate) (hl : l.Suits turn.machine)
  (hc : turn.command.isStandalone = false)

include hseparate hl hc

/-- **The archive is changed by a save that succeeds** and by nothing else. -/
theorem archive_unchanged (h : turn.isSave = false) :
    turn.after l.archive = turn.before l.archive := by
  cases does hl hc with
  | nothing hk _ _ => rw [after, before, hk.disk]
  | save hcommand archive entry _ hsaves =>
    rw [isSave, hcommand, Bool.true_and] at h
    obtain ⟨e, he⟩ := exists_error_of_not_succeeds h
    exact hsaves.fileAt?_of_error he
  | fetch _ history table _ hsaves =>
    refine hsaves.fileAt?_of_ne ?_ ?_ <;> rw [hl.here]
    · exact hseparate.documents
    · exact hseparate.archive_draft.symm

/-- **The history is changed by a fetch that succeeds** and by nothing else. -/
theorem history_unchanged (h : turn.isFetch = false) :
    turn.after l.history = turn.before l.history := by
  cases does hl hc with
  | nothing hk _ _ => rw [after, before, hk.disk]
  | save _ archive entry _ hsaves =>
    refine hsaves.fileAt?_of_ne ?_ ?_ <;> rw [hl.here]
    · exact hseparate.documents.symm
    · exact hseparate.history_draft.symm
  | fetch hcommand history table _ hsaves =>
    rw [isFetch, hcommand, Bool.true_and] at h
    obtain ⟨e, he⟩ := exists_error_of_not_succeeds h
    exact hsaves.fileAt?_of_error he

omit hseparate in
/-- A save that succeeds leaves an archive that can be read. -/
theorem exists_holds_of_isSave (h : turn.isSave = true) :
    ∃ (archive : FilterArchive) (entry : SavedFilter), turn.Records entry ∧
      StoredDocument.Denotes (turn.before l.archive) archive ∧
      turn.result.2.Holds l.archive (archive.save entry) := by
  obtain ⟨hcommand, hsucceeds⟩ := isSave_iff.mp h
  have hok := succeeds_iff.mp hsucceeds
  cases does hl hc with
  | nothing _ hfails _ =>
    obtain ⟨e, he⟩ := hfails hcommand
    cases hok.symm.trans he
  | save _ archive entry hentry hsaves =>
    have hparse : StoredDocument.parse? (StoredDocument.text (archive.save entry)) =
        some (archive.save entry) := by
      rw [StoredDocument.parse?_text (archive.save entry).isPlain_toJson]
      exact (congrArg FilterArchive.ofJson? (archive.save entry).isPlain_toJson.reread_eq).trans
        (archive.save entry).ofJson?_toJson
    exact ⟨archive, entry, hentry, hsaves.denotes hl.archive_missing,
      hsaves.holds_of_ok hok hparse⟩
  | fetch hfetch _ _ _ _ => exact absurd ⟨hcommand, hfetch⟩ turn.command.not_isSave_and_isFetch

omit hseparate in
/-- **A save that succeeds** appends one entry to the archive. -/
theorem exists_of_isSave (h : turn.isSave = true) :
    ∃ (archive : FilterArchive) (entry : SavedFilter), turn.Records entry ∧
      StoredDocument.Denotes (turn.before l.archive) archive ∧
      StoredDocument.Denotes (turn.after l.archive) (archive.save entry) := by
  obtain ⟨archive, entry, hentry, hbefore, hafter⟩ := exists_holds_of_isSave hl hc h
  obtain ⟨disk, hk⟩ := turn.exists_agrees_result hl hc
  have hdenotes := hafter.denotes
  rw [hk.here] at hdenotes
  exact ⟨archive, entry, hentry, hbefore, hdenotes⟩

omit hseparate in
/-- **A fetch that succeeds** writes the history with one more table. -/
theorem exists_of_isFetch (h : turn.isFetch = true) :
    ∃ (history : PriceHistory Float) (table : PriceTable Float), turn.Fetches table ∧
      StoredDocument.Denotes (turn.before l.history) history ∧
      turn.after l.history = some (.text (StoredDocument.text (history.insert table))) := by
  obtain ⟨hcommand, hsucceeds⟩ := isFetch_iff.mp h
  have hok := succeeds_iff.mp hsucceeds
  cases does hl hc with
  | nothing _ _ hfails =>
    obtain ⟨e, he⟩ := hfails hcommand
    cases hok.symm.trans he
  | save hsave _ _ _ _ => exact absurd ⟨hsave, hcommand⟩ turn.command.not_isSave_and_isFetch
  | fetch _ history table htable hsaves =>
    exact ⟨history, table, htable, hsaves.denotes hl.history_missing,
      Disk.fileAt?_of_readText (hsaves.readText_of_ok hok)⟩

end

/-! ### What a turn needs -/

/-- Where a file stands for no document, a command that needs it fails. -/
theorem not_succeeds_of_needs {D : Type} [StoredDocument D]
    {place : Settings → Environment → Except StoreError (DocumentStore D)} {store : DocumentStore D}
    (hplace : ∀ s, turn.machine.settings? = some s →
      place s turn.machine.environment = .ok store)
    (hmissing : turn.machine.disk.TellsMissing turn.machine.here store.path)
    (hc : turn.command.isStandalone = false)
    (hneeds : ∀ console settings, Needs (place settings)
      (carryOutConfigured (m := StateM Machine) console settings turn.command))
    (h : ∀ d : D, ¬ StoredDocument.Denotes (turn.before store.path) d) :
    turn.succeeds = false := by
  suffices hfails : ∃ e, turn.result.1 = .error e by
    obtain ⟨e, he⟩ := hfails
    rw [succeeds, he]
    rfl
  rcases runOn_carryOut turn.flags hc turn.machine with
    hfail | ⟨settings, k, hsettings, hsaid, hresult⟩
  · exact hfail.2
  have hk := hsaid.toAgrees
  rw [result, hresult]
  rcases hneeds _ settings k with hfail | ⟨store', d, hplace', hdenotes⟩
  · exact hfail.2
  rw [hk.environment, hplace settings hsettings] at hplace'
  obtain rfl := Except.ok.inj hplace'
  rw [hk.disk, hk.here] at hdenotes
  exact absurd (hdenotes hmissing) (h d)

/-- **No command gets around the archive**: where there is none, a command that reads it fails. -/
theorem not_succeeds_of_archive (hl : l.Suits turn.machine)
    (hc : turn.command.isStandalone = false) (hreads : turn.command.readsArchive = true)
    (h : ∀ archive : FilterArchive, ¬ StoredDocument.Denotes (turn.before l.archive) archive) :
    turn.succeeds = false :=
  not_succeeds_of_needs hl.archive hl.archive_missing hc
    (fun console settings => needs_filterStore console settings hreads) h

/-- **No command gets around the history** either. -/
theorem not_succeeds_of_history (hl : l.Suits turn.machine)
    (hc : turn.command.isStandalone = false) (hreads : turn.command.readsHistory = true)
    (h : ∀ history : PriceHistory Float,
      ¬ StoredDocument.Denotes (turn.before l.history) history) : turn.succeeds = false :=
  not_succeeds_of_needs hl.history hl.history_missing hc
    (fun console settings => needs_rateStore console settings hreads) h

end Turn

namespace Layout

/-! ### A user at home -/

/-- The documents of a user whose settings say nothing about them. -/
def home : Layout :=
  ⟨[], "/home/.local/share/lootlog/filters.json", "/home/.cache/lootlog/rates.json"⟩

/-- A machine of that user, with a filter document on it and no network. -/
def homeMachine : Machine :=
  { disk := { nodes := [(["strict.filter"], .file (.text "Show\n"))] }
    environment := [("HOME", "/home")]
    clock := .midnight .epoch
    network := { outcome := fun _ _ => .failure .unreachable } }

theorem isSeparate_home : home.IsSeparate :=
  ⟨by decide, by decide, by decide⟩

theorem isTree_homeMachine : homeMachine.disk.IsTree := by
  intro l name h
  have hname : l ++ [name] = ["strict.filter"] := by
    by_contra hne
    have hkey : (l ++ [name] == ["strict.filter"]) = false := beq_eq_false_iff_ne.mpr hne
    exact h (by simp [Disk.node?, homeMachine, List.lookup_cons, hkey])
  rcases List.append_eq_singleton_iff.mp hname with ⟨rfl, -⟩ | ⟨-, hnil⟩
  · rfl
  · cases hnil

/-- Such a machine suits, whatever else is on it. -/
theorem suits_home {k : Machine} (hhere : k.here = []) (henv : k.environment = [("HOME", "/home")])
    (hsettings : k.settings? = some {}) (harchive : k.disk.TellsMissing k.here home.archive)
    (hhistory : k.disk.TellsMissing k.here home.history) : home.Suits k := by
  refine ⟨hhere, fun s hs => ?_, fun s hs => ?_, harchive, hhistory⟩ <;>
    obtain rfl : {} = s := Option.some.inj (hsettings.symm.trans hs) <;>
    rw [henv]
  · rfl
  · rfl

theorem suits_homeMachine : home.Suits homeMachine :=
  suits_home rfl rfl rfl (isTree_homeMachine.tellsMissing (by decide))
    (isTree_homeMachine.tellsMissing (by decide))

/-- The first save of the user. -/
def homeTurn : Turn :=
  ⟨homeMachine, {}, .saveFilter "strict.filter" none false⟩

end Layout

end LootLedger.Cli
