import LootLedger.Proofs.Archive.Newest
import LootLedger.Proofs.Cli.Turn

/-!
# Nothing that was stored is lost, but values may move

A session is a run of commands, each on a machine of its own: between two of them the clock goes on,
files come and go, and the network answers otherwise. All that one turn hands to the next one is
what the two documents hold.

One turn changes a document by appending an entry or by putting a table into it, or not at all. What
the archive holds at the end is told by that: what it held at the beginning, followed by one entry
for each save that succeeded, in order. A file that stands for no document is a dead end: no turn
changes it, because every turn that would change it has to read it first.

With the history it is almost so. A fetch writes the history that it has read, with the fetched
table in it. But not all values are read back as they were written, so the tables of other dates may
have other values afterwards. They are kept exactly if all values that the fetch writes are read
back as themselves.

## Main definitions

* `Cli.Layout.Session`: a run of commands, and the documents before and after it
* `Cli.Layout.Keeps`: what one turn does to the documents, in any case
* `Cli.Layout.KeepsTables`: a fetch keeps the tables of all other dates
* `Cli.Layout.WritesReadBack`: a fetch writes values that are read back as themselves
* `Cli.Layout.Accounts`: what becomes of the documents along a run

## Main results

* `Cli.Layout.keepsTables_iff`, `Cli.Layout.keepsTables_of_isShort`: when a fetch keeps the tables
  of other dates
* `Cli.Layout.keeps_and_accounts_iff`: what sessions never lose, and when they keep all tables
* `Cli.Layout.not_keepsTables_thirds`: a fetch after which another date has another value
-/

namespace LootLedger.Cli

/-- What the files of the two documents hold. -/
structure Contents where
  archive : Option Content
  history : Option Content

/-- What the two files hold, by their paths. -/
def Layout.contents (l : Layout) (file : String → Option Content) : Contents :=
  ⟨file l.archive, file l.history⟩

/-- A run of commands that depend on the settings, each on a machine that suits the layout and has
the documents as the command before left them. -/
inductive Layout.Session (l : Layout) : Contents → List Turn → Contents → Prop
  | nil (c : Contents) : Session l c [] c
  | cons {turn : Turn} {turns : List Turn} {c : Contents}
    (hcommand : turn.command.isStandalone = false) (hsuits : l.Suits turn.machine)
    (hrest : Session l (l.contents turn.after) turns c) :
    Session l (l.contents turn.before) (turn :: turns) c

/-- What one turn does to the documents. -/
structure Layout.Keeps (l : Layout) (turn : Turn) : Prop where
  /-- The archive is changed by no turn but a save that succeeds. -/
  archive_unchanged : turn.isSave = false → turn.after l.archive = turn.before l.archive
  /-- A save that succeeds appends one entry to the archive. -/
  archive_saved : turn.isSave = true → ∃ (archive : FilterArchive) (entry : SavedFilter),
    turn.Records entry ∧ StoredDocument.Denotes (turn.before l.archive) archive ∧
    StoredDocument.Denotes (turn.after l.archive) (⟨archive.saved ++ [entry]⟩ : FilterArchive)
  /-- A command that reads the archive fails if there is none. -/
  archive_needed : turn.command.readsArchive = true →
    (∀ archive : FilterArchive, ¬ StoredDocument.Denotes (turn.before l.archive) archive) →
    turn.succeeds = false
  /-- The history is changed by no turn but a fetch that succeeds. -/
  history_unchanged : turn.isFetch = false → turn.after l.history = turn.before l.history
  /-- A fetch that succeeds writes the history with the table of its date in it. -/
  history_fetched : turn.isFetch = true →
    ∃ (history : PriceHistory Float) (table : PriceTable Float),
      turn.Fetches table ∧ StoredDocument.Denotes (turn.before l.history) history ∧
      turn.after l.history = some (.text (StoredDocument.text (history.insert table)))
  /-- A command that reads the history fails if there is none. -/
  history_needed : turn.command.readsHistory = true →
    (∀ history : PriceHistory Float, ¬ StoredDocument.Denotes (turn.before l.history) history) →
    turn.succeeds = false

/-- A fetch that succeeds sets the table of its date in the history, and leaves those of all other
dates. -/
def Layout.KeepsTables (l : Layout) (turn : Turn) : Prop :=
  turn.isFetch = true →
    ∃ (history history' : PriceHistory Float) (table : PriceTable Float),
      turn.Fetches table ∧ StoredDocument.Denotes (turn.before l.history) history ∧
      StoredDocument.Denotes (turn.after l.history) history' ∧
      history'.get? table.date = some table ∧
      ∀ date ≠ table.date, history'.get? date = history.get? date

/-- All values that a fetch writes are read back as themselves. -/
def Layout.WritesReadBack (l : Layout) (turn : Turn) : Prop :=
  turn.isFetch = true → ∀ (history : PriceHistory Float) (table : PriceTable Float),
    StoredDocument.Denotes (turn.before l.history) history → turn.Fetches table →
    (history.insert table).IsReadBack

/-- What becomes of the documents along a run. -/
structure Layout.Accounts (l : Layout) (c : Contents) (turns : List Turn) (c' : Contents) :
    Prop where
  /-- The archive grows by one entry for each save that succeeds. -/
  archive : ∀ archive : FilterArchive, StoredDocument.Denotes c.archive archive →
    ∃ entries, List.Forall₂ Turn.Records (turns.filter Turn.isSave) entries ∧
      StoredDocument.Denotes c'.archive (⟨archive.saved ++ entries⟩ : FilterArchive)
  /-- A file that stands for no archive is never overwritten. -/
  archive_malformed :
    (∀ archive : FilterArchive, ¬ StoredDocument.Denotes c.archive archive) → c'.archive = c.archive
  /-- If all fetches keep the tables of other dates, the history has the tables of the fetches that
  succeed put into it, and keeps those of all other dates. -/
  history : (∀ turn ∈ turns, l.KeepsTables turn) →
    ∀ history : PriceHistory Float, StoredDocument.Denotes c.history history →
    ∃ tables, List.Forall₂ Turn.Fetches (turns.filter Turn.isFetch) tables ∧
      StoredDocument.Denotes c'.history (tables.foldl PriceHistory.insert history) ∧
      ∀ date, (∀ table ∈ tables, table.date ≠ date) →
        (tables.foldl PriceHistory.insert history).get? date = history.get? date
  /-- A file that stands for no history is never overwritten. -/
  history_malformed : (∀ history : PriceHistory Float, ¬ StoredDocument.Denotes c.history history) →
    c'.history = c.history

namespace Layout

variable {l : Layout} {turn : Turn} {turns : List Turn} {c c' : Contents}

/-! ### One turn -/

theorem keeps (hseparate : l.IsSeparate) (hl : l.Suits turn.machine)
    (hc : turn.command.isStandalone = false) : l.Keeps turn where
  archive_unchanged := Turn.archive_unchanged hseparate hl hc
  archive_saved := Turn.exists_of_isSave hl hc
  archive_needed := Turn.not_succeeds_of_archive hl hc
  history_unchanged := Turn.history_unchanged hseparate hl hc
  history_fetched := Turn.exists_of_isFetch hl hc
  history_needed := Turn.not_succeeds_of_history hl hc

/-- It is enough to look at what a fetch does write. -/
theorem WritesReadBack.of_isReadBack {history : PriceHistory Float} {table : PriceTable Float}
    (hbefore : StoredDocument.Denotes (turn.before l.history) history)
    (htable : turn.Fetches table) (h : (history.insert table).IsReadBack) :
    l.WritesReadBack turn := by
  intro _ history' table' hbefore' htable'
  obtain rfl := hbefore.unique hbefore'
  obtain rfl := htable.unique htable'
  exact h

section

variable (hl : l.Suits turn.machine) (hc : turn.command.isStandalone = false)

include hl hc

/-- What the history stands for after a fetch is what was written, as it is read back. -/
theorem denotes_after_iff (h : turn.isFetch = true) {history history' : PriceHistory Float}
    {table : PriceTable Float} (htable : turn.Fetches table)
    (hbefore : StoredDocument.Denotes (turn.before l.history) history) :
    StoredDocument.Denotes (turn.after l.history) history' ↔
      (history.insert table).reread? = some history' := by
  obtain ⟨history₁, table₁, htable₁, hbefore₁, hafter⟩ := Turn.exists_of_isFetch hl hc h
  obtain rfl := htable.unique htable₁
  obtain rfl := hbefore.unique hbefore₁
  have hstorable := (PriceHistory.isStorable_of_denotes hbefore).insert htable.isStorable
  rw [hafter, ← PriceHistory.parse?_text hstorable]
  rfl

/-- A fetch that writes values which are read back leaves the history with its table. -/
theorem WritesReadBack.exists_denotes (h : l.WritesReadBack turn) (hfetch : turn.isFetch = true) :
    ∃ (history : PriceHistory Float) (table : PriceTable Float), turn.Fetches table ∧
      StoredDocument.Denotes (turn.before l.history) history ∧
      StoredDocument.Denotes (turn.after l.history) (history.insert table) := by
  obtain ⟨history, table, htable, hbefore, -⟩ := Turn.exists_of_isFetch hl hc hfetch
  have hread := PriceHistory.reread?_eq_self_iff.mpr (h hfetch history table hbefore htable)
  exact ⟨history, table, htable, hbefore,
    (denotes_after_iff hl hc hfetch htable hbefore).mpr hread⟩

/-- **A fetch keeps the tables of all other dates** exactly if all values that it writes are read
back as themselves. -/
theorem keepsTables_iff : l.KeepsTables turn ↔ l.WritesReadBack turn := by
  constructor
  · intro h hfetch history table hbefore htable
    obtain ⟨history₁, history', table₁, htable₁, hbefore₁, hafter, hself, hothers⟩ := h hfetch
    obtain rfl := htable.unique htable₁
    obtain rfl := hbefore.unique hbefore₁
    have hstorable := (PriceHistory.isStorable_of_denotes hbefore).insert htable.isStorable
    refine PriceHistory.isReadBack_of_get?_eq hstorable
      ((denotes_after_iff hl hc hfetch htable hbefore).mp hafter) fun date => ?_
    by_cases hdate : date = table.date
    · rw [hdate, hself, history.get?_insert_self]
    · rw [hothers date hdate, history.get?_insert_of_ne hdate]
  · intro h hfetch
    obtain ⟨history, table, htable, hbefore, hafter⟩ := h.exists_denotes hl hc hfetch
    exact ⟨history, history.insert table, table, htable, hbefore, hafter,
      history.get?_insert_self table, fun date hdate => history.get?_insert_of_ne hdate⟩

/-- **A fetch that writes short values only** keeps the tables of all other dates. -/
theorem keepsTables_of_isShort {history : PriceHistory Float} {table : PriceTable Float}
    (hbefore : StoredDocument.Denotes (turn.before l.history) history)
    (htable : turn.Fetches table)
    (h : ∀ e ∈ (history.insert table).tables, ∀ s ∈ e.2.sections, ∀ v ∈ s.2, Json.IsShort v.2) :
    l.KeepsTables turn :=
  (keepsTables_iff hl hc).mpr
    (.of_isReadBack hbefore htable (PriceHistory.isReadBack_of_isShort h))

end

/-! ### Along a run -/

section

variable {D X : Type} [StoredDocument D] (file : Contents → Option Content) {path : String}
  (hfile : ∀ content, file (l.contents content) = content path) {changes : Turn → Bool}
  (hunchanged : ∀ turn, l.Suits turn.machine → turn.command.isStandalone = false →
    changes turn = false → turn.after path = turn.before path)

include hfile hunchanged

/-- **What is put into a document along a run** is there at its end. -/
theorem Session.exists_forall₂ {puts : Turn → X → Prop} {put : D → X → D} (h : l.Session c turns c')
    (hchanged : ∀ turn ∈ turns, l.Suits turn.machine → turn.command.isStandalone = false →
      changes turn = true → ∃ d x, puts turn x ∧ StoredDocument.Denotes (turn.before path) d ∧
        StoredDocument.Denotes (turn.after path) (put d x))
    {d : D} (hd : StoredDocument.Denotes (file c) d) :
    ∃ xs, List.Forall₂ puts (turns.filter changes) xs ∧
      StoredDocument.Denotes (file c') (xs.foldl put d) := by
  induction h generalizing d with
  | nil c => exact ⟨[], .nil, hd⟩
  | @cons turn turns c hcommand hsuits hrest ih =>
    rw [hfile] at hd ih
    rw [List.forall_mem_cons] at hchanged
    cases hchanges : changes turn with
    | false =>
      rw [← hunchanged turn hsuits hcommand hchanges] at hd
      rw [List.filter_cons_of_neg (by rw [hchanges]; exact Bool.false_ne_true)]
      exact ih hchanged.2 hd
    | true =>
      obtain ⟨d', x, hx, hbefore, hafter⟩ := hchanged.1 hsuits hcommand hchanges
      obtain rfl := hd.unique hbefore
      obtain ⟨xs, hxs, hend⟩ := ih hchanged.2 hafter
      rw [List.filter_cons_of_pos hchanges]
      exact ⟨x :: xs, .cons hx hxs, hend⟩

/-- A file that stands for no document is left alone along a run. -/
theorem Session.eq_of_malformed (h : l.Session c turns c')
    (hneeds : ∀ turn, l.Suits turn.machine → turn.command.isStandalone = false →
      changes turn = true → ∃ d : D, StoredDocument.Denotes (turn.before path) d)
    (hd : ∀ d : D, ¬ StoredDocument.Denotes (file c) d) : file c' = file c := by
  induction h with
  | nil c => rfl
  | @cons turn turns c hcommand hsuits hrest ih =>
    rw [hfile] at hd ih ⊢
    cases hchanges : changes turn with
    | false =>
      rw [hunchanged turn hsuits hcommand hchanges] at ih
      exact ih hd
    | true =>
      obtain ⟨d, hbefore⟩ := hneeds turn hsuits hcommand hchanges
      exact absurd hbefore (hd d)

end

theorem Session.accounts (hseparate : l.IsSeparate) (h : l.Session c turns c') :
    l.Accounts c turns c' where
  archive archive harchive := by
    obtain ⟨entries, hentries, hend⟩ := h.exists_forall₂ Contents.archive (fun _ => rfl)
      (fun _ hl hc => Turn.archive_unchanged hseparate hl hc)
      (fun _ _ hl hc => Turn.exists_of_isSave hl hc) harchive
    rw [FilterArchive.foldl_save] at hend
    exact ⟨entries, hentries, hend⟩
  archive_malformed harchive :=
    h.eq_of_malformed Contents.archive (fun _ => rfl)
      (fun _ hl hc => Turn.archive_unchanged hseparate hl hc)
      (fun _ hl hc hsave => by
        obtain ⟨archive, -, -, hbefore, -⟩ := Turn.exists_of_isSave hl hc hsave
        exact ⟨archive, hbefore⟩) harchive
  history hkeeps history hhistory := by
    obtain ⟨tables, htables, hend⟩ := h.exists_forall₂ Contents.history (fun _ => rfl)
      (fun _ hl hc => Turn.history_unchanged hseparate hl hc)
      (fun turn hturn hl hc =>
        ((keepsTables_iff hl hc).mp (hkeeps turn hturn)).exists_denotes hl hc) hhistory
    exact ⟨tables, htables, hend, fun _ hdate => PriceHistory.get?_foldl_insert hdate history⟩
  history_malformed hhistory :=
    h.eq_of_malformed Contents.history (fun _ => rfl)
      (fun _ hl hc => Turn.history_unchanged hseparate hl hc)
      (fun _ hl hc hfetch => by
        obtain ⟨history, -, -, hbefore, -⟩ := Turn.exists_of_isFetch hl hc hfetch
        exact ⟨history, hbefore⟩) hhistory

/-- What holds of every turn on a machine that suits the layout holds along a run. -/
theorem Session.forall_mem {P : Turn → Prop} (h : l.Session c turns c')
    (hP : ∀ turn, l.Suits turn.machine → turn.command.isStandalone = false → P turn) :
    ∀ turn ∈ turns, P turn := by
  induction h with
  | nil c => exact fun _ h => absurd h List.not_mem_nil
  | cons hcommand hsuits _ ih => exact List.forall_mem_cons.mpr ⟨hP _ hsuits hcommand, ih⟩

/-- **What commands never lose, and when they keep all tables.** Each turn of a session keeps the
documents but for what it adds itself, and all that was added is there at the end; the tables of
other dates are kept by all fetches exactly if all values that these write are read back as
themselves. -/
theorem keeps_and_accounts_iff (hseparate : l.IsSeparate) (h : l.Session c turns c') :
    (∀ turn ∈ turns, l.Keeps turn) ∧ l.Accounts c turns c' ∧
      ((∀ turn ∈ turns, l.KeepsTables turn) ↔ ∀ turn ∈ turns, l.WritesReadBack turn) :=
  ⟨h.forall_mem fun _ hl hc => keeps hseparate hl hc, h.accounts hseparate,
    forall₂_congr (h.forall_mem fun _ hl hc => keepsTables_iff hl hc)⟩

/-! ### A user who fetches -/

-- To unfold what a turn results in is to run the command.
attribute [local irreducible] Turn.result

/-- The day whose table is fetched. -/
def fetchedDate : Date :=
  ⟨2021, 3, 1, by decide⟩

/-- What the service says to every request. -/
def ratesReply : Http.Response :=
  { status := 200, body := "\x7b\"Currency\":\x7b\"Exalted Orb\":95.5\x7d\x7d" }

/-- The table that this stands for. -/
def fetchedTable : PriceTable Float :=
  ⟨fetchedDate, [("Currency", [("Exalted Orb", 95.5)])]⟩

/-- The user fetches the table, with what is on the disk. -/
def fetchTurn (disk : Disk) : Turn :=
  { machine := { homeMachine with disk, network := { outcome := fun _ _ => .response ratesReply } }
    flags := {}
    command := .fetchRates none (some fetchedDate) }

theorem fetches_fetchedTable {disk : Disk}
    (h : (fetchTurn disk).machine.settings? = some {}) :
    (fetchTurn disk).Fetches fetchedTable := by
  let tables : Url := { scheme := "https".toList,
                        authority := some { host := "rates.lootlog.dev".toList },
                        path := "/api/v1/rates".toList }
  have hurl : (Http.SnapshotService.ofUrl ({} : Settings).serviceUrl).address? "Standard"
      fetchedDate = .ok (Http.SnapshotService.tableUrl tables "Standard" fetchedDate) := by
    decide +kernel
  have hanswer (url : Url) :
      (fetchTurn disk).machine.network.answers url 0 = .response ratesReply := rfl
  have hsections : (Json.parse? ratesReply.body.toList).bind PriceTable.sections? =
    some fetchedTable.sections := by decide +kernel
  refine ⟨none, _, {}, rfl, h, _, 0, hurl, by decide +kernel,
    ⟨.inl ?_, fun _ _ => Nat.zero_le _⟩, ?_⟩
  · rw [hanswer]
    simp [Http.Outcome.IsTemporary, ratesReply]
  · rw [hanswer]
    exact .table (by decide) (by decide) (Http.Response.carries_iff.mpr rfl) hsections

/-- The user fetches after another turn. -/
theorem session_fetchTurn {turn : Turn} (hcommand : turn.command.isStandalone = false)
    (hhere : turn.machine.here = []) (hsuits : home.Suits turn.machine)
    (hfetch : home.Suits (fetchTurn turn.result.2.disk).machine) :
    home.Session (home.contents turn.before) [turn, fetchTurn turn.result.2.disk]
      (home.contents (fetchTurn turn.result.2.disk).after) := by
  have hbefore (path : String) : turn.after path = (fetchTurn turn.result.2.disk).before path := by
    rw [Turn.after, hhere]
    rfl
  refine .cons hcommand hsuits ?_
  rw [contents, hbefore, hbefore]
  exact .cons rfl hfetch (.nil _)

/-- The user fetches after the first save. -/
def secondTurn : Turn :=
  fetchTurn homeTurn.result.2.disk

theorem settings?_secondTurn : secondTurn.machine.settings? = some {} := by
  decide +kernel

theorem history_before_secondTurn : secondTurn.before home.history = none := by
  decide +kernel

theorem suits_secondTurn : home.Suits secondTurn.machine :=
  suits_home rfl rfl settings?_secondTurn (fun h => absurd h (by decide +kernel))
    fun _ => history_before_secondTurn

theorem isFetch_secondTurn : secondTurn.isFetch = true := by
  decide +kernel

theorem denotes_before_secondTurn :
    StoredDocument.Denotes (secondTurn.before home.history) ({} : PriceHistory Float) := by
  rw [history_before_secondTurn]
  exact rfl

/-- A save and then a fetch. -/
theorem keeps_and_accounts_iff_homeTurn :
    homeTurn.isSave = true ∧ secondTurn.isFetch = true ∧ home.IsSeparate ∧
      home.Session (home.contents homeTurn.before) [homeTurn, secondTurn]
        (home.contents secondTurn.after) ∧
      (∀ turn ∈ [homeTurn, secondTurn], home.Keeps turn) ∧
      home.Accounts (home.contents homeTurn.before) [homeTurn, secondTurn]
        (home.contents secondTurn.after) ∧
      (∀ turn ∈ [homeTurn, secondTurn], home.KeepsTables turn) ∧
      StoredDocument.Denotes (secondTurn.after home.history)
        (⟨[(fetchedDate, fetchedTable)]⟩ : PriceHistory Float) := by
  have htable : secondTurn.Fetches fetchedTable := fetches_fetchedTable settings?_secondTurn
  have hsession : home.Session (home.contents homeTurn.before) [homeTurn, secondTurn]
      (home.contents secondTurn.after) :=
    session_fetchTurn rfl rfl suits_homeMachine suits_secondTurn
  obtain ⟨hkeeps, haccounts, htables⟩ := keeps_and_accounts_iff isSeparate_home hsession
  have hread : (({} : PriceHistory Float).insert fetchedTable).reread? =
    some (({} : PriceHistory Float).insert fetchedTable) := by decide +kernel
  have hwrites : home.WritesReadBack secondTurn :=
    .of_isReadBack (l := home) denotes_before_secondTurn htable
      (PriceHistory.reread?_eq_self_iff.mp hread)
  have hsave : ¬ homeTurn.isFetch = true := fun h => absurd (Turn.isFetch_iff.mp h).1 (by decide)
  have hafter := (denotes_after_iff (l := home) suits_secondTurn rfl isFetch_secondTurn htable
    denotes_before_secondTurn).mpr hread
  exact ⟨by decide +kernel, isFetch_secondTurn, isSeparate_home, hsession, hkeeps, haccounts,
    htables.mpr (List.forall_mem_cons.mpr ⟨fun h => absurd h hsave,
      List.forall_mem_singleton.mpr hwrites⟩), hafter⟩

/-! ### A value that moves -/

/-- Another day. -/
def otherDate : Date :=
  ⟨2021, 2, 28, by decide⟩

/-- The table of that day, with one value. -/
def otherTable (value : Float) : PriceTable Float :=
  ⟨otherDate, [("Currency", [("Exalted Orb", value)])]⟩

/-- A history with a value of 17 digits. -/
def thirdsText : String :=
  "\x7b\"tables\":\x7b\"2021-02-28\":\x7b\"date\":\"2021-02-28\",\"categories\":" ++
    "\x7b\"Currency\":\x7b\"Exalted Orb\":988.33333333333337\x7d\x7d\x7d\x7d\x7d"

/-- The user fetches when that is the history. The value is written with 16 digits, which are then
read as another value. -/
def thirdsTurn : Turn :=
  fetchTurn {
    nodes := [(["home"], .directory), (["home", ".cache"], .directory),
      (["home", ".cache", "lootlog"], .directory),
      (["home", ".cache", "lootlog", "rates.json"], .file (.text thirdsText))] }

/-- **A fetch changes a value of another date.** -/
theorem not_keepsTables_thirds :
    let before : PriceHistory Float := ⟨[(otherDate, otherTable 988.3333333333335)]⟩
    let after : PriceHistory Float :=
      ⟨[(otherDate, otherTable 988.3333333333336), (fetchedDate, fetchedTable)]⟩
    thirdsTurn.isFetch = true ∧ home.IsSeparate ∧
      home.Session (home.contents thirdsTurn.before) [thirdsTurn] (home.contents thirdsTurn.after) ∧
      StoredDocument.Denotes (thirdsTurn.before home.history) before ∧
      StoredDocument.Denotes (thirdsTurn.after home.history) after ∧
      ¬ home.KeepsTables thirdsTurn := by
  intro before after
  have hsettings : thirdsTurn.machine.settings? = some {} := by decide +kernel
  have hsuits : home.Suits thirdsTurn.machine :=
    suits_home rfl rfl hsettings (fun _ => by decide +kernel) fun h => absurd h (by decide +kernel)
  have hfetch : thirdsTurn.isFetch = true := by decide +kernel
  have hbefore : StoredDocument.Denotes (thirdsTurn.before home.history) before := by
    have htext : thirdsTurn.before home.history = some (.text thirdsText) := by decide +kernel
    have hparse : (StoredDocument.parse? thirdsText : Option (PriceHistory Float)) =
      some before := by decide +kernel
    rw [htext]
    exact hparse
  have hread : (before.insert fetchedTable).reread? = some after := by decide +kernel
  have hfetched : thirdsTurn.Fetches fetchedTable := fetches_fetchedTable hsettings
  have hafter := (denotes_after_iff (l := home) hsuits rfl hfetch hfetched hbefore).mpr hread
  refine ⟨hfetch, isSeparate_home, .cons rfl hsuits (.nil _), hbefore, hafter, fun hkeeps => ?_⟩
  obtain ⟨history, history', table, htable, hbefore', hafter', -, hothers⟩ := hkeeps hfetch
  obtain rfl := hbefore.unique hbefore'
  obtain rfl := hafter.unique hafter'
  have hdate : otherDate ≠ table.date := by
    rw [htable.date_eq rfl]
    decide
  exact absurd (hothers _ hdate) (by decide +kernel)

end Layout

end LootLedger.Cli
