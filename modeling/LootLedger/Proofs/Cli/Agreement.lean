import LootLedger.Proofs.Archive.InEffect
import LootLedger.Proofs.Cli.Rows
import LootLedger.Proofs.Cli.Turn

/-!
# Matching by a saved document agrees with matching by a file

A filter reaches a match by one of two ways. A file is read and compiled. A saved document takes a
longer way: it was read from a file, written into the archive, found there again by its profile and
its time, looked for in a cache, and then compiled. The two ways meet in the text that is compiled,
and of a compiled filter nothing but its document goes into the rows. So if the saved document is
the one in effect, both matches show the same, whatever else the archive holds.

## Main definitions

* `Cli.Machine.items?`: the items that a command reads
* `Cli.Turn.Chooses`, `Cli.Turn.Lists`: which filter a match chooses, and which rows it reports
* `Cli.Turn.AsksArchive`, `Cli.Turn.AsksFile`: the two ways
* `Cli.Layout.Agreement`: what matches make of one document among others

## Main results

* `Cli.runOn_compileSaved`: a saved filter is the one in effect
* `Cli.Turn.Chooses.lists`: the rows depend on the document of the filter
* `Cli.Layout.agreement_of_isSave`: saved documents are matched by as files are
-/

namespace LootLedger.Cli

variable {k : Machine}

/-! ### The filter of a match -/

theorem runOn_readFile {file text : String} (h : k.disk.readText k.here file = .ok text) :
    runOn k (readFile file) = (.ok text, k) := by
  have hrun : (FileAccess.readText file : StateM Machine _).run k = (.ok text, k) :=
    congrArg (·, k) h
  exact runOn_demand Failure.io hrun

/-- A file is compiled. -/
theorem runOn_compileFile (console : Console) {file text : String}
    (h : k.disk.readText k.here file = .ok text) :
    ∃ k', k.Agrees k' ∧ runOn k (compileFile console file) = (.ok (.ofText file text), k') := by
  rw [compileFile, runOn_bind_of_ok (runOn_readFile h)]
  obtain ⟨k', hk, hrun⟩ := IsTalk.runOn_bind
    (isTalk_tell console.log (Event.compiled (CompiledFilter.ofText file text).document))
    (fun _ => pure (CompiledFilter.ofText file text)) k
  exact ⟨k', hk.toAgrees, hrun⟩

/-- The filter that was found; that there is none is a failure. -/
def orNoFilter (profile : String) : Option CompiledFilter → Except Failure CompiledFilter
  | some f => .ok f
  | none => .error (.noFilter profile)

/-- **A saved filter is the one in effect** in the archive, if the archive can be read. -/
theorem runOn_compileSaved (console : Console) {settings : Settings} (profile : Option String)
    (at_ : Option Instant) {store : DocumentStore FilterArchive} {archive : FilterArchive}
    (hplace : settings.filterStore? k.environment = .ok store)
    (hholds : k.Holds store.path archive) :
    ∃ k', k.Agrees k' ∧ runOn k (compileSaved console settings profile at_) =
      (orNoFilter (profile.getD settings.profileName)
        (archive.filterAt? (at_.getD k.clock) (profile.getD settings.profileName)), k') := by
  rw [runOn_compileSaved_eq]
  generalize profile.getD settings.profileName = profile
  generalize at_.getD k.clock = at_
  rw [compileAt, runOn_bind_of_ok (runOn_environment k), hplace]
  change ∃ k', k.Agrees k' ∧ runOn k (demand Failure.store store.loadOrEmpty >>= _) = _
  rw [runOn_bind_of_ok hholds.runOn_load]
  dsimp only
  rw [FilterCache.compiledAt_empty]
  obtain ⟨k', hk, hrun⟩ := IsTalk.runOn_bind (isTalk_tell console.log
    (Event.cached ((archive.filterAt? at_ profile).getD (.ofText "" "")) profile)) _ k
  rw [hrun]
  refine ⟨k', hk.toAgrees, ?_⟩
  cases hfilter : archive.filterAt? at_ profile with
  | none =>
    dsimp only [Option.getD_none]
    rw [if_pos (show (CompiledFilter.ofText "" "").version = "" from rfl)]
    rfl
  | some f =>
    dsimp only [Option.getD_some]
    rw [if_neg (FilterArchive.version_ne_empty_of_filterAt? hfilter)]
    rfl

/-! ### The rest of a match -/

/-- The items that a path leads to, if they can be read. A dash stands for the standard input. -/
def Machine.items? (k : Machine) (path : String) : Option (List Item) := do
  let text ← (if path = "-" then k.inputText else k.disk.readText k.here path).toOption
  (Item.listOfText? text).toOption

theorem runOn_readItems (log : Log) {path : String} {items : List Item}
    (h : k.items? path = some items) :
    ∃ k', k.Agrees k' ∧ runOn k (readItems log path) = (.ok items, k') := by
  obtain ⟨text, htext, hitems⟩ := Option.bind_eq_some_iff.mp h
  rw [toOption_eq_some_iff] at htext hitems
  have hrest : ∃ k', k.Agrees k' ∧ runOn k (do
      let items ← require .items (Item.listOfText? text)
      tell log [Event.loadedItems items.length path]
      return items : Action (StateM Machine) (List Item)) = (.ok items, k') := by
    rw [hitems]
    obtain ⟨k', hk, hrun⟩ := IsTalk.runOn_bind
      (isTalk_tell log [Event.loadedItems items.length path]) (fun _ => pure items) k
    exact ⟨k', hk.toAgrees, hrun⟩
  rw [readItems]
  split at htext
  · next hdash =>
    have hrun : (Host.readInput : StateM Machine _).run k = (.ok text, k) :=
      congrArg (·, k) htext
    rw [if_pos hdash, runOn_bind_of_ok (runOn_demand Failure.io hrun)]
    exact hrest
  · next hdash =>
    rw [if_neg hdash, runOn_bind_of_ok (runOn_readFile htext)]
    exact hrest

/-- What is read does not depend on what was said before. -/
theorem Machine.Agrees.items?_eq {k' : Machine} (h : k.Agrees k') (path : String) :
    k'.items? path = k.items? path := by
  rw [Machine.items?, Machine.items?, Machine.inputText, Machine.inputText, h.disk, h.here, h.input]

/-! ### Matches -/

namespace Turn

variable {turn : Turn} {options : MatchOptions}

/-- The turn is a match, and this is the filter that it chooses, or the failure to find one. -/
def Chooses (turn : Turn) (options : MatchOptions) (chosen : Except Failure CompiledFilter) :
    Prop :=
  ∃ settings k k', turn.machine.settings? = some settings ∧ turn.machine.Agrees k ∧ k.Agrees k' ∧
    let console := turn.flags.console turn.machine.environment settings
    turn.result = runOn k (matchItems console settings options) ∧
      runOn k (chosenFilter console settings options) = (chosen, k')

/-- The turn reports these rows: what the filter that it chooses, of this version, decides about the
items that it reads. -/
structure Lists (turn : Turn) (options : MatchOptions) (version : String) (rows : List MatchRow) :
    Prop where
  decided : ∃ f items, turn.Chooses options (.ok f) ∧ f.version = version ∧
    turn.machine.items? options.items = some items ∧
    matchRows (f.withAreaLevel options.areaLevel) items options.shownOnly = .ok rows
  reported : ∃ settings k, turn.machine.settings? = some settings ∧ turn.machine.Agrees k ∧
    let console := turn.flags.console turn.machine.environment settings
    turn.result = runOn k (report console (Matches.json version options.areaLevel rows)
      (Matches.text console.usesColour rows))

/-- The turn matches items by a saved document, and the archive can be read. -/
structure AsksArchive (turn : Turn) (l : Layout) (options : MatchOptions) (archive : FilterArchive)
    (profile : String) (at_ : Instant) : Prop where
  command : turn.command = .matchItems options
  filter : options.filter = none
  at_ : options.at_.getD turn.machine.clock = at_
  settings : ∃ settings, turn.machine.settings? = some settings ∧
    options.profile.getD settings.profileName = profile ∧
    settings.filterStore? turn.machine.environment = .ok l.archiveStore
  holds : turn.machine.Holds l.archive archive

/-- The turn matches items by a file, and the file can be read. -/
structure AsksFile (turn : Turn) (options : MatchOptions) (file text : String) : Prop where
  command : turn.command = .matchItems options
  filter : options.filter = some file
  settings : ∃ settings, turn.machine.settings? = some settings
  text : turn.machine.disk.readText turn.machine.here file = .ok text

/-- A match goes on with the settings in effect. -/
theorem exists_result_of_matchItems {settings : Settings}
    (hcommand : turn.command = .matchItems options)
    (hsettings : turn.machine.settings? = some settings) :
    ∃ k, turn.machine.Agrees k ∧ turn.result = runOn k
      (matchItems (turn.flags.console turn.machine.environment settings) settings options) := by
  obtain ⟨k, hk, hrun⟩ := runOn_carryOut_of_settings? turn.flags
    (show turn.command.isStandalone = false by rw [hcommand]; rfl) hsettings
  rw [hcommand] at hrun
  rw [result, hcommand]
  exact ⟨k, hk.toAgrees, hrun⟩

/-- **A match by a saved document** chooses the filter in effect. -/
theorem AsksArchive.chooses {l : Layout} {archive : FilterArchive} {profile : String}
    {at_ : Instant} (h : turn.AsksArchive l options archive profile at_) :
    turn.Chooses options (orNoFilter profile (archive.filterAt? at_ profile)) := by
  obtain ⟨settings, hsettings, rfl, hplace⟩ := h.settings
  obtain rfl := h.at_
  obtain ⟨k, hk, hresult⟩ := exists_result_of_matchItems h.command hsettings
  have hholds : k.Holds l.archiveStore.path archive := h.holds.congr hk.disk hk.here
  rw [← hk.environment] at hplace
  obtain ⟨k', hk', hrun⟩ := runOn_compileSaved
    (turn.flags.console turn.machine.environment settings) options.profile options.at_ hplace hholds
  rw [hk.clock] at hrun
  refine ⟨settings, k, k', hsettings, hk, hk', hresult, ?_⟩
  rw [chosenFilter, h.filter]
  exact hrun

/-- **A match by a file** chooses the filter in it. -/
theorem AsksFile.chooses {file text : String} (h : turn.AsksFile options file text) :
    turn.Chooses options (.ok (.ofText file text)) := by
  obtain ⟨settings, hsettings⟩ := h.settings
  obtain ⟨k, hk, hresult⟩ := exists_result_of_matchItems h.command hsettings
  have htext := h.text
  rw [← hk.disk, ← hk.here] at htext
  obtain ⟨k', hk', hrun⟩ :=
    runOn_compileFile (turn.flags.console turn.machine.environment settings) htext
  refine ⟨settings, k, k', hsettings, hk, hk', hresult, ?_⟩
  rw [chosenFilter, h.filter]
  exact hrun

/-- **The rows depend on the document of the filter,** not on its version. -/
theorem Chooses.lists {f : CompiledFilter} (h : turn.Chooses options (.ok f)) {items : List Item}
    (hitems : turn.machine.items? options.items = some items) :
    turn.Lists options f.version ((decidedRows f.document.rules options.areaLevel items).filter
      fun row => !options.shownOnly || row.isShown) := by
  refine ⟨⟨f, items, h, rfl, hitems, matchRows_withAreaLevel _ _ f _⟩, ?_⟩
  obtain ⟨settings, k, k₁, hsettings, hk, hk₁, hresult, hchosen⟩ := h
  rw [matchItems, runOn_bind_of_ok hchosen] at hresult
  obtain ⟨k₂, hk₂, hrun⟩ := IsTalk.runOn_bind
    (isTalk_tell (turn.flags.console turn.machine.environment settings).log
      (Event.flawedFilter (f.withAreaLevel options.areaLevel))) _ k₁
  rw [hrun] at hresult
  clear hrun
  have hagrees := (hk.trans hk₁).trans hk₂.toAgrees
  rw [← hagrees.items?_eq] at hitems
  obtain ⟨k₃, hk₃, hread⟩ := runOn_readItems
    (turn.flags.console turn.machine.environment settings).log hitems
  rw [runOn_bind_of_ok hread, matchRows_withAreaLevel] at hresult
  exact ⟨settings, k₃, hsettings, hagrees.trans hk₃, hresult⟩

end Turn

/-! ### The two ways agree -/

namespace Layout

/-- What matches make of a document that stands in the archive between earlier and later ones. -/
structure Agreement (l : Layout) (earlier : List SavedFilter) (entry : SavedFilter)
    (later : List SavedFilter) : Prop where
  /-- Where nothing supersedes the document, a match finds it. -/
  finds (turn : Turn) (options : MatchOptions) (at_ : Instant) :
    turn.AsksArchive l options ⟨earlier ++ entry :: later⟩ entry.profile at_ →
    entry.IsNewestAt earlier later at_ →
    turn.Chooses options (.ok (.ofText entry.version entry.text))
  /-- The rows are the same then as those of a match by any file with the same text. -/
  same_rows (turn direct : Turn) (options options' : MatchOptions) (at_ : Instant) (file : String)
    (items : List Item) :
    turn.AsksArchive l options ⟨earlier ++ entry :: later⟩ entry.profile at_ →
    entry.IsNewestAt earlier later at_ →
    direct.AsksFile options' file entry.text →
    options'.areaLevel = options.areaLevel → options'.shownOnly = options.shownOnly →
    turn.machine.items? options.items = some items →
    direct.machine.items? options'.items = some items →
    ∃ rows, turn.Lists options entry.version rows ∧ direct.Lists options' file rows
  /-- Up to the time of its save a match does as if the document had not been saved. -/
  not_yet (turn other : Turn) (options options' : MatchOptions) (profile : String)
    (at_ : Instant) :
    turn.AsksArchive l options ⟨earlier ++ entry :: later⟩ profile at_ →
    ¬ entry.savedAt < at_ →
    other.AsksArchive l options' ⟨earlier ++ later⟩ profile at_ →
    ∃ chosen, turn.Chooses options chosen ∧ other.Chooses options' chosen

theorem agreement (l : Layout) (earlier : List SavedFilter) (entry : SavedFilter)
    (later : List SavedFilter) : l.Agreement earlier entry later where
  finds turn options at_ hturn hnewest := by
    have hchooses := hturn.chooses
    rwa [FilterArchive.filterAt?_of_isNewestAt hnewest] at hchooses
  same_rows turn direct options options' at_ file items hturn hnewest hdirect hlevel hshown hitems
      hitems' := by
    have hchooses := hturn.chooses
    rw [FilterArchive.filterAt?_of_isNewestAt hnewest] at hchooses
    have hlists := hdirect.chooses.lists hitems'
    rw [hlevel, hshown] at hlists
    exact ⟨_, hchooses.lists hitems, hlists⟩
  not_yet turn other options options' profile at_ hturn hnot hother := by
    have hchooses := hturn.chooses
    rw [FilterArchive.filterAt?_of_not_lt hnot] at hchooses
    exact ⟨_, hchooses, hother.chooses⟩

/-- **Saved documents are matched by as files are.** A save that succeeds leaves an archive with one
more document, the text of a file. Whatever is saved after it, a match that the document is in
effect for finds it and has the rows of a match by a file with that text, and the document is not in
effect at the time of its save. -/
theorem agreement_of_isSave {l : Layout} {turn : Turn} (hl : l.Suits turn.machine)
    (h : turn.isSave = true) :
    ∃ (archive : FilterArchive) (entry : SavedFilter), turn.Records entry ∧
      StoredDocument.Denotes (turn.before l.archive) archive ∧
      turn.result.2.Holds l.archive (archive.save entry) ∧
      ∀ later, l.Agreement archive.saved entry later := by
  have hc := turn.isStandalone_of_isSave h
  obtain ⟨archive, entry, hentry, hbefore, hafter⟩ := Turn.exists_holds_of_isSave hl hc h
  exact ⟨archive, entry, hentry, hbefore, hafter, agreement l archive.saved entry⟩

/-- A machine a second after the first save, with an item to match. -/
def withOrb (k : Machine) : Machine :=
  { k with
    clock := (Instant.of? .epoch 0 0 1 0).getD default
    input := .text "[\x7b\"typeLine\": \"Chaos Orb\"\x7d]" }

/-- How the item is matched: by a file, or by a saved document. -/
def orbOptions (filter : Option String) : MatchOptions :=
  { items := "-", areaLevel := 68, filter }

/-- The item is matched. -/
def orbMatch (k : Machine) (filter : Option String) : Turn :=
  ⟨withOrb k, {}, .matchItems (orbOptions filter)⟩

theorem agreement_homeTurn : home.Suits homeTurn.machine ∧ homeTurn.isSave = true ∧
    ∃ (entry : SavedFilter) (item : Item) (rows : List MatchRow), homeTurn.Records entry ∧
      homeTurn.result.2.Holds home.archive (⟨[entry]⟩ : FilterArchive) ∧
      (withOrb homeTurn.result.2).items? "-" = some [item] ∧
      (orbMatch homeTurn.result.2 none).Lists (orbOptions none) entry.version rows ∧
      (orbMatch homeTurn.result.2 (some "strict.filter")).Lists (orbOptions (some "strict.filter"))
        "strict.filter" rows := by
  have hsave : homeTurn.isSave = true := by decide +kernel
  obtain ⟨archive, entry, hrecords, hbefore, hholds, hagree⟩ :=
    agreement_of_isSave suits_homeMachine hsave
  obtain rfl : archive = {} := hbefore
  obtain ⟨file, profile, force, settings, hcommand, hsettings, htext, -, hprofile, htime⟩ :=
    id hrecords
  obtain ⟨rfl, rfl, rfl⟩ := Command.saveFilter.inj hcommand
  obtain rfl : {} = settings := Option.some.inj hsettings
  have hsettings' : (withOrb homeTurn.result.2).settings? = some {} := by decide +kernel
  have hfile : homeTurn.result.2.disk.readText homeTurn.result.2.here "strict.filter" =
      .ok entry.text := by
    rw [← htext]
    decide +kernel
  have hcount : ((withOrb homeTurn.result.2).items? "-").map List.length = some 1 := by
    decide +kernel
  obtain ⟨items, hitems, hlength⟩ := Option.map_eq_some_iff.mp hcount
  obtain ⟨item, rfl⟩ := List.length_eq_one_iff.mp hlength
  have hlt : entry.savedAt < (withOrb homeTurn.result.2).clock := by
    rw [htime]
    decide
  obtain ⟨disk, hk⟩ := homeTurn.exists_agrees_result suits_homeMachine rfl
  have henv := hk.environment
  -- from here on it does not matter how the machine came about
  generalize homeTurn.result.2 = k at *
  have hplace : ({} : Settings).filterStore? k.environment = .ok home.archiveStore :=
    henv ▸ suits_homeMachine.archive {} rfl
  have hsaved : (orbMatch k none).AsksArchive home (orbOptions none) ⟨[] ++ entry :: []⟩
      entry.profile (withOrb k).clock :=
    ⟨rfl, rfl, rfl, ⟨{}, hsettings', hprofile.symm, hplace⟩, hholds⟩
  have hnewest : entry.IsNewestAt [] [] (withOrb k).clock :=
    ⟨hlt, fun _ h => absurd h List.not_mem_nil, fun _ h => absurd h List.not_mem_nil⟩
  have hdirect : (orbMatch k (some "strict.filter")).AsksFile (orbOptions (some "strict.filter"))
      "strict.filter" entry.text :=
    ⟨rfl, rfl, ⟨{}, hsettings'⟩, hfile⟩
  obtain ⟨rows, hrows, hrows'⟩ := (hagree []).same_rows _ _ _ _ _ _ _ hsaved hnewest hdirect rfl
    rfl hitems hitems
  exact ⟨suits_homeMachine, hsave, entry, item, rows, hrecords, hholds, hitems, hrows, hrows'⟩

end Layout

end LootLedger.Cli
