import LootLedger.Proofs.Cli.Turn
import LootLedger.Proofs.Settings.Document

/-!
# Setting one value touches nothing else

The command that sets a value takes the whole settings file apart and writes it anew, so every other
setting goes through both the reader and the writer. Whatever can be wrong is found out before
anything is written: the file must be readable, there must be a setting of that name, and it must
take the value. After that only the disk can refuse, and it does not refuse to write a file that is
there.

So the command fails and leaves every file as it was, or the settings file stands for the same
settings as before, with one of them replaced. It is read again by the same operation that every
other command begins with.

## Main definitions

* `Cli.Machine.HasSettings`: what is at the place of the settings file
* `Cli.Turn.SetsOne`: what comes of setting a value

## Main results

* `Cli.Machine.HasSettings.settings?_eq_some_iff`: the settings in effect are those that the file
  stands for
* `Cli.runOn_changeSetting`: all that the command can do
* `Cli.Turn.setsOne`: one setting is replaced, or nothing is changed
-/

namespace LootLedger.Cli

variable {k : Machine} {path : String} {content : Option Content}

/-! ### Loading -/

/-- A file with the content is found at the path, or nothing is found there, and no file is. -/
inductive Machine.HasSettings (k : Machine) (path : String) : Option Content → Prop
  | file {l : Location} {c : Content} (h : k.disk.find k.here path = .ok (l, .file c)) :
    HasSettings k path (some c)
  | missing (h : k.disk.fileAt? k.here path = none) (hpath : k.disk.hasPath k.here path = false) :
    HasSettings k path none

theorem run_loadFrom (path : String) (k : Machine) :
    (Settings.loadFrom path : StateM Machine (Except SettingsError (Option Settings))).run k =
      (if k.disk.hasPath k.here path = true then
        match k.disk.readText k.here path with
        | .error e => .error (.unreadable e)
        | .ok text => (Settings.ofText? text).map some
      else .ok none, k) := by
  rw [Settings.loadFrom, StateT.run_bind]
  change StateT.run (if k.disk.hasPath k.here path = true then _ else _) k = _
  split_ifs with hfound
  · rw [StateT.run_bind]
    change StateT.run (match k.disk.readText k.here path with | .error e => _ | .ok text => _) k = _
    cases k.disk.readText k.here path <;> rfl
  · rfl

namespace Machine.HasSettings

theorem fileAt?_eq (h : k.HasSettings path content) : k.disk.fileAt? k.here path = content := by
  cases h with
  | file h => exact (Disk.fileAt?_of_find h).2
  | missing h _ => exact h

/-- Settings that are there can be written again. -/
theorem takes (h : k.HasSettings path content)
    (htakes : k.disk.fileAt? k.here path = none → k.disk.Takes k.here path) :
    k.disk.Takes k.here path := by
  cases h with
  | file h => exact Disk.takes_of_find h
  | missing h _ => exact htakes h

/-- **The settings in effect** are those that the file stands for. -/
theorem settings?_eq_some_iff (h : k.HasSettings path content)
    (hpath : k.environment.settingsPath? = some path) {s : Settings} :
    k.settings? = some s ↔ Settings.Denotes content s := by
  rw [Machine.settings?, hpath, Option.bind_eq_bind, Option.bind_some, run_loadFrom]
  cases h with
  | missing _ hmissing =>
    rw [if_neg (Bool.eq_false_iff.mp hmissing)]
    exact ⟨fun h => (Option.some.inj h).symm, fun h => congrArg some h.symm⟩
  | @file l c h =>
    have hfound : k.disk.hasPath k.here path = true := by
      rw [Disk.hasPath, h]
      rfl
    rw [if_pos hfound]
    cases c with
    | bytes bs =>
      have hread : k.disk.readText k.here path = .error .notText := by
        rw [Disk.readText, h]
        rfl
      rw [hread]
      exact iff_of_false (Option.some_ne_none s).symm id
    | text text =>
      rw [Disk.readText_of_find h, Settings.Denotes, ← Settings.ofText?_eq_ok_iff]
      dsimp only
      cases Settings.ofText? text <;> simp [Except.map]

end Machine.HasSettings

/-- The settings in effect depend on the disk and the environment alone. -/
theorem Machine.Agrees.settings?_eq {k' : Machine} (h : k.Agrees k') :
    k'.settings? = k.settings? := by
  rw [Machine.settings?, Machine.settings?, h.environment]
  congr 1
  funext path
  rw [run_loadFrom, run_loadFrom, h.disk, h.here]

/-! ### Saving -/

/-- What writing settings to a file does: it is refused and no file is changed, or the file holds
them. -/
structure SavesSettings (s : Settings) (here : Location) (path : String) (disk disk' : Disk)
    (r : Except SettingsError Unit) : Prop where
  ok : r = .ok () → disk'.find here path = .ok (Disk.place here path, .file (.text s.text))
  others : ∀ l ≠ Disk.place here path, disk'.content? l = disk.content? l
  error : ∀ e, r = .error e → ∀ l, disk'.content? l = disk.content? l
  takes : disk.Takes here path → r = .ok ()

theorem run_writeText_settings (path text : String) (k : Machine) :
    StateT.run (do
      match ← FileAccess.writeText path text with
      | .error e => return .error (.unwritable e)
      | .ok () => return .ok () : StateM Machine (Except SettingsError Unit)) k =
    match k.disk.writeText k.here path text with
    | .error e => (.error (.unwritable e), k)
    | .ok disk => (.ok (), { k with disk }) := by
  rw [StateT.run_bind, DocumentStore.run_writeText]
  cases k.disk.writeText k.here path text <;> rfl

/-- The directory is made, and then the file is written. -/
theorem run_saveTo_eq (s : Settings) (path : String) (k : Machine) :
    (s.saveTo path : StateM Machine (Except SettingsError Unit)).run k =
      match k.disk.withDirectoryOf k.here path with
      | .error e => (.error (.noDirectoryMade e), k)
      | .ok disk₁ =>
        match disk₁.writeText k.here path s.text with
        | .error e => (.error (.unwritable e), { k with disk := disk₁ })
        | .ok disk₂ => (.ok (), { k with disk := disk₂ }) := by
  rw [Settings.saveTo, Disk.withDirectoryOf]
  cases Path.parent? path with
  | none => exact run_writeText_settings path s.text k
  | some directory =>
    dsimp only
    rw [StateT.run_bind, DocumentStore.run_makeDirectories]
    cases k.disk.makeDirectories k.here directory with
    | error e => rfl
    | ok disk₁ => exact run_writeText_settings path s.text { k with disk := disk₁ }

/-- **What saving settings does to the files.** -/
theorem run_saveTo (s : Settings) (path : String) (k : Machine) :
    ∃ r disk', (s.saveTo path : StateM Machine (Except SettingsError Unit)).run k =
        (r, { k with disk := disk' }) ∧ SavesSettings s k.here path k.disk disk' r := by
  rw [run_saveTo_eq]
  cases hmade : k.disk.withDirectoryOf k.here path with
  | error e =>
    refine ⟨_, k.disk, rfl, nofun, fun _ _ => rfl, fun _ _ _ => rfl, ?_⟩
    rintro ⟨disk₁, hmade', -⟩
    cases hmade.symm.trans hmade'
  | ok disk₁ =>
    have hsame := Disk.sameFiles_of_withDirectoryOf hmade
    dsimp only
    cases hwrite : disk₁.writeText k.here path s.text with
    | error e =>
      refine ⟨_, disk₁, rfl, nofun, fun l _ => hsame.1 l, fun _ _ l => hsame.1 l, ?_⟩
      rintro ⟨disk₁', hmade', hwrites⟩
      obtain rfl := Except.ok.inj (hmade.symm.trans hmade')
      obtain ⟨disk₂, hwritten⟩ := hwrites s.text
      cases hwrite.symm.trans hwritten
    | ok disk₂ =>
      obtain ⟨hlocate, -, hslash, hfile⟩ := Disk.writeText_eq_ok hwrite
      refine ⟨_, disk₂, rfl, fun _ => ?_, fun l hl => ?_, nofun, fun _ => rfl⟩
      · exact Disk.find_of_content? (hfile.keepsDirectories.locate hlocate) hslash
          hfile.content?_self
      · rw [hfile.content?_of_ne l hl, hsame.1 l]

/-! ### The command -/

/-- **All that setting a value can do**: to fail before anything is changed, because there are no
settings or they refuse the change, or to write the changed settings. -/
theorem runOn_changeSetting (console : Console) (name word : String)
    (hpath : k.environment.settingsPath? = some path) :
    FailsQuietly k (runOn k (changeSetting console name word)) ∧
      (∀ s s', k.settings? = some s → s.change name word ≠ .ok s') ∨
    ∃ s s' r disk', k.settings? = some s ∧ s.change name word = .ok s' ∧
      SavesSettings s' k.here path k.disk disk' r ∧
      Machine.Agrees { k with disk := disk' } (runOn k (changeSetting console name word)).2 ∧
      (runOn k (changeSetting console name word)).1 = r.mapError Failure.settings := by
  obtain ⟨r, k₁, hload, hsaid, hr⟩ := runOn_loadSettings console.log k
  have hk₁ := hsaid.toAgrees
  rw [changeSetting]
  cases r with
  | error e =>
    rw [runOn_bind_of_error hload]
    refine .inl ⟨⟨hk₁, e, rfl⟩, fun s s' hs => ?_⟩
    cases hr.trans hs
  | ok s =>
    rw [runOn_bind_of_ok hload]
    have hs : k.settings? = some s := hr.symm
    cases hchange : s.change name word with
    | error e =>
      have hrequire : runOn k₁ (require .settings (.error e) : Action (StateM Machine) Settings) =
          (.error (.settings e), k₁) := rfl
      rw [runOn_bind_of_error hrequire]
      refine .inl ⟨⟨hk₁, _, rfl⟩, fun s₀ s' hs₀ hs' => ?_⟩
      obtain rfl := Option.some.inj (hs.symm.trans hs₀)
      cases hchange.symm.trans hs'
    | ok s' =>
      have hrequire : runOn k₁ (require .settings (.ok s') : Action (StateM Machine) Settings) =
          (.ok s', k₁) := rfl
      rw [← hk₁.environment] at hpath
      rw [runOn_bind_of_ok hrequire, runOn_bind_of_ok (runOn_settingsPath hpath)]
      obtain ⟨r, disk', hsave, hsaves⟩ := run_saveTo s' path k₁
      rw [hk₁.disk, hk₁.here] at hsaves
      refine .inr ⟨s, s', r, disk', hs, hchange, hsaves, ?_⟩
      have hdemand := runOn_demand Failure.settings hsave
      cases r with
      | error e =>
        rw [runOn_bind_of_error hdemand]
        exact ⟨hk₁.withDisk disk', rfl⟩
      | ok _ =>
        rw [runOn_bind_of_ok hdemand]
        obtain ⟨k₂, htalk, hk₂⟩ := isTalk_report console _ _ { k₁ with disk := disk' }
        rw [htalk]
        exact ⟨(hk₁.withDisk disk').trans hk₂.toAgrees, rfl⟩

/-- The settings are read once before, for the colour of what is said, and nothing comes of it. -/
theorem runOn_carryOut_changeSetting (flags : Flags) (name word : String) (k : Machine) :
    ∃ console k', k.Agrees k' ∧ runOn k (carryOut flags (.changeSetting name word)) =
      runOn k' (changeSetting console name word) := by
  have hquiet :=
    isQuiet_loadSettings (logOf flags.verbose flags.quiet flags.noColor k.environment) k
  rw [carryOut, runOn_bind_of_ok (runOn_environment k)]
  dsimp only
  rw [show (Command.changeSetting name word).isStandalone = true from rfl, if_pos rfl,
    runOn_bind_of_ok (runOn_perform k _)]
  exact ⟨_, _, hquiet, rfl⟩

namespace Turn

variable {turn : Turn} {name word : String}

/-- **What comes of setting a value.** -/
structure SetsOne (turn : Turn) (path name word : String) : Prop where
  /-- A turn that fails leaves every file as it was. -/
  unchanged : turn.succeeds = false → ∀ p, turn.after p = turn.before p
  /-- After a turn that succeeds the settings are those of before with one of them replaced. -/
  replaced : turn.succeeds = true → ∃ (x : Setting) (v : Toml.Scalar) (s s' : Settings),
    x.name = name ∧ x.Takes word v ∧ Settings.Denotes (turn.before path) s ∧ s.Replaces x v s' ∧
    turn.result.2.settings? = some s' ∧
    ∃ text, turn.after path = some (.text text) ∧
      Settings.decode? text = some (Settings.version, s')
  /-- No other file is changed. -/
  others : ∀ p, Disk.place turn.machine.here p ≠ Disk.place turn.machine.here path →
    turn.after p = turn.before p
  /-- If a missing file can be written, a turn fails if the file stands for no settings, or if there
  is no setting of the name, or it does not take the word, and for no other reason. -/
  fails_iff : (turn.before path = none → turn.machine.disk.Takes turn.machine.here path) →
    (turn.succeeds = false ↔
      (∀ s, ¬ Settings.Denotes (turn.before path) s) ∨ (∀ x : Setting, x.name ≠ name) ∨
        ∃ x : Setting, x.name = name ∧ ∀ v, ¬ x.Takes word v)

/-- A turn that fails has changed no file, and if it was not the disk that refused, it has a reason
in the file, the name or the word. -/
theorem SetsOne.of_error (hsame : ∀ p, turn.after p = turn.before p)
    (herror : ∃ e, turn.result.1 = .error e)
    (hrefused : (turn.before path = none → turn.machine.disk.Takes turn.machine.here path) →
      ∀ s s', Settings.Denotes (turn.before path) s → s.change name word ≠ .ok s') :
    turn.SetsOne path name word := by
  have hfails : turn.succeeds = false := by
    obtain ⟨e, he⟩ := herror
    rw [succeeds, he]
    rfl
  refine ⟨fun _ => hsame, fun hdone => absurd (hfails.symm.trans hdone) Bool.false_ne_true,
    fun p _ => hsame p, fun htakes => iff_of_true hfails ?_⟩
  by_contra hnone
  simp only [not_or, not_forall, not_exists, not_and, not_not] at hnone
  obtain ⟨⟨s, hs⟩, ⟨x, rfl⟩, hvalue⟩ := hnone
  obtain ⟨v, hv⟩ := hvalue x rfl
  obtain ⟨s', hs'⟩ := s.exists_change_eq_ok hv
  exact hrefused htakes s s' hs hs'

/-- A turn that saves leaves the changed settings, and they are read again. -/
theorem SetsOne.of_saved {s s' : Settings} {disk' : Disk}
    (hpath : turn.machine.environment.settingsPath? = some path)
    (hs : Settings.Denotes (turn.before path) s) (hchange : s.change name word = .ok s')
    (hsaves : SavesSettings s' turn.machine.here path turn.machine.disk disk' (.ok ()))
    (hafter : Machine.Agrees { turn.machine with disk := disk' } turn.result.2)
    (hok : turn.result.1 = .ok ()) : turn.SetsOne path name word := by
  obtain ⟨x, hname, v, hvalue, hreplaces⟩ := Settings.change_eq_ok_iff.mp hchange
  have hsucceeds : turn.succeeds = true := succeeds_iff.mpr hok
  have hheld : turn.result.2.HasSettings path (some (.text s'.text)) :=
    .file (by rw [hafter.disk, hafter.here]; exact hsaves.ok rfl)
  refine ⟨by rw [hsucceeds]; nofun, fun _ => ?_, fun p hp => ?_,
    fun _ => iff_of_false (by rw [hsucceeds]; nofun) ?_⟩
  · refine ⟨x, v, s, s', hname, hvalue, hs, hreplaces, ?_, s'.text, ?_, s'.decode?_text⟩
    · rw [hheld.settings?_eq_some_iff (hafter.environment ▸ hpath)]
      exact ⟨Settings.version, Nat.le_refl _, s'.decode?_text⟩
    · rw [after, ← hheld.fileAt?_eq, hafter.here]
  · rw [after, before, hafter.disk]
    exact Disk.fileAt?_congr (hsaves.others _ hp)
  · rintro (hnone | hnone | ⟨y, hy, hnone⟩)
    · exact hnone s hs
    · exact hnone x hname
    · obtain rfl := Setting.name_injective (hy.trans hname.symm)
      exact hnone v hvalue

/-- **Setting one value touches nothing else**: one setting is replaced, or nothing is changed. -/
theorem setsOne (hcommand : turn.command = .changeSetting name word)
    (hpath : turn.machine.environment.settingsPath? = some path)
    (hsettings : turn.machine.HasSettings path content) : turn.SetsOne path name word := by
  obtain ⟨console, k, hk, hrun⟩ := runOn_carryOut_changeSetting turn.flags name word turn.machine
  have hresult : runOn k (changeSetting console name word) = turn.result := by
    rw [result, hcommand, hrun]
  have hloads {s : Settings} : k.settings? = some s ↔ Settings.Denotes (turn.before path) s := by
    rw [hk.settings?_eq, before, hsettings.fileAt?_eq]
    exact hsettings.settings?_eq_some_iff hpath
  rcases runOn_changeSetting console name word (hk.environment ▸ hpath) with
    ⟨hfails, hrefused⟩ | ⟨s, s', r, disk', hs, hchange, hsaves, hafter, hr⟩
  · rw [hresult] at hfails
    refine .of_error (fun p => ?_) hfails.2 fun _ s s' hs => hrefused s s' (hloads.mpr hs)
    rw [after, before, (hk.trans hfails.1).disk]
  · rw [hresult] at hafter hr
    rw [hk.disk, hk.here] at hsaves
    have hafter := (hk.withDisk disk').trans hafter
    cases r with
    | ok _ => exact .of_saved hpath (hloads.mp hs) hchange hsaves hafter hr
    | error e =>
      refine .of_error (fun p => ?_) ⟨_, hr⟩ fun htakes => ?_
      · rw [after, before, hafter.disk]
        exact Disk.fileAt?_congr (hsaves.error e rfl _)
      · cases hsaves.takes (hsettings.takes htakes)

/-- A league is set, and a profile is going to be. -/
def profileTurn : Turn where
  machine := {
    disk := { nodes := [(["config.toml"], .file (.text "[rates]\nleague = 'A \"B\"'\n"))] }
    environment := [("LOOTLOG_CONFIG", "config.toml")]
    clock := .midnight .epoch
    network := { outcome := fun _ _ => .failure .unreachable } }
  flags := {}
  command := .changeSetting "filter.profile" " strict "

theorem setsOne_profileTurn :
    profileTurn.command = .changeSetting "filter.profile" " strict " ∧
      profileTurn.machine.environment.settingsPath? = some "config.toml" ∧
      profileTurn.machine.HasSettings "config.toml"
        (some (.text "[rates]\nleague = 'A \"B\"'\n")) ∧
      profileTurn.succeeds = true ∧
      profileTurn.SetsOne "config.toml" "filter.profile" " strict " :=
  have hsettings : profileTurn.machine.HasSettings "config.toml"
      (some (.text "[rates]\nleague = 'A \"B\"'\n")) := .file rfl
  ⟨rfl, rfl, hsettings, by decide +kernel, setsOne rfl rfl hsettings⟩

end Turn

end LootLedger.Cli
