import LootLedger.Cli.Machine
import LootLedger.Cli.Run

/-!
# Quiet actions

Most of what a command does is to look at things and to talk: it reads files and the clock, asks the
network, and writes to the two outputs. Such an action leaves the disk and all that is looked at as
they are, so it does not matter how often and in which order it is done. An action is quiet if all
its steps are, whether it succeeds or fails, so that it is told from its text which commands are.

## Main definitions

* `Cli.runOn`: what an action answers on a machine, and the machine after it
* `Cli.Machine.Agrees`: two machines differ at most in what was said and asked
* `Cli.Machine.HasSaid`: two machines differ at most in what was said
* `Cli.IsQuiet`: an action after which the machine agrees with the one before
* `Cli.IsTalk`: an action that talks at most and never fails

## Main results

* `Cli.IsQuiet.bind`: quiet steps make a quiet action
* `Cli.isQuiet_loadSettings`, `Cli.isQuiet_readItems`, `Cli.isQuietOperation_fetch`: the larger
  steps
* `Cli.isQuiet_carryOutConfigured`: the commands that change no document
-/

namespace LootLedger.Cli

variable {α β ε : Type}

/-- What an action answers on a machine, and the machine after it. -/
def runOn (k : Machine) (x : Action (StateM Machine) α) : Except Failure α × Machine :=
  StateT.run (ExceptT.run x) k

/-- Two machines differ at most in what was said and in what was asked of the network. -/
structure Machine.Agrees (k k' : Machine) : Prop where
  disk : k'.disk = k.disk
  here : k'.here = k.here
  environment : k'.environment = k.environment
  clock : k'.clock = k.clock
  input : k'.input = k.input

namespace Machine.Agrees

theorem refl (k : Machine) : k.Agrees k :=
  ⟨rfl, rfl, rfl, rfl, rfl⟩

theorem trans {k k' k'' : Machine} (h : k.Agrees k') (h' : k'.Agrees k'') : k.Agrees k'' :=
  ⟨h'.disk.trans h.disk, h'.here.trans h.here, h'.environment.trans h.environment,
    h'.clock.trans h.clock, h'.input.trans h.input⟩

end Machine.Agrees

/-- Two machines differ at most in what was said: nothing was asked of the network. -/
structure Machine.HasSaid (k k' : Machine) : Prop extends k.Agrees k' where
  network : k'.network = k.network

namespace Machine.HasSaid

theorem refl (k : Machine) : k.HasSaid k :=
  ⟨.refl k, rfl⟩

theorem trans {k k' k'' : Machine} (h : k.HasSaid k') (h' : k'.HasSaid k'') : k.HasSaid k'' :=
  ⟨h.toAgrees.trans h'.toAgrees, h'.network.trans h.network⟩

end Machine.HasSaid

/-! ### Steps -/

theorem runOn_pure (k : Machine) (a : α) : runOn k (pure a) = (.ok a, k) := rfl

theorem runOn_perform (k : Machine) (x : StateM Machine α) :
    runOn k (perform x) = (.ok (x.run k).1, (x.run k).2) := rfl

theorem runOn_environment (k : Machine) :
    runOn k (perform Host.environment) = (.ok k.environment, k) := rfl

theorem runOn_now (k : Machine) : runOn k (perform Host.now) = (.ok k.clock, k) := rfl

/-- After a step that succeeds the next one is taken on the machine that it left. -/
theorem runOn_bind_of_ok {k k' : Machine} {x : Action (StateM Machine) α} {a : α}
    (h : runOn k x = (.ok a, k')) (f : α → Action (StateM Machine) β) :
    runOn k (x >>= f) = runOn k' (f a) := by
  change StateT.run (ExceptT.run x >>= fun r => ExceptT.bindCont f r) k = _
  rw [StateT.run_bind]
  rw [show StateT.run (ExceptT.run x) k = (Except.ok a, k') from h]
  rfl

/-- A step that fails ends the action. -/
theorem runOn_bind_of_error {k k' : Machine} {x : Action (StateM Machine) α} {e : Failure}
    (h : runOn k x = (.error e, k')) (f : α → Action (StateM Machine) β) :
    runOn k (x >>= f) = (.error e, k') := by
  change StateT.run (ExceptT.run x >>= fun r => ExceptT.bindCont f r) k = _
  rw [StateT.run_bind]
  rw [show StateT.run (ExceptT.run x) k = (Except.error e, k') from h]
  rfl

/-! ### Quiet steps -/

/-- An operation of the machine leaves it as it is but for what is said and asked. -/
def IsQuietOperation (x : StateM Machine α) : Prop :=
  ∀ k : Machine, k.Agrees (x.run k).2

/-- An action leaves the machine as it is but for what is said and asked. -/
def IsQuiet (x : Action (StateM Machine) α) : Prop :=
  ∀ k : Machine, k.Agrees (runOn k x).2

theorem isQuiet_pure (a : α) : IsQuiet (pure a) := fun k => .refl k

theorem isQuiet_throw (e : Failure) : IsQuiet (throw e : Action (StateM Machine) α) :=
  fun k => .refl k

/-- **Quiet steps make a quiet action.** -/
theorem IsQuiet.bind {x : Action (StateM Machine) α} {f : α → Action (StateM Machine) β}
    (hx : IsQuiet x) (hf : ∀ a, IsQuiet (f a)) : IsQuiet (x >>= f) := by
  intro k
  have hk := hx k
  obtain ⟨r, k', hrun⟩ : ∃ r k', runOn k x = (r, k') := ⟨_, _, rfl⟩
  rw [hrun] at hk
  cases r with
  | ok a =>
    rw [runOn_bind_of_ok hrun]
    exact hk.trans (hf a k')
  | error e =>
    rw [runOn_bind_of_error hrun]
    exact hk

theorem IsQuiet.ite {c : Prop} [Decidable c] {x y : Action (StateM Machine) α} (hx : IsQuiet x)
    (hy : IsQuiet y) : IsQuiet (if c then x else y) := by
  split
  · exact hx
  · exact hy

theorem isQuiet_perform {x : StateM Machine α} (h : IsQuietOperation x) : IsQuiet (perform x) := h

theorem isQuiet_require (failure : ε → Failure) (x : Except ε α) :
    IsQuiet (require failure x : Action (StateM Machine) α) := by
  cases x with
  | ok a => exact isQuiet_pure a
  | error e => exact isQuiet_throw _

theorem isQuiet_demand (failure : ε → Failure) {x : StateM Machine (Except ε α)}
    (h : IsQuietOperation x) : IsQuiet (demand failure x) :=
  (isQuiet_perform h).bind fun r => by
    cases r with
    | ok a => exact isQuiet_pure a
    | error e => exact isQuiet_throw _

theorem IsQuietOperation.bind {x : StateM Machine α} {f : α → StateM Machine β}
    (hx : IsQuietOperation x) (hf : ∀ a, IsQuietOperation (f a)) : IsQuietOperation (x >>= f) :=
  fun k => (hx k).trans (hf _ _)

theorem isQuietOperation_pure (a : α) : IsQuietOperation (pure a) := fun k => .refl k

theorem isQuietOperation_environment :
    IsQuietOperation (Host.environment : StateM Machine Environment) := fun k => .refl k

theorem isQuietOperation_now : IsQuietOperation (Host.now : StateM Machine Instant) :=
  fun k => .refl k

theorem isQuietOperation_readInput :
    IsQuietOperation (Host.readInput : StateM Machine (Except IoError String)) := fun k => .refl k

theorem isQuietOperation_readText (path : String) :
    IsQuietOperation (FileAccess.readText path : StateM Machine (Except IoError String)) :=
  fun k => .refl k

theorem isQuietOperation_hasPath (path : String) :
    IsQuietOperation (FileAccess.hasPath path : StateM Machine Bool) := fun k => .refl k

theorem isQuietOperation_send (url : Url) :
    IsQuietOperation (Host.send url : StateM Machine Http.Outcome) :=
  fun _ => ⟨rfl, rfl, rfl, rfl, rfl⟩

theorem isQuietOperation_wait (w : Http.Wait) :
    IsQuietOperation (Host.wait w : StateM Machine Unit) :=
  fun _ => ⟨rfl, rfl, rfl, rfl, rfl⟩

theorem isQuietOperation_print (s : String) :
    IsQuietOperation (Host.print s : StateM Machine Unit) :=
  fun _ => ⟨rfl, rfl, rfl, rfl, rfl⟩

theorem isQuietOperation_printError (s : String) :
    IsQuietOperation (Host.printError s : StateM Machine Unit) :=
  fun _ => ⟨rfl, rfl, rfl, rfl, rfl⟩

/-! ### Talk -/

/-- An action that talks at most: it changes nothing but the outputs and never fails. -/
def IsTalk (x : Action (StateM Machine) Unit) : Prop :=
  ∀ k : Machine, ∃ k', runOn k x = (.ok (), k') ∧ k.HasSaid k'

theorem IsTalk.isQuiet {x : Action (StateM Machine) Unit} (h : IsTalk x) : IsQuiet x := by
  intro k
  obtain ⟨k', hrun, hk⟩ := h k
  rw [hrun]
  exact hk.toAgrees

theorem isTalk_nothing : IsTalk (pure ()) := fun k => ⟨k, rfl, .refl k⟩

theorem isTalk_say (s : String) : IsTalk (say s) :=
  fun k => ⟨_, rfl, isQuietOperation_print s k, rfl⟩

theorem isTalk_remark (s : String) : IsTalk (remark s) :=
  fun k => ⟨_, rfl, isQuietOperation_printError s k, rfl⟩

theorem isTalk_tell (log : Log) (es : List Event) : IsTalk (tell log es) := by
  rw [tell]
  split
  · exact isTalk_nothing
  · exact isTalk_remark _

theorem isTalk_report (console : Console) (json : Json) (text : String) :
    IsTalk (report console json text) := by
  rw [report]
  split
  · exact isTalk_say _
  · split
    · exact isTalk_nothing
    · exact isTalk_say _

theorem IsTalk.bind {x y : Action (StateM Machine) Unit} (hx : IsTalk x) (hy : IsTalk y) :
    IsTalk (x >>= fun _ => y) := by
  intro k
  obtain ⟨k', hrun, hk⟩ := hx k
  obtain ⟨k'', hrun', hk'⟩ := hy k'
  exact ⟨k'', by rw [runOn_bind_of_ok hrun, hrun'], hk.trans hk'⟩

/-! ### Larger steps -/

theorem isQuiet_readFile (path : String) :
    IsQuiet (readFile path : Action (StateM Machine) String) :=
  isQuiet_demand _ (isQuietOperation_readText path)

theorem isQuiet_readItems (log : Log) (path : String) :
    IsQuiet (readItems log path : Action (StateM Machine) (List Item)) := by
  rw [readItems]
  have hrest (text : String) : IsQuiet (do
      let items ← require .items (Item.listOfText? text)
      tell log [Event.loadedItems items.length path]
      return items : Action (StateM Machine) (List Item)) :=
    (isQuiet_require _ _).bind fun items =>
      (isTalk_tell log _).isQuiet.bind fun _ => isQuiet_pure items
  exact .ite ((isQuiet_demand _ isQuietOperation_readInput).bind hrest)
    ((isQuiet_readFile path).bind hrest)

theorem isQuiet_settingsPath : IsQuiet (settingsPath : Action (StateM Machine) String) := by
  rw [settingsPath]
  refine (isQuiet_perform isQuietOperation_environment).bind fun env => ?_
  split
  · exact isQuiet_pure _
  · exact isQuiet_throw _

theorem isQuietOperation_loadFrom (path : String) :
    IsQuietOperation
      (Settings.loadFrom path : StateM Machine (Except SettingsError (Option Settings))) := by
  rw [Settings.loadFrom]
  refine (isQuietOperation_hasPath path).bind fun found => ?_
  cases found with
  | false => exact isQuietOperation_pure _
  | true =>
    refine (isQuietOperation_readText path).bind fun read => ?_
    cases read <;> exact isQuietOperation_pure _

theorem isQuiet_loadSettings (log : Log) :
    IsQuiet (loadSettings log : Action (StateM Machine) Settings) := by
  rw [loadSettings]
  refine isQuiet_settingsPath.bind fun path => ?_
  refine (isQuiet_demand _ (isQuietOperation_loadFrom path)).bind fun found => ?_
  cases found with
  | some settings => exact isQuiet_pure settings
  | none => exact (isTalk_tell log _).isQuiet.bind fun _ => isQuiet_pure _

section Documents

variable {D : Type} [StoredDocument D]

theorem isQuietOperation_load (store : DocumentStore D) :
    IsQuietOperation (store.load : StateM Machine (Except StoreError D)) := by
  rw [DocumentStore.load]
  refine (isQuietOperation_readText store.path).bind fun read => ?_
  cases read with
  | error e => exact isQuietOperation_pure _
  | ok text =>
    dsimp only
    split <;> exact isQuietOperation_pure _

theorem isQuietOperation_loadOrEmpty (store : DocumentStore D) :
    IsQuietOperation (store.loadOrEmpty : StateM Machine (Except StoreError D)) := by
  rw [DocumentStore.loadOrEmpty]
  refine (isQuietOperation_load store).bind fun loaded => ?_
  split <;> exact isQuietOperation_pure _

end Documents

/-! ### Asking the network -/

theorem isQuietOperation_settle (policy : Http.RetryPolicy) {send : StateM Machine Http.Outcome}
    {wait : Http.Wait → StateM Machine Unit} (hsend : IsQuietOperation send)
    (hwait : ∀ w, IsQuietOperation (wait w)) : IsQuietOperation (policy.settle send wait) := by
  rw [Http.RetryPolicy.settle]
  generalize (0 : UInt32) = attempt
  generalize policy.maxRetries.toNat = left
  induction left generalizing attempt with
  | zero => exact hsend
  | succ left ih =>
    rw [Http.RetryPolicy.settleFrom]
    refine hsend.bind fun outcome => ?_
    split
    · exact (hwait _).bind fun _ => ih _
    · exact isQuietOperation_pure outcome

theorem isQuietOperation_fetch (service : Http.SnapshotService)
    {wait : Url → Http.Wait → StateM Machine Unit} (hwait : ∀ url w, IsQuietOperation (wait url w))
    (league : String) (date : Date) :
    IsQuietOperation (service.fetch Host.send wait league date) := by
  rw [Http.SnapshotService.fetch]
  split
  · exact isQuietOperation_pure _
  · next url _ =>
    refine (isQuietOperation_settle service.policy ?_ (hwait url)).bind fun outcome =>
      isQuietOperation_pure _
    split
    · exact isQuietOperation_send url
    · exact isQuietOperation_pure _

/-- A pause is told of before it is made. -/
theorem isQuietOperation_tellAndWait (lines : String) (w : Http.Wait) :
    IsQuietOperation (do
      if lines ≠ "" then Host.printError lines
      Host.wait w : StateM Machine Unit) := by
  split
  · exact (isQuietOperation_printError lines).bind fun _ => isQuietOperation_wait w
  · exact (isQuietOperation_pure ()).bind fun _ => isQuietOperation_wait w

/-! ### Commands -/

theorem isQuiet_dateOrToday (date : Option Date) :
    IsQuiet (dateOrToday date : Action (StateM Machine) Date) := by
  cases date with
  | some date => exact isQuiet_pure date
  | none => exact (isQuiet_perform isQuietOperation_now).bind fun _ => isQuiet_pure _

theorem isQuiet_compileFile (console : Console) (file : String) :
    IsQuiet (compileFile console file : Action (StateM Machine) CompiledFilter) := by
  rw [compileFile]
  refine (isQuiet_readFile file).bind fun text => ?_
  exact (isTalk_tell _ _).isQuiet.bind fun _ => isQuiet_pure _

/-- What is left to do for the saved document that is in effect when its profile and the time are
known. -/
def compileAt (console : Console) (settings : Settings) (profile : String) (at_ : Instant) :
    Action (StateM Machine) CompiledFilter := do
  let store ← require .store (settings.filterStore? (← perform Host.environment))
  let archive ← demand .store store.loadOrEmpty
  let filter := (({} : FilterCache).compiledAt archive at_ profile).1
  tell console.log (Event.cached filter profile)
  if filter.version = "" then throw (.noFilter profile)
  return filter

/-- The profile is the usual one and the time is now, unless they are given. -/
theorem runOn_compileSaved_eq (console : Console) (settings : Settings) (profile : Option String)
    (at_ : Option Instant) (k : Machine) :
    runOn k (compileSaved console settings profile at_) =
      runOn k (compileAt console settings (profile.getD settings.profileName)
        (at_.getD k.clock)) := by
  unfold compileSaved
  cases at_ with
  | some t => exact runOn_bind_of_ok (runOn_pure k t) _
  | none => exact runOn_bind_of_ok (runOn_now k) _

theorem isQuiet_compileAt (console : Console) (settings : Settings) (profile : String)
    (at_ : Instant) : IsQuiet (compileAt console settings profile at_) := by
  refine (isQuiet_perform isQuietOperation_environment).bind fun env => ?_
  refine (isQuiet_require _ _).bind fun store => ?_
  refine (isQuiet_demand _ (isQuietOperation_loadOrEmpty store)).bind fun archive => ?_
  refine (isTalk_tell _ _).isQuiet.bind fun _ => ?_
  exact IsQuiet.ite ((isQuiet_throw _).bind fun _ => isQuiet_pure _) (isQuiet_pure _)

theorem isQuiet_compileSaved (console : Console) (settings : Settings) (profile : Option String)
    (at_ : Option Instant) :
    IsQuiet (compileSaved console settings profile at_ :
      Action (StateM Machine) CompiledFilter) := by
  intro k
  rw [runOn_compileSaved_eq]
  exact isQuiet_compileAt console settings _ _ k

theorem isQuiet_chosenFilter (console : Console) (settings : Settings) (options : MatchOptions) :
    IsQuiet (chosenFilter console settings options : Action (StateM Machine) CompiledFilter) := by
  rw [chosenFilter]
  split
  · exact isQuiet_compileFile console _
  · exact isQuiet_compileSaved console settings _ _

theorem isQuiet_matchItems (console : Console) (settings : Settings) (options : MatchOptions) :
    IsQuiet (matchItems console settings options : Action (StateM Machine) Unit) := by
  rw [matchItems]
  refine (isQuiet_chosenFilter console settings options).bind fun filter => ?_
  refine (isTalk_tell _ _).isQuiet.bind fun _ => ?_
  refine (isQuiet_readItems _ _).bind fun items => ?_
  exact (isQuiet_require _ _).bind fun rows => (isTalk_report _ _ _).isQuiet

theorem isQuiet_listFilters (console : Console) (settings : Settings) (profile : Option String) :
    IsQuiet (listFilters console settings profile : Action (StateM Machine) Unit) := by
  rw [listFilters]
  refine (isQuiet_perform isQuietOperation_environment).bind fun env => ?_
  refine (isQuiet_require _ _).bind fun store => ?_
  exact (isQuiet_demand _ (isQuietOperation_loadOrEmpty store)).bind fun archive =>
    (isTalk_report _ _ _).isQuiet

theorem isQuiet_listRates (console : Console) (settings : Settings) :
    IsQuiet (listRates console settings : Action (StateM Machine) Unit) := by
  rw [listRates]
  refine (isQuiet_perform isQuietOperation_environment).bind fun env => ?_
  refine (isQuiet_require _ _).bind fun store => ?_
  exact (isQuiet_demand _ (isQuietOperation_loadOrEmpty store)).bind fun history =>
    (isTalk_report _ _ _).isQuiet

theorem isQuiet_priceItems (console : Console) (settings : Settings) (items : String)
    (date : Option Date) :
    IsQuiet (priceItems console settings items date : Action (StateM Machine) Unit) := by
  rw [priceItems]
  refine (isQuiet_dateOrToday date).bind fun date => ?_
  refine (isQuiet_perform isQuietOperation_environment).bind fun env => ?_
  refine (isQuiet_require _ _).bind fun store => ?_
  refine (isQuiet_demand _ (isQuietOperation_loadOrEmpty store)).bind fun history => ?_
  split
  · exact isQuiet_throw _
  · next table _ =>
    have hrest : IsQuiet (do
        let items ← readItems console.log items
        tell console.log (items.flatMap Event.valued)
        let appraisal := appraise table items
        report console (Prices.json table.date items appraisal)
          (Prices.text console.usesColour items appraisal) : Action (StateM Machine) Unit) :=
      (isQuiet_readItems _ _).bind fun items =>
        (isTalk_tell _ _).isQuiet.bind fun _ => (isTalk_report _ _ _).isQuiet
    split
    · exact (isTalk_remark _).isQuiet.bind fun _ => hrest
    · exact (isQuiet_pure ()).bind fun _ => hrest

/-! ### All commands -/

/-- The command saves a filter document. -/
def Command.isSave : Command → Bool
  | .saveFilter _ _ _ => true
  | _ => false

/-- The command fetches a snapshot. -/
def Command.isFetch : Command → Bool
  | .fetchRates _ _ => true
  | _ => false

/-- **Only two commands are not quiet** among those that depend on the settings. -/
theorem isQuiet_carryOutConfigured (console : Console) (settings : Settings) {command : Command}
    (hsave : command.isSave = false) (hfetch : command.isFetch = false) :
    IsQuiet (carryOutConfigured console settings command : Action (StateM Machine) Unit) := by
  cases command with
  | matchItems options => exact isQuiet_matchItems console settings options
  | price items date => exact isQuiet_priceItems console settings items date
  | listRates => exact isQuiet_listRates console settings
  | listFilters profile => exact isQuiet_listFilters console settings profile
  | saveFilter _ _ _ => cases hsave
  | fetchRates _ _ => cases hfetch
  | _ => exact isQuiet_pure ()

end LootLedger.Cli
