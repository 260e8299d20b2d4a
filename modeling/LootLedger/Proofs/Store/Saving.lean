import LootLedger.Cli.Machine
import LootLedger.Proofs.Disk.Frame
import LootLedger.Proofs.Json.RoundTrip
import LootLedger.Store.Basic

/-!
# Saving a document

A document is saved in three steps, each of which can be refused: the directory is made, the draft
is written, and the draft is moved to the place of the document. Up to the last step nothing has
happened to the document, because the draft stands somewhere else. There is one exception, the
document that is its own draft: it is overwritten in the second step, but then the third one cannot
be refused. So in any case a save that is refused leaves the document as it was, and one that
succeeds leaves the new document in its place, where it can be read.

## Main definitions

* `StoredDocument.Denotes`: the document that the content of a file stands for

## Main results

* `StoredDocument.parse?_text`: what documents are read back as
* `DocumentStore.denotes_of_loadOrEmpty`: what is loaded
* `DocumentStore.draftPath_eq_or_place_ne`: where the draft stands
* `DocumentStore.run_save`: what saving does to the files
-/

namespace LootLedger

open Cli (Machine)

/-! ### What files stand for -/

/-- A document is read back from its text as the tree of it is read back. -/
theorem StoredDocument.parse?_text {D : Type} [StoredDocument D] {d : D}
    (hplain : (toJson d).IsPlain Decimal.IsFinite) :
    (parse? (text d) : Option D) = ofJson? (toJson d).reread := by
  rw [parse?, text, String.toList_ofList, Json.parse?_pretty hplain, Option.bind_some]

/-- The document that the content of a file stands for. A file that is not there stands for the
empty document, and one that cannot be read as a document for none. -/
def StoredDocument.Denotes {D : Type} [StoredDocument D] (content : Option Content) (d : D) :
    Prop :=
  match content with
  | none => d = StoredDocument.empty
  | some (.text s) => StoredDocument.parse? s = some d
  | some (.bytes _) => False

/-- A content stands for at most one document. -/
theorem StoredDocument.Denotes.unique {D : Type} [StoredDocument D] {content : Option Content}
    {d d' : D} (h : Denotes content d) (h' : Denotes content d') : d = d' := by
  rcases content with _ | s | bs
  · exact Eq.trans h (Eq.symm h')
  · exact Option.some.inj (Eq.trans (Eq.symm h) h')
  · exact h.elim

namespace DocumentStore

variable {D : Type} [StoredDocument D]

/-! ### Loading -/

theorem run_load (store : DocumentStore D) (k : Machine) :
    (store.load : StateM Machine (Except StoreError D)).run k =
      (match k.disk.readText k.here store.path with
      | .error e => .error (.read store.path e)
      | .ok text => ((StoredDocument.parse? text).map Except.ok).getD (.error .malformed), k) := by
  rw [load, StateT.run_bind]
  change StateT.run (match k.disk.readText k.here store.path with | .error e => _ | .ok text => _)
    k = _
  cases k.disk.readText k.here store.path with
  | error e => rfl
  | ok text =>
    dsimp only
    cases StoredDocument.parse? (D := D) text <;> rfl

/-- A file that can be read as a document is loaded. -/
theorem run_loadOrEmpty_of_readText {store : DocumentStore D} {k : Machine} {text : String}
    (htext : k.disk.readText k.here store.path = .ok text) :
    (store.loadOrEmpty : StateM Machine (Except StoreError D)).run k =
      (((StoredDocument.parse? text).map Except.ok).getD (.error .malformed), k) := by
  rw [loadOrEmpty, StateT.run_bind, run_load, htext]
  dsimp only
  cases StoredDocument.parse? (D := D) text <;> rfl

/-- A file that cannot be read is not taken for the empty document, unless it is missing. -/
theorem run_loadOrEmpty_of_error {store : DocumentStore D} {k : Machine} {e : IoError}
    (he : k.disk.readText k.here store.path = .error e) :
    (store.loadOrEmpty : StateM Machine (Except StoreError D)).run k =
      (if e = .notFound then .ok StoredDocument.empty else .error (.read store.path e), k) := by
  rw [loadOrEmpty, StateT.run_bind, run_load, he]
  cases e <;> rfl

/-- **What is loaded** is the document that the file stands for. -/
theorem denotes_of_loadOrEmpty {store : DocumentStore D} {k k' : Machine} {d : D}
    (hmissing : k.disk.TellsMissing k.here store.path)
    (h : (store.loadOrEmpty : StateM Machine (Except StoreError D)).run k = (.ok d, k')) :
    StoredDocument.Denotes (k.disk.fileAt? k.here store.path) d := by
  cases htext : k.disk.readText k.here store.path with
  | ok text =>
    rw [Disk.fileAt?_of_readText htext]
    rw [run_loadOrEmpty_of_readText htext] at h
    change StoredDocument.parse? text = some d
    cases hparse : StoredDocument.parse? (D := D) text with
    | some document =>
      rw [hparse] at h
      exact congrArg some (Except.ok.inj (Prod.mk.inj h).1)
    | none =>
      rw [hparse] at h
      cases (Prod.mk.inj h).1
  | error e =>
    rw [run_loadOrEmpty_of_error htext] at h
    split_ifs at h with he
    · rw [hmissing (he ▸ htext)]
      exact (Except.ok.inj (Prod.mk.inj h).1).symm
    · cases (Prod.mk.inj h).1

/-! ### The draft -/

theorem notMem_stem {name : Text.Chars} (h : '/' ∉ name) : '/' ∉ Path.stem name := by
  rw [Path.stem]
  split
  · next c before hname =>
    have hsuffix : (c :: before) <:+ name.reverse :=
      (List.suffix_cons _ _).trans (hname ▸ List.dropWhile_suffix _)
    rw [List.mem_reverse]
    exact fun hmem => h (List.mem_reverse.mp (hsuffix.subset hmem))
  · exact h

omit [StoredDocument D] in
/-- **Where the draft stands**: not at the place of the document, unless the document is its own
draft. -/
theorem draftPath_eq_or_place_ne (store : DocumentStore D) (here : Location)
    (h : ¬ Path.AsksForDirectory store.path) :
    store.draftPath = store.path ∨
      Disk.place here store.draftPath ≠ Disk.place here store.path := by
  obtain ⟨front, hsplits⟩ := Path.exists_splits store.path
  generalize hname : Path.lastPiece store.path = name at hsplits
  rw [Path.AsksForDirectory, hname, not_or] at h
  by_cases hdots : name = ['.', '.']
  · rw [hdots] at hsplits
    exact .inl (hsplits.withExtension_dots "tmp")
  have hdraft : store.draftPath =
      String.ofList (front ++ (Path.stem name ++ '.' :: "tmp".toList)) :=
    hsplits.withExtension_eq h.1 h.2 hdots "tmp"
  generalize hname' : Path.stem name ++ '.' :: "tmp".toList = name' at hdraft
  by_cases hsame : name' = name
  · refine .inl ?_
    rw [hdraft, hsame, ← hsplits.eq, String.ofList_toList]
  refine .inr ?_
  have hslash : '/' ∉ name' := by
    rw [← hname', List.mem_append]
    exact fun hmem => hmem.elim (notMem_stem hsplits.notMem) (by decide)
  have hsplits' : Path.Splits store.draftPath front name' := hdraft ▸ hsplits.replace hslash
  -- the name of a draft has at least four characters
  have hlong : ∀ short : Text.Chars, short.length < 4 → name' ≠ short := by
    rintro short hshort rfl
    rw [← hname', List.length_append, List.length_cons,
      show "tmp".toList.length = 3 from rfl] at hshort
    omega
  refine Disk.place_ne_of_splits hsplits hsplits' ?_ ?_ hsame
  · simp [h.1, h.2, hdots]
  · simp [hlong [] (by decide), hlong ['.'] (by decide), hlong ['.', '.'] (by decide)]

/-! ### Saving -/

/-- What saving a document does to the files: only the document and its draft can change, and the
document is the new one or, if the save was refused, what it was. -/
structure Saves (store : DocumentStore D) (d : D) (here : Location) (disk disk' : Disk)
    (r : Except StoreError Unit) : Prop where
  others : ∀ l, l ≠ Disk.place here store.path → l ≠ Disk.place here store.draftPath →
    disk'.content? l = disk.content? l
  ok : r = .ok () → disk'.readText here store.path = .ok (StoredDocument.text d)
  error : ∀ e, r = .error e → disk'.fileAt? here store.path = disk.fileAt? here store.path

variable {store : DocumentStore D} {d : D} {here : Location} {disk disk₁ disk' : Disk}

/-- A save that changed no file was refused. -/
theorem Saves.of_sameFiles (h : disk.SameFiles disk') (e : StoreError) :
    store.Saves d here disk disk' (.error e) :=
  ⟨fun l _ _ => h.1 l, nofun, fun _ _ => Disk.fileAt?_congr (h.1 _)⟩

/-- Making the directory makes no difference. -/
theorem Saves.of_sameFiles_left {r : Except StoreError Unit} (hsame : disk.SameFiles disk₁)
    (h : store.Saves d here disk₁ disk' r) : store.Saves d here disk disk' r :=
  ⟨fun l hne hne' => (h.others l hne hne').trans (hsame.1 l), h.ok, fun e he =>
    (h.error e he).trans (Disk.fileAt?_congr (hsame.1 _))⟩

/-- The draft was written, but not moved. -/
theorem saves_of_not_moved {e : IoError}
    (hwrite : disk.writeText here store.draftPath (StoredDocument.text d) = .ok disk')
    (hmove : disk'.rename here store.draftPath store.path = .error e) (e' : StoreError) :
    store.Saves d here disk disk' (.error e') := by
  obtain ⟨hlocate, -, hslash, hfile⟩ := Disk.writeText_eq_ok hwrite
  refine ⟨fun l _ hne => hfile.content?_of_ne l hne, nofun, fun _ _ => ?_⟩
  by_cases hasks : Path.AsksForDirectory store.path
  · rw [Disk.fileAt?_of_asksForDirectory hasks, Disk.fileAt?_of_asksForDirectory hasks]
  · rcases store.draftPath_eq_or_place_ne here hasks with hsame | hne
    · rw [hsame] at hlocate hslash hfile hmove
      obtain ⟨disk'', hmoved⟩ := Disk.rename_self (hfile.keepsDirectories.locate hlocate) hslash
        hfile.content?_self
      rw [hmoved] at hmove
      cases hmove
    · exact Disk.fileAt?_congr (hfile.content?_of_ne _ hne.symm)

/-- The draft was written and moved. -/
theorem saves_of_moved
    (hwrite : disk.writeText here store.draftPath (StoredDocument.text d) = .ok disk₁)
    (hmove : disk₁.rename here store.draftPath store.path = .ok disk') :
    store.Saves d here disk disk' (.ok ()) := by
  obtain ⟨-, hasks, -, hfile⟩ := Disk.writeText_eq_ok hwrite
  obtain ⟨c, hc, hfind, hothers⟩ := Disk.rename_eq_ok hmove
  have htext : c = .text (StoredDocument.text d) := by
    rw [Disk.fileAt?_of_not_asksForDirectory hasks, hfile.content?_self] at hc
    exact (Option.some.inj hc).symm
  refine ⟨fun l hne hne' => ?_, fun _ => Disk.readText_of_find (htext ▸ hfind), nofun⟩
  rw [hothers l hne' hne, hfile.content?_of_ne l hne']

theorem run_makeDirectories (path : String) (k : Machine) :
    (FileAccess.makeDirectories path : StateM Machine (Except IoError Unit)).run k =
      k.after (k.disk.makeDirectories k.here path) := rfl

theorem run_writeText (path text : String) (k : Machine) :
    (FileAccess.writeText path text : StateM Machine (Except IoError Unit)).run k =
      k.after (k.disk.writeText k.here path text) := rfl

theorem run_rename (source target : String) (k : Machine) :
    (FileAccess.rename source target : StateM Machine (Except IoError Unit)).run k =
      k.after (k.disk.rename k.here source target) := rfl

omit [StoredDocument D] in
/-- The directory of the document is made first. -/
theorem run_prepare (store : DocumentStore D) (k : Machine) :
    ∃ r disk', (store.prepare : StateM Machine _).run k = (r, { k with disk := disk' }) ∧
      k.disk.SameFiles disk' := by
  rw [prepare]
  split
  · exact ⟨_, _, rfl, .refl _⟩
  · next directory _ =>
    rw [StateT.run_bind, run_makeDirectories]
    cases hmade : k.disk.makeDirectories k.here directory with
    | error e => exact ⟨_, _, rfl, .refl _⟩
    | ok disk' => exact ⟨_, disk', rfl, Disk.sameFiles_of_makeDirectories hmade⟩

/-- **What saving does to the files.** -/
theorem run_save (store : DocumentStore D) (d : D) (k : Machine) :
    ∃ r disk', (store.save d : StateM Machine (Except StoreError Unit)).run k =
        (r, { k with disk := disk' }) ∧
      store.Saves d k.here k.disk disk' r := by
  obtain ⟨made, disk₁, hprepare, hsame⟩ := store.run_prepare k
  rw [save, StateT.run_bind, hprepare]
  cases made with
  | error e => exact ⟨_, _, rfl, .of_sameFiles hsame e⟩
  | ok _ =>
    suffices h : ∃ r disk', _ = (r, { k with disk := disk' }) ∧
        store.Saves d k.here disk₁ disk' r by
      obtain ⟨r, disk', hrun, hsaves⟩ := h
      exact ⟨r, disk', hrun, hsaves.of_sameFiles_left hsame⟩
    change ∃ r disk', StateT.run (_ >>= _) { k with disk := disk₁ } = _ ∧ _
    rw [StateT.run_bind, run_writeText]
    cases hwrite : disk₁.writeText k.here store.draftPath (StoredDocument.text d) with
    | error e => exact ⟨_, _, rfl, .of_sameFiles (.refl _) _⟩
    | ok disk₂ =>
      change ∃ r disk', StateT.run (_ >>= _) { k with disk := disk₂ } = _ ∧ _
      rw [StateT.run_bind, run_rename]
      cases hmove : disk₂.rename k.here store.draftPath store.path with
      | error e => exact ⟨_, _, rfl, saves_of_not_moved hwrite hmove _⟩
      | ok disk₃ => exact ⟨_, _, rfl, saves_of_moved hwrite hmove⟩

end DocumentStore

end LootLedger
