import LootLedger.Disk.Basic
import LootLedger.Proofs.Disk.Path
import LootLedger.Proofs.Outcome

/-!
# What operations leave alone

A path leads somewhere only if the directories on its way are there, but where it leads then is a
matter of its pieces alone: the place of the path. So each operation can be told by places: which
file it writes or takes away, and that all other files are as before. A directory is never taken
away, so what could be reached stays within reach.

## Main definitions

* `Disk.content?`: what the file at a location holds
* `Disk.place`: where a path leads
* `Path.AsksForDirectory`: no file is at the path, whatever the disk holds
* `Disk.fileAt?`: what the file at a path holds
* `Disk.TellsMissing`: a file that is said to be missing is
* `Disk.IsTree`: whatever is there is in a directory
* `Disk.Takes`: a file can be written to a path

## Main results

* `Disk.locate_eq_ok`: a path leads to its place or nowhere
* `Disk.fileAt?_of_readText`: what is read is what the file holds
* `Disk.IsTree.tellsMissing`: when missing files are told
* `Disk.writeText_eq_ok`, `Disk.rename_eq_ok`, `Disk.sameFiles_of_makeDirectories`: what
  operations change
* `Disk.takes_of_find`: a file that is there can be written
-/

namespace LootLedger

open Text (Chars)

/-- The path ends in a slash or a dot, or is empty. No file is at such a path. -/
def Path.AsksForDirectory (path : String) : Prop :=
  lastPiece path = [] ∨ lastPiece path = ['.']

instance (path : String) : Decidable (Path.AsksForDirectory path) :=
  inferInstanceAs (Decidable (_ ∨ _))

theorem Path.eq_empty_or_endsInSlash {path : String} (h : lastPiece path = []) :
    path = "" ∨ endsInSlash path = true := by
  obtain ⟨front, hsplits⟩ := exists_splits path
  have hpath := hsplits.eq
  rw [h, List.append_nil] at hpath
  rcases hsplits.front with hnil | ⟨base, hbase⟩
  · exact .inl (String.toList_eq_nil_iff.mp (hpath.trans hnil))
  · refine .inr ?_
    rw [endsInSlash, Text.ends, Text.endsWith, hpath, hbase]
    exact List.isSuffixOf_iff_suffix.mpr (List.suffix_append base ['/'])

namespace Disk

variable {disk disk' : Disk} {here l : Location} {path : String}

/-! ### Files and places -/

/-- What the file at a location holds, if a file is there. -/
def content? (disk : Disk) (l : Location) : Option Content :=
  match disk.node? l with
  | some (.file c) => some c
  | _ => none

/-- Where a name leads from a directory. -/
def follow (here : Location) (name : String) : Location :=
  if name = "." then here
  else if name = ".." then here.dropLast
  else here ++ [name]

/-- Where a path leads, if all that is on its way is there. -/
def place (here : Location) (path : String) : Location :=
  (Path.pieces path).foldl follow (if Path.isAbsolute path then [] else here)

/-- A name that is neither one dot nor two leads into the directory. -/
theorem follow_of_ne {name : Chars} (hdot : name ≠ ['.']) (hdots : name ≠ ['.', '.'])
    (here : Location) :
    follow here (String.ofList name) = here ++ [String.ofList name] := by
  have hne (s : String) (hs : name ≠ s.toList) : String.ofList name ≠ s := fun heq =>
    hs (by rw [← heq, String.toList_ofList])
  rw [follow, if_neg (hne "." hdot), if_neg (hne ".." hdots)]

/-- Different names in one directory are different places. -/
theorem place_ne_of_splits {path path' : String} {front name name' : Chars}
    (h : Path.Splits path front name) (h' : Path.Splits path' front name')
    (hname : name ∉ [[], ['.'], ['.', '.']]) (hname' : name' ∉ [[], ['.'], ['.', '.']])
    (hne : name' ≠ name) : place here path' ≠ place here path := by
  simp only [List.mem_cons, List.not_mem_nil, or_false, not_or] at hname hname'
  intro hplace
  rw [place, place, h.pieces_eq hname.1, h'.pieces_eq hname'.1, h.isAbsolute_congr h',
    List.foldl_append, List.foldl_append, List.foldl_cons, List.foldl_cons, List.foldl_nil,
    List.foldl_nil, follow_of_ne hname.2.1 hname.2.2, follow_of_ne hname'.2.1 hname'.2.2] at hplace
  have hlast := List.singleton_inj.mp (List.append_cancel_left hplace)
  exact hne (by simpa using congrArg String.toList hlast)

/-- What the file at a path holds, if a file can be there and is. -/
def fileAt? (disk : Disk) (here : Location) (path : String) : Option Content :=
  if Path.AsksForDirectory path then none else disk.content? (place here path)

theorem fileAt?_of_asksForDirectory (h : Path.AsksForDirectory path) :
    disk.fileAt? here path = none :=
  if_pos h

theorem fileAt?_of_not_asksForDirectory (h : ¬ Path.AsksForDirectory path) :
    disk.fileAt? here path = disk.content? (place here path) :=
  if_neg h

/-- What the files hold decides what the file at a path holds. -/
theorem fileAt?_congr (h : disk'.content? (place here path) = disk.content? (place here path)) :
    disk'.fileAt? here path = disk.fileAt? here path := by
  rw [fileAt?, fileAt?, h]

theorem node?_of_content? {c : Content} (h : disk.content? l = some c) :
    disk.node? l = some (.file c) := by
  rw [content?] at h
  split at h
  · next hnode =>
    obtain rfl := Option.some.inj h
    exact hnode
  · cases h

/-! ### Where paths lead -/

theorem step_eq_ok {name : String} (h : disk.step here name = .ok l) :
    disk.node? here = some .directory ∧ l = follow here name := by
  rw [step] at h
  split at h
  · cases h
  · cases h
  · next hnode =>
    refine ⟨hnode, ?_⟩
    rw [follow]
    split_ifs at h ⊢ <;> exact (Except.ok.inj h).symm

theorem foldlM_step_eq_ok {names : List String} (h : names.foldlM disk.step here = .ok l) :
    l = names.foldl follow here := by
  induction names generalizing here with
  | nil => exact (Except.ok.inj h).symm
  | cons name names ih =>
    rw [List.foldlM_cons] at h
    obtain ⟨there, hstep, h⟩ := exists_of_bind_eq_ok h
    rw [List.foldl_cons, ← (step_eq_ok hstep).2]
    exact ih h

/-- **A path leads to its place or nowhere.** -/
theorem locate_eq_ok (h : disk.locate here path = .ok l) : path ≠ "" ∧ l = place here path := by
  rw [locate] at h
  split_ifs at h with hempty hend habs
  · exact ⟨hempty, by rw [place, if_pos habs]; exact foldlM_step_eq_ok h⟩
  · exact ⟨hempty, by rw [place, if_neg habs]; exact foldlM_step_eq_ok h⟩

/-- The last piece of a path is followed from a directory. -/
theorem exists_directory_of_locate {front name : Chars} (hsplits : Path.Splits path front name)
    (hname : name ≠ []) (h : disk.locate here path = .ok l) :
    ∃ there, disk.node? there = some .directory ∧ l = follow there (String.ofList name) := by
  obtain ⟨start, hfold⟩ : ∃ start, (Path.pieces path).foldlM disk.step start = .ok l := by
    rw [locate] at h
    split_ifs at h <;> exact ⟨_, h⟩
  rw [hsplits.pieces_eq hname, List.foldlM_append] at hfold
  obtain ⟨there, -, hlast⟩ := exists_of_bind_eq_ok hfold
  rw [List.foldlM_cons] at hlast
  obtain ⟨there', hstep, hlast⟩ := exists_of_bind_eq_ok hlast
  obtain rfl := Except.ok.inj hlast
  exact ⟨there, step_eq_ok hstep⟩

/-- A path that ends in a dot leads to a directory. -/
theorem node?_of_locate_dot (hlast : Path.lastPiece path = ['.'])
    (h : disk.locate here path = .ok l) : disk.node? l = some .directory := by
  obtain ⟨front, hsplits⟩ := Path.exists_splits path
  rw [hlast] at hsplits
  obtain ⟨there, hnode, hl⟩ := exists_directory_of_locate hsplits (by decide) h
  rw [hl]
  exact hnode

/-- Where a path leads, a file can be, unless the path ends in a slash. -/
theorem not_asksForDirectory_of_locate (h : disk.locate here path = .ok l)
    (hnode : disk.node? l ≠ some .directory) (hslash : ¬ Path.endsInSlash path = true) :
    ¬ Path.AsksForDirectory path := by
  rintro (hlast | hlast)
  · exact (Path.eq_empty_or_endsInSlash hlast).elim (locate_eq_ok h).1 hslash
  · exact hnode (node?_of_locate_dot hlast h)

/-- All directories are still there. -/
def KeepsDirectories (disk disk' : Disk) : Prop :=
  ∀ l, disk.node? l = some .directory → disk'.node? l = some .directory

theorem KeepsDirectories.step (h : disk.KeepsDirectories disk') {name : String}
    (hstep : disk.step here name = .ok l) : disk'.step here name = .ok l := by
  have hnode := (step_eq_ok hstep).1
  rw [Disk.step, hnode] at hstep
  rw [Disk.step, h here hnode]
  exact hstep

/-- What could be reached stays within reach. -/
theorem KeepsDirectories.locate (h : disk.KeepsDirectories disk')
    (hl : disk.locate here path = .ok l) : disk'.locate here path = .ok l := by
  have hfold {names : List String} {start : Location}
      (hfold : names.foldlM disk.step start = .ok l) :
      names.foldlM disk'.step start = .ok l := by
    induction names generalizing start with
    | nil => exact hfold
    | cons name names ih =>
      rw [List.foldlM_cons] at hfold ⊢
      obtain ⟨there, hstep, hfold⟩ := exists_of_bind_eq_ok hfold
      rw [h.step hstep]
      exact ih hfold
  rw [Disk.locate] at hl ⊢
  split_ifs at hl ⊢ <;> exact hfold hl

/-! ### Reading -/

theorem find_eq_ok {node : Node} (h : disk.find here path = .ok (l, node)) :
    disk.locate here path = .ok l ∧ disk.node? l = some node ∧
      (Path.endsInSlash path = true → node = .directory) := by
  rw [find] at h
  obtain ⟨there, hlocate, h⟩ := exists_of_bind_eq_ok h
  split at h
  · cases h
  · next hnode =>
    split_ifs at h with hslash
    obtain ⟨rfl, rfl⟩ := Prod.mk.inj (Except.ok.inj h)
    exact ⟨hlocate, hnode, fun hslash' => absurd hslash' hslash⟩
  · next hnode =>
    obtain ⟨rfl, rfl⟩ := Prod.mk.inj (Except.ok.inj h)
    exact ⟨hlocate, hnode, fun _ => rfl⟩

/-- A file that is found is the one at the path. -/
theorem fileAt?_of_find {c : Content} (h : disk.find here path = .ok (l, .file c)) :
    l = place here path ∧ disk.fileAt? here path = some c := by
  obtain ⟨hlocate, hnode, hslash⟩ := find_eq_ok h
  have hasks : ¬ Path.AsksForDirectory path :=
    not_asksForDirectory_of_locate hlocate (by rw [hnode]; nofun) fun h => nomatch hslash h
  obtain ⟨-, rfl⟩ := locate_eq_ok hlocate
  refine ⟨rfl, ?_⟩
  rw [fileAt?_of_not_asksForDirectory hasks, content?, hnode]

/-- **What is read is what the file holds.** -/
theorem fileAt?_of_readText {text : String} (h : disk.readText here path = .ok text) :
    disk.fileAt? here path = some (.text text) := by
  rw [readText] at h
  obtain ⟨⟨there, node⟩, hfind, h⟩ := exists_of_bind_eq_ok h
  cases node with
  | directory => cases h
  | file c =>
    cases c with
    | bytes bs => cases h
    | text s =>
      obtain rfl := Except.ok.inj h
      exact (fileAt?_of_find hfind).2

/-- What a file that is found holds can be read, if it is a text. -/
theorem readText_of_find {text : String} (h : disk.find here path = .ok (l, .file (.text text))) :
    disk.readText here path = .ok text := by
  rw [readText, h]
  rfl

/-! ### Missing files -/

/-- A file that is said to be missing is: no file is at the place where the path would lead. -/
def TellsMissing (disk : Disk) (here : Location) (path : String) : Prop :=
  disk.readText here path = .error .notFound → disk.fileAt? here path = none

/-- Whatever is there is in a directory. -/
def IsTree (disk : Disk) : Prop :=
  ∀ l name, disk.node? (l ++ [name]) ≠ none → disk.node? l = some .directory

/-- Below what is not there nothing is. -/
theorem IsTree.node?_append (h : disk.IsTree) (hl : disk.node? l = none) (names : List String) :
    disk.node? (l ++ names) = none := by
  induction names using List.reverseRecOn with
  | nil => rw [List.append_nil, hl]
  | append_singleton names name ih =>
    by_contra hne
    rw [← List.append_assoc] at hne
    cases ih.symm.trans (h _ _ hne)

/-- Names lead downwards, unless they lead up. -/
theorem exists_foldl_follow {names : List String} (h : ".." ∉ names) (here : Location) :
    ∃ below, names.foldl follow here = here ++ below := by
  induction names generalizing here with
  | nil => exact ⟨[], (List.append_nil here).symm⟩
  | cons name names ih =>
    rw [List.mem_cons, not_or] at h
    obtain ⟨below, hbelow⟩ := ih h.2 (follow here name)
    rw [List.foldl_cons, hbelow, follow, if_neg (Ne.symm h.1)]
    split
    · exact ⟨below, rfl⟩
    · exact ⟨name :: below, by rw [List.append_assoc, List.singleton_append]⟩

/-- Where the way breaks off, nothing is at its end. -/
theorem IsTree.node?_foldl_follow (h : disk.IsTree) {names : List String} (hnames : ".." ∉ names)
    (hfold : names.foldlM disk.step here = .error .notFound) :
    disk.node? (names.foldl follow here) = none := by
  induction names generalizing here with
  | nil => cases hfold
  | cons name names ih =>
    cases hstep : disk.step here name with
    | ok there =>
      rw [List.foldlM_cons, hstep] at hfold
      rw [List.foldl_cons, ← (step_eq_ok hstep).2]
      exact ih (fun hmem => hnames (List.mem_cons_of_mem _ hmem)) hfold
    | error e =>
      rw [List.foldlM_cons, hstep] at hfold
      obtain rfl : e = .notFound := Except.error.inj hfold
      have hhere : disk.node? here = none := by
        rw [step] at hstep
        split at hstep
        · assumption
        · cases hstep
        · split_ifs at hstep
          all_goals cases hstep
      obtain ⟨below, hbelow⟩ := exists_foldl_follow hnames here
      rw [hbelow]
      exact h.node?_append hhere below

/-- Nothing is found where there is no text to read, except for reasons of their own. -/
theorem find_of_readText_eq_notFound (h : disk.readText here path = .error .notFound) :
    disk.find here path = .error .notFound := by
  rw [readText] at h
  cases hfind : disk.find here path with
  | ok found =>
    rw [hfind] at h
    obtain ⟨l, node⟩ := found
    cases node with
    | directory => cases h
    | file c => cases c <;> cases h
  | error e =>
    rw [hfind] at h
    exact congrArg _ (Except.error.inj h)

/-- Nothing is found because the way breaks off, or because nothing is at its end. -/
theorem locate_or_node?_of_find (h : disk.find here path = .error .notFound) :
    disk.locate here path = .error .notFound ∨ disk.node? (place here path) = none := by
  rw [find] at h
  cases hlocate : disk.locate here path with
  | error e =>
    rw [hlocate] at h
    exact .inl (congrArg _ (Except.error.inj h))
  | ok l =>
    rw [hlocate] at h
    obtain ⟨-, rfl⟩ := locate_eq_ok hlocate
    refine .inr ?_
    by_contra hne
    obtain ⟨node, hnode⟩ := Option.ne_none_iff_exists'.mp hne
    dsimp only [Bind.bind, Except.bind] at h
    rw [hnode] at h
    cases node with
    | directory => cases h
    | file c =>
      dsimp only at h
      split at h <;> cases h

/-- **On a tree missing files are told,** unless the path leads up somewhere: then a directory on
its way may be missing that is not on the way to its place. -/
theorem IsTree.tellsMissing (h : disk.IsTree) (hpath : ".." ∉ Path.pieces path) :
    disk.TellsMissing here path := by
  intro hread
  rw [fileAt?]
  split
  · rfl
  next hasks =>
  have hnode : disk.node? (place here path) = none := by
    rcases locate_or_node?_of_find (find_of_readText_eq_notFound hread) with hlocate | hnode
    · rw [locate] at hlocate
      split at hlocate
      · next hempty => exact absurd (.inl (by rw [hempty]; rfl)) hasks
      split at hlocate
      · cases hlocate
      · exact h.node?_foldl_follow hpath hlocate
    · exact hnode
  rw [content?, hnode]

/-! ### Writing -/

/-- What is at each location after something was put somewhere below the root. -/
theorem node?_put {node : Node} (hl : l ≠ []) (l' : Location) :
    (Disk.mk (put l node disk.nodes)).node? l' =
      if l' = l then some node else disk.node? l' := by
  rw [node?, node?]
  split_ifs with hroot hsame hsame
  · exact absurd (hsame.symm.trans hroot) hl
  · rfl
  · rw [hsame, lookup_put_self]
  · exact lookup_put_of_ne hsame node disk.nodes

theorem ne_nil_of_node? (h : disk.node? l ≠ some .directory) : l ≠ [] := by
  rintro rfl
  exact h rfl

/-- One disk is another with a file set. -/
structure HasFile (disk : Disk) (l : Location) (c : Content) (disk' : Disk) : Prop where
  content?_self : disk'.content? l = some c
  content?_of_ne : ∀ l' ≠ l, disk'.content? l' = disk.content? l'
  keepsDirectories : disk.KeepsDirectories disk'

theorem hasFile_put {c : Content} (h : disk.node? l ≠ some .directory) :
    disk.HasFile l c { nodes := put l (.file c) disk.nodes } where
  content?_self := by rw [content?, node?_put (ne_nil_of_node? h), if_pos rfl]
  content?_of_ne l' hne := by
    rw [content?, content?, node?_put (ne_nil_of_node? h), if_neg hne]
  keepsDirectories l' hdirectory := by
    rw [node?_put (ne_nil_of_node? h), if_neg (by rintro rfl; exact h hdirectory), hdirectory]

/-- **What a write changes**: the file at the path, which then holds the text. -/
theorem writeText_eq_ok {text : String} (h : disk.writeText here path text = .ok disk') :
    disk.locate here path = .ok (place here path) ∧ ¬ Path.AsksForDirectory path ∧
      ¬ Path.endsInSlash path = true ∧
      disk.HasFile (place here path) (.text text) disk' := by
  rw [writeText] at h
  obtain ⟨there, hlocate, h⟩ := exists_of_bind_eq_ok h
  obtain ⟨-, rfl⟩ := locate_eq_ok hlocate
  split at h
  · cases h
  · next hnode =>
    split_ifs at h with hslash
    obtain rfl := Except.ok.inj h
    exact ⟨hlocate, not_asksForDirectory_of_locate hlocate hnode hslash, hslash, hasFile_put hnode⟩

/-! ### Moving -/

theorem node?_without (hl : l ≠ []) (l' : Location) :
    (Disk.mk (without l disk.nodes)).node? l' = if l' = l then none else disk.node? l' := by
  rw [node?, node?]
  split_ifs with hroot hsame hsame
  · exact absurd (hsame.symm.trans hroot) hl
  · rfl
  · rw [hsame, lookup_without_self]
  · exact lookup_without_of_ne hsame disk.nodes

theorem find_of_content? {c : Content} (hlocate : disk.locate here path = .ok l)
    (hslash : ¬ Path.endsInSlash path = true) (hc : disk.content? l = some c) :
    disk.find here path = .ok (l, .file c) := by
  rw [find, hlocate]
  simp only [bind, Except.bind, node?_of_content? hc, if_neg hslash]
  rfl

/-- A file is taken away from one location and put at another one. Neither was a directory, so all
directories stay. -/
theorem hasFile_move {old new : Location} {c : Content} (hold : disk.node? old ≠ some .directory)
    (hnew : disk.node? new ≠ some .directory) :
    (Disk.mk (without old disk.nodes)).HasFile new c
      { nodes := put new (.file c) (without old disk.nodes) } ∧
    disk.KeepsDirectories { nodes := put new (.file c) (without old disk.nodes) } := by
  have hroot := ne_nil_of_node? hold
  have hremoved : (Disk.mk (without old disk.nodes)).node? new ≠ some .directory := by
    rw [node?_without hroot]
    split_ifs
    · nofun
    · exact hnew
  refine ⟨hasFile_put hremoved, fun l hl => (hasFile_put hremoved).keepsDirectories l ?_⟩
  rw [node?_without hroot, if_neg (by rintro rfl; exact hold hl), hl]

/-- **What a move changes**: the file at the target is found to hold what the file at the source
held, which is gone unless it is the same. -/
theorem rename_eq_ok {source target : String} (h : disk.rename here source target = .ok disk') :
    ∃ c, disk.fileAt? here source = some c ∧
      disk'.find here target = .ok (place here target, .file c) ∧
      ∀ l, l ≠ place here source → l ≠ place here target →
        disk'.content? l = disk.content? l := by
  rw [rename] at h
  obtain ⟨⟨old, node⟩, hfind, h⟩ := exists_of_bind_eq_ok h
  cases node with
  | directory => cases h
  | file c =>
    obtain ⟨new, hlocate, h⟩ := exists_of_bind_eq_ok h
    split_ifs at h with hslash
    split at h
    · cases h
    · next hnode =>
      obtain rfl := Except.ok.inj h
      obtain ⟨rfl, hsource⟩ := fileAt?_of_find hfind
      obtain ⟨-, rfl⟩ := locate_eq_ok hlocate
      have hold : disk.node? (place here source) ≠ some .directory := by
        rw [(find_eq_ok hfind).2.1]
        nofun
      obtain ⟨hput, hkeeps⟩ := hasFile_move (c := c) hold hnode
      refine ⟨c, hsource, find_of_content? (hkeeps.locate hlocate) hslash hput.content?_self,
        fun l hne hne' => ?_⟩
      rw [hput.content?_of_ne l hne', content?, node?_without (ne_nil_of_node? hold), if_neg hne,
        content?]

/-- A file that has just been written to a path can be moved to the same path. -/
theorem rename_self {c : Content} (hlocate : disk.locate here path = .ok l)
    (hslash : ¬ Path.endsInSlash path = true) (hc : disk.content? l = some c) :
    ∃ disk', disk.rename here path path = .ok disk' := by
  have hnode := node?_of_content? hc
  rw [rename, find_of_content? hlocate hslash hc]
  simp only [bind, Except.bind, hlocate, if_neg hslash, hnode]
  exact ⟨_, rfl⟩

/-! ### Making directories -/

/-- All files hold what they held, and no directory is gone. -/
def SameFiles (disk disk' : Disk) : Prop :=
  (∀ l, disk'.content? l = disk.content? l) ∧ disk.KeepsDirectories disk'

theorem SameFiles.refl (disk : Disk) : disk.SameFiles disk :=
  ⟨fun _ => rfl, fun _ h => h⟩

theorem SameFiles.trans {disk'' : Disk} (h : disk.SameFiles disk') (h' : disk'.SameFiles disk'') :
    disk.SameFiles disk'' :=
  ⟨fun l => (h'.1 l).trans (h.1 l), fun l hl => h'.2 l (h.2 l hl)⟩

theorem sameFiles_of_makeDirectory (h : disk.makeDirectory here path = .ok disk') :
    disk.SameFiles disk' := by
  rw [makeDirectory] at h
  obtain ⟨there, -, h⟩ := exists_of_bind_eq_ok h
  split at h
  · cases h
  · next hnone =>
    obtain rfl := Except.ok.inj h
    have hroot : there ≠ [] := ne_nil_of_node? (by rw [hnone]; nofun)
    refine ⟨fun l => ?_, fun l hl => ?_⟩
    · rw [content?, content?, node?_put hroot]
      split_ifs with hsame
      · rw [hsame, hnone]
      · rfl
    · rw [node?_put hroot]
      split_ifs with hsame
      · rfl
      · exact hl

/-- **Making directories changes no file.** -/
theorem sameFiles_of_makeDirectories (h : disk.makeDirectories here path = .ok disk') :
    disk.SameFiles disk' := by
  rw [makeDirectories] at h
  generalize path.length + 1 = limit at h
  induction limit generalizing path disk' with
  | zero =>
    obtain rfl := Except.ok.inj h
    exact .refl disk
  | succ limit ih =>
    rw [makeDirectoriesWithin] at h
    by_cases hempty : path = ""
    · rw [if_pos hempty] at h
      obtain rfl := Except.ok.inj h
      exact .refl disk
    rw [if_neg hempty] at h
    split at h
    · next hmade =>
      obtain rfl := Except.ok.inj h
      exact sameFiles_of_makeDirectory hmade
    · split at h
      · cases h
      · next above _ =>
        obtain ⟨disk₁, habove, h⟩ := exists_of_bind_eq_ok h
        split_ifs at h
        · obtain rfl := Except.ok.inj h
          exact ih habove
        · exact (ih habove).trans (sameFiles_of_makeDirectory h)
    · split at h
      · obtain rfl := Except.ok.inj h
        exact .refl disk
      · cases h

/-! ### The directory of a file -/

theorem locate_eq_ok_iff : disk.locate here path = .ok l ↔ path ≠ "" ∧ '\x00' ∉ path.toList ∧
    (Path.pieces path).foldlM disk.step (if Path.isAbsolute path then [] else here) = .ok l := by
  rw [locate, ← List.contains_iff_mem]
  split_ifs <;> simp_all

/-- Dots lead nowhere else. -/
theorem eq_of_foldlM_step_dots {dots : List String} (hdots : ∀ d ∈ dots, d = ".")
    (h : dots.foldlM disk.step here = .ok l) : l = here := by
  induction dots with
  | nil => exact (Except.ok.inj h).symm
  | cons d dots ih =>
    rw [List.forall_mem_cons] at hdots
    rw [List.foldlM_cons, hdots.1] at h
    obtain ⟨there, hstep, h⟩ := exists_of_bind_eq_ok h
    have hthere : there = here := (step_eq_ok hstep).2
    exact ih hdots.2 (hthere ▸ h)

/-- **Above a path that leads somewhere** there is a directory. -/
theorem exists_directory_of_parent? {above : String} (h : disk.locate here path = .ok l)
    (habove : Path.parent? path = some above) (hne : above ≠ "") :
    ∃ there, disk.locate here above = .ok there ∧ disk.node? there = some .directory := by
  obtain ⟨hfront, habs, dots, name, dots', hpieces, hdots⟩ := Path.exists_pieces_parent? habove
  obtain ⟨-, hend, hfold⟩ := locate_eq_ok_iff.mp h
  rw [hpieces, List.foldlM_append, ← habs] at hfold
  obtain ⟨last, hfold, -⟩ := exists_of_bind_eq_ok hfold
  rw [List.foldlM_append] at hfold
  obtain ⟨there, hfold, hname⟩ := exists_of_bind_eq_ok hfold
  rw [List.foldlM_append] at hfold
  obtain ⟨there', hfold, hthere⟩ := exists_of_bind_eq_ok hfold
  rw [List.foldlM_cons] at hname
  obtain ⟨_, hstep, -⟩ := exists_of_bind_eq_ok hname
  have hsame : there = there' :=
    eq_of_foldlM_step_dots (fun d hd => hdots d (List.mem_append_left _ hd)) hthere
  refine ⟨there', locate_eq_ok_iff.mpr ⟨hne, fun hmem => hend (hfront.subset hmem), hfold⟩, ?_⟩
  rw [← hsame]
  exact (step_eq_ok hstep).1

/-- A directory that is there is not made again. -/
theorem makeDirectories_of_directory (h : disk.locate here path = .ok l)
    (hnode : disk.node? l = some .directory) : disk.makeDirectories here path = .ok disk := by
  have hmade : disk.makeDirectory here path = .error .alreadyExists := by
    rw [makeDirectory, h]
    simp only [bind, Except.bind, hnode]
  have hfind : disk.find here path = .ok (l, .directory) := by
    rw [find, h]
    simp only [bind, Except.bind, hnode]
    rfl
  rw [makeDirectories, makeDirectoriesWithin, if_neg (locate_eq_ok h).1, hmade]
  simp only [hasDirectory, hfind, if_true]

/-- The disk with a directory for the file at a path. -/
def withDirectoryOf (disk : Disk) (here : Location) (path : String) : Except IoError Disk :=
  match Path.parent? path with
  | some directory => disk.makeDirectories here directory
  | none => .ok disk

/-- A file can be written to the path, once there is a directory for it. -/
def Takes (disk : Disk) (here : Location) (path : String) : Prop :=
  ∃ disk₁, disk.withDirectoryOf here path = .ok disk₁ ∧
    ∀ text, ∃ disk₂, disk₁.writeText here path text = .ok disk₂

theorem sameFiles_of_withDirectoryOf (h : disk.withDirectoryOf here path = .ok disk') :
    disk.SameFiles disk' := by
  rw [withDirectoryOf] at h
  split at h
  · exact sameFiles_of_makeDirectories h
  · obtain rfl := Except.ok.inj h
    exact .refl disk

/-- For a file that is there, there is a directory. -/
theorem withDirectoryOf_of_locate (h : disk.locate here path = .ok l) :
    disk.withDirectoryOf here path = .ok disk := by
  rw [withDirectoryOf]
  split
  · next above habove =>
    by_cases hne : above = ""
    · rw [hne]
      rfl
    · obtain ⟨there, hlocate, hnode⟩ := exists_directory_of_parent? h habove hne
      exact makeDirectories_of_directory hlocate hnode
  · rfl

/-- **A file that is there can be written.** -/
theorem takes_of_find {c : Content} (h : disk.find here path = .ok (l, .file c)) :
    disk.Takes here path := by
  obtain ⟨hlocate, hnode, hslash⟩ := find_eq_ok h
  refine ⟨disk, withDirectoryOf_of_locate hlocate, fun text => ?_⟩
  rw [writeText, hlocate]
  simp only [bind, Except.bind, hnode]
  rw [if_neg fun hends => nomatch hslash hends]
  exact ⟨_, rfl⟩

end Disk

end LootLedger
