import Kasten.Proofs.Box.Undo
import Kasten.Proofs.Files.Faults
import Kasten.Proofs.Files.Renamed

/-!
# A zettel that is renamed is in one place

Renaming reads a zettel, moves its entry, writes the new files and removes the old ones. Up to the
last of these whatever fails is undone. When only the removal fails, or comes too late, the zettel
has been moved all the same, though the answer is an error.
-/

namespace Kasten

open Catalog (zidsOf)
open Files (FileRequest ReadsAlike)

/-! ## 1. Commands of a box on a disk that may fail -/

namespace Files.Pool

variable {p : Pool} {c : Command} {d d' : Disk}

theorem submit_congr (h : ((c.program p.dir).run (FileRequest.serve p.dir) d').1 =
    ((c.program p.dir).run (FileRequest.serve p.dir) d).1) (delay : Nat) :
    (p.submit c ⟨d', delay⟩).1 = (p.submit c ⟨d, delay⟩).1 := by
  unfold submit
  split
  next => rfl
  next =>
    dsimp only
    rw [h]
    split <;> split <;> rfl

end Files.Pool

namespace Files.Command

variable {e : Entry} {files : List String}

/-- None of the files is written. -/
def Spares (c : Command) (dir : String) (files : List String) : Prop :=
  (c.program dir).Asks fun r => ∀ name data, r = .write name data → name ∉ files

theorem spares_getZettel (e : Entry) (dir : String) (files : List String) :
    (getZettel e).Spares dir files :=
  asks_readZettel nofun nofun dir

theorem spares_deleteFiles (e : Entry) (dir : String) (files : List String) :
    (deleteFiles e).Spares dir files :=
  asks_removeFiles (fun _ _ => nofun) dir none

theorem spares_setZettel (h : ∀ n ∈ e.targets, n ∉ files) (dir : String) (z : Zettel) :
    (setZettel e z).Spares dir files := by
  refine asks_writeZettel (fun name hname data other octets heq => ?_) dir z
  cases heq
  exact h name hname

end Files.Command

variable {b : DirBox} {cur new zid : Zid} {old : Entry} {z : Zettel} {o : Outcome Unit}
variable {disk disk' written : Disk} {names : List String}

namespace DirBox

theorem ends_run {α : Type} (b : DirBox) (work : FileWork α) (d : Files.SlowDisk) :
    work.Ends b.pool.May d.disk (b.run work d).1 (b.run work d).2.disk := by
  unfold run
  induction work generalizing d with
  | done value => exact .done value d.disk
  | ask c next ih => exact .ask (b.pool.may_submit c d) (ih _ _)

/-- A zettel whose files read alike is given alike. -/
theorem run_get_of_readsAlike (h : ReadsAlike b.pool.dir zid disk disk')
    (hown : ∀ e, b.service.entry? zid = some e → e.zid = zid ∧ ∀ n ∈ e.files, zid.Owns n)
    (delay : Nat) :
    (b.run (b.get zid) ⟨disk', delay⟩).1 = (b.run (b.get zid) ⟨disk, delay⟩).1 := by
  unfold get
  dsimp only
  split
  next => rfl
  next e hready =>
    rcases exists_of_bind_eq_ok hready with ⟨found, hlive, hready⟩
    rcases exists_of_bind_eq_ok hready with ⟨_, -, hready⟩
    cases hready
    rcases hown e (Service.entry_of_liveEntry hlive).1 with ⟨hzid, hfiles⟩
    exact Files.Pool.submit_congr (c := .getZettel e)
      (Files.run_readZettel_of_readsAlike h hzid hfiles) delay

/-! ## 2. What a rename comes to -/

/-- The zettel has been read and may be moved. -/
structure Movable (b : DirBox) (cur new : Zid) (disk : Disk) (old : Entry) (z : Zettel) : Prop where
  valid : new.isValid = true
  entry : b.service.entry? cur = some old
  live : old.isLive = true
  free : b.service.entry? new = none
  running : b.pool.isRunning = true
  time : 0 < b.pool.timeoutMs
  read : (Files.readZettel b.pool.dir old).run (FileRequest.serve b.pool.dir) disk = (.ok z, disk)

/-- Where a rename may end: before anything is written, while the new files are written, or when
the old ones are removed. -/
inductive Renames (b : DirBox) (cur new : Zid) (disk : Disk) : Outcome Unit → Disk → Prop where
  | refused (error : StoreError) : Renames b cur new disk (b.fail error) disk
  | unwritten {old : Entry} {z : Zettel} {error : StoreError} {disk' : Disk}
      (h : b.Movable cur new disk old z)
      (hwrite : b.pool.May (.setZettel (old.renamed new) ⟨{ z.metadata with zid := new }, z.content⟩)
        disk (.error error) disk') :
      Renames b cur new disk (b.fail error) disk'
  | moved {old : Entry} {z : Zettel} {s : Service} {written disk' : Disk}
      {reply : Except StoreError Unit} (h : b.Movable cur new disk old z)
      (hmove : b.service.rename old new = .ok (old.renamed new, s))
      (hwrite : (Files.writeZettel b.pool.dir (old.renamed new)
        ⟨{ z.metadata with zid := new }, z.content⟩).run (FileRequest.serve b.pool.dir) disk =
          (.ok (), written))
      (hremove : b.pool.May (.deleteFiles old) written reply disk') :
      Renames b cur new disk
        ⟨reply, { b with service := s },
          [⟨b.service.origin, .onDelete, cur⟩, ⟨b.service.origin, .onZettel, new⟩]⟩ disk'

theorem renames_of_ends (hb : b.Stocked) (hne : cur ≠ new)
    (h : (b.rename cur new).Ends b.pool.May disk o disk') : b.Renames cur new disk o disk' := by
  rcases rename_cases b cur new with ⟨error, heq⟩ | ⟨hsame, -⟩ | ⟨old, hnew, hready, heq⟩
  · rw [heq] at h
    rcases h.eq_of_done with ⟨rfl, rfl⟩
    exact .refused error
  · exact absurd hsame hne
  rcases Service.entry_of_liveEntry hready with ⟨hcur, hlive⟩
  have hzid : old.zid = cur := (hb.service.liveEntry hready).zid
  rw [heq] at h
  cases h with
  | @ask _ _ _ disk₁ _ reply _ hread h =>
    cases hread.eq_of_getZettel
    cases reply with
    | error error =>
      rcases h.eq_of_done with ⟨rfl, rfl⟩
      exact .refused error
    | ok z =>
      rcases hread.run_eq with ⟨hrunning, htime, hrun⟩
      rcases renameRead_cases b cur new old z with ⟨error, heq⟩ | ⟨s, hrename, heq⟩
      · rw [heq] at h
        rcases h.eq_of_done with ⟨rfl, rfl⟩
        exact .refused error
      have hfree := (Service.entry_eq_of_rename hrename).1
      have hmovable : b.Movable cur new disk old z :=
        ⟨hnew, hcur, hlive, hfree, hrunning, htime, hrun⟩
      rw [heq] at h
      cases h with
      | @ask _ _ _ written _ reply _ hwrite h =>
        cases reply with
        | error error =>
          -- The entry is back under the old identifier.
          unfold renameWritten at h
          rw [Service.restore_of_rename (hzid ▸ hcur) hrename] at h
          rcases h.eq_of_done with ⟨rfl, rfl⟩
          exact .unwritten hmovable hwrite
        | ok _ =>
          cases h with
          | ask hremove h =>
            rcases h.eq_of_done with ⟨rfl, rfl⟩
            exact .moved hmovable hrename hwrite.run_eq.2.2 hremove

/-! ## 3. Files that are written -/

theorem asks_rename {p : Files.Command → Prop}
    (h : ∀ old, b.service.entry? cur = some old → new.isValid = true →
      p (.getZettel old) ∧ (∀ z, p (.setZettel (old.renamed new) z)) ∧ p (.deleteFiles old)) :
    (b.rename cur new).Asks p := by
  rcases rename_cases b cur new with ⟨error, heq⟩ | ⟨-, heq⟩ | ⟨old, hnew, hready, heq⟩
  · rw [heq]
    trivial
  · rw [heq]
    trivial
  rcases h old (Service.entry_of_liveEntry hready).1 hnew with ⟨hread, hwrite, hremove⟩
  rw [heq]
  refine ⟨hread, fun reply => ?_⟩
  cases reply with
  | error error => trivial
  | ok z =>
    rcases renameRead_cases b cur new old z with ⟨error, heq⟩ | ⟨s, -, heq⟩
    · rw [heq]
      trivial
    · rw [heq]
      refine ⟨hwrite _, fun reply => ?_⟩
      cases reply with
      | error error => trivial
      | ok _ => exact ⟨hremove, fun _ => trivial⟩

/-- A file is owned by one zettel only, so what is written is none of the old files. -/
theorem rename_spares (hin : InStep b.path b.service.entry? disk names) (hne : cur ≠ new) :
    (b.rename cur new).Asks fun c =>
      ∀ old, b.service.entry? cur = some old → c.Spares b.path old.files := by
  refine asks_rename fun old hold hnew => ?_
  have hstands := hin.tallies.standsFor cur old hold
  have howns := hstands.owns
  have hnamed := hstands.arisen.named.renamed new
  rw [← hstands.arisen.zid] at howns
  refine ⟨fun _ _ => Files.Command.spares_getZettel _ _ _, fun z other hother => ?_,
    fun _ _ => Files.Command.spares_deleteFiles _ _ _⟩
  cases hold.symm.trans hother
  refine Files.Command.spares_setZettel (fun n hn hmem => hne ?_) _ z
  have htarget := Entry.owns_renamed howns new n (hnamed.mem_files_of_mem_targets hn)
  exact (hstands.owns n hmem).unique htarget hstands.valid hnew

end DirBox

/-! ## 4. What is found afterwards -/

/-- The zettel is found under the new identifier in place of the old one, with the same content and
the pairs that were stored. Nothing else of the box has changed, and just this was published. -/
structure Outcome.Moves (o : Outcome Unit) (b : DirBox) (cur new : Zid) (old : Entry)
    (disk disk' : Disk) : Prop where
  before : b.service.entry? cur = some old ∧ b.service.entry? new = none
  entry : o.box.service.entry? =
    Function.update (Function.update b.service.entry? cur none) new (some (old.renamed new))
  rest : o.box = { b with service := { b.service with catalog := o.box.service.catalog } }
  changes : o.changes = [⟨b.service.origin, .onDelete, cur⟩, ⟨b.service.origin, .onZettel, new⟩]
  get : ∃ z z', (b.run (b.get cur) ⟨disk, 0⟩).1 = .ok z ∧
    (o.box.run (o.box.get new) ⟨disk', 0⟩).1 = .ok z' ∧ z'.zid = new ∧ z'.content = z.content ∧
    (old.StoresMeta → z'.metadata.userPairs = z.metadata.userPairs)

/-- No file of the zettel is left, and the directory lists just what the catalog has. -/
structure Outcome.Clears (o : Outcome Unit) (b : DirBox) (cur new : Zid) (old : Entry)
    (names : List String) (disk' : Disk) : Prop where
  files : ∀ n ∈ old.files, disk'.read (Disk.join b.path n) = .error .missing
  inStep : ∃ names', InStep b.path o.box.service.entry? disk' names' ∧
    zidsOf names' = insert new ((zidsOf names).erase cur)

/-- Nothing was published, and the box is as before and gives what it gave. -/
structure Outcome.Undoes (o : Outcome Unit) (b : DirBox) (cur : Zid) (disk disk' : Disk) :
    Prop where
  box : o.box = b
  changes : o.changes = []
  get : ∀ delay, (b.run (b.get cur) ⟨disk', delay⟩).1 = (b.run (b.get cur) ⟨disk, delay⟩).1

namespace DirBox

/-- The new files are none of the old ones, even if they cannot be written. -/
theorem undoes_of_unwritten (hin : InStep b.path b.service.entry? disk names) (hne : cur ≠ new)
    (h : b.Movable cur new disk old z) {error : StoreError}
    (hwrite : b.pool.May (.setZettel (old.renamed new) ⟨{ z.metadata with zid := new }, z.content⟩)
      disk (.error error) disk') : (b.fail error).Undoes b cur disk disk' := by
  have hstands := hin.tallies.standsFor cur old h.entry
  have hmoved := hstands.renamed h.live h.valid (hin.tallies.not_listed h.free)
  have hlike : ReadsAlike b.pool.dir cur disk disk' :=
    hwrite.readsAlike hmoved.1.owns hstands.valid h.valid hne
  refine ⟨rfl, rfl, run_get_of_readsAlike hlike fun e he => ?_⟩
  have hstandsFor := hin.tallies.standsFor cur e he
  exact ⟨hstandsFor.arisen.zid, hstandsFor.owns⟩

section Moved

variable {reply : Except StoreError Unit} {s : Service}
  (hin : InStep b.path b.service.entry? disk names) (hne : cur ≠ new)
  (h : b.Movable cur new disk old z) (hmove : b.service.rename old new = .ok (old.renamed new, s))
  (hwrite : (Files.writeZettel b.pool.dir (old.renamed new)
    ⟨{ z.metadata with zid := new }, z.content⟩).run (FileRequest.serve b.pool.dir) disk =
      (.ok (), written))

include hin h

theorem entry_of_move (hmove : b.service.rename old new = .ok (old.renamed new, s)) :
    s.entry? =
      Function.update (Function.update b.service.entry? cur none) new (some (old.renamed new)) := by
  rw [← (hin.tallies.standsFor cur old h.entry).arisen.zid]
  exact (Service.entry_eq_of_rename hmove).2.2

include hne hmove hwrite

/-- Removing the old files leaves the new ones alone, so they are read as they were written. -/
theorem moves_of_moved (hremove : b.pool.May (.deleteFiles old) written reply disk') :
    Outcome.Moves ⟨reply, { b with service := s },
      [⟨b.service.origin, .onDelete, cur⟩, ⟨b.service.origin, .onZettel, new⟩]⟩
      b cur new old disk disk' := by
  have hstands := hin.tallies.standsFor cur old h.entry
  have hzid := hstands.arisen.zid
  have hmoved := hstands.renamed h.live h.valid (hin.tallies.not_listed h.free)
  have howns : ∀ n ∈ old.files, old.zid.Owns n := hzid.symm ▸ hstands.owns
  have hentry := entry_of_move hin h hmove
  have hyields := Files.yields_of_run hstands.arisen.named (congrArg Prod.fst h.read)
  rcases Files.readZettel_renamed hstands.arisen.named howns hyields hmoved.2 hwrite with
    ⟨z', hread, hcontent, hnew, hpairs⟩
  have hvalid : old.zid.isValid = true := hzid.symm ▸ hstands.valid
  have hother : new ≠ old.zid := hzid.symm ▸ hne.symm
  have hlike : ReadsAlike b.pool.dir new written disk' :=
    hremove.readsAlike howns h.valid hvalid hother
  refine ⟨⟨h.entry, h.free⟩, hentry, ?_, rfl, z, z', ?_, ?_, hnew, hcontent, hpairs⟩
  · have hrest := Service.eq_of_mutate (m := .rename old new) (congrArg (Except.map Prod.snd) hmove)
    exact congrArg (fun service => { b with service }) hrest
  · rw [run_get h.entry h.live h.running h.time, h.read]
  · have hfound : ({ b with service := s } : DirBox).service.entry? new = some (old.renamed new) :=
      (congrFun hentry new).trans (Function.update_self _ _ _)
    rw [run_get hfound hmoved.2 h.running h.time]
    show ((Files.readZettel b.pool.dir (old.renamed new)).run _ disk').1 = _
    rw [Files.run_readZettel_of_readsAlike hlike rfl hmoved.1.owns, hread]

theorem clears_of_moved (hdir : b.pool.dir = b.path)
    (hremove : b.pool.May (.deleteFiles old) written (.ok ()) disk') :
    Outcome.Clears ⟨.ok (), { b with service := s },
      [⟨b.service.origin, .onDelete, cur⟩, ⟨b.service.origin, .onZettel, new⟩]⟩
      b cur new old names disk' := by
  have hstands := hin.tallies.standsFor cur old h.entry
  have hmoved := hstands.renamed h.live h.valid (hin.tallies.not_listed h.free)
  have hrun := hremove.run_eq.2.2
  rw [hdir] at hwrite hrun
  rcases hin.stored hmoved.1 hmoved.2 hwrite with ⟨between, hboth, -⟩
  rcases Disk.exists_isOpen hboth.isFolder with ⟨folder, hopen⟩
  have hnames : ∀ n ∈ old.files, Disk.IsName n := fun n hn => (hstands.owns n hn).isName
  rcases hin.renamed h.entry h.live h.valid h.free hne hwrite hrun with ⟨names', hin', hzids⟩
  refine ⟨fun n hn => ?_, names', ?_, hzids⟩
  · have hgone := Files.read_removeFiles hnames hopen (congrArg Prod.fst hrun) (hnames n hn)
      (.inl hn)
    rw [show (Files.removeFiles b.path none old.files).run (FileRequest.serve b.path) written =
      (.ok (), disk') from hrun] at hgone
    exact hgone
  · have hentry := entry_of_move hin h hmove
    rw [← hentry] at hin'
    exact hin'

end Moved

/-! ## 5. All or nothing, but for the last step -/

/-- Whatever file operations fail, a rename that succeeds has moved the zettel and left no old file.
One that fails has changed nothing, unless just the old files could not be removed in time: then
the zettel has been moved and the changes are published all the same. The new files that are
written are never old ones. -/
theorem rename_moves_or_undoes (hb : b.Reached)
    (hin : InStep b.path b.service.entry? disk names) (hne : cur ≠ new) :
    ((b.rename cur new).Asks fun c =>
      ∀ old, b.service.entry? cur = some old → c.Spares b.path old.files) ∧
    ∀ o disk', (b.rename cur new).Ends b.pool.May disk o disk' →
      (o.answer = .ok () → ∃ old, o.Moves b cur new old disk disk' ∧
        o.Clears b cur new old names disk') ∧
      ∀ error, o.answer = .error error → o.Undoes b cur disk disk' ∨
        ∃ old written, o.Moves b cur new old disk disk' ∧
          b.pool.May (.deleteFiles old) written (.error error) disk' := by
  refine ⟨rename_spares hin hne, fun o disk' hends => ?_⟩
  cases renames_of_ends hb.stocked hne hends with
  | refused error =>
    refine ⟨fun hok => ?_, fun _ _ => .inl ⟨rfl, rfl, fun _ => rfl⟩⟩
    cases hok
  | unwritten h hwrite =>
    refine ⟨fun hok => ?_, fun _ _ => .inl (undoes_of_unwritten hin hne h hwrite)⟩
    cases hok
  | @moved old _ _ written _ _ h hmove hwrite hremove =>
    have hmoves := moves_of_moved hin hne h hmove hwrite hremove
    refine ⟨fun hok => ?_, fun error herror => .inr ⟨old, written, hmoves, ?_⟩⟩
    · cases hok
      exact ⟨old, hmoves, clears_of_moved hin hne h hmove hwrite hb.settled.dir_eq hremove⟩
    · cases herror
      exact hremove

/-- A zettel with a file that was passed over is moved, and stays where it is if a folder has the
new name. -/
theorem rename_moves_or_undoes_of_two_files :
    let cur : Zid := ⟨20200310195100⟩
    let new : Zid := ⟨20200310195101⟩
    let taken : Zid := ⟨20200310195102⟩
    let names := ["20200310195100 x.md", "20200310195100.zettel"]
    let disk : Disk :=
      ⟨((((∅ : Std.ExtTreeMap String DiskItem).insert "box" .folder).insert
        "box/20200310195100.zettel" (.file (Text.Utf8.encodeText "title: Old\n\nbody"))).insert
        "box/20200310195100 x.md" (.file (Text.Utf8.encodeText "more"))).insert
        "box/20200310195102.zettel" .folder⟩
    let b := ((DirBox.new (.new (Text.Utf8.encodeText "box"))).start 0 disk).1.box
    let moved := b.run (b.rename cur new) ⟨disk, 0⟩
    let refused := b.run (b.rename cur taken) ⟨disk, 0⟩
    b.Reached ∧ InStep b.path b.service.entry? disk names ∧
      moved.1.answer = .ok () ∧
      (∃ old, moved.1.Moves b cur new old disk moved.2.disk ∧
        moved.1.Clears b cur new old names moved.2.disk) ∧
      moved.2.disk.listZettel b.path = .ok ["20200310195101.zettel"] ∧
      refused.1.answer = .error (.file "write box/20200310195102.zettel" .isDirectory) ∧
      refused.1.Undoes b cur disk refused.2.disk := by
  intro cur new taken names disk b moved refused
  have hb : b.Reached := .start (.new _) 0 disk
  have hlist : disk.listZettel b.path = .ok names := by decide +kernel
  have hscan : b.service.catalog = some (Catalog.addFiles ∅ names) := by decide +kernel
  have hin : InStep b.path b.service.entry? disk names :=
    ⟨by decide +kernel, hlist, tallies_of_scan hlist hscan⟩
  have hmoves := (rename_moves_or_undoes hb hin (show cur ≠ new by decide)).2 moved.1 moved.2.disk
    (ends_run b (b.rename cur new) ⟨disk, 0⟩)
  have hundoes := (rename_moves_or_undoes hb hin (show cur ≠ taken by decide)).2 refused.1
    refused.2.disk (ends_run b (b.rename cur taken) ⟨disk, 0⟩)
  have hresults : moved.1.answer = .ok () ∧
      moved.2.disk.listZettel b.path = .ok ["20200310195101.zettel"] ∧
      refused.1.answer = .error (.file "write box/20200310195102.zettel" .isDirectory) ∧
      refused.1.changes = [] := by
    decide +kernel
  rcases hresults with ⟨hok, hleft, herror, hchanges⟩
  refine ⟨hb, hin, hok, hmoves.1 hok, hleft, herror, ?_⟩
  rcases hundoes.2 _ herror with hundone | ⟨old, written, hmoved, -⟩
  · exact hundone
  · exact absurd (hchanges.symm.trans hmoved.changes) nofun

/-- When a file that was passed over cannot be removed, the answer is an error, though the zettel is
under the new identifier and the changes are published. -/
theorem rename_fails_when_moved :
    let cur : Zid := ⟨20200310195100⟩
    let new : Zid := ⟨20200310195101⟩
    let names := ["20200310195100 x.md", "20200310195100.zettel"]
    let disk : Disk :=
      ⟨(((∅ : Std.ExtTreeMap String DiskItem).insert "box" .folder).insert
        "box/20200310195100.zettel" (.file (Text.Utf8.encodeText "title: Old\n\nbody"))).insert
        "box/20200310195100 x.md" (.file (Text.Utf8.encodeText "more"))⟩
    let b := ((DirBox.new (.new (Text.Utf8.encodeText "box"))).start 0 disk).1.box
    let serve (r : FileRequest) (d : Disk) : r.Reply × Disk :=
      if r = .remove "20200310195100 x.md" then (r.refuse .isDirectory, d)
      else r.serve b.pool.dir d
    let run := (b.rename cur new).run (fun c => (c.program b.pool.dir).run serve) disk
    b.Reached ∧ b.service.startState = .started ∧ b.config.readonly = false ∧
      InStep b.path b.service.entry? disk names ∧ cur.isValid = true ∧ new.isValid = true ∧
      (b.rename cur new).Ends b.pool.May disk run.1 run.2 ∧
      run.1.answer = .error (.file "delete box/20200310195100 x.md" .isDirectory) ∧
      run.1.changes = [⟨"dir://box", .onDelete, cur⟩, ⟨"dir://box", .onZettel, new⟩] ∧
      b.service.has cur = true ∧ run.1.box.service.has cur = false ∧
      (run.1.box.run (run.1.box.get cur) ⟨run.2, 0⟩).1 = .error (.notFound cur) := by
  intro cur new names disk b serve run
  have hb : b.Reached := .start (.new _) 0 disk
  have hlist : disk.listZettel b.path = .ok names := by decide +kernel
  have hscan : b.service.catalog = some (Catalog.addFiles ∅ names) := by decide +kernel
  have hin : InStep b.path b.service.entry? disk names :=
    ⟨by decide +kernel, hlist, tallies_of_scan hlist hscan⟩
  have hserve : ∀ r d, FileRequest.May b.pool.dir r d (serve r d).1 (serve r d).2 := by
    intro r d
    by_cases hr : r = .remove "20200310195100 x.md"
    · rw [show serve r d = (r.refuse .isDirectory, d) from if_pos hr]
      exact .refused r d rfl
    · rw [show serve r d = r.serve b.pool.dir d from if_neg hr]
      exact .served r d
  have hstarted : b.pool.isRunning = true ∧ 0 < b.pool.timeoutMs ∧
      b.service.startState = .started ∧ b.config.readonly = false := by
    decide +kernel
  rcases hstarted with ⟨hrunning, htime, hstate, hwritable⟩
  have hends := Files.Pool.ends_of_serve hrunning htime hserve (b.rename cur new) disk
  have hresults : run.1.answer = .error (.file "delete box/20200310195100 x.md" .isDirectory) ∧
      run.1.changes = [⟨"dir://box", .onDelete, cur⟩, ⟨"dir://box", .onZettel, new⟩] ∧
      b.service.has cur = true ∧ run.1.box.service.has cur = false ∧
      (run.1.box.run (run.1.box.get cur) ⟨run.2, 0⟩).1 = .error (.notFound cur) := by
    decide +kernel
  exact ⟨hb, hstate, hwritable, hin, by decide, by decide, hends, hresults⟩

end DirBox

end Kasten
