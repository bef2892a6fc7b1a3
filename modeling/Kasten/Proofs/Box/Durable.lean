import Kasten.Proofs.Box.Rescan
import Kasten.Proofs.Catalog.Tally

/-!
# What a directory box has done stays done

A box that has taken in a directory goes on to list just the zettel whose files the directory lists,
whatever zettel it stores, moves and deletes. So another scan finds all that was stored or moved,
and nothing that was deleted or moved away.
-/

namespace Kasten

open Catalog (Tallies zidsOf)

/-! ## 1. Commands that succeed -/

namespace Files.Pool

variable {p : Pool} {c : Command} {d : SlowDisk} {r : c.Result}

/-- A command that succeeds has run to its end, whether it asked for files or not. -/
theorem run_of_submit (h : (p.submit c d).1 = .ok r) :
    (c.program p.dir).run (FileRequest.serve p.dir) d.disk = (.ok r, (p.submit c d).2.disk) := by
  unfold submit at h ⊢
  split at h
  next => cases h
  next hrunning =>
    rw [if_neg hrunning]
    dsimp only at h ⊢
    generalize (if (c.program p.dir).isDone = true then 0 else d.delay) = delay at h ⊢
    by_cases hlate : p.timeoutMs ≤ delay
    · rw [if_pos hlate] at h
      cases h
    · rw [if_neg hlate] at h ⊢
      exact Prod.ext h rfl

end Files.Pool

/-! ## 2. Catalog and directory in step -/

/-- The entries tally with what the directory lists. -/
structure InStep (dir : String) (find : Zid → Option Entry) (disk : Disk) (names : List String) :
    Prop where
  isFolder : disk.isFolder dir = true
  listed : disk.listZettel dir = .ok names
  tallies : Tallies find names

namespace InStep

variable {dir : String} {find : Zid → Option Entry} {disk disk' : Disk} {names : List String}
variable {e : Entry} {zid : Zid}

/-- Storing a zettel in the files of an entry, and noting the entry, keeps both in step. -/
theorem stored {z : Zettel} (h : InStep dir find disk names) (he : e.StandsFor zid names)
    (hlive : e.isLive = true)
    (hrun : (Files.writeZettel dir e z).run (Files.FileRequest.serve dir) disk = (.ok (), disk')) :
    ∃ names', InStep dir (Function.update find zid (some e)) disk' names' ∧
      zidsOf names' = insert zid (zidsOf names) := by
  have hne : e.targets ≠ [] := by
    rcases he.shown hlive with ⟨n, hn, -⟩
    exact List.ne_nil_of_mem hn
  rcases Files.listZettel_writeZettel hne (fun n hn => he.isName_of_mem_targets hn)
    (congrArg Prod.fst hrun) with ⟨old, names', hlist, hfolder, hlist', hmem⟩
  cases h.listed.symm.trans hlist
  rw [hrun] at hfolder hlist'
  have htallies := h.tallies.stored he hlive hmem
  exact ⟨names', ⟨hfolder, hlist', htallies⟩, h.tallies.zidsOf_stored htallies⟩

theorem deleted (h : InStep dir find disk names) (he : find zid = some e)
    (hrun : (Files.removeFiles dir none e.files).run (Files.FileRequest.serve dir) disk =
      (.ok (), disk')) :
    ∃ names', InStep dir (Function.update find zid none) disk' names' ∧
      zidsOf names' = (zidsOf names).erase zid := by
  have hstands := h.tallies.standsFor zid e he
  rcases Files.listZettel_removeFiles (fun n hn => (hstands.owns n hn).isName) h.isFolder h.listed
    (congrArg Prod.fst hrun) with ⟨names', hfolder, hlist, hmem⟩
  rw [hrun] at hfolder hlist
  have htallies := h.tallies.deleted he hmem
  exact ⟨names', ⟨hfolder, hlist, htallies⟩, h.tallies.zidsOf_deleted htallies⟩

/-- Between writing and removing, the files of both are listed. -/
theorem renamed {cur new : Zid} {z : Zettel} {written : Disk} (h : InStep dir find disk names)
    (he : find cur = some e) (hlive : e.isLive = true) (hnew : new.isValid = true)
    (hfree : find new = none) (hne : cur ≠ new)
    (hwrite : (Files.writeZettel dir (e.renamed new) z).run (Files.FileRequest.serve dir) disk =
      (.ok (), written))
    (hremove : (Files.removeFiles dir none e.files).run (Files.FileRequest.serve dir) written =
      (.ok (), disk')) :
    ∃ names', InStep dir
        (Function.update (Function.update find cur none) new (some (e.renamed new))) disk' names' ∧
      zidsOf names' = insert new ((zidsOf names).erase cur) := by
  have hstands := h.tallies.standsFor cur e he
  have hmoved := hstands.renamed hlive hnew (h.tallies.not_listed hfree)
  rcases h.stored hmoved.1 hmoved.2 hwrite with ⟨between, hboth, hzids⟩
  have hstill : Function.update find new (some (e.renamed new)) cur = some e :=
    (Function.update_of_ne hne _ _).trans he
  rcases hboth.deleted hstill hremove with ⟨names', hstep, hzids'⟩
  rw [Function.update_comm hne]
  refine ⟨names', hstep, ?_⟩
  rw [hzids', hzids, Finset.erase_insert_of_ne (Ne.symm hne)]

end InStep

/-! ## 3. What an operation does to the catalog and to the disk -/

namespace DirBox

variable {b b' : DirBox} {d d' : Files.SlowDisk} {disk disk' : Disk} {z : Zettel} {zid cur new : Zid}
variable {names : List String}

/-- The entry under which a zettel is stored. -/
def entryFor (b : DirBox) (zid : Zid) (m : Meta) : Entry :=
  ((b.service.entry? zid).getD (Entry.new zid)).prepare m b.config.zettelSyntaxes

theorem arisen_entryFor (hb : b.Stocked) (zid : Zid) (m : Meta) : (b.entryFor zid m).Arisen zid :=
  (Service.arisen_getD hb.service.catalog zid).prepared m b.config.zettelSyntaxes

theorem entryFor_of_none (h : b.service.entry? zid = none) (m : Meta) :
    b.entryFor zid m = (Entry.new zid).prepare m b.config.zettelSyntaxes := by
  unfold entryFor
  rw [h]
  rfl

/-- An update that succeeds changes just the entry of its zettel. -/
theorem entry_update (hb : b.Stocked) (z : Zettel) :
    (b.update z).Always fun o => o.answer = .ok () → z.zid.isValid = true ∧
      o.box.service.entry? =
        Function.update b.service.entry? z.zid (some (b.entryFor z.zid z.metadata)) := by
  unfold update
  dsimp only
  split
  next => exact nofun
  next hready =>
    rcases exists_of_bind_eq_ok hready with ⟨_, -, hready⟩
    split at hready
    next => cases hready
    next hvalid =>
      rw [Bool.not_eq_true', Bool.not_eq_false] at hvalid
      intro reply
      cases reply with
      | error error => exact nofun
      | ok _ =>
        intro h
        rcases commit_ok h with ⟨s, hput, -, hbox⟩
        have hentry : s.entry? = Function.update b.service.entry?
            (b.entryFor z.zid z.metadata).zid (some (b.entryFor z.zid z.metadata)) :=
          Service.entry_eq_of_put hput
        rw [(arisen_entryFor hb z.zid z.metadata).zid] at hentry
        exact ⟨hvalid, (congrArg (fun b => b.service.entry?) hbox).trans hentry⟩

/-- A new zettel gets an entry where there was none. -/
theorem entry_create (b : DirBox) (now : Time) (z : Zettel) :
    (b.create now z).Always fun o => o.answer = .ok zid → zid.isValid = true ∧
      b.service.entry? zid = none ∧ o.box.service.entry? =
        Function.update b.service.entry? zid (some (b.entryFor zid { z.metadata with zid })) := by
  unfold create
  dsimp only
  split
  next => exact nofun
  next zid' service hready =>
    rcases exists_of_bind_eq_ok hready with ⟨_, -, hready⟩
    rcases exists_of_bind_eq_ok hready with ⟨_, -, hreserve⟩
    rcases Service.entry_eq_of_reserve hreserve with ⟨hvalid, hfree, hservice⟩
    intro reply
    cases reply with
    | error error => exact fun h => absurd h commit_error
    | ok _ =>
      intro h
      rcases commit_ok h with ⟨s, hput, hanswer, hbox⟩
      cases hanswer
      -- The prepared entry takes the place of the reserved one.
      have hentry := Service.entry_eq_of_put hput
      rw [Entry.zid_prepare, hservice, ← entryFor_of_none hfree] at hentry
      refine ⟨hvalid, hfree, (congrArg (fun b => b.service.entry?) hbox).trans ?_⟩
      exact hentry.trans (Function.update_idem _ _ _)

theorem exists_delete (h : (b.run (b.delete zid) d).1.answer = .ok ()) :
    ∃ e, b.service.entry? zid = some e ∧
      (b.run (b.delete zid) d).1.box.service.entry? =
        Function.update b.service.entry? zid none ∧
      (Files.removeFiles b.pool.dir none e.files).run (Files.FileRequest.serve b.pool.dir) d.disk =
        (.ok (), (b.run (b.delete zid) d).2.disk) := by
  unfold delete at h ⊢
  dsimp only at h ⊢
  split at h
  next => cases h
  next e service hready =>
    rcases exists_of_bind_eq_ok hready with ⟨_, -, hready⟩
    rcases exists_of_bind_eq_ok hready with ⟨_, -, hready⟩
    rcases exists_of_bind_eq_ok hready with ⟨found, hlive, hready⟩
    rcases exists_of_bind_eq_ok hready with ⟨dropped, hdrop, hready⟩
    cases hready
    rcases exists_reply h fun error => commit_error with ⟨reply, hremove, hrun⟩
    rw [hrun]
    exact ⟨e, (Service.entry_of_liveEntry hlive).1, Service.entry_eq_of_drop hdrop,
      Files.Pool.run_of_submit hremove⟩

theorem run_rename_self (h : (b.run (b.rename cur cur) d).1.answer = .ok ()) :
    b.run (b.rename cur cur) d = (⟨.ok (), b, []⟩, d) := by
  unfold run rename at h ⊢
  split at h
  next => cases h
  next =>
    rw [if_pos rfl]
    rfl

/-- Reading leaves the disk as it is. -/
theorem submit_getZettel {p : Files.Pool} {e : Entry} (h : (p.submit (.getZettel e) d).1 = .ok z) :
    (p.submit (.getZettel e) d).2.disk = d.disk := by
  have hrun := congrArg Prod.snd (Files.Pool.run_of_submit h)
  exact hrun.symm.trans (Files.run_readZettel_snd p.dir e d.disk)

theorem exists_rename (hne : cur ≠ new) (h : (b.run (b.rename cur new) d).1.answer = .ok ()) :
    ∃ (old : Entry) (z : Zettel) (written : Disk), new.isValid = true ∧
      b.service.entry? cur = some old ∧ old.isLive = true ∧ b.service.entry? new = none ∧
      (b.run (b.rename cur new) d).1.box.service.entry? = Function.update
        (Function.update b.service.entry? old.zid none) new (some (old.renamed new)) ∧
      (Files.writeZettel b.pool.dir (old.renamed new) z).run (Files.FileRequest.serve b.pool.dir)
        d.disk = (.ok (), written) ∧
      (Files.removeFiles b.pool.dir none old.files).run (Files.FileRequest.serve b.pool.dir)
        written = (.ok (), (b.run (b.rename cur new) d).2.disk) := by
  rcases rename_cases b cur new with ⟨error, heq⟩ | ⟨hsame, -⟩ | ⟨old, hnew, hready, heq⟩
  · rw [heq] at h
    cases h
  · exact absurd hsame hne
  rcases Service.entry_of_liveEntry hready with ⟨hcur, hlive⟩
  -- Each of the three commands has to succeed before the next one is given.
  rw [heq] at h ⊢
  rcases exists_reply h fun error => nofun with ⟨z, hread, hrun⟩
  rw [hrun] at h ⊢
  rcases renameRead_cases b cur new old z with ⟨error, heq⟩ | ⟨s, hrename, heq⟩
  · rw [heq] at h
    cases h
  rw [heq] at h ⊢
  rcases Service.entry_eq_of_rename hrename with ⟨hfree, -, hservice⟩
  rcases exists_reply h fun error => commit_error with ⟨_, hwrite, hrun⟩
  rw [hrun, renameWritten] at h ⊢
  rcases exists_reply h fun error => commit_error with ⟨_, hremove, hrun⟩
  rw [hrun]
  have hwritten := Files.Pool.run_of_submit hwrite
  rw [submit_getZettel hread] at hwritten
  exact ⟨old, _, _, hnew, hcur, hlive, hfree, hservice, hwritten, Files.Pool.run_of_submit hremove⟩

/-! ## 4. One operation after another -/

inductive Deed where
  | created (zid : Zid)
  | updated (zid : Zid)
  | renamed (cur new : Zid)
  | deleted (zid : Zid)
deriving DecidableEq, Repr

/-- What a deed makes of the zettel that there are. -/
def Deed.apply (zids : Finset Zid) : Deed → Finset Zid
  | created zid => insert zid zids
  | updated zid => insert zid zids
  | renamed cur new => if cur = new then zids else insert new (zids.erase cur)
  | deleted zid => zids.erase zid

/-- The box answers that it has done this. -/
inductive Does (b : DirBox) (d : Files.SlowDisk) : Deed → DirBox → Files.SlowDisk → Prop where
  | create {now : Time} {z : Zettel} {zid : Zid}
      (h : (b.run (b.create now z) d).1.answer = .ok zid) :
      Does b d (.created zid) (b.run (b.create now z) d).1.box (b.run (b.create now z) d).2
  | update {z : Zettel} (h : (b.run (b.update z) d).1.answer = .ok ()) :
      Does b d (.updated z.zid) (b.run (b.update z) d).1.box (b.run (b.update z) d).2
  | rename {cur new : Zid} (h : (b.run (b.rename cur new) d).1.answer = .ok ()) :
      Does b d (.renamed cur new) (b.run (b.rename cur new) d).1.box (b.run (b.rename cur new) d).2
  | delete {zid : Zid} (h : (b.run (b.delete zid) d).1.answer = .ok ()) :
      Does b d (.deleted zid) (b.run (b.delete zid) d).1.box (b.run (b.delete zid) d).2

/-- The box has done one deed after another, and nobody else has changed the directory or the
catalog. The disk may hang for any time before each. -/
inductive History (b : DirBox) (disk : Disk) : List Deed → DirBox → Disk → Prop where
  | nothing : History b disk [] b disk
  | step {deeds : List Deed} {deed : Deed} {b' b'' : DirBox} {disk' : Disk} {d : Files.SlowDisk}
      (h : History b disk deeds b' disk') (delay : Nat) (hdoes : b'.Does ⟨disk', delay⟩ deed b'' d) :
      History b disk (deeds ++ [deed]) b'' d.disk

variable {deed : Deed} {deeds : List Deed}

namespace Does

theorem reached (h : b.Does d deed b' d') (hb : b.Reached) : b'.Reached := by
  cases h with
  | create h => exact hb.create _ _ d
  | update h => exact hb.update _ d
  | rename h => exact hb.rename _ _ d
  | delete h => exact hb.delete _ d

theorem sameBut (h : b.Does d deed b' d') : b.SameBut b' := by
  cases h with
  | create h => exact (sameBut_create b _ _).run _ d
  | update h => exact (sameBut_update b _).run _ d
  | rename h => exact (sameBut_rename b _ _).run _ d
  | delete h => exact (sameBut_delete b _).run _ d

end Does

theorem SameBut.config_eq (h : b.SameBut b') : b'.config = b.config := by
  rcases h with ⟨s, rfl⟩
  rfl

theorem path_of_config (h : b'.config = b.config) : b'.path = b.path := by
  unfold path
  rw [h]

theorem inStep_of_keeps (hin : InStep b.path b.service.entry? d.disk names)
    (hb : b.Settled) (hz : zid.isValid = true) (h : Keeps b (b.entryFor zid z.metadata) z d b' d') :
    ∃ names', InStep b.path
        (Function.update b.service.entry? zid (some (b.entryFor zid z.metadata))) d'.disk names' ∧
      zidsOf names' = insert zid (zidsOf names) := by
  have hprepared := (hin.tallies.standsFor_getD hz).prepare z.metadata b.config.zettelSyntaxes
  have hrun := Files.Pool.run_of_submit h.written
  rw [hb.dir_eq, ← h.disk] at hrun
  exact hin.stored hprepared.1 hprepared.2 hrun

theorem Does.inStep (h : b.Does d deed b' d') (hb : b.Reached)
    (hin : InStep b.path b.service.entry? d.disk names) :
    ∃ names', InStep b.path b'.service.entry? d'.disk names' ∧
      zidsOf names' = deed.apply (zidsOf names) := by
  cases h with
  | @create now z zid h =>
    rcases (entry_create b now z).run b.pool.submit d h with ⟨hz, hfree, hentry⟩
    have hkeeps := keeps_of_create h
    rw [← entryFor_of_none hfree] at hkeeps
    have hstep :=
      inStep_of_keeps (z := ⟨{ z.metadata with zid }, z.content⟩) hin hb.settled hz hkeeps
    rw [← hentry] at hstep
    exact hstep
  | @update z h =>
    rcases (entry_update hb.stocked z).run b.pool.submit d h with ⟨hz, hentry⟩
    have hstep := inStep_of_keeps hin hb.settled hz (keeps_of_update h)
    rw [← hentry] at hstep
    exact hstep
  | @rename cur new h =>
    by_cases hne : cur = new
    · subst hne
      rw [run_rename_self h]
      exact ⟨names, hin, (if_pos rfl).symm⟩
    · rcases exists_rename hne h with
        ⟨old, z, written, hnew, hcur, hlive, hfree, hentry, hwrite, hremove⟩
      rw [hb.settled.dir_eq] at hwrite hremove
      rw [(hin.tallies.standsFor cur old hcur).arisen.zid] at hentry
      rcases hin.renamed hcur hlive hnew hfree hne hwrite hremove with ⟨names', hstep, hzids⟩
      rw [hentry]
      exact ⟨names', hstep, hzids.trans (if_neg hne).symm⟩
  | delete h =>
    rcases exists_delete h with ⟨e, he, hentry, hrun⟩
    rw [hb.settled.dir_eq] at hrun
    rw [hentry]
    exact hin.deleted he hrun

/-- What is known of a box and its directory is known again after every history. -/
theorem History.inStep (h : History b disk deeds b' disk') (hb : b.Reached)
    (hin : InStep b.path b.service.entry? disk names) :
    b'.Reached ∧ b'.config = b.config ∧ ∃ names', InStep b.path b'.service.entry? disk' names' ∧
      zidsOf names' = deeds.foldl Deed.apply (zidsOf names) := by
  -- By induction over the deeds; each finds catalog and directory in step.
  induction h with
  | nothing => exact ⟨hb, rfl, names, hin, rfl⟩
  | step h delay hdoes ih =>
    rcases ih with ⟨hreached, hconfig, between, hbetween, hzids⟩
    rw [← path_of_config hconfig] at hbetween
    rcases hdoes.inStep hreached hbetween with ⟨names', hin', hzids'⟩
    rw [path_of_config hconfig] at hin'
    refine ⟨hdoes.reached hreached, hdoes.sameBut.config_eq.trans hconfig, names', hin', ?_⟩
    rw [hzids', hzids, List.foldl_append]
    rfl

/-! ## 5. Scans -/

/-- The zettel that the box lists. -/
def zids (b : DirBox) : Finset Zid := (b.service.liveZids fun _ => true).toFinset

theorem tallies_of_scan {dir : String} (hlist : disk.listZettel dir = .ok names)
    (hscan : b.service.catalog = some (Catalog.addFiles ∅ names)) :
    Tallies b.service.entry? names := by
  rw [Service.entry_eq hscan]
  exact Catalog.tallies_addFiles (fun n hn => Disk.isZettelFile_of_mem_listZettel hlist hn)
    (Disk.slash_not_mem_listZettel hlist)

end DirBox

end Kasten
