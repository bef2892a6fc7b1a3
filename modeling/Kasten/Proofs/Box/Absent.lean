import Kasten.Proofs.Box.Rename

/-!
# Boxes without a catalog

A directory that is gone, or was not listed yet, has no catalog. Until there is one again, zettel
are neither made nor moved nor removed, whatever the directory holds meanwhile. An update fails as
well, but only after it has written the files.
-/

namespace Kasten

open Disk (IsName join)

variable {dir name : String} {d d' : Disk} {e : Entry} {z : Zettel}

/-! ## 1. What is written -/

theorem Files.FileRequest.May.read_other {other : String} {data : Bytes}
    {reply : Except FileFault Unit} (h : May dir (.write other data) d reply d')
    (hname : IsName name) (hother : IsName other) (hne : other ≠ name) :
    d'.read (join dir name) = d.read (join dir name) := by
  have hleft (left : Bytes) :
      (serve dir (.write other left) d).2.read (join dir name) = d.read (join dir name) := by
    have hindependent : Program.Independent (serve dir) (.read name) (.write other left) :=
      independent_of_name_ne (.inl hname) (.inl hother) fun heq => absurd heq.symm hne
    exact hindependent.left d
  cases h with
  | served => exact hleft data
  | refused => rfl
  | spoilt _ _ left => exact hleft left

/-- Storing a zettel writes the files that its entry names and no others. -/
theorem Files.Pool.May.read_other {p : Files.Pool}
    {reply : (Files.Command.setZettel e z).Reply} (h : p.May (.setZettel e z) d reply d')
    (hname : IsName name) (htargets : ∀ n ∈ e.targets, IsName n) (hn : name ∉ e.targets) :
    d'.read (join p.dir name) = d.read (join p.dir name) := by
  let writesTarget (r : FileRequest) : Prop := ∃ n ∈ e.targets, ∃ data, r = .write n data
  have hasks : ((Command.setZettel e z).program p.dir).Asks writesTarget :=
    asks_writeZettel (fun n hn data => ⟨n, hn, data, rfl⟩) p.dir z
  have hkeeps : ∀ r d₁ reply d₂, writesTarget r → FileRequest.May p.dir r d₁ reply d₂ →
      d₁.read (join p.dir name) = d.read (join p.dir name) →
        d₂.read (join p.dir name) = d.read (join p.dir name) := by
    rintro r d₁ reply d₂ ⟨n, hmem, data, rfl⟩ hmay hd
    have hne : n ≠ name := fun heq => hn (heq ▸ hmem)
    exact (hmay.read_other hname (htargets n hmem) hne).trans hd
  exact h.keeps hasks hkeeps rfl

theorem Entry.isName_of_mem_targets_new {zid : Zid} {m : Meta} {zettelSyntaxes : List String}
    {n : String} (h : n ∈ ((Entry.new zid).prepare m zettelSyntaxes).targets) : IsName n := by
  have harisen := (Arisen.reserved zid).prepared m zettelSyntaxes
  have hnone : ∀ n ∈ (Entry.new zid).files, zid.Owns n := nofun
  have hown := ((Entry.new zid).isPrepared_prepare m zettelSyntaxes).owns
    (Arisen.reserved zid).named hnone
  exact (hown n (harisen.named.mem_files_of_mem_targets h)).isName

theorem Service.entry_of_none {s : Service} (h : s.catalog = none) (zid : Zid) :
    s.entry? zid = none := by
  unfold entry?
  rw [h]
  rfl

/-! ## 2. Work that is refused -/

namespace DirBox

variable {b : DirBox} {α : Type} {o : Outcome Unit}

/-- Whatever comes of its file commands, the work fails, publishes nothing, and leaves the box and
every file as they were. -/
def Refuses (b : DirBox) (work : FileWork (Outcome α)) : Prop :=
  ∀ d o d', work.Ends b.pool.May d o d' → (∃ error, o = b.fail error) ∧ d' = d

theorem refuses_fail (b : DirBox) (error : StoreError) :
    b.Refuses (α := α) (.done (b.fail error)) := by
  intro d o d' h
  rcases h.eq_of_done with ⟨rfl, rfl⟩
  exact ⟨⟨error, rfl⟩, rfl⟩

/-- A zettel that is to be renamed to itself is not looked for. -/
theorem rename_self (b : DirBox) (zid : Zid) :
    b.rename zid zid = .done ⟨b.requireWritable, b, []⟩ := by
  unfold rename
  cases b.requireWritable with
  | error error => rfl
  | ok _ => exact if_pos rfl

section Absent

variable (hnone : b.service.catalog = none)

include hnone

theorem create_refuses (now : Time) (z : Zettel) : b.Refuses (b.create now z) := by
  unfold create
  dsimp only
  split
  next error _ => exact b.refuses_fail error
  next zid service hready =>
    -- An identifier is reserved in the catalog.
    rcases exists_of_bind_eq_ok hready with ⟨_, -, hready⟩
    rcases exists_of_bind_eq_ok hready with ⟨_, -, hreserve⟩
    rcases Service.reserve_eq hreserve with ⟨cat, hpresent, -⟩
    cases hnone.symm.trans (Service.catalog_of_present hpresent)

theorem delete_refuses (zid : Zid) : b.Refuses (b.delete zid) := by
  unfold delete
  dsimp only
  split
  next error _ => exact b.refuses_fail error
  next e service hready =>
    -- Without a catalog there are no entries.
    rcases exists_of_bind_eq_ok hready with ⟨_, -, hready⟩
    rcases exists_of_bind_eq_ok hready with ⟨_, -, hready⟩
    rcases exists_of_bind_eq_ok hready with ⟨found, hlive, -⟩
    have hentry := (Service.entry_of_liveEntry hlive).1
    cases (Service.entry_of_none hnone zid).symm.trans hentry

theorem rename_refuses {cur new : Zid} (hne : cur ≠ new) : b.Refuses (b.rename cur new) := by
  rcases rename_cases b cur new with ⟨error, heq⟩ | ⟨hsame, -⟩ | ⟨old, -, hlive, -⟩
  · rw [heq]
    exact b.refuses_fail error
  · exact absurd hsame hne
  · have hentry := (Service.entry_of_liveEntry hlive).1
    cases (Service.entry_of_none hnone cur).symm.trans hentry

/-- An update fails at once, or stores the zettel as a new one and fails then. -/
theorem update_cases (z : Zettel) :
    (∃ error, b.update z = .done (b.fail error)) ∨
    b.config.readonly = false ∧ z.zid.isValid = true ∧ b.pool.isRunning = true ∧
      ∃ next, b.update z =
          .ask (.setZettel ((Entry.new z.zid).prepare z.metadata b.config.zettelSyntaxes) z) next ∧
        ∀ reply, ∃ error, next reply = .done (b.fail error) := by
  have hentry := Service.entry_of_none hnone z.zid
  unfold update
  dsimp only
  split
  next error _ => exact .inl ⟨error, rfl⟩
  next hready =>
    rcases exists_of_bind_eq_ok hready with ⟨_, hwritable, hready⟩
    rw [hentry, Option.getD_none]
    generalize (Entry.new z.zid).prepare z.metadata b.config.zettelSyntaxes = e
    have hput : b.service.put e = .error (.noDirectory b.service.origin) :=
      Service.mutate_of_none hnone (.put e)
    split at hready
    next => cases hready
    next hvalid =>
      rw [Bool.not_eq_true', Bool.not_eq_false] at hvalid
      refine .inr ⟨?_, hvalid, ?_, _, rfl, fun reply => ?_⟩
      · unfold requireWritable at hwritable
        split at hwritable
        next => cases hwritable
        next h => exact eq_false_of_ne_true h
      · unfold requireFiles at hready
        by_contra hstopped
        rw [if_neg hstopped] at hready
        cases hready
      · cases reply with
        | error error => exact ⟨error, rfl⟩
        | ok _ =>
          dsimp only
          rw [hput]
          exact ⟨_, rfl⟩

end Absent

/-! ## 3. Without a catalog -/

/-- Without a catalog every operation fails and leaves the box as it was, and all but an update
leave every file as it was. An update may have written the files of a new zettel by then. A zettel
may be renamed to itself, which does nothing at all. -/
theorem absent_catalog_refuses (hnone : b.service.catalog = none) :
    (∀ now z, b.Refuses (b.create now z)) ∧
    (∀ zid, b.Refuses (b.delete zid)) ∧
    (∀ cur new, cur ≠ new → b.Refuses (b.rename cur new)) ∧
    (∀ zid, b.rename zid zid = .done ⟨b.requireWritable, b, []⟩) ∧
    ∀ z,
      (b.config.readonly = true ∨ z.zid.isValid = false ∨ b.pool.isRunning = false →
        b.Refuses (b.update z)) ∧
      ∀ d o d', (b.update z).Ends b.pool.May d o d' →
        (∃ error, o = b.fail error) ∧
        ∀ name, IsName name →
          name ∉ ((Entry.new z.zid).prepare z.metadata b.config.zettelSyntaxes).targets →
            d'.read (join b.pool.dir name) = d.read (join b.pool.dir name) := by
  refine ⟨create_refuses hnone, delete_refuses hnone, fun cur new => rename_refuses hnone,
    b.rename_self, fun z => ⟨fun hcannot => ?_, fun d o d' h => ?_⟩⟩
  · rcases update_cases hnone z with ⟨error, heq⟩ | ⟨hwritable, hvalid, hrunning, -⟩
    · rw [heq]
      exact b.refuses_fail error
    · rw [hwritable, hvalid, hrunning] at hcannot
      exact absurd hcannot (by decide)
  · rcases update_cases hnone z with ⟨error, heq⟩ | ⟨-, -, -, next, heq, hnext⟩
    · rw [heq] at h
      rcases h.eq_of_done with ⟨rfl, rfl⟩
      exact ⟨⟨error, rfl⟩, fun _ _ _ => rfl⟩
    · rw [heq] at h
      cases h with
      | @ask _ _ _ written _ reply _ hwrite hrest =>
        rcases hnext reply with ⟨error, hfail⟩
        rw [hfail] at hrest
        rcases hrest.eq_of_done with ⟨rfl, rfl⟩
        exact ⟨⟨error, rfl⟩, fun name hname hn =>
          hwrite.read_other hname (fun _ => Entry.isName_of_mem_targets_new) hn⟩

/-- The directory of a polled box has vanished and is there again before the next poll. -/
theorem absent_catalog_refuses_of_vanished :
    let zid : Zid := ⟨20200310195100⟩
    let new : Zid := ⟨20200310195101⟩
    let z : Zettel := ⟨Meta.made zid [.set Key.title "New"] false, Text.Utf8.encodeText "hello"⟩
    let folder : Disk := ⟨(∅ : Std.ExtTreeMap String DiskItem).insert "box" .folder⟩
    let disk := (folder.write "box/20200310195101.zettel" (Text.Utf8.encodeText "kept")).2
    let config := { DirBoxConfig.new (Text.Utf8.encodeText "box") with notifier := .polling }
    let started := ((DirBox.new config).start 0 disk).1.box
    let b := { started with toFeed := (started.toFeed.tick 60000 .empty).1 }
    let deleted := b.run (b.delete new) ⟨disk, 0⟩
    let renamed := b.run (b.rename new zid) ⟨disk, 0⟩
    let updated := b.run (b.update z) ⟨disk, 0⟩
    b.service.catalog = none ∧
      (∃ error, deleted.1 = b.fail error) ∧ deleted.2.disk = disk ∧
      new ≠ zid ∧ (∃ error, renamed.1 = b.fail error) ∧ renamed.2.disk = disk ∧
      (∃ error, updated.1 = b.fail error) ∧
      updated.2.disk.read "box/20200310195101.zettel" = disk.read "box/20200310195101.zettel" := by
  intro zid new z folder disk config started b deleted renamed updated
  have hnone : b.service.catalog = none := by decide +kernel
  have hne : new ≠ zid := by decide
  have hother : "20200310195101.zettel" ∉
      ((Entry.new z.zid).prepare z.metadata b.config.zettelSyntaxes).targets := by
    decide +kernel
  have hpath : join b.pool.dir "20200310195101.zettel" = "box/20200310195101.zettel" := by
    decide +kernel
  rcases absent_catalog_refuses hnone with ⟨-, hdelete, hrename, -, hupdate⟩
  rcases hdelete new _ _ _ (b.ends_run _ ⟨disk, 0⟩) with ⟨hdeleted, hsame⟩
  rcases hrename new zid hne _ _ _ (b.ends_run _ ⟨disk, 0⟩) with ⟨hrenamed, hsame'⟩
  rcases (hupdate z).2 _ _ _ (b.ends_run _ ⟨disk, 0⟩) with ⟨hupdated, hothers⟩
  have hname : IsName "20200310195101.zettel" :=
    ⟨by decide, '2', "0200310195101.zettel".toList, by decide, by decide⟩
  have hread := hothers "20200310195101.zettel" hname hother
  rw [hpath] at hread
  exact ⟨hnone, hdeleted, hsame, hne, hrenamed, hsame', hupdated, hread⟩

/-- An update fails without a catalog, but what was in the file is lost by then. -/
theorem update_overwrites_without_catalog :
    let zid : Zid := ⟨20200310195100⟩
    let path := "box/20200310195100.zettel"
    let z : Zettel := ⟨Meta.made zid [.set Key.title "New"] false, Text.Utf8.encodeText "hello"⟩
    let folder : Disk := ⟨(∅ : Std.ExtTreeMap String DiskItem).insert "box" .folder⟩
    let disk := (folder.write path (Text.Utf8.encodeText "kept")).2
    let config := { DirBoxConfig.new (Text.Utf8.encodeText "box") with notifier := .polling }
    let started := ((new config).start 0 disk).1.box
    let b := { started with toFeed := (started.toFeed.tick 60000 .empty).1 }
    let o := b.run (b.update z) ⟨disk, 0⟩
    b.Reached ∧ b.service.startState = .started ∧ b.service.catalog = none ∧
      o.1.answer = .error (.noDirectory "dir://box") ∧
      disk.read path = .ok (Text.Utf8.encodeText "kept") ∧
      o.2.disk.read path =
        .ok (Text.Utf8.encodeText "id: 20200310195100\ntitle: New\n\nhello") := by
  intro zid path z folder disk config started b o
  have hb : b.Reached := .tick (.start (.new _) 0 disk) 60000 .empty
  have hresults : b.service.startState = .started ∧ b.service.catalog = none ∧
      o.1.answer = .error (.noDirectory "dir://box") ∧
      disk.read path = .ok (Text.Utf8.encodeText "kept") ∧
      o.2.disk.read path =
        .ok (Text.Utf8.encodeText "id: 20200310195100\ntitle: New\n\nhello") := by
    decide +kernel
  exact ⟨hb, hresults⟩

end DirBox

end Kasten
