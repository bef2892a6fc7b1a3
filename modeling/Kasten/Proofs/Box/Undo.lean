import Kasten.Proofs.Box.Durable
import Kasten.Proofs.Catalog.Lifecycle

/-!
# What a directory box cannot do, it undoes

An operation may fail before it changes the catalog or after it. Each undoes its own changes, so
whatever comes of its file commands, an operation that fails leaves the box as it was and publishes
nothing, and one that succeeds has changed the catalog at one zettel only.
-/

namespace Kasten

/-! ## 1. Changes of the catalog undone -/

namespace Service

variable {s s' : Service} {e : Entry} {z : Zid}

/-- A catalog is known by its entries, so putting the same entries in its place changes nothing. -/
theorem eq_of_catalog {cat cat' : Catalog} (hcat : s.catalog = some cat)
    (h : ∀ z : Zid, cat'[z]? = cat[z]?) : { s with catalog := some cat' } = s := by
  rw [Std.ExtTreeMap.ext_getElem? h, ← hcat]

theorem put_of_some {cat : Catalog} (hcat : s.catalog = some cat) (e : Entry) :
    s.put e = .ok { s with catalog := some (cat.insert e.zid e) } := by
  unfold put
  rw [present_of_some hcat]
  rfl

theorem drop_of_some {cat : Catalog} (hcat : s.catalog = some cat) (z : Zid) :
    s.drop z = .ok { s with catalog := some (cat.erase z) } := by
  unfold drop
  rw [present_of_some hcat]
  rfl

/-- The identifier was free before, so nothing is left of the reservation. -/
theorem drop_of_reserve {now : Time} (h : s.reserve now = .ok (z, s')) : s'.drop z = .ok s := by
  have hfree := (entry_eq_of_reserve h).2.1
  rcases reserve_eq h with ⟨cat, hpresent, rfl⟩
  have hcat := catalog_of_present hpresent
  rw [entry_eq hcat] at hfree
  rw [drop_of_some rfl]
  refine congrArg Except.ok (eq_of_catalog hcat fun a => ?_)
  rw [getElem?_erase_eq, getElem?_insert_eq]
  by_cases ha : a = z
  · rw [if_pos ha, ha]
    exact hfree.symm
  · rw [if_neg ha, if_neg ha]

theorem put_of_reserve {now : Time} (h : s.reserve now = .ok (z, s')) (e : Entry) :
    ∃ s'', s'.put e = .ok s'' := by
  rcases reserve_eq h with ⟨cat, -, rfl⟩
  exact ⟨_, put_of_some rfl e⟩

theorem put_of_drop (he : s.entry? e.zid = some e) (h : s.drop e.zid = .ok s') :
    s'.put e = .ok s := by
  rcases exists_of_bind_eq_ok h with ⟨cat, hpresent, hs⟩
  cases hs
  have hcat := catalog_of_present hpresent
  rw [entry_eq hcat] at he
  rw [put_of_some rfl]
  refine congrArg Except.ok (eq_of_catalog hcat fun a => ?_)
  rw [getElem?_insert_eq, getElem?_erase_eq]
  by_cases ha : a = e.zid
  · rw [if_pos ha, ha]
    exact he.symm
  · rw [if_neg ha, if_neg ha]

/-- The new identifier was free, so it is free again when the entry is back. -/
theorem restore_of_rename {old : Entry} {new : Zid} (hold : s.entry? old.zid = some old)
    (h : s.rename old new = .ok (e, s')) : DirBox.restore s' old new = .ok s := by
  have hfree := (entry_eq_of_rename h).1
  rcases rename_eq h with ⟨cat, hpresent, -, rfl⟩
  have hcat := catalog_of_present hpresent
  rw [entry_eq hcat] at hold hfree
  let dropped : Catalog := ((cat.erase old.zid).insert new (old.renamed new)).erase new
  have hput := put_of_some (s := { s with catalog := some dropped }) rfl old
  unfold DirBox.restore
  rw [drop_of_some rfl]
  refine hput.trans (congrArg Except.ok (eq_of_catalog hcat fun a => ?_))
  rw [getElem?_insert_eq, getElem?_erase_eq, getElem?_insert_eq, getElem?_erase_eq]
  by_cases ha : a = old.zid
  · rw [if_pos ha, ha]
    exact hold.symm
  · rw [if_neg ha, if_neg ha]
    by_cases hnew : a = new
    · rw [if_pos hnew, hnew]
      exact hfree.symm
    · rw [if_neg hnew, if_neg hnew]

/-- A change made by hand leaves all but the catalog. -/
theorem eq_of_mutate {m : Mutation} (h : s.mutate m = .ok s') :
    s' = { s with catalog := s'.catalog } := by
  rcases mutate_eq h with ⟨cat, rfl⟩
  rfl

end Service

/-! ## 2. Operations that fail or succeed -/

namespace Outcome

variable {α : Type}

/-- An operation has changed the catalog at one identifier at most, nothing else of the box, and
published just that. -/
structure Touches (o : Outcome α) (b : DirBox) (reason : Reason) (zid : Zid) : Prop where
  others : ∀ z, z ≠ zid → o.box.service.entry? z = b.service.entry? z
  rest : o.box = { b with service := { b.service with catalog := o.box.service.catalog } }
  changes : o.changes = [⟨b.service.origin, reason, zid⟩]

/-- A failure has left everything as it was, with nothing published. -/
structure Settles (o : Outcome α) (b : DirBox) (done : α → Prop) : Prop where
  undone : ∀ error, o.answer = .error error → o.box = b ∧ o.changes = []
  done : ∀ a, o.answer = .ok a → done a

variable {o : Outcome α} {b : DirBox} {done : α → Prop}

theorem settles_of_error {error : StoreError} (h : o.answer = .error error) (hbox : o.box = b)
    (hchanges : o.changes = []) : o.Settles b done where
  undone _ _ := ⟨hbox, hchanges⟩
  done a ha := by
    rw [h] at ha
    cases ha

theorem settles_of_ok {a : α} (h : o.answer = .ok a) (hdone : done a) : o.Settles b done where
  undone error herror := by
    rw [h] at herror
    cases herror
  done a' ha' := by
    rw [h] at ha'
    cases ha'
    exact hdone

end Outcome

namespace DirBox

variable {b : DirBox} {α : Type} {e : Entry} {zid : Zid}

/-- A change of the catalog at one identifier is all that is to be seen of it. -/
theorem touches_of_commit {s : Service} {answer : Except StoreError α} {reason : Reason}
    {found : Option Entry} (hrest : s = { b.service with catalog := s.catalog })
    (hentry : s.entry? = Function.update b.service.entry? zid found) :
    (b.commit (.ok s) answer [(reason, zid)]).Touches b reason zid where
  others z hz := (congrFun hentry z).trans (Function.update_of_ne hz _ _)
  rest := congrArg (fun service => { b with service }) hrest
  changes := rfl

theorem isLive_entryFor (hb : b.Stocked) (zid : Zid) (m : Meta) :
    (b.entryFor zid m).isLive = true :=
  isLive_of_ready ((Service.arisen_getD hb.service.catalog zid).named.ready_prepare _ _)

/-- A fresh identifier is reserved before the files are written, and given back if they cannot be
written. -/
theorem create_settles (hb : b.Stocked) (now : Time) (z : Zettel) :
    (b.create now z).Always fun o => o.Settles b fun zid =>
      o.Touches b .onZettel zid ∧ ∃ e, o.box.service.entry? zid = some e ∧ e.isLive = true := by
  unfold create
  dsimp only
  split
  next => exact Outcome.settles_of_error rfl rfl rfl
  next zid service hready =>
    rcases exists_of_bind_eq_ok hready with ⟨_, -, hready⟩
    rcases exists_of_bind_eq_ok hready with ⟨_, -, hreserve⟩
    rcases Service.entry_eq_of_reserve hreserve with ⟨-, hfree, hservice⟩
    have hzid := (arisen_entryFor hb zid { z.metadata with zid }).zid
    have hlive := isLive_entryFor hb zid { z.metadata with zid }
    rw [← entryFor_of_none hfree]
    generalize b.entryFor zid { z.metadata with zid } = e at hzid hlive ⊢
    intro reply
    cases reply with
    | error error =>
      rw [Service.drop_of_reserve hreserve]
      exact Outcome.settles_of_error rfl rfl rfl
    | ok _ =>
      rcases Service.put_of_reserve hreserve e with ⟨s, hput⟩
      have hentry : s.entry? = Function.update b.service.entry? zid (some e) := by
        rw [Service.entry_eq_of_put hput, hzid, hservice, Function.update_idem]
      have hrest := Service.eq_of_mutate (m := .put e) hput
      rw [hput]
      rcases Service.reserve_eq hreserve with ⟨cat, -, rfl⟩
      refine Outcome.settles_of_ok rfl ⟨touches_of_commit (b := b) hrest hentry, e, ?_, hlive⟩
      exact (congrFun hentry zid).trans (Function.update_self _ _ _)

/-- The entry is put into the catalog only when its files are written. -/
theorem update_settles (hb : b.Stocked) (z : Zettel) :
    (b.update z).Always fun o => o.Settles b fun _ =>
      o.Touches b .onZettel z.zid ∧
        ∃ e, o.box.service.entry? z.zid = some e ∧ e.isLive = true := by
  unfold update
  dsimp only
  split
  next => exact Outcome.settles_of_error rfl rfl rfl
  next =>
    have hzid := (arisen_entryFor hb z.zid z.metadata).zid
    have hlive := isLive_entryFor hb z.zid z.metadata
    rw [← entryFor.eq_def b z.zid z.metadata]
    generalize b.entryFor z.zid z.metadata = e at hzid hlive ⊢
    intro reply
    cases reply with
    | error error => exact Outcome.settles_of_error rfl rfl rfl
    | ok _ =>
      dsimp only
      cases hput : b.service.put e with
      | error error => exact Outcome.settles_of_error rfl rfl rfl
      | ok s =>
        have hentry : s.entry? = Function.update b.service.entry? z.zid (some e) :=
          hzid ▸ Service.entry_eq_of_put hput
        have hrest := Service.eq_of_mutate (m := .put e) hput
        refine Outcome.settles_of_ok rfl ⟨touches_of_commit hrest hentry, e, ?_, hlive⟩
        exact (congrFun hentry z.zid).trans (Function.update_self _ _ _)

/-- The entry leaves the catalog before its files are removed, and comes back if they stay. -/
theorem delete_settles (hb : b.Stocked) (zid : Zid) :
    (b.delete zid).Always fun o => o.Settles b fun _ =>
      o.Touches b .onDelete zid ∧ o.box.service.entry? zid = none := by
  unfold delete
  dsimp only
  split
  next => exact Outcome.settles_of_error rfl rfl rfl
  next e service hready =>
    rcases exists_of_bind_eq_ok hready with ⟨_, -, hready⟩
    rcases exists_of_bind_eq_ok hready with ⟨_, -, hready⟩
    rcases exists_of_bind_eq_ok hready with ⟨found, hlive, hready⟩
    rcases exists_of_bind_eq_ok hready with ⟨dropped, hdrop, hready⟩
    cases hready
    have hfound := (Service.entry_of_liveEntry hlive).1
    have hzid : e.zid = zid := (hb.service.liveEntry hlive).zid
    subst hzid
    intro reply
    cases reply with
    | error error =>
      rw [Service.put_of_drop hfound hdrop]
      exact Outcome.settles_of_error rfl rfl rfl
    | ok _ =>
      have hentry := Service.entry_eq_of_drop hdrop
      have hrest := Service.eq_of_mutate (m := .drop e.zid) hdrop
      refine Outcome.settles_of_ok rfl ⟨touches_of_commit hrest hentry, ?_⟩
      exact (congrFun hentry e.zid).trans (Function.update_self _ _ _)

/-- Whatever the file commands of an operation are replied, late ones included, an operation that
fails leaves the box as it was and publishes nothing. One that succeeds changes the catalog at one
zettel at most, which is live after it was stored and gone after it was deleted, and publishes one
change, of this zettel. -/
theorem all_or_nothing (h : b.Reached) :
    (∀ now z, (b.create now z).Always fun o => o.Settles b fun zid =>
      o.Touches b .onZettel zid ∧ ∃ e, o.box.service.entry? zid = some e ∧ e.isLive = true) ∧
    (∀ z, (b.update z).Always fun o => o.Settles b fun _ =>
      o.Touches b .onZettel z.zid ∧
        ∃ e, o.box.service.entry? z.zid = some e ∧ e.isLive = true) ∧
    ∀ zid, (b.delete zid).Always fun o => o.Settles b fun _ =>
      o.Touches b .onDelete zid ∧ o.box.service.entry? zid = none :=
  ⟨create_settles h.stocked, update_settles h.stocked, delete_settles h.stocked⟩

/-- On a disk that hangs, a new zettel is stored too late and given up. -/
theorem all_or_nothing_of_hanging_disk :
    let zid : Zid := ⟨20200310195100⟩
    let now : Time := ⟨2020, 3, 10, 19, 51, 0⟩
    let z : Zettel := ⟨Meta.made zid [.set Key.title "New"] false, [65]⟩
    let disk : Disk :=
      ⟨((∅ : Std.ExtTreeMap String DiskItem).insert "box" .folder).insert
        "box/20200310195100.zettel" (.file [65])⟩
    let b := ((new (.new (Text.Utf8.encodeText "box"))).start 0 disk).1.box
    let late := (b.run (b.create now z) ⟨disk, 5000⟩).1
    let stored := (b.run (b.create now z) ⟨disk, 4999⟩).1
    let deleted := (b.run (b.delete zid) ⟨disk, 0⟩).1
    b.Reached ∧ b.service.startState = .started ∧
      late.answer = .error (.timeout "set zettel for 20200310195101") ∧ late.box = b ∧
      stored.answer = .ok ⟨20200310195101⟩ ∧
      stored.Touches b .onZettel ⟨20200310195101⟩ ∧
      deleted.answer = .ok () ∧ deleted.Touches b .onDelete zid ∧
      deleted.box.service.entry? zid = none := by
  intro zid now z disk b late stored deleted
  have hb : b.Reached := .start (.new _) 0 disk
  have hcreate : ∀ (b : DirBox) (now : Time) (z : Zettel) (d : Files.SlowDisk), b.Reached →
      (b.run (b.create now z) d).1.Settles b _ :=
    fun b now z d hb => ((all_or_nothing hb).1 now z).run b.pool.submit d
  have hdelete : ∀ (b : DirBox) (zid : Zid) (d : Files.SlowDisk), b.Reached →
      (b.run (b.delete zid) d).1.Settles b _ :=
    fun b zid d hb => ((all_or_nothing hb).2.2 zid).run b.pool.submit d
  have hlate : late.answer = .error (.timeout "set zettel for 20200310195101") := by
    decide +kernel
  have hstored : stored.answer = .ok ⟨20200310195101⟩ := by decide +kernel
  have hdeleted : deleted.answer = .ok () := by decide +kernel
  exact ⟨hb, by decide +kernel, hlate, ((hcreate b now z _ hb).undone _ hlate).1, hstored,
    ((hcreate b now z _ hb).done _ hstored).1, hdeleted, (hdelete b zid _ hb).done _ hdeleted⟩

end DirBox

end Kasten
