import Kasten.Proofs.Box.Reached
import Kasten.Proofs.Files.ReadWrite

/-!
# A directory box gives back what it stored

The box looks for a zettel under the entry that it has put into its catalog, so it reads the files
that it has just written.
-/

namespace Kasten

/-! ## 1. Commands in time -/

namespace Files.Pool

variable {p : Pool} {c : Command} {d : SlowDisk} {r : c.Result}

/-- A command that asked for files and was in time has run, and the disk hangs no longer. -/
theorem submit_ok (hasks : (c.program p.dir).isDone = false) (h : (p.submit c d).1 = .ok r) :
    p.isRunning = true ∧ 0 < p.timeoutMs ∧
      ((c.program p.dir).run (FileRequest.serve p.dir) d.disk).1 = .ok r ∧
      (p.submit c d).2 = ⟨((c.program p.dir).run (FileRequest.serve p.dir) d.disk).2, 0⟩ := by
  unfold submit at h ⊢
  by_cases hrunning : p.isRunning = true
  · rw [hrunning, Bool.not_true, if_neg Bool.false_ne_true] at h ⊢
    dsimp only at h ⊢
    rw [hasks, if_neg Bool.false_ne_true] at h ⊢
    rw [Nat.sub_self] at h ⊢
    -- A command that starts at once is in time exactly if the disk does not hang too long.
    by_cases hlate : p.timeoutMs ≤ d.delay
    · rw [if_pos hlate] at h
      cases h
    · rw [if_neg hlate] at h ⊢
      exact ⟨rfl, by omega, h, rfl⟩
  · rw [eq_false_of_ne_true hrunning, Bool.not_false, if_pos rfl] at h
    cases h

/-- Workers that are waited for longer than the disk hangs answer in time. -/
theorem submit_in_time (hrunning : p.isRunning = true) (htime : d.delay < p.timeoutMs)
    (c : Command) :
    ∃ delay ≤ d.delay, p.submit c d =
      (((c.program p.dir).run (FileRequest.serve p.dir) d.disk).1,
        ⟨((c.program p.dir).run (FileRequest.serve p.dir) d.disk).2, delay⟩) := by
  unfold submit
  rw [hrunning, Bool.not_true, if_neg Bool.false_ne_true]
  dsimp only
  -- Work that is done at once meets no delay at all.
  split
  next =>
    rw [if_neg (by omega)]
    exact ⟨d.delay - 0, by omega, rfl⟩
  next =>
    rw [if_neg (by omega)]
    exact ⟨d.delay - d.delay, by omega, rfl⟩

theorem submit_of_no_delay (hrunning : p.isRunning = true) (htime : 0 < p.timeoutMs)
    (disk : Disk) :
    p.submit c ⟨disk, 0⟩ =
      (((c.program p.dir).run (FileRequest.serve p.dir) disk).1,
        ⟨((c.program p.dir).run (FileRequest.serve p.dir) disk).2, 0⟩) := by
  rcases submit_in_time (d := ⟨disk, 0⟩) hrunning htime c with ⟨delay, hdelay, hsubmit⟩
  rw [hsubmit, Nat.le_zero.mp hdelay]

end Files.Pool

namespace Files

variable {dir : String} {e : Entry} {z : Zettel}

theorem isDone_writeZettel (h : e.contentName ≠ "") : (writeZettel dir e z).isDone = false := by
  unfold writeZettel writeContent
  split
  · rfl
  · split
    · rfl
    · rfl

end Files

namespace Service

variable {s s' : Service} {e : Entry}

theorem entry_of_put (h : s.put e = .ok s') : entry? s' e.zid = some e := by
  rcases exists_of_bind_eq_ok h with ⟨cat, -, h⟩
  rw [← Except.ok.inj h]
  exact (getElem?_insert_eq cat e.zid e.zid e).trans (if_pos rfl)

end Service

namespace DirBox

variable {b b' : DirBox} {d d' : Files.SlowDisk} {e : Entry} {z : Zettel} {zid : Zid}

/-! ## 2. Storing -/

/-- The box answers that it has stored the zettel under the identifier. -/
inductive Stores (b : DirBox) (z : Zettel) (d : Files.SlowDisk) :
    Zid → DirBox → Files.SlowDisk → Prop where
  | create {now : Time} {zid : Zid} (h : (b.run (b.create now z) d).1.answer = .ok zid) :
      Stores b z d zid (b.run (b.create now z) d).1.box (b.run (b.create now z) d).2
  | update (h : (b.run (b.update z) d).1.answer = .ok ()) :
      Stores b z d z.zid (b.run (b.update z) d).1.box (b.run (b.update z) d).2

/-- The zettel was written to the files of an entry that is in the catalog now. -/
structure Keeps (b : DirBox) (e : Entry) (z : Zettel) (d : Files.SlowDisk) (b' : DirBox)
    (d' : Files.SlowDisk) : Prop where
  written : (b.pool.submit (.setZettel e z) d).1 = .ok ()
  disk : d' = (b.pool.submit (.setZettel e z) d).2
  pool : b'.pool = b.pool
  entry : b'.service.entry? e.zid = some e

theorem commit_ok {α : Type} {service : Except StoreError Service} {answer : Except StoreError α}
    {changes : List (Reason × Zid)} {a : α} (h : (b.commit service answer changes).answer = .ok a) :
    ∃ s, service = .ok s ∧ answer = .ok a ∧
      (b.commit service answer changes).box = { b with service := s } := by
  cases service with
  | error error => cases h
  | ok s => exact ⟨s, rfl, h, rfl⟩

theorem commit_error {α : Type} {service : Except StoreError Service} {error : StoreError}
    {changes : List (Reason × Zid)} {a : α} :
    (b.commit service (.error error) changes).answer ≠ .ok a := by
  intro h
  rcases commit_ok h with ⟨s, -, hanswer, -⟩
  cases hanswer

/-- An operation that fails along with a command has succeeded only if the command has. -/
theorem exists_reply {α : Type} {c : Files.Command} {next : c.Reply → FileWork (Outcome α)} {a : α}
    (h : (b.run (.ask c next) d).1.answer = .ok a)
    (hfail : ∀ error, (next (.error error)).Always fun o => o.answer ≠ .ok a) :
    ∃ r, (b.pool.submit c d).1 = .ok r ∧
      b.run (.ask c next) d = b.run (next (.ok r)) (b.pool.submit c d).2 := by
  unfold run at h ⊢
  rw [Program.run_ask] at h ⊢
  cases hreply : (b.pool.submit c d).1 with
  | error error =>
    rw [hreply] at h
    exact absurd h ((hfail error).run _ _)
  | ok r => exact ⟨r, rfl, rfl⟩

/-- After the files were written, the entry is put into the catalog. -/
theorem keeps_of_commit {α : Type} (b₀ : DirBox) {answer : Except StoreError α} {a : α}
    {changes : List (Reason × Zid)} {next : Except StoreError Unit → FileWork (Outcome α)}
    (hnext : next (.ok ()) = .done (b₀.commit (b₀.service.put e) answer changes))
    (hfail : ∀ error, (next (.error error)).Always fun o => o.answer ≠ .ok a)
    (hpool : b₀.pool = b.pool)
    (h : (b.run (.ask (.setZettel e z) next) d).1.answer = .ok a) :
    answer = .ok a ∧ Keeps b e z d (b.run (.ask (.setZettel e z) next) d).1.box
      (b.run (.ask (.setZettel e z) next) d).2 := by
  rcases exists_reply h hfail with ⟨reply, hwritten, hrun⟩
  rw [hrun, hnext] at h ⊢
  rcases commit_ok h with ⟨s, hput, hanswer, hbox⟩
  refine ⟨hanswer, hwritten, rfl, ?_, ?_⟩
  · exact (congrArg DirBox.pool hbox).trans hpool
  · show Service.entry? (b₀.commit (b₀.service.put e) answer changes).box.service e.zid = some e
    rw [hbox]
    exact Service.entry_of_put hput

theorem keeps_of_create {now : Time} (h : (b.run (b.create now z) d).1.answer = .ok zid) :
    Keeps b
      ((Entry.new zid).prepare { z.metadata with zid } b.config.zettelSyntaxes)
      ⟨{ z.metadata with zid }, z.content⟩ d
      (b.run (b.create now z) d).1.box (b.run (b.create now z) d).2 := by
  unfold create at h ⊢
  dsimp only at h ⊢
  split at h
  next => cases h
  next zid' service heq =>
    have hkeeps := keeps_of_commit (b := b) { b with service } rfl (fun error => ?_) rfl h
    · cases hkeeps.1
      exact hkeeps.2
    -- When the reservation is given up, the answer is the error of the write.
    · exact commit_error

theorem keeps_of_update (h : (b.run (b.update z) d).1.answer = .ok ()) :
    Keeps b (((b.service.entry? z.zid).getD (Entry.new z.zid)).prepare z.metadata
      b.config.zettelSyntaxes) z d (b.run (b.update z) d).1.box (b.run (b.update z) d).2 := by
  unfold update at h ⊢
  dsimp only at h ⊢
  split at h
  next => cases h
  next heq =>
    refine (keeps_of_commit b rfl (fun error => ?_) rfl h).2
    exact nofun

/-- What is stored goes to the files of an entry that is ready for it. The entry names one file
twice only if the one before did, or had a metadata file named like the new content. -/
theorem Stores.exists_keeps (h : b.Stores z d zid b' d')
    (hb : ∀ cat ∈ b.service.catalog, Catalog.Stocked cat) (hm : z.metadata.WellFormed) :
    ∃ (e : Entry) (m : Meta), Keeps b e ⟨m, z.content⟩ d b' d' ∧ e.zid = zid ∧ e.Ready ∧
      m.zid = zid ∧ m.WellFormed ∧ m.StoredAlike z.metadata ∧
      (e.SharesName → ∃ old, b.service.entry? zid = some old ∧
        (old.SharesName ∨ old.contentName = "" ∧ old.metaName = e.contentName)) := by
  cases h with
  | create h =>
    have hnew : (Entry.new zid).Arisen zid := .reserved zid
    refine ⟨_, _, keeps_of_create h, (hnew.prepared _ _).zid, hnew.named.ready_prepare _ _, rfl, hm,
      fun _ _ => rfl, ?_⟩
    exact fun hshares => absurd hshares (Entry.not_sharesName_prepare_new _ _ zid)
  | update h =>
    -- An update prepares the entry there is, or a new one.
    have hold := Service.arisen_getD hb z.zid
    refine ⟨_, _, keeps_of_update h, (hold.prepared _ _).zid, hold.named.ready_prepare _ _, rfl, hm,
      fun _ _ => rfl, ?_⟩
    intro hshares
    cases hentry : b.service.entry? z.zid with
    | none =>
      rw [hentry] at hshares
      exact absurd hshares (Entry.not_sharesName_prepare_new _ _ z.zid)
    | some old =>
      rw [hentry] at hold hshares
      exact ⟨old, rfl, hold.named.sharesName_of_prepare _ _ hshares⟩

/-! ## 3. Getting -/

theorem get_eq (hentry : b.service.entry? zid = some e) (hlive : e.isLive = true)
    (hrunning : b.pool.isRunning = true) : b.get zid = .ask (.getZettel e) .done := by
  have hfound : b.service.liveEntry zid = .ok e := by
    unfold Service.liveEntry
    rw [hentry]
    dsimp only
    rw [if_pos hlive]
  have hfiles : b.requireFiles = .ok () := by
    unfold requireFiles
    rw [if_pos hrunning]
  unfold get
  rw [hfound, hfiles]
  rfl

/-- Without delay the workers read the entry's files from the disk as it is. -/
theorem run_get (hentry : b.service.entry? zid = some e) (hlive : e.isLive = true)
    (hrunning : b.pool.isRunning = true) (htime : 0 < b.pool.timeoutMs) (disk : Disk) :
    b.run (b.get zid) ⟨disk, 0⟩ =
      (((Files.readZettel b.pool.dir e).run (Files.FileRequest.serve b.pool.dir) disk).1,
        ⟨((Files.readZettel b.pool.dir e).run (Files.FileRequest.serve b.pool.dir) disk).2, 0⟩) := by
  have hprogram :
      (Files.Command.getZettel e).program b.pool.dir = Files.readZettel b.pool.dir e := rfl
  rw [get_eq hentry hlive hrunning]
  unfold run
  rw [Program.run_ask, Files.Pool.submit_of_no_delay hrunning htime disk, hprogram]
  rfl

theorem isLive_of_ready (h : e.Ready) : e.isLive = true := by
  unfold Entry.isLive
  rw [bne_iff_ne.mpr h.content.ne_empty, Bool.or_true]

/-- The workers were there and in time, and the disk hangs no longer. -/
theorem Keeps.submitted (h : Keeps b e z d b' d') (hready : e.Ready) :
    b.pool.isRunning = true ∧ 0 < b.pool.timeoutMs ∧
      ((Files.writeZettel b.pool.dir e z).run (Files.FileRequest.serve b.pool.dir) d.disk).1 =
        .ok () ∧
      d' = ⟨((Files.writeZettel b.pool.dir e z).run
        (Files.FileRequest.serve b.pool.dir) d.disk).2, 0⟩ := by
  have hasks : ((Files.Command.setZettel e z).program b.pool.dir).isDone = false :=
    Files.isDone_writeZettel hready.content.ne_empty
  rw [h.disk]
  exact Files.Pool.submit_ok hasks h.written

theorem Keeps.get {m : Meta} {content : Bytes} (h : Keeps b e ⟨m, content⟩ d b' d')
    (hready : e.Ready) (hzid : e.zid = (⟨m, content⟩ : Zettel).zid) (hm : m.WellFormed) :
    ∃ (m' : Meta) (left : Files.SlowDisk),
      b'.run (b'.get e.zid) d' = (.ok ⟨e.completeMeta m', content⟩, left) ∧
      m'.zid = e.zid ∧ (¬ e.SharesName → m'.StoredAlike m) ∧
      (e.SharesName → m' = (Header.parse e.zid content).1) := by
  rcases h.submitted hready with ⟨hrunning, htime, hwritten, hleft⟩
  rcases Files.readZettel_writeZettel hready hzid hm hwritten with ⟨disk, m', hrun, hread, hm'⟩
  refine ⟨m', ⟨disk, 0⟩, ?_, hm'⟩
  -- Reading finds the disk just as writing has left it, without delay.
  have hdisk : d' = ⟨disk, 0⟩ := by
    rw [hleft, hrun]
  rw [hdisk, run_get h.entry (isLive_of_ready hready) (h.pool ▸ hrunning) (h.pool ▸ htime), h.pool,
    hread]

/-- Getting a zettel that was just stored gives its content, and its pairs with the syntax that the
content file's extension stands for if they name none. Only where the entry names one file for
content and metadata is the metadata what the content's own header says; this comes about when
there was no content yet and the metadata file has the name that the content gets. -/
theorem get_of_stores (z₀ : Zid) (edits : List Meta.Edit) (yamlSep : Bool) (content : Bytes)
    (hb : ∀ cat ∈ b.service.catalog, Catalog.Stocked cat)
    (h : b.Stores ⟨Meta.made z₀ edits yamlSep, content⟩ d zid b' d') :
    ∃ (e : Entry) (z : Zettel) (left : Files.SlowDisk),
      b'.service.entry? zid = some e ∧ b'.run (b'.get zid) d' = (.ok z, left) ∧
      z.content = content ∧ z.zid = zid ∧
      (¬ e.SharesName → z.metadata.userPairs = ((Meta.made z₀ edits yamlSep).withSyntax
        (FileName.syntaxOfExt e.contentExt)).userPairs) ∧
      (e.SharesName → z.metadata = e.completeMeta (Header.parse zid content).1 ∧
        ∃ old, b.service.entry? zid = some old ∧
          (old.SharesName ∨ old.contentName = "" ∧ old.metaName = e.contentName)) := by
  rcases h.exists_keeps hb (Meta.wellFormed_made z₀ edits yamlSep) with
    ⟨e, m, hkeeps, hzid, hready, hmzid, hm, halike, hold⟩
  subst hzid
  rcases hkeeps.get hready hmzid.symm hm with ⟨m', left, hget, hzid', hapart, hshares⟩
  refine ⟨e, _, left, hkeeps.entry, hget, rfl, (e.zid_completeMeta m').trans hzid', ?_, ?_⟩
  · intro hne
    exact (e.storedAlike_completeMeta ((hapart hne).trans halike)).userPairs_eq
  · intro hone
    rw [hshares hone]
    exact ⟨rfl, hold hone⟩

/-- Content that was there without metadata gets a metadata file, and gives the syntax. -/
theorem get_of_update_of_content :
    let zid : Zid := ⟨20200310195100⟩
    let m := Meta.made zid [.set Key.title "New", .set Key.title " New  title "] false
    let content : Bytes := Text.Utf8.encodeText "---\nx: y\n"
    let disk : Disk :=
      ⟨((∅ : Std.ExtTreeMap String DiskItem).insert "box" .folder).insert
        "box/20200310195100.md" (.file content)⟩
    let b := ((new (.new (Text.Utf8.encodeText "box"))).start 0 disk).1.box
    let b' := (b.run (b.update ⟨m, content⟩) ⟨disk, 0⟩).1.box
    let d' := (b.run (b.update ⟨m, content⟩) ⟨disk, 0⟩).2
    (∀ cat ∈ b.service.catalog, Catalog.Stocked cat) ∧ b.Stores ⟨m, content⟩ ⟨disk, 0⟩ zid b' d' ∧
      ∃ z left, b'.run (b'.get zid) d' = (.ok z, left) ∧ z.content = content ∧ z.zid = zid ∧
        z.metadata.userPairs = [("syntax", "md"), ("title", "New title")] := by
  intro zid m content disk b b' d'
  have hreached : b.Reached := .start (.new _) 0 disk
  have hb := hreached.stocked.service.catalog
  have hstores : b.Stores ⟨m, content⟩ ⟨disk, 0⟩ zid b' d' := .update (by decide +kernel)
  rcases get_of_stores zid [.set Key.title "New", .set Key.title " New  title "] false content hb
    hstores with ⟨e, z, left, hentry, hget, hcontent, hzid, hpairs, -⟩
  have he : b'.service.entry? zid =
      some ⟨zid, "20200310195100", "20200310195100.md", "md", []⟩ := by decide +kernel
  cases hentry.symm.trans he
  have hapart : ¬ Entry.SharesName ⟨zid, "20200310195100", "20200310195100.md", "md", []⟩ :=
    fun hshares => absurd hshares.same (by decide)
  refine ⟨hb, hstores, z, left, hget, hcontent, hzid, ?_⟩
  rw [hpairs hapart]
  decide +kernel

/-- A zettel whose syntax is `meta` is stored with content and metadata in one file, if its
metadata was in a file with this extension before. The title is lost. -/
theorem title_lost_to_content :
    let zid : Zid := ⟨20200310195100⟩
    let m := Meta.made zid [.set Key.syntaxName "meta", .set Key.title "New"] false
    let content : Bytes := Text.Utf8.encodeText "hello"
    let disk : Disk :=
      ⟨((∅ : Std.ExtTreeMap String DiskItem).insert "box" .folder).insert
        "box/20200310195100.meta" (.file (Text.Utf8.encodeText "title: Old\n"))⟩
    let b := ((new (.new (Text.Utf8.encodeText "box"))).start 0 disk).1.box
    let b' := (b.run (b.update ⟨m, content⟩) ⟨disk, 0⟩).1.box
    let d' := (b.run (b.update ⟨m, content⟩) ⟨disk, 0⟩).2
    b.service.startState = .started ∧ (∀ cat ∈ b.service.catalog, Catalog.Stocked cat) ∧
      b.Stores ⟨m, content⟩ ⟨disk, 0⟩ zid b' d' ∧
      m.userPairs = [("syntax", "meta"), ("title", "New")] ∧
      (b'.run (b'.get zid) d').1.map (fun z => z.metadata.userPairs) =
        .ok [("syntax", "meta")] := by
  intro zid m content disk b b' d'
  have hreached : b.Reached := .start (.new _) 0 disk
  -- The new content is named `20200310195100.meta`, like the header that is written before it.
  exact ⟨by decide +kernel, hreached.stocked.service.catalog, .update (by decide +kernel),
    by decide +kernel, by decide +kernel⟩

end DirBox

end Kasten
