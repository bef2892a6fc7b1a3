import Kasten.Proofs.Box.Rescan
import Kasten.Proofs.Catalog.Tally
import Kasten.Proofs.Watch.Ascending
import Kasten.Session

/-!
# Boxes of the same files agree

A directory and an archive that hold the same files list the same names in the same order. So the
first scan gives both boxes the same catalog, whose entries name only files that are there. What
is read of them is then the same, although each box reads in its own way.
-/

namespace Kasten

open Disk (join)
open FileName (isZettelFile)

/-! ## 1. The same files -/

/-- What each of the names holds. -/
abbrev FileSet := Std.ExtTreeMap String Bytes

/-- The directory has these regular files in it and nothing else. -/
structure Disk.Holds (d : Disk) (dir : String) (files : FileSet) : Prop where
  isFolder : d.isFolder dir = true
  list : ∃ items, d.list dir = .ok items ∧
    ∀ n item, (n, item) ∈ items ↔ ∃ data, files[n]? = some data ∧ item = .file data
  read : ∀ n data, files[n]? = some data → d.read (join dir n) = .ok data

/-- The archive has these files as its members and no others. -/
structure Archive.Holds (a : Archive) (files : FileSet) : Prop where
  names : ∀ n, n ∈ a.members.map Member.name ↔ n ∈ files
  read : ∀ n data, files[n]? = some data → a.read n = .ok data

/-- The name stands for the same octets in the directory and in the archive. -/
def Archive.Shares (a : Archive) (d : Disk) (dir n : String) : Prop :=
  ∃ bytes, d.read (join dir n) = .ok bytes ∧ a.read n = .ok bytes

variable {d : Disk} {dir : String} {a : Archive} {files : FileSet}

theorem Archive.Holds.shares (ha : a.Holds files) (h : d.Holds dir files) {n : String}
    (hn : n ∈ files) : a.Shares d dir n := by
  have hdata := Std.ExtTreeMap.getElem?_eq_some_getElem hn
  exact ⟨files[n], h.read n _ hdata, ha.read n _ hdata⟩

/-- Both are listed alike. -/
theorem Archive.Holds.listZettel_eq (ha : a.Holds files) (h : d.Holds dir files) :
    d.listZettel dir = .ok a.zettelFiles := by
  rcases h.list with ⟨items, hlist, hitems⟩
  have hnames : d.listZettel dir = .ok (Disk.zettelFiles items) := by
    unfold Disk.listZettel
    rw [hlist]
  rw [hnames]
  refine congrArg Except.ok
    (eq_of_ascending (Disk.pairwise_listZettel hnames) a.pairwise_zettelFiles fun n => ?_)
  have hfile : (∃ data, (n, .file data) ∈ items) ↔ n ∈ files := by
    rw [Std.ExtTreeMap.mem_iff_isSome_getElem?, Option.isSome_iff_exists]
    simp [hitems]
  rw [Disk.mem_zettelFiles, hfile, a.mem_zettelFiles, ha.names]
  -- No name of something in a directory has a slash in it.
  have hslash : n ∈ files → '/' ∉ n.toList := by
    intro hn
    rcases hfile.mpr hn with ⟨data, hmem⟩
    exact Disk.slash_not_mem_list hlist _ hmem
  constructor
  · exact fun hn => ⟨hn.2, hslash hn.2, hn.1⟩
  · exact fun hn => ⟨hn.2.2, hn.1⟩

/-! ## 2. Reading an entry -/

theorem Entry.Arranges.contentName_ne_empty {e : Entry} {names : Finset String}
    (h : e.Arranges names) (hz : e.hasMetaInContent = true) : e.contentName ≠ "" := by
  intro hc
  rw [Entry.hasMetaInContent_iff, h.ext_eq, hc, FileName.ext_empty] at hz
  exact absurd hz (by decide)

namespace ZipBox

variable {e : Entry} {names : Finset String} (he : e.Arranges names)
  (hshared : ∀ n ∈ names, a.Shares d dir n)

include he hshared

theorem readMeta_agrees :
    ∃ m, readMeta a e = .ok m ∧
      (Files.readMeta dir e).run (Files.FileRequest.serve dir) d = (.ok m, d) := by
  unfold readMeta
  by_cases hm : e.metaName ≠ ""
  · rcases hshared _ (he.metaName_mem hm) with ⟨bytes, hread, hmember⟩
    rw [if_pos hm, hmember]
    exact ⟨_, rfl, Files.run_readMeta hm hread⟩
  · rw [if_neg hm]
    by_cases hz : e.hasMetaInContent = true
    · rcases hshared _ (he.contentName_mem (he.contentName_ne_empty hz)) with
        ⟨bytes, hread, hmember⟩
      have hserve : Files.FileRequest.serve dir (.read e.contentName) d = (.ok bytes, d) :=
        congrArg (·, d) hread
      rw [if_pos hz, hmember]
      refine ⟨_, rfl, ?_⟩
      unfold Files.readMeta
      rw [if_neg hm, if_pos hz, Program.run_ask, hserve]
      rfl
    · -- No file has metadata, so both fall back on what the names tell.
      rw [if_neg hz]
      refine ⟨_, rfl, ?_⟩
      unfold Files.readMeta
      rw [if_neg hm, if_neg hz]
      rfl

theorem readZettel_agrees :
    ∃ z, readZettel a e = .ok z ∧
      (Files.readZettel dir e).run (Files.FileRequest.serve dir) d = (.ok z, d) := by
  unfold readZettel
  by_cases hz : e.hasMetaInContent = true
  · rcases hshared _ (he.contentName_mem (he.contentName_ne_empty hz)) with ⟨bytes, hread, hmember⟩
    rw [if_pos hz, hmember]
    exact ⟨_, rfl, Files.run_readZettel_embedded hz hread⟩
  · rcases readMeta_agrees he hshared with ⟨m, hmeta, hrun⟩
    have happart : (Files.readZettel dir e).run (Files.FileRequest.serve dir) d =
        (Files.readContent dir e m).run (Files.FileRequest.serve dir) d := by
      unfold Files.readZettel
      rw [if_neg hz, Program.run_bind, hrun]
    rw [if_neg hz, hmeta, happart]
    by_cases hc : e.contentName = ""
    · refine ⟨⟨m, []⟩, ?_, ?_⟩
      · show (if e.contentName = "" then _ else _) = _
        rw [if_pos hc]
        rfl
      · unfold Files.readContent
        rw [if_pos hc]
        rfl
    · rcases hshared _ (he.contentName_mem hc) with ⟨bytes, hread, hmember⟩
      refine ⟨⟨m, bytes⟩, ?_, Files.run_readContent hc hread m⟩
      show (if e.contentName = "" then _ else _) = _
      rw [if_neg hc, hmember]
      rfl

end ZipBox

/-! ## 3. Boxes with the same catalog -/

namespace Service

variable {s s' : Service}

theorem liveEntry_cases (s : Service) (z : Zid) :
    (∃ e, s.entry? z = some e ∧ e.isLive = true ∧ s.liveEntry z = .ok e) ∨
      s.liveEntry z = .error (.notFound z) := by
  unfold liveEntry
  cases s.entry? z with
  | none => exact .inr rfl
  | some e =>
    dsimp only
    split
    next hlive => exact .inl ⟨e, rfl, hlive, rfl⟩
    next => exact .inr rfl

theorem entries_congr (h : s.catalog = s'.catalog) : s.entries = s'.entries := by
  unfold entries
  rw [h]

theorem liveEntry_congr (h : s.catalog = s'.catalog) : s.liveEntry = s'.liveEntry := by
  unfold liveEntry entry?
  rw [h]

end Service

/-- The boxes have the same catalog, and share the files that its entries arrange. -/
structure DirBox.Agrees (b : DirBox) (d : Disk) (zb : ZipBox) (a : Archive) : Prop where
  running : b.pool.isRunning = true
  catalog : b.service.catalog = zb.service.catalog
  shared : ∀ z e, b.service.entry? z = some e →
    ∃ names, e.Arranges names ∧ ∀ n ∈ names, a.Shares d b.pool.dir n

namespace DirBox.Agrees

variable {b : DirBox} {zb : ZipBox} {d d' : Disk} {a : Archive} {delay : Nat} {accept : Zid → Bool}

/-- The workers read one entry after another, and each time the disk hangs no longer than before. -/
theorem readMetas {p : Files.Pool} {entries : List Entry} (hrunning : p.isRunning = true)
    (htime : delay < p.timeoutMs)
    (hshared : ∀ e ∈ entries, ∃ names, e.Arranges names ∧ ∀ n ∈ names, a.Shares d p.dir n) :
    ∃ ms, ((DirBox.readMetas entries).run p.submit ⟨d, delay⟩).1 = (ms, none) ∧
      ZipBox.readMetas a entries = .ok ms := by
  induction entries generalizing delay with
  | nil => exact ⟨[], rfl, rfl⟩
  | cons e rest ih =>
    rcases hshared e List.mem_cons_self with ⟨names, he, hnames⟩
    rcases ZipBox.readMeta_agrees he hnames with ⟨m, hmeta, hrun⟩
    rcases Files.Pool.submit_in_time (d := ⟨d, delay⟩) hrunning htime (.getMeta e) with
      ⟨left, hleft, hsubmit⟩
    have hlater : left < p.timeoutMs := Nat.lt_of_le_of_lt hleft htime
    have hreply : p.submit (.getMeta e) ⟨d, delay⟩ = (.ok m, ⟨d, left⟩) := by
      rw [hsubmit]
      show (((Files.readMeta p.dir e).run _ d).1, Files.SlowDisk.mk _ left) = _
      rw [show (Files.Command.program p.dir (.getMeta e)) = Files.readMeta p.dir e from rfl, hrun]
    rcases ih hlater fun e he => hshared e (List.mem_cons_of_mem _ he) with ⟨ms, hrest, hms⟩
    refine ⟨m :: ms, ?_, ?_⟩
    · unfold DirBox.readMetas
      rw [Program.run_ask, hreply]
      dsimp only
      rw [Program.run_bind]
      show (m :: _, _) = _
      rw [hrest]
    · unfold ZipBox.readMetas
      rw [hmeta]
      dsimp only
      rw [hms]
      rfl

variable (h : b.Agrees d zb a)

include h

theorem has_eq (z : Zid) : b.service.has z = zb.service.has z := by
  unfold Service.has
  rw [Service.liveEntry_congr h.catalog]

theorem liveZids_eq (accept : Zid → Bool) :
    b.service.liveZids accept = zb.service.liveZids accept := by
  unfold Service.liveZids
  rw [Service.entries_congr h.catalog]

variable (hopen : Archive.ofDisk d' zb.path = .ok a) (htime : delay < b.pool.timeoutMs)

include hopen htime

/-- Both boxes give the same zettel, or none of them has one. -/
theorem get (z : Zid) :
    (∃ zettel, (b.run (b.get z) ⟨d, delay⟩).1 = .ok zettel ∧ zb.get d' z = .ok zettel) ∨
      (b.run (b.get z) ⟨d, delay⟩).1 = .error (.notFound z) ∧
        zb.get d' z = .error (.notFound z) := by
  have hzip : zb.get d' z = b.service.liveEntry z >>= ZipBox.readZettel a := by
    unfold ZipBox.get
    rw [hopen, ← Service.liveEntry_congr h.catalog]
    rfl
  rcases b.service.liveEntry_cases z with ⟨e, hentry, hlive, hfound⟩ | hmissing
  · rcases h.shared z e hentry with ⟨names, he, hnames⟩
    rcases ZipBox.readZettel_agrees he hnames with ⟨zettel, hmember, hrun⟩
    rcases Files.Pool.submit_in_time (d := ⟨d, delay⟩) h.running htime (.getZettel e) with
      ⟨left, hleft, hsubmit⟩
    refine .inl ⟨zettel, ?_, ?_⟩
    · rw [get_eq hentry hlive h.running]
      unfold run
      rw [Program.run_ask, hsubmit]
      show ((Files.readZettel b.pool.dir e).run _ d).1 = _
      rw [hrun]
    · rw [hzip, hfound]
      exact hmember
  · refine .inr ⟨?_, ?_⟩
    · unfold DirBox.get
      rw [hmissing]
      rfl
    · rw [hzip, hmissing]
      rfl

theorem metas (accept : Zid → Bool) :
    ∃ ms, (b.run (b.metas accept) ⟨d, delay⟩).1 = (ms, none) ∧ zb.metas d' accept = .ok ms := by
  have hshared : ∀ e ∈ (b.service.entries accept).filter Entry.isLive,
      ∃ names, e.Arranges names ∧ ∀ n ∈ names, a.Shares d b.pool.dir n := by
    intro e he
    rcases Service.mem_entries.mp (List.mem_of_mem_filter he) with ⟨z, -, hentry⟩
    exact h.shared z e hentry
  have hfiles : b.requireFiles = .ok () := by
    unfold requireFiles
    rw [if_pos h.running]
  rcases readMetas h.running htime hshared with ⟨ms, hdir, hzip⟩
  refine ⟨ms, ?_, ?_⟩
  · unfold DirBox.metas
    rw [hfiles]
    exact hdir
  · unfold ZipBox.metas
    rw [← Service.entries_congr h.catalog]
    -- Without entries the archive is not opened, and there is nothing to read either.
    split
    next hnone =>
      rw [hnone] at hzip
      exact hzip
    next =>
      rw [hopen]
      exact hzip

end DirBox.Agrees

/-! ## 4. After the first scan -/

namespace ZipBox

/-- A box that is started on an archive takes in what it lists. -/
theorem start_of_open (config : ZipBoxConfig) {d : Disk} {a : Archive}
    (hopen : Archive.ofDisk d (new config).path = .ok a) :
    ∃ zb changes, (new config).start d = .ok (zb, changes) ∧ zb.path = (new config).path ∧
      zb.service.catalog = some (Catalog.addFiles ∅ a.zettelFiles) := by
  have hfile : d.isFile (new config).path = true := by
    unfold Archive.ofDisk Disk.read at hopen
    unfold Disk.isFile Disk.item?
    cases hplain : d.resolve (new config).path with
    | error fault =>
      rw [hplain] at hopen
      cases fault <;> cases hopen
    | ok plain =>
      rw [hplain] at hopen
      dsimp only at hopen ⊢
      cases hitem : d.lookup plain with
      | none =>
        rw [hitem] at hopen
        cases hopen
      | some item =>
        rw [hitem] at hopen
        cases item with
        | folder => cases hopen
        | file data => rfl
  have hevents : (Watch.Notifier.startArchive (new config).path d).2 = Event.scan a.zettelFiles := by
    unfold Watch.Notifier.startArchive Archive.listZettel
    rw [hopen]
    rfl
  have hempty : "" ∉ a.zettelFiles := by
    intro hmem
    exact absurd (a.mem_zettelFiles.mp hmem).2.2 (by decide)
  unfold start
  rw [hfile, Bool.not_true, if_neg Bool.false_ne_true]
  refine ⟨_, _, rfl, rfl, ?_⟩
  show Service.catalog (Service.handleAll ⟨config.location, .starting, none, none, true, true⟩
    (Watch.Notifier.startArchive (new config).path d).2).1 = _
  rw [hevents]
  exact Service.catalog_scan nofun hempty

end ZipBox

/-- A directory and an archive of the same files give both boxes the same catalog. -/
theorem DirBox.agrees_after_start (config : DirBoxConfig) (zconfig : ZipBoxConfig)
    {d d' : Disk} {a : Archive} {files : FileSet} (hdir : d.Holds (DirBox.new config).path files)
    (hopen : Archive.ofDisk d' (ZipBox.new zconfig).path = .ok a) (ha : a.Holds files) (now : Nat) :
    ∃ zb changes, (ZipBox.new zconfig).start d' = .ok (zb, changes) ∧
      Archive.ofDisk d' zb.path = .ok a ∧
      ((DirBox.new config).start now d).1.box.Agrees d zb a := by
  have hlist := ha.listZettel_eq hdir
  rcases ZipBox.start_of_open zconfig hopen with ⟨zb, changes, hstart, hpath, hzip⟩
  rcases DirBox.catalog_start config hdir.isFolder hlist now with ⟨hcatalog, hpool⟩
  refine ⟨zb, changes, hstart, hpath ▸ hopen, ?_, hcatalog.trans hzip.symm, ?_⟩
  · rw [hpool]
  · intro z e hentry
    rw [Service.entry_eq hcatalog] at hentry
    -- An entry arranges names that were listed, so these are files of both.
    have harranged := (Catalog.mirrors_empty.addFiles a.zettelFiles).arranges_of_some hentry
    refine ⟨_, harranged.2.2.2, fun n hn => ?_⟩
    have hlisted := (Catalog.mem_namesOf.mp hn).1
    rw [Finset.empty_union, List.mem_toFinset] at hlisted
    have hdirectory : (DirBox.new config).pool.dir = (DirBox.new config).path := rfl
    rw [hpool]
    show a.Shares d (DirBox.new config).pool.dir n
    rw [hdirectory]
    exact ha.shares hdir ((ha.names n).mp (a.mem_zettelFiles.mp hlisted).1)

namespace Session

variable {s s' : Session}

/-- What metadata is enriched with comes from the index alone. -/
theorem enrichAll_congr (h : s.indexer.store = s'.indexer.store) (ms : List Meta) :
    (s.enrichAll ms).1 = (s'.enrichAll ms).1 := by
  induction ms generalizing s s' with
  | nil => rfl
  | cons m rest ih =>
    have hfirst : (s.enrich m).1 = (s'.enrich m).1 := by
      unfold enrich
      rw [h]
    have hstore : (s.enrich m).2.indexer.store = (s'.enrich m).2.indexer.store := by
      unfold enrich
      rw [h]
    show (s.enrich m).1 :: ((s.enrich m).2.enrichAll rest).1 =
      (s'.enrich m).1 :: ((s'.enrich m).2.enrichAll rest).1
    rw [hfirst, ih hstore]

theorem metas_fst (s : Session) (accept : Zid → Bool) :
    (s.metas accept).1 =
      if s.enriches = true then
        ((s.enrichAll (s.box.metas accept s.disk).1.1).1, (s.box.metas accept s.disk).1.2)
      else (s.box.metas accept s.disk).1 := by
  have hrest : ∀ disk ms, ({ s with disk }.enrichAll ms).1 = (s.enrichAll ms).1 :=
    fun disk ms => @enrichAll_congr { s with disk } s rfl ms
  unfold metas
  dsimp only
  split
  next => rw [hrest]
  next => rfl

/-- A session passes on the same metadata with either of two boxes that read the same. -/
theorem metas_congr {box box' : Box} {disk disk' : Files.SlowDisk} {accept : Zid → Bool}
    (s : Session) (h : (box.metas accept disk).1 = (box'.metas accept disk').1) :
    ({ s with box, disk }.metas accept).1 =
      ({ s with box := box', disk := disk' }.metas accept).1 := by
  rw [metas_fst, metas_fst]
  show (if s.enriches = true then ((enrichAll _ (box.metas accept disk).1.1).1, _) else _) =
    if s.enriches = true then ((enrichAll _ (box'.metas accept disk').1.1).1, _) else _
  rw [h]
  rw [@enrichAll_congr { s with box, disk } { s with box := box', disk := disk' } rfl]

end Session

/-- Over the same files the box of an archive and the box of a directory answer the same, once both
are started and as long as the workers are in time: the same zettel under each identifier, the
same identifiers, and the same metadata in the same order, enriched or not. -/
theorem Box.archive_agrees_with_directory (config : DirBoxConfig) (zconfig : ZipBoxConfig)
    (files : FileSet) (d d' : Files.SlowDisk) (a : Archive) (now : Nat)
    (hdir : d.disk.Holds (DirBox.new config).path files)
    (hopen : Archive.ofDisk d'.disk (ZipBox.new zconfig).path = .ok a) (ha : a.Holds files)
    (htime : d.delay < config.serviceTimeoutMs) :
    let dir := ((directory (.new config)).start now d).box
    let zip := ((archive (.new zconfig)).start now d').box
    (∀ z, ((∃ zettel, (dir.get z d).answer = .ok zettel ∧ (zip.get z d').answer = .ok zettel) ∨
        (dir.get z d).answer = .error (.notFound z) ∧
          (zip.get z d').answer = .error (.notFound z)) ∧
      dir.has z = zip.has z) ∧
    ∀ accept, (∃ zids, (dir.list accept).1 = .ok zids ∧ (zip.list accept).1 = .ok zids) ∧
      (∃ ms, (dir.metas accept d).1 = (ms, none) ∧ (zip.metas accept d').1 = (ms, none)) ∧
      ∀ s : Session, ({ s with box := dir, disk := d }.metas accept).1 =
        ({ s with box := zip, disk := d' }.metas accept).1 := by
  rcases DirBox.agrees_after_start config zconfig hdir hopen ha now with
    ⟨zb, changes, hstart, hmember, hagrees⟩
  have hpool := (DirBox.catalog_start config hdir.isFolder (ha.listZettel_eq hdir) now).2
  have hintime : d.delay < ((DirBox.new config).start now d.disk).1.box.pool.timeoutMs := by
    rw [hpool]
    exact htime
  have hstarted : ((archive (.new zconfig)).start now d').box = archive zb := by
    unfold Box.start
    dsimp only
    rw [hstart]
  intro dir zip
  have hzip : zip = archive zb := hstarted
  have hmetas : ∀ accept, ∃ ms, (dir.metas accept d).1 = (ms, none) ∧
      (zip.metas accept d').1 = (ms, none) := by
    intro accept
    rcases hagrees.metas hmember hintime accept with ⟨ms, hdirectory, harchive⟩
    refine ⟨ms, hdirectory, ?_⟩
    unfold Box.metas
    rw [hzip]
    dsimp only
    rw [harchive]
  rw [hzip] at hmetas ⊢
  refine ⟨fun z => ⟨hagrees.get hmember hintime z, hagrees.has_eq z⟩,
    fun accept => ⟨?_, hmetas accept, fun s => ?_⟩⟩
  · exact ⟨_, rfl, congrArg Except.ok (hagrees.liveZids_eq accept).symm⟩
  · rcases hmetas accept with ⟨ms, hdirectory, harchive⟩
    exact s.metas_congr (hdirectory.trans harchive.symm)

/-- The archive stands beside the directory and has the one file of it as its member. -/
theorem Box.archive_agrees_with_directory_of_one_zettel :
    let name := "20200310195100.zettel"
    let data : Bytes := Text.Utf8.encodeText "title: New\n\nhello"
    let files : FileSet := (∅ : FileSet).insert name data
    let common : Bytes :=
      [0, 0, 0, 0, 0, 0, 0, 0, 174, 68, 244, 190, 17, 0, 0, 0, 17, 0, 0, 0, 21, 0, 0, 0]
    let content : Bytes :=
      Archive.localMark ++ [20, 0] ++ common ++ Text.Utf8.encodeText name ++ data
    let members : Bytes :=
      Archive.memberMark ++ [20, 0, 20, 0] ++ common ++ List.replicate 14 0 ++
        Text.Utf8.encodeText name
    let bytes : Bytes :=
      content ++ members ++ Archive.endMark ++
        [0, 0, 0, 0, 1, 0, 1, 0, 67, 0, 0, 0, 68, 0, 0, 0, 0, 0]
    let a : Archive := ⟨"box.zip", bytes, [⟨name, false, 0, 3203679406, 17, 0⟩]⟩
    let disk : Disk :=
      ⟨(((∅ : Std.ExtTreeMap String DiskItem).insert "box" .folder).insert
        "box/20200310195100.zettel" (.file data)).insert "box.zip" (.file bytes)⟩
    let config : DirBoxConfig := .new (Text.Utf8.encodeText "box")
    let zconfig : ZipBoxConfig := ⟨Text.Utf8.encodeText "box.zip"⟩
    let dir := ((directory (.new config)).start 0 ⟨disk, 0⟩).box
    let zip := ((archive (.new zconfig)).start 0 ⟨disk, 0⟩).box
    disk.Holds (DirBox.new config).path files ∧
      Archive.ofDisk disk (ZipBox.new zconfig).path = .ok a ∧ a.Holds files ∧
      0 < config.serviceTimeoutMs ∧
      ∃ zettel, (dir.get ⟨20200310195100⟩ ⟨disk, 0⟩).answer = .ok zettel ∧
        (zip.get ⟨20200310195100⟩ ⟨disk, 0⟩).answer = .ok zettel := by
  intro name data files common content members bytes a disk config zconfig dir zip
  have hfiles : ∀ n x, files[n]? = some x ↔ n = name ∧ x = data := by
    intro n x
    show ((∅ : FileSet).insert name data)[n]? = some x ↔ _
    rw [getElem?_insert_eq, Std.ExtTreeMap.getElem?_empty]
    split
    next hn => simp [hn, eq_comm]
    next hn => simp [hn]
  have hdir : disk.Holds (DirBox.new config).path files := by
    have hlist : disk.list (DirBox.new config).path = .ok [(name, .file data)] := by decide +kernel
    have hread : disk.read (join (DirBox.new config).path name) = .ok data := by decide +kernel
    refine ⟨by decide +kernel, ⟨_, hlist, fun n item => ?_⟩, fun n x hx => ?_⟩
    · simp [hfiles]
    · rw [((hfiles n x).mp hx).1, ((hfiles n x).mp hx).2]
      exact hread
  have hopen : Archive.ofDisk disk (ZipBox.new zconfig).path = .ok a := by decide +kernel
  have ha : a.Holds files := by
    have hread : a.read name = .ok data := by decide +kernel
    refine ⟨fun n => ?_, fun n x hx => ?_⟩
    · rw [Std.ExtTreeMap.mem_iff_isSome_getElem?, Option.isSome_iff_exists]
      simp [hfiles, a]
    · rw [((hfiles n x).mp hx).1, ((hfiles n x).mp hx).2]
      exact hread
  have htime : 0 < config.serviceTimeoutMs := by decide
  have hfound :
      (dir.get ⟨20200310195100⟩ ⟨disk, 0⟩).answer ≠ .error (.notFound ⟨20200310195100⟩) := by
    decide +kernel
  refine ⟨hdir, hopen, ha, htime, ?_⟩
  have hagree := (archive_agrees_with_directory config zconfig files ⟨disk, 0⟩ ⟨disk, 0⟩ a 0 hdir
    hopen ha htime).1 ⟨20200310195100⟩
  exact hagree.1.resolve_right fun hnone => hfound hnone.1

end Kasten
