import Kasten.Proofs.Box.Directory
import Kasten.Proofs.Box.Settings
import Kasten.Proofs.Catalog.Rescan
import Kasten.Proofs.Files.Listing

/-!
# New zettel after the directory is scanned again

The files of a new zettel are listed along with those that were there, and are sorted into the entry
that they were written for. So the zettel is read as before, by the same box and by one that is
started later, unless the extension of its content has another meaning.
-/

namespace Kasten

open Entry (layout)
open FileName (IsExtension isZettelFile zettelExt metaExt)

/-! ## 1. The catalog -/

/-- Of the zettel, just the files of its entry are listed. -/
structure Entry.IsListed (e : Entry) (names : List String) : Prop where
  named : "" ∉ names
  mem_iff : ∀ n, n ∈ e.files ↔ n ∈ names ∧ Zid.ofFileName n = e.zid

variable {zid : Zid} {ext : String} {names : List String}

/-- The files of a layout are sorted into it again. -/
theorem Catalog.getElem_addFiles_layout (hz : zid.isValid = true) (hext : IsExtension ext)
    (hmeta : ext ≠ metaExt) (hlisted : (layout zid ext).IsListed names) :
    (Catalog.addFiles ∅ names)[zid]? = some (layout zid ext) := by
  have hne : (layout zid ext).files ≠ [] :=
    List.ne_nil_of_mem (Entry.mem_files_layout.mpr (.inl rfl))
  rcases Catalog.exists_addFiles hz hne hlisted.mem_iff with ⟨e, hentry, halike⟩
  rw [Entry.addAll_layout hz hext hmeta fun n => Iff.rfl] at halike
  rw [hentry, halike.eq rfl]

/-- A service takes in the scan, or does not change at all. -/
theorem Service.send_scan {s : Service} (hnames : "" ∉ names) :
    (s.send (Event.scan names)).1.catalog = some (Catalog.addFiles ∅ names) ∨
      (s.send (Event.scan names)).1 = s := by
  unfold Service.send
  split
  next =>
    by_cases hrunning : s.phase = .stopping
    · exact .inr (handleAll_of_stopping hrunning _)
    · exact .inl (catalog_scan hrunning hnames)
  next => exact .inr rfl

/-! ## 2. Boxes -/

namespace DirBox

variable {b b' : DirBox} {d d' : Files.SlowDisk} {disk : Disk} {e : Entry}

theorem empty_not_mem_listZettel {path : String} (h : disk.listZettel path = .ok names) :
    "" ∉ names :=
  fun hempty => absurd (Disk.isZettelFile_of_mem_listZettel h hempty) (by decide)

theorem catalog_refresh (hb : b.Settled) (hlist : disk.listZettel b.path = .ok names) (now : Nat) :
    (b.toFeed.refresh now disk).1.service.catalog = some (Catalog.addFiles ∅ names) ∨
      (b.toFeed.refresh now disk).1.service = b.service := by
  unfold Box.Feed.refresh
  dsimp only
  split
  next => exact .inr rfl
  next n hn =>
    have hscan := Watch.Notifier.refresh_snd (hb.notifier n hn) hlist now
    have hsend := Service.send_scan (s := b.service) (empty_not_mem_listZettel hlist)
    rw [← hscan] at hsend
    exact hsend

theorem exists_startNotifier (hfolder : disk.isFolder b.path = true)
    (hlist : disk.listZettel b.path = .ok names) (now : Nat) :
    ∃ told, b.startNotifier now disk = .ok told ∧ told.2 = Event.scan names := by
  unfold startNotifier
  cases b.config.notifier with
  | watching => exact Watch.Notifier.exists_startWatching hlist hfolder
  | polling => exact ⟨_, rfl, Watch.Notifier.startPolling_snd hlist _ now⟩

/-- A box that is started on a directory takes in what it lists. -/
theorem catalog_start (config : DirBoxConfig) (hfolder : disk.isFolder (new config).path = true)
    (hlist : disk.listZettel (new config).path = .ok names) (now : Nat) :
    ((new config).start now disk).1.box.service.catalog = some (Catalog.addFiles ∅ names) ∧
      ((new config).start now disk).1.box.pool = { (new config).pool with isRunning := true } := by
  have hensure : (new config).ensureFolder disk = .ok disk := by
    unfold ensureFolder
    rw [if_pos hfolder]
  rcases exists_startNotifier hfolder hlist now with ⟨told, htold, hscan⟩
  unfold start
  rw [hensure]
  dsimp only
  rw [htold]
  refine ⟨?_, rfl⟩
  show Service.catalog (Service.handleAll ⟨config.location, .starting, none, none, true, true⟩
    told.2).1 = _
  rw [hscan]
  exact Service.catalog_scan nofun (empty_not_mem_listZettel hlist)

/-- After a new zettel was written, its files are listed, and no others of it. -/
theorem Keeps.isListed {z : Zettel} (h : Keeps b (layout zid ext) z d b' d')
    (hready : (layout zid ext).Ready) (hdir : b.pool.dir = b.path) (hz : zid.isValid = true)
    (hseen : ∀ n ∈ (layout zid ext).files, isZettelFile n = true)
    (hfree : ∀ names, d.disk.listZettel b.path = .ok names → ∀ n ∈ names, Zid.ofFileName n ≠ zid) :
    ∃ names, d'.disk.isFolder b.path = true ∧ d'.disk.listZettel b.path = .ok names ∧
      (layout zid ext).IsListed names := by
  rcases h.submitted hready with ⟨-, -, hwritten, hleft⟩
  -- The workers write to the directory that the notifier lists.
  rcases Files.listZettel_writeZettel hready.targets_ne_nil (fun n => hready.isName_of_mem_targets)
    hwritten with ⟨names, names', hlist, hfolder, hlist', hmem⟩
  rw [hdir] at hlist hfolder hlist'
  rw [hleft, hdir]
  refine ⟨names', hfolder, hlist', ?_, ?_⟩
  · exact empty_not_mem_listZettel hlist'
  · intro n
    rw [hmem, hready.mem_targets, ← Entry.mem_files_layout_iff]
    constructor
    · exact fun hn => ⟨.inr ⟨hseen n hn, hn⟩, Entry.ofFileName_of_mem_files_layout hz hn⟩
    · rintro ⟨hold | hnew, hzid⟩
      · exact absurd hzid (hfree names hlist n hold)
      · exact hnew.2

/-- The box that wrote the zettel, the same after a refresh, and one that is started later. -/
def rescans (b b' : DirBox) (later : Nat) (disk : Disk) : List DirBox :=
  [b', { b' with toFeed := (b'.toFeed.refresh later disk).1 },
    ((new b.config).start later disk).1.box]

/-- Each of the boxes has the catalog of what the directory lists, or that of the box before if its
service takes in nothing any more. -/
theorem scanned_of_rescan (hb : b.Settled) (hsame : b.SameBut b')
    (hrunning : b.pool.isRunning = true) (hfolder : disk.isFolder b.path = true)
    (hlist : disk.listZettel b.path = .ok names) (later : Nat) :
    ∀ box ∈ rescans b b' later disk,
      (box.service.catalog = some (Catalog.addFiles ∅ names) ∨ box.service = b'.service) ∧
        box.pool = b'.pool := by
  rcases hsame with ⟨s, rfl⟩
  intro box hbox
  rcases List.mem_cons.mp hbox with rfl | hbox
  · exact ⟨.inr rfl, rfl⟩
  · rcases List.mem_cons.mp hbox with rfl | hbox
    · exact ⟨catalog_refresh (hb.sameBut ⟨s, rfl⟩) hlist later, rfl⟩
    · rw [List.mem_singleton.mp hbox]
      rcases catalog_start b.config hfolder hlist later with ⟨hcatalog, hpool⟩
      refine ⟨.inl hcatalog, hpool.trans ?_⟩
      -- Workers that are started anew are like those that run already.
      show _ = b.pool
      rw [hb.pool, hrunning]

theorem Keeps.entry_of_rescan {z : Zettel} (h : Keeps b (layout zid ext) z d b' d')
    (hready : (layout zid ext).Ready) (hb : b.Settled) (hsame : b.SameBut b')
    (hz : zid.isValid = true) (hext : IsExtension ext) (hmeta : ext ≠ metaExt)
    (hseen : ∀ n ∈ (layout zid ext).files, isZettelFile n = true)
    (hfree : ∀ names, d.disk.listZettel b.path = .ok names → ∀ n ∈ names, Zid.ofFileName n ≠ zid)
    (later : Nat) :
    ∀ box ∈ rescans b b' later d'.disk,
      box.service.entry? zid = some (layout zid ext) ∧ box.pool = b'.pool := by
  rcases h.isListed hready hb.dir_eq hz hseen hfree with ⟨names, hfolder, hlist, hlisted⟩
  intro box hbox
  rcases scanned_of_rescan hb hsame (h.submitted hready).1 hfolder hlist later box hbox with
    ⟨hcatalog | hservice, hpool⟩
  · rw [Service.entry_eq hcatalog]
    exact ⟨Catalog.getElem_addFiles_layout hz hext hmeta hlisted, hpool⟩
  · rw [hservice]
    exact ⟨h.entry, hpool⟩

/-- Boxes with the same entry and the same workers read the same. -/
theorem run_get_congr {box : DirBox} (hentry : box.service.entry? zid = some e)
    (hentry' : b.service.entry? zid = some e) (hlive : e.isLive = true) (hpool : box.pool = b.pool)
    (hrunning : b.pool.isRunning = true) : box.run (box.get zid) d = b.run (b.get zid) d := by
  rw [get_eq hentry hlive (hpool ▸ hrunning), get_eq hentry' hlive hrunning]
  unfold run
  rw [hpool]

theorem exists_read_after_rescan {m : Meta} {content : Bytes} {now : Time} (hb : b.Reached)
    (hm : m.WellFormed) (hz : zid.isValid = true) (hext : IsExtension ext) (hmeta : ext ≠ metaExt)
    (hseen : ∀ n ∈ (layout zid ext).files, isZettelFile n = true)
    (hlayout : (Entry.new zid).prepare m b.config.zettelSyntaxes = layout zid ext)
    (hcreate : (b.run (b.create now ⟨m, content⟩) d).1.answer = .ok zid)
    (hfree : ∀ names, d.disk.listZettel b.path = .ok names → ∀ n ∈ names, Zid.ofFileName n ≠ zid)
    (later : Nat) :
    let b' := (b.run (b.create now ⟨m, content⟩) d).1.box
    let d' := (b.run (b.create now ⟨m, content⟩) d).2
    ∃ (z : Zettel) (left : Files.SlowDisk), z.content = content ∧ z.zid = zid ∧
      z.metadata.userPairs = (m.withSyntax (FileName.syntaxOfExt ext)).userPairs ∧
      ∀ box ∈ rescans b b' later d'.disk,
        box.service.entry? zid = some (layout zid ext) ∧
          box.run (box.get zid) d' = (.ok z, left) := by
  intro b' d'
  have hkeeps : Keeps b ((Entry.new zid).prepare m b.config.zettelSyntaxes)
      ⟨{ m with zid }, content⟩ d b' d' := keeps_of_create hcreate
  -- Read once in the box that stored it; the other boxes read the same.
  have hready := (Entry.Named.new zid).ready_prepare m b.config.zettelSyntaxes
  have hapart := Entry.not_sharesName_prepare_new m b.config.zettelSyntaxes zid
  rw [hlayout] at hkeeps hready hapart
  have hsame : b.SameBut b' := (sameBut_create b now ⟨m, content⟩).run b.pool.submit d
  have hrunning : b'.pool.isRunning = true := hkeeps.pool ▸ (hkeeps.submitted hready).1
  rcases hkeeps.get hready rfl hm with ⟨m', left, hget, hzid, halike, -⟩
  have hstored : m'.StoredAlike m := (halike hapart).trans fun _ _ => rfl
  have hpairs := (Entry.storedAlike_completeMeta (layout zid ext) hstored).userPairs_eq
  refine ⟨⟨(layout zid ext).completeMeta m', content⟩, left, rfl, ?_, hpairs, ?_⟩
  · exact (Entry.zid_completeMeta _ m').trans hzid
  · intro box hbox
    have hbox' :=
      hkeeps.entry_of_rescan hready hb.settled hsame hz hext hmeta hseen hfree later box hbox
    have hread :=
      run_get_congr (d := d') hbox'.1 hkeeps.entry (isLive_of_ready hready) hbox'.2 hrunning
    exact ⟨hbox'.1, hread.trans hget⟩

/-- The layout that is chosen for a new zettel outlasts another scan, but for three extensions.
With `swp` and `swx` the content is taken for a leftover of an editor and is not listed, with `meta`
it is taken for a metadata file. With any other, the box that stored the zettel and one that is
started on the same directory have the entry again, and read what was read before. -/
theorem layout_after_rescan (zid z₀ : Zid) (edits : List Meta.Edit) (yamlSep : Bool)
    (zettelSyntaxes : List String) (hz : zid.isValid = true) :
    let m := Meta.made z₀ edits yamlSep
    let e := (Entry.new zid).prepare m zettelSyntaxes
    ((∀ n ∈ e.files, isZettelFile n = true) ↔ e.contentExt ≠ "swp" ∧ e.contentExt ≠ "swx") ∧
    ((∀ files : List String, files.Perm e.files → (Entry.new zid).addAll files = e) ↔
      e.contentExt ≠ metaExt) ∧
    (e.contentExt ∉ [metaExt, "swp", "swx"] →
      ∀ (b : DirBox) (now : Time) (content : Bytes) (d : Files.SlowDisk) (later : Nat),
        b.Reached → b.config.zettelSyntaxes = zettelSyntaxes →
        (b.run (b.create now ⟨m, content⟩) d).1.answer = .ok zid →
        (∀ names, d.disk.listZettel b.path = .ok names → ∀ n ∈ names, Zid.ofFileName n ≠ zid) →
        let b' := (b.run (b.create now ⟨m, content⟩) d).1.box
        let d' := (b.run (b.create now ⟨m, content⟩) d).2
        let refreshed : DirBox := { b' with toFeed := (b'.toFeed.refresh later d'.disk).1 }
        let restarted : DirBox := ((new b.config).start later d'.disk).1.box
        ∃ (z : Zettel) (left : Files.SlowDisk), z.content = content ∧ z.zid = zid ∧
          z.metadata.userPairs = (m.withSyntax (FileName.syntaxOfExt e.contentExt)).userPairs ∧
          ∀ box ∈ [b', refreshed, restarted],
            box.service.entry? zid = some e ∧ box.run (box.get zid) d' = (.ok z, left)) := by
  intro m e
  rcases Entry.exists_layout zid m zettelSyntaxes with ⟨ext, hext, hlayout⟩
  have he : e = layout zid ext := hlayout
  have hcontent : (layout zid ext).contentExt = ext := rfl
  have hseen := Entry.isZettelFile_files_layout hz hext
  rw [he, hcontent]
  refine ⟨hseen, Entry.addAll_layout_iff hz hext, ?_⟩
  intro hother b now content d later hb hconfig hcreate hfree
  rw [List.mem_cons, List.mem_cons, List.mem_singleton, not_or, not_or] at hother
  rw [← hconfig] at hlayout
  exact exists_read_after_rescan hb (Meta.wellFormed_made z₀ edits yamlSep) hz hext hother.1
    (hseen.mpr hother.2) hlayout hcreate hfree later

/-- The syntax may be written in capital letters, and there may be other zettel before. -/
theorem layout_after_rescan_of_markdown :
    let zid : Zid := ⟨20200310195100⟩
    let now : Time := ⟨2020, 3, 10, 19, 51, 0⟩
    let edits : List Meta.Edit := [.set Key.syntaxName "MD", .set Key.title "New"]
    let e : Entry := ⟨zid, "20200310195100", "20200310195100.md", "md", []⟩
    let content : Bytes := Text.Utf8.encodeText "hello"
    let disk : Disk :=
      ⟨((∅ : Std.ExtTreeMap String DiskItem).insert "box" .folder).insert
        "box/20190101000000.md" (.file [])⟩
    let b := ((new (.new (Text.Utf8.encodeText "box"))).start 0 disk).1.box
    let b' := (b.run (b.create now ⟨Meta.made zid edits false, content⟩) ⟨disk, 0⟩).1.box
    let d' := (b.run (b.create now ⟨Meta.made zid edits false, content⟩) ⟨disk, 0⟩).2
    let refreshed : DirBox := { b' with toFeed := (b'.toFeed.refresh 0 d'.disk).1 }
    zid.isValid = true ∧ (Entry.new zid).prepare (Meta.made zid edits false) [] = e ∧
      (∀ n ∈ e.files, isZettelFile n = true) ∧
      (Entry.new zid).addAll ["20200310195100", "20200310195100.md"] = e ∧
      b.Reached ∧
      (b.run (b.create now ⟨Meta.made zid edits false, content⟩) ⟨disk, 0⟩).1.answer = .ok zid ∧
      ∃ z left, refreshed.service.entry? zid = some e ∧
        refreshed.run (refreshed.get zid) d' = (.ok z, left) ∧ z.content = content ∧
        z.metadata.userPairs = [("syntax", "MD"), ("title", "New")] := by
  intro zid now edits e content disk b b' d' refreshed
  have hz : zid.isValid = true := by decide
  have he : (Entry.new zid).prepare (Meta.made zid edits false) [] = e := by decide +kernel
  have hb : b.Reached := .start (.new _) 0 disk
  have hcreate :
      (b.run (b.create now ⟨Meta.made zid edits false, content⟩) ⟨disk, 0⟩).1.answer = .ok zid := by
    decide +kernel
  have hlist : disk.listZettel b.path = .ok ["20190101000000.md"] := by decide +kernel
  have hfree :
      ∀ names, disk.listZettel b.path = .ok names → ∀ n ∈ names, Zid.ofFileName n ≠ zid := by
    intro names hnames
    cases hlist.symm.trans hnames
    decide +kernel
  have hafter := layout_after_rescan zid zid edits false [] hz
  dsimp only at hafter
  rw [he] at hafter
  rcases hafter with ⟨hseen, hsorted, hread⟩
  have hfiles : e.files = ["20200310195100.md", "20200310195100"] := by decide +kernel
  have hswapped : ["20200310195100", "20200310195100.md"].Perm e.files := by
    rw [hfiles]
    exact .swap _ _ []
  rcases hread (by decide) b now content ⟨disk, 0⟩ 0 hb (by decide +kernel) hcreate hfree with
    ⟨z, left, hcontent, -, hpairs, hboxes⟩
  have hrefreshed := hboxes refreshed (List.mem_cons_of_mem _ List.mem_cons_self)
  refine ⟨hz, he, hseen.mpr (by decide), hsorted.mpr (by decide) _ hswapped, hb, hcreate, z, left,
    hrefreshed.1, hrefreshed.2, hcontent, ?_⟩
  rw [hpairs]
  decide +kernel

/-- Content of the syntax `meta` is taken for a second metadata file, and content of the syntax
`swp` for a leftover, so neither is content any more after the next scan. -/
theorem content_lost_after_rescan :
    let zid : Zid := ⟨20200310195100⟩
    let now : Time := ⟨2020, 3, 10, 19, 51, 0⟩
    let m := Meta.made zid [.set Key.syntaxName "meta", .set Key.title "New"] false
    let swap := Meta.made zid [.set Key.syntaxName "swp"] false
    let e : Entry := ⟨zid, "20200310195100", "20200310195100.meta", "meta", []⟩
    let content : Bytes := Text.Utf8.encodeText "hello"
    let disk : Disk := ⟨(∅ : Std.ExtTreeMap String DiskItem).insert "box" .folder⟩
    let b := ((new (.new (Text.Utf8.encodeText "box"))).start 0 disk).1.box
    let b' := (b.run (b.create now ⟨m, content⟩) ⟨disk, 0⟩).1.box
    let d' := (b.run (b.create now ⟨m, content⟩) ⟨disk, 0⟩).2
    let refreshed : DirBox := { b' with toFeed := (b'.toFeed.refresh 0 d'.disk).1 }
    zid.isValid = true ∧ (Entry.new zid).prepare m [] = e ∧
      (Entry.new zid).addAll e.files = ⟨zid, "20200310195100", "", "", ["20200310195100.meta"]⟩ ∧
      ((Entry.new zid).prepare swap []).contentName = "20200310195100.swp" ∧
      isZettelFile "20200310195100.swp" = false ∧
      (b.run (b.create now ⟨m, content⟩) ⟨disk, 0⟩).1.answer = .ok zid ∧
      (b'.run (b'.get zid) d').1.map Zettel.content = .ok content ∧
      (refreshed.run (refreshed.get zid) d').1.map Zettel.content = .ok [] := by
  intro zid now m swap e content disk b b' d' refreshed
  exact ⟨by decide, by decide +kernel, by decide +kernel, by decide +kernel, by decide +kernel,
    by decide +kernel, by decide +kernel, by decide +kernel⟩

end DirBox

end Kasten
