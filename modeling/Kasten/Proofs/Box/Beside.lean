import Kasten.Proofs.Box.Rescan
import Kasten.Proofs.Entry.Beside

/-!
# Metadata that is added to content

A zettel that had content only gains a metadata file when it is updated. The file takes no other
file's place, and the next scan finds the zettel as it was written, if the name of the metadata file
counts as such and is no leftover of an editor. Else the metadata is lost at the next scan.
-/

namespace Kasten

open FileName (isMetaFile isZettelFile)

variable {z : Zid} {e e' : Entry} {names listing : List String}

theorem Entry.Alike.trans {e'' : Entry} (h : e.Alike e') (h' : e'.Alike e'') : e.Alike e'' where
  zid := h.zid.trans h'.zid
  metaName := h.metaName.trans h'.metaName
  contentName := h.contentName.trans h'.contentName
  contentExt := h.contentExt.trans h'.contentExt
  useless := h.useless.trans h'.useless

theorem Entry.Alike.refl (e : Entry) : e.Alike e := ⟨rfl, rfl, rfl, rfl, .refl _⟩

namespace DirBox

variable {b b' box : DirBox} {d d' : Files.SlowDisk} {disk : Disk} {m : Meta} {content : Bytes}

/-! ## 1. What is listed -/

/-- The files of the zettel that the directory lists. -/
def ListsOf (listing : List String) (z : Zid) (names : List String) : Prop :=
  ∀ n, n ∈ names ↔ n ∈ listing ∧ Zid.ofFileName n = z

theorem isListed_beside (hz : z.isValid = true) (hzid : e.zid = z)
    (hof : ListsOf listing z names) (h : e.IsBare names.toFinset)
    (hseen : isZettelFile e.beside.metaName = true) {names' : List String}
    (hempty : "" ∉ names')
    (hlist : ∀ n, n ∈ names' ↔ n ∈ listing ∨ isZettelFile n = true ∧ n ∈ e.beside.targets) :
    e.beside.IsListed names' := by
  have hnames : ∀ n ∈ names, Zid.ofFileName n = z := fun n hn => ((hof n).mp hn).2
  have hne := Entry.metaName_beside_ne_empty hz hnames h
  have hapart : e.beside.hasMetaInContent = false := h.apart
  refine ⟨hempty, fun n => ?_⟩
  show _ ↔ n ∈ names' ∧ Zid.ofFileName n = e.zid
  rw [h.mem_files_beside hne, List.mem_toFinset, hof, hlist, hzid, Entry.mem_targets hapart]
  constructor
  · rintro (⟨hn, hown⟩ | rfl)
    · exact ⟨.inl hn, hown⟩
    · exact ⟨.inr ⟨hseen, hne, .inl rfl⟩, Entry.ofFileName_beside hz hnames h⟩
  · rintro ⟨hn | ⟨-, hn, rfl | rfl⟩, hown⟩
    · exact .inl ⟨hn, hown⟩
    · exact .inr rfl
    · exact .inl ((hof _).mp (List.mem_toFinset.mp (h.arranges.contentName_mem h.content)))

/-! ## 2. What is read -/

/-- The box has the entry, but for the order of the files passed over, and reads the zettel. -/
structure Gives (box : DirBox) (e : Entry) (m : Meta) (content : Bytes)
    (d left : Files.SlowDisk) : Prop where
  entry : ∃ e', box.service.entry? e.zid = some e' ∧ e'.Alike e
  reads : ∃ z : Zettel, box.run (box.get e.zid) d = (.ok z, left) ∧ z.content = content ∧
    z.zid = e.zid ∧
    z.metadata.userPairs = (m.withSyntax (FileName.syntaxOfExt e.contentExt)).userPairs

theorem Keeps.gives (h : Keeps b e ⟨m, content⟩ d b' d') (hready : e.Ready)
    (hapart : e.hasMetaInContent = false) (hne : e.metaName ≠ e.contentName) (hzid : e.zid = m.zid)
    (hm : m.WellFormed) :
    ∃ left, ∀ (box : DirBox) (e' : Entry), box.service.entry? e.zid = some e' → e'.Alike e →
      box.pool = b'.pool → box.Gives e m content d' left := by
  rcases h.submitted hready with ⟨hrunning, htime, hwritten, hleft⟩
  refine ⟨d', fun box e' hentry halike hpool => ⟨⟨e', hentry, halike⟩, ?_⟩⟩
  rcases Files.readZettel_writeZettel_of_alike (z := ⟨m, content⟩) halike hready hapart hne hzid hm
    hwritten with ⟨disk, m', hrun, hread, hzid', hstored⟩
  have hdisk : d' = ⟨disk, 0⟩ := by
    rw [hleft, hrun]
  have hlive : e'.isLive = true := by
    apply Entry.isLive_of_name hready.content.ne_empty
    exact .inl halike.contentName.symm
  have hsame : box.pool = b.pool := hpool.trans h.pool
  -- The workers of the box read from the disk what those of the writer have left there.
  have hget : box.run (box.get e.zid) d' = (.ok ⟨e'.completeMeta m', content⟩, d') := by
    rw [hdisk, run_get hentry hlive (hsame ▸ hrunning) (hsame ▸ htime), hsame, hread]
  have hpairs := (e'.storedAlike_completeMeta hstored).userPairs_eq
  rw [halike.contentExt] at hpairs
  exact ⟨_, hget, rfl, (e'.zid_completeMeta m').trans hzid', hpairs⟩

/-! ## 3. Updating content without metadata -/

/-- The zettel was content only, is written with a metadata file beside it, and the directory lists
that file afterwards. -/
structure Gains (b : DirBox) (e : Entry) (names listing : List String) (m : Meta) (content : Bytes)
    (d : Files.SlowDisk) (b' : DirBox) (d' : Files.SlowDisk) : Prop where
  valid : e.zid.isValid = true
  bare : e.IsBare names.toFinset
  listsOf : ListsOf listing e.zid names
  listed : d.disk.listZettel b.path = .ok listing
  keeps : Keeps b e.beside ⟨m, content⟩ d b' d'
  ready : e.beside.Ready
  isMetaFile : isMetaFile e.beside.metaName = true
  isZettelFile : isZettelFile e.beside.metaName = true

namespace Gains

variable (h : Gains b e names listing m content d b' d')

include h

theorem ofFileName {n : String} (hn : n ∈ names) : Zid.ofFileName n = e.zid :=
  ((h.listsOf n).mp hn).2

theorem metaName_ne_empty : e.beside.metaName ≠ "" :=
  Entry.metaName_beside_ne_empty h.valid (fun _ => h.ofFileName) h.bare

/-- The name of the metadata file is that of no file that was listed. -/
theorem metaName_not_mem : e.beside.metaName ∉ listing := by
  intro hin
  have hown := Entry.ofFileName_beside h.valid (fun _ => h.ofFileName) h.bare
  have hname := (h.listsOf e.beside.metaName).mpr ⟨hin, hown⟩
  exact h.bare.not_mem_of_isMetaFile h.isMetaFile (List.mem_toFinset.mpr hname)

theorem metaName_ne_contentName : e.beside.metaName ≠ e.beside.contentName := by
  intro heq
  have hcontent := h.bare.arranges.contentName_mem h.bare.content
  exact h.bare.not_mem_of_isMetaFile h.isMetaFile (heq ▸ hcontent)

theorem isListed (hdir : b.pool.dir = b.path) :
    ∃ names', d'.disk.isFolder b.path = true ∧ d'.disk.listZettel b.path = .ok names' ∧
      e.beside.IsListed names' := by
  rcases h.keeps.submitted h.ready with ⟨-, -, hwritten, hleft⟩
  rcases Files.listZettel_writeZettel h.ready.targets_ne_nil
    (fun n => h.ready.isName_of_mem_targets) hwritten with
    ⟨before, names', hbefore, hfolder, hlist, hmem⟩
  rw [hdir] at hbefore hfolder hlist
  cases h.listed.symm.trans hbefore
  rw [hleft, hdir]
  refine ⟨names', hfolder, hlist, ?_⟩
  exact isListed_beside h.valid rfl h.listsOf h.bare h.isZettelFile
    (empty_not_mem_listZettel hlist) hmem

/-- However the directory is scanned, the zettel has the entry that it was written to. -/
theorem entry_of_rescan (hb : b.Settled) (hsame : b.SameBut b') (later : Nat) :
    ∀ box ∈ rescans b b' later d'.disk,
      (∃ e', box.service.entry? e.zid = some e' ∧ e'.Alike e.beside) ∧ box.pool = b'.pool := by
  rcases h.isListed hb.dir_eq with ⟨names', hfolder, hlist, hlisted⟩
  have hrunning := (h.keeps.submitted h.ready).1
  intro box hbox
  rcases scanned_of_rescan hb hsame hrunning hfolder hlist later box hbox with
    ⟨hcatalog | hservice, hpool⟩
  · have hfiles : e.beside.files ≠ [] := by
      have hmeta := (h.bare.mem_files_beside h.metaName_ne_empty).mpr (.inr rfl)
      exact List.ne_nil_of_mem hmeta
    rcases Catalog.exists_addFiles h.valid hfiles hlisted.mem_iff with ⟨e', hentry, halike⟩
    have hsorted := h.bare.alike_addAll h.metaName_ne_empty (.refl _) h.isMetaFile
    rw [Service.entry_eq hcatalog]
    exact ⟨⟨e', hentry, halike.trans hsorted⟩, hpool⟩
  · -- Without a scan the entry is that of the update.
    rw [hservice]
    exact ⟨⟨e.beside, h.keeps.entry, .refl _⟩, hpool⟩

theorem read_other (hdir : b.pool.dir = b.path) {n : String} (hn : n ∈ listing)
    (hne : n ≠ e.contentName) {data : Bytes} (hread : d.disk.read (Disk.join b.path n) = .ok data) :
    d'.disk.read (Disk.join b.path n) = .ok data := by
  rcases h.keeps.submitted h.ready with ⟨-, -, hwritten, hleft⟩
  have hzettel := Disk.isZettelFile_of_mem_listZettel h.listed hn
  have hname : Disk.IsName n := by
    apply FileName.isName_of_isValid
    · exact (Bool.and_eq_true _ _ ▸ hzettel).1
    · exact Disk.slash_not_mem_listZettel h.listed n hn
  have hmeta : n ≠ e.beside.metaName := fun heq => h.metaName_not_mem (heq ▸ hn)
  rw [← hdir] at hread ⊢
  rw [hleft]
  exact Files.read_writeZettel_other h.ready h.bare.apart hname hmeta hne hwritten hread

end Gains

/-- Of a zettel that the directory lists with content but without metadata, the update makes one
with a metadata file beside the content. If the name of that file counts as one of a metadata file,
it is that of no file of the zettel, and all files are sorted into the same entry again, in whatever
order they come. If it does not, no file is found for the metadata any more. If the file is listed
at all, other files keep what they hold, and each box that lists the directory anew reads the zettel
as it was written. -/
theorem metadata_beside_content (z : Zid) (names : List String) (edits : List Meta.Edit)
    (yamlSep : Bool) (zettelSyntaxes : List String) (hz : z.isValid = true)
    (hnames : ∀ n ∈ names, Zid.ofFileName n = z) :
    let m := Meta.made z edits yamlSep
    let e := (Entry.new z).addAll names
    let e' := e.prepare m zettelSyntaxes
    e.contentName ≠ "" → e.hasMetaInContent = false → e.metaName = "" →
      (isMetaFile e'.metaName = true → e'.metaName ∉ e.files ∧
        ∀ files : List String, files.Perm e'.files → ((Entry.new z).addAll files).Alike e') ∧
      (isMetaFile e'.metaName = false →
        ∀ files : List String, files.Perm e'.files → ((Entry.new z).addAll files).metaName = "") ∧
      (isMetaFile e'.metaName = true → isZettelFile e'.metaName = true →
        ∀ (b : DirBox) (content : Bytes) (d : Files.SlowDisk) (listing : List String) (later : Nat),
          b.Reached → b.config.zettelSyntaxes = zettelSyntaxes →
          d.disk.listZettel b.path = .ok listing →
          (∀ n, n ∈ names ↔ n ∈ listing ∧ Zid.ofFileName n = z) →
          b.service.entry? z = some e →
          (b.run (b.update ⟨m, content⟩) d).1.answer = .ok () →
          let b' := (b.run (b.update ⟨m, content⟩) d).1.box
          let d' := (b.run (b.update ⟨m, content⟩) d).2
          let refreshed : DirBox := { b' with toFeed := (b'.toFeed.refresh later d'.disk).1 }
          let restarted : DirBox := ((new b.config).start later d'.disk).1.box
          (∀ n ∈ listing, n ≠ e.contentName → ∀ data,
            d.disk.read (Disk.join b.path n) = .ok data →
              d'.disk.read (Disk.join b.path n) = .ok data) ∧
          ∃ left, ∀ box ∈ [b', refreshed, restarted], box.Gives e' m content d' left) := by
  intro m e e' hc hapart hm
  have hbare : e.IsBare names.toFinset := Entry.isBare_addAll hz hnames hc hapart hm
  have hzid : e.zid = z := Entry.zid_addAll (Entry.new z) names
  have he' : e' = e.beside := hbare.prepare m zettelSyntaxes
  have hne : e.beside.metaName ≠ "" := Entry.metaName_beside_ne_empty hz hnames hbare
  rw [he']
  refine ⟨?sorted, ?lost, ?box⟩
  case sorted =>
    intro hmeta
    refine ⟨fun hin => ?_, fun files hfiles => ?_⟩
    · exact hbare.not_mem_of_isMetaFile hmeta (hbare.arranges.mem_files.mp hin)
    · rw [← hzid]
      exact hbare.alike_addAll hne hfiles hmeta
  case lost =>
    intro hmeta files hfiles
    rw [← hzid]
    exact hbare.metaName_addAll hne hfiles hmeta
  case box =>
    intro hmeta hseen b content d listing later hb hconfig hlist hof hentry hupdate b' d' refreshed
      restarted
    have hzettel : (⟨m, content⟩ : Zettel).zid = z := Meta.zid_made z edits yamlSep
    -- The update prepares the entry that the catalog has.
    have hkeeps : Keeps b e.beside ⟨m, content⟩ d b' d' := by
      have hupdated := keeps_of_update hupdate
      rw [hzettel, hentry, Option.getD_some, hbare.prepare] at hupdated
      exact hupdated
    have hready : e.beside.Ready := by
      have hnamed := (hb.stocked.service.arisen hentry).named.ready_prepare m zettelSyntaxes
      rwa [hbare.prepare] at hnamed
    have hgains : Gains b e names listing m content d b' d' :=
      ⟨hzid.symm ▸ hz, hbare, hzid.symm ▸ hof, hlist, hkeeps, hready, hmeta, hseen⟩
    have hsame : b.SameBut b' := (sameBut_update b _).run b.pool.submit d
    have hpath := hb.settled.dir_eq
    refine ⟨fun n hn hcontent data => hgains.read_other hpath hn hcontent, ?_⟩
    rcases hkeeps.gives hready hapart hgains.metaName_ne_contentName (hzid.trans hzettel.symm)
      (Meta.wellFormed_made z edits yamlSep) with ⟨left, hgives⟩
    refine ⟨left, fun box hbox => ?_⟩
    rcases hgains.entry_of_rescan hb.settled hsame later box hbox with
      ⟨⟨found, hfound, halike⟩, hpool⟩
    exact hgives box found hfound halike hpool

/-- The content has a title in its name, and there is another zettel. -/
theorem metadata_beside_content_of_title :
    let z : Zid := ⟨20200310195100⟩
    let names := ["20200310195100 Title.md"]
    let edits : List Meta.Edit := [.set Key.title "New"]
    let e := (Entry.new z).addAll names
    let e' : Entry := ⟨z, "20200310195100 Title", "20200310195100 Title.md", "md", []⟩
    let content : Bytes := Text.Utf8.encodeText "hello"
    let disk : Disk :=
      ⟨(((∅ : Std.ExtTreeMap String DiskItem).insert "box" .folder).insert
        "box/20190101000000.md" (.file [65])).insert "box/20200310195100 Title.md" (.file [])⟩
    let b := ((new (.new (Text.Utf8.encodeText "box"))).start 0 disk).1.box
    let b' := (b.run (b.update ⟨Meta.made z edits false, content⟩) ⟨disk, 0⟩).1.box
    let d' := (b.run (b.update ⟨Meta.made z edits false, content⟩) ⟨disk, 0⟩).2
    let refreshed : DirBox := { b' with toFeed := (b'.toFeed.refresh 0 d'.disk).1 }
    z.isValid = true ∧ (∀ n ∈ names, Zid.ofFileName n = z) ∧ e.contentName ≠ "" ∧
      e.hasMetaInContent = false ∧ e.metaName = "" ∧ e.prepare (Meta.made z edits false) [] = e' ∧
      isMetaFile e'.metaName = true ∧ isZettelFile e'.metaName = true ∧ e'.metaName ∉ e.files ∧
      ((Entry.new z).addAll e'.files).Alike e' ∧ b.Reached ∧
      (b.run (b.update ⟨Meta.made z edits false, content⟩) ⟨disk, 0⟩).1.answer = .ok () ∧
      d'.disk.read (Disk.join b.path "20190101000000.md") = .ok [65] ∧
      ∃ left, refreshed.Gives e' (Meta.made z edits false) content d' left := by
  intro z names edits e e' content disk b b' d' refreshed
  have hz : z.isValid = true := by decide
  have hnames : ∀ n ∈ names, Zid.ofFileName n = z := by decide +kernel
  have hc : e.contentName ≠ "" := by decide +kernel
  have hapart : e.hasMetaInContent = false := by decide +kernel
  have hm : e.metaName = "" := by decide +kernel
  have he' : e.prepare (Meta.made z edits false) [] = e' := by decide +kernel
  have hmeta : isMetaFile e'.metaName = true := by decide +kernel
  have hseen : isZettelFile e'.metaName = true := by decide +kernel
  have hb : b.Reached := .start (.new _) 0 disk
  have hlist : disk.listZettel b.path = .ok ["20190101000000.md", "20200310195100 Title.md"] := by
    decide +kernel
  have hentry : b.service.entry? z = some e := by decide +kernel
  have hupdate :
      (b.run (b.update ⟨Meta.made z edits false, content⟩) ⟨disk, 0⟩).1.answer = .ok () := by
    decide +kernel
  have hdata : disk.read (Disk.join b.path "20190101000000.md") = .ok [65] := by decide +kernel
  have hne : "20190101000000.md" ≠ e.contentName := by decide +kernel
  have hother : Zid.ofFileName "20190101000000.md" ≠ z := by decide +kernel
  have hown : Zid.ofFileName "20200310195100 Title.md" = z := hnames _ List.mem_cons_self
  have hof : ∀ n, n ∈ names ↔
      n ∈ ["20190101000000.md", "20200310195100 Title.md"] ∧ Zid.ofFileName n = z := by
    intro n
    rw [show n ∈ names ↔ n = "20200310195100 Title.md" from List.mem_singleton, List.mem_cons,
      List.mem_singleton]
    constructor
    · intro hn
      exact ⟨.inr hn, hn ▸ hown⟩
    · rintro ⟨rfl | hn, hzid⟩
      · exact absurd hzid hother
      · exact hn
  have hafter := metadata_beside_content z names edits false [] hz hnames hc hapart hm
  dsimp only at hafter
  rw [show ((Entry.new z).addAll names).prepare (Meta.made z edits false) [] = e' from he']
    at hafter
  rcases hafter with ⟨hsorted, -, hbox⟩
  have hconfig : b.config.zettelSyntaxes = [] := by decide +kernel
  rcases hbox hmeta hseen b content ⟨disk, 0⟩ _ 0 hb hconfig hlist hof hentry hupdate with
    ⟨hread, left, hgives⟩
  have hkept : d'.disk.read (Disk.join b.path "20190101000000.md") = .ok [65] :=
    hread "20190101000000.md" List.mem_cons_self hne [65] hdata
  have hrefreshed := hgives refreshed (List.mem_cons_of_mem _ List.mem_cons_self)
  exact ⟨hz, hnames, hc, hapart, hm, he', hmeta, hseen, (hsorted hmeta).1,
    (hsorted hmeta).2 _ (.refl _), hb, hupdate, hkept, left, hrefreshed⟩

/-- A further full stop in the name makes the metadata file one of content, which may even be there
already, and with a tilde at its end it is taken for a leftover. -/
theorem metadata_lost_beside_content :
    let z : Zid := ⟨20200310195100⟩
    let m := Meta.made z [.set Key.title "New"] false
    let dotted := (Entry.new z).addAll ["20200310195100 a.b.md"]
    let doubled := (Entry.new z).addAll ["20200310195100 x.png", "20200310195100 x.png.md"]
    let marked := (Entry.new z).addAll ["20200310195100 a~.md"]
    let content : Bytes := Text.Utf8.encodeText "hello"
    let disk : Disk :=
      ⟨((∅ : Std.ExtTreeMap String DiskItem).insert "box" .folder).insert
        "box/20200310195100 a.b.md" (.file [])⟩
    let b := ((new (.new (Text.Utf8.encodeText "box"))).start 0 disk).1.box
    let b' := (b.run (b.update ⟨m, content⟩) ⟨disk, 0⟩).1.box
    let d' := (b.run (b.update ⟨m, content⟩) ⟨disk, 0⟩).2
    let refreshed : DirBox := { b' with toFeed := (b'.toFeed.refresh 0 d'.disk).1 }
    (∀ e ∈ [dotted, doubled, marked],
      e.contentName ≠ "" ∧ e.hasMetaInContent = false ∧ e.metaName = "") ∧
      (dotted.prepare m []).metaName = "20200310195100 a.b" ∧
      ((Entry.new z).addAll (dotted.prepare m []).files).metaName = "" ∧
      (doubled.prepare m []).metaName ∈ doubled.files ∧
      (marked.prepare m []).metaName = "20200310195100 a~" ∧
      isZettelFile "20200310195100 a~" = false ∧
      (b.run (b.update ⟨m, content⟩) ⟨disk, 0⟩).1.answer = .ok () ∧
      (b'.run (b'.get z) d').1.map (fun z => z.metadata.get? Key.title) = .ok (some "New") ∧
      (refreshed.run (refreshed.get z) d').1.map (fun z => z.metadata.get? Key.title) ≠
        .ok (some "New") := by
  intro z m dotted doubled marked content disk b b' d' refreshed
  exact ⟨by decide +kernel, by decide +kernel, by decide +kernel, by decide +kernel,
    by decide +kernel, by decide +kernel, by decide +kernel, by decide +kernel, by decide +kernel⟩

end DirBox

end Kasten
