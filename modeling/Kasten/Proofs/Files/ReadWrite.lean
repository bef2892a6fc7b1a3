import Kasten.Files.Command
import Kasten.Proofs.Disk.ReadWrite
import Kasten.Proofs.Entry.Names
import Kasten.Proofs.Meta.Header
import Kasten.Proofs.Program

/-!
# Zettel are read as they were written

The same entry tells the writer where the parts of a zettel go and the reader where they are. The
content is read back in any case. So is the metadata, unless an entry names one file for both:
there the content has taken its place.
-/

namespace Kasten

open Disk (join IsName)

namespace Entry

/-- What is read differs from what was written by no more than the default syntax. -/
theorem storedAlike_completeMeta (e : Entry) {m m' : Meta} (h : m.StoredAlike m') :
    (e.completeMeta m).StoredAlike (m'.withSyntax (FileName.syntaxOfExt e.contentExt)) := by
  have hsyntax := h.withSyntax (FileName.syntaxOfExt e.contentExt)
  unfold completeMeta
  dsimp only
  -- The list of files passed over is computed, so it is never written.
  split
  · exact hsyntax
  · exact hsyntax.set_of_isComputed (by decide) _

theorem zid_completeMeta (e : Entry) (m : Meta) : (e.completeMeta m).zid = m.zid := by
  unfold completeMeta
  split_ifs <;> simp only [Meta.zid_set]

end Entry

namespace Files

variable {dir : String} {d : Disk} {e : Entry} {z : Zettel} {bytes : Bytes}

/-! ## 1. Reading -/

theorem run_readMeta (hm : e.metaName ≠ "") (hr : d.read (join dir e.metaName) = .ok bytes) :
    (readMeta dir e).run (FileRequest.serve dir) d = (.ok (e.readHeader bytes).1, d) := by
  have hserve : FileRequest.serve dir (.read e.metaName) d = (.ok bytes, d) :=
    congrArg (·, d) hr
  unfold readMeta
  rw [if_pos hm, Program.run_ask, hserve]
  rfl

theorem run_readContent (hc : e.contentName ≠ "") (hr : d.read (join dir e.contentName) = .ok bytes)
    (m : Meta) :
    (readContent dir e m).run (FileRequest.serve dir) d = (.ok ⟨m, bytes⟩, d) := by
  have hserve : FileRequest.serve dir (.read e.contentName) d = (.ok bytes, d) :=
    congrArg (·, d) hr
  unfold readContent
  rw [if_neg hc, Program.run_ask, hserve]
  rfl

/-- Reading a zettel whose content file also has its metadata. -/
theorem run_readZettel_embedded (hz : e.hasMetaInContent = true)
    (hr : d.read (join dir e.contentName) = .ok bytes) :
    (readZettel dir e).run (FileRequest.serve dir) d =
      (.ok ⟨(e.readHeader bytes).1, (e.readHeader bytes).2⟩, d) := by
  have hserve : FileRequest.serve dir (.read e.contentName) d = (.ok bytes, d) :=
    congrArg (·, d) hr
  unfold readZettel
  rw [if_pos hz, Program.run_ask, hserve]
  rfl

theorem run_readZettel_apart {header : Bytes} (hz : e.hasMetaInContent = false)
    (hm : e.metaName ≠ "") (hc : e.contentName ≠ "")
    (hheader : d.read (join dir e.metaName) = .ok header)
    (hr : d.read (join dir e.contentName) = .ok bytes) :
    (readZettel dir e).run (FileRequest.serve dir) d =
      (.ok ⟨(e.readHeader header).1, bytes⟩, d) := by
  unfold readZettel
  rw [if_neg (ne_true_of_eq_false hz), Program.run_bind, run_readMeta hm hheader]
  exact run_readContent hc hr _

/-! ## 2. Writing -/

/-- Writes a file and goes on, unless that failed. -/
def writeThen (dir name : String) (data : Bytes) (next : FileProgram (Except StoreError Unit)) :
    FileProgram (Except StoreError Unit) :=
  .ask (.write name data) fun reply =>
    match reply with
    | .ok _ => next
    | .error fault => .done (.error (writeError dir name fault))

theorem ask_write_eq {name : String} {data : Bytes} {next : FileProgram (Except StoreError Unit)}
    {f : Except FileFault Unit → FileProgram (Except StoreError Unit)} (hok : f (.ok ()) = next)
    (herror : ∀ fault, f (.error fault) = .done (.error (writeError dir name fault))) :
    .ask (.write name data) f = writeThen dir name data next := by
  unfold writeThen
  congr 1
  funext reply
  cases reply with
  | ok _ => exact hok
  | error fault => exact herror fault

theorem run_writeThen {name : String} {data : Bytes} {next : FileProgram (Except StoreError Unit)}
    (h : ((writeThen dir name data next).run (FileRequest.serve dir) d).1 = .ok ()) :
    (d.write (join dir name) data).1 = .ok () ∧
      (writeThen dir name data next).run (FileRequest.serve dir) d =
        next.run (FileRequest.serve dir) (d.write (join dir name) data).2 := by
  have hserve : FileRequest.serve dir (.write name data) d = d.write (join dir name) data := rfl
  unfold writeThen at h ⊢
  rw [Program.run_ask, hserve] at h ⊢
  cases hw : (d.write (join dir name) data).1 with
  | ok _ => exact ⟨rfl, rfl⟩
  | error fault =>
    rw [hw] at h
    cases h

theorem writeZettel_embedded (hz : e.hasMetaInContent = true) :
    writeZettel dir e z =
      writeThen dir e.contentName (Header.writeFile z.metadata z.content) (.done (.ok ())) := by
  unfold writeZettel
  rw [if_pos hz]
  exact ask_write_eq rfl fun _ => rfl

theorem writeZettel_apart (hz : e.hasMetaInContent = false) (hm : e.metaName ≠ "")
    (hc : e.contentName ≠ "") :
    writeZettel dir e z =
      writeThen dir e.metaName (Header.write z.metadata)
        (writeThen dir e.contentName z.content (.done (.ok ()))) := by
  unfold writeZettel writeContent
  rw [if_neg (ne_true_of_eq_false hz), if_pos hm, if_neg hc]
  exact ask_write_eq (ask_write_eq rfl fun _ => rfl) fun _ => rfl

/-- The metadata file keeps the header when the content is written, if it is another file. -/
theorem reads_of_run_writeZettel (hready : e.Ready) (hz : e.hasMetaInContent = false)
    (h : ((writeZettel dir e z).run (FileRequest.serve dir) d).1 = .ok ()) :
    ∃ d', (writeZettel dir e z).run (FileRequest.serve dir) d = (.ok (), d') ∧
      d'.read (join dir e.metaName) =
        .ok (if e.metaName = e.contentName then z.content else Header.write z.metadata) ∧
      d'.read (join dir e.contentName) = .ok z.content := by
  have hmeta := hready.metadata hz
  rw [writeZettel_apart hz hmeta.ne_empty hready.content.ne_empty] at h ⊢
  rcases run_writeThen h with ⟨hheader, hrun⟩
  rw [hrun] at h ⊢
  rcases run_writeThen h with ⟨hcontent, hrun⟩
  have hread := Disk.read_write hcontent
  refine ⟨_, hrun, ?_, hread⟩
  -- The content is written last, so it is what a shared file has.
  by_cases hname : e.metaName = e.contentName
  · rw [if_pos hname, hname]
    rw [hname] at hread
    exact hread
  · rw [if_neg hname]
    exact Disk.read_write_other hready.content hmeta (Ne.symm hname) hcontent
      (Disk.read_write hheader)

/-! ## 3. Reading what was written -/

theorem readHeader_fst (hzid : e.zid = z.zid) {m : Meta} {rest : Bytes}
    (hparse : Header.parse z.zid bytes = (m, rest)) :
    e.readHeader bytes = (e.completeMeta m, rest) := by
  unfold Entry.readHeader
  rw [hzid, hparse]

/-- Reading after writing gives the content back, and the metadata unless the content has taken
its place. -/
theorem readZettel_writeZettel (hready : e.Ready) (hzid : e.zid = z.zid)
    (hm : z.metadata.WellFormed)
    (h : ((writeZettel dir e z).run (FileRequest.serve dir) d).1 = .ok ()) :
    ∃ (d' : Disk) (m : Meta),
      (writeZettel dir e z).run (FileRequest.serve dir) d = (.ok (), d') ∧
      (readZettel dir e).run (FileRequest.serve dir) d' = (.ok ⟨e.completeMeta m, z.content⟩, d') ∧
      m.zid = e.zid ∧ (¬ e.SharesName → m.StoredAlike z.metadata) ∧
      (e.SharesName → m = (Header.parse e.zid z.content).1) := by
  have hstored := z.metadata.storedAlike_stored
  cases hz : e.hasMetaInContent with
  | true =>
    rw [writeZettel_embedded hz] at h ⊢
    rcases run_writeThen h with ⟨hwrite, hrun⟩
    have hread := run_readZettel_embedded hz (Disk.read_write hwrite)
    rw [readHeader_fst hzid (Header.parse_writeFile hm z.content)] at hread
    refine ⟨_, z.metadata.stored, hrun, hread, hzid.symm, fun _ => hstored, ?_⟩
    intro hshares
    exact absurd (hz.symm.trans hshares.apart) (by decide)
  -- Here the parser gets the header file, unless the content has overwritten it.
  | false =>
    rcases reads_of_run_writeZettel hready hz h with ⟨d', hrun, hheader, hcontent⟩
    have hread := run_readZettel_apart hz (hready.metadata hz).ne_empty hready.content.ne_empty
      hheader hcontent
    by_cases hname : e.metaName = e.contentName
    · rw [if_pos hname] at hread
      refine ⟨d', _, hrun, hread, Header.zid_parse e.zid z.content, ?_, fun _ => rfl⟩
      exact fun hapart => absurd ⟨hz, hready.content.ne_empty, hname⟩ hapart
    · rw [if_neg hname, readHeader_fst hzid (Header.parse_write hm)] at hread
      refine ⟨d', { z.metadata.stored with yamlSep := false }, hrun, hread, hzid.symm,
        fun _ => hstored, ?_⟩
      exact fun hshares => absurd hshares.same hname

/-- An entry that differs at most in the order of the files passed over reads what was written to
content and metadata apart. -/
theorem readZettel_writeZettel_of_alike {e' : Entry} (halike : e'.Alike e) (hready : e.Ready)
    (hapart : e.hasMetaInContent = false) (hne : e.metaName ≠ e.contentName)
    (hzid : e.zid = z.zid) (hm : z.metadata.WellFormed)
    (h : ((writeZettel dir e z).run (FileRequest.serve dir) d).1 = .ok ()) :
    ∃ (d' : Disk) (m : Meta),
      (writeZettel dir e z).run (FileRequest.serve dir) d = (.ok (), d') ∧
      (readZettel dir e').run (FileRequest.serve dir) d' =
        (.ok ⟨e'.completeMeta m, z.content⟩, d') ∧
      m.zid = e.zid ∧ m.StoredAlike z.metadata := by
  rcases reads_of_run_writeZettel hready hapart h with ⟨d', hrun, hheader, hcontent⟩
  have hapart' : e'.hasMetaInContent = false := by
    unfold Entry.hasMetaInContent
    rw [halike.contentExt]
    exact hapart
  have hmeta := (hready.metadata hapart).ne_empty
  have hname := hready.content.ne_empty
  rw [if_neg hne, ← halike.metaName] at hheader
  rw [← halike.contentName] at hcontent
  rw [← halike.metaName] at hmeta
  rw [← halike.contentName] at hname
  have hread := run_readZettel_apart hapart' hmeta hname hheader hcontent
  rw [readHeader_fst (halike.zid.trans hzid) (Header.parse_write hm)] at hread
  exact ⟨d', { z.metadata.stored with yamlSep := false }, hrun, hread, hzid.symm,
    z.metadata.storedAlike_stored⟩

/-- Other files of the directory keep what they hold. -/
theorem read_writeZettel_other (hready : e.Ready) (hapart : e.hasMetaInContent = false)
    {other : String} (hother : IsName other) (hm : other ≠ e.metaName) (hc : other ≠ e.contentName)
    (h : ((writeZettel dir e z).run (FileRequest.serve dir) d).1 = .ok ())
    (hr : d.read (join dir other) = .ok bytes) :
    ((writeZettel dir e z).run (FileRequest.serve dir) d).2.read (join dir other) = .ok bytes := by
  have hmeta := hready.metadata hapart
  rw [writeZettel_apart hapart hmeta.ne_empty hready.content.ne_empty] at h ⊢
  rcases run_writeThen h with ⟨hheader, hrun⟩
  rw [hrun] at h ⊢
  rcases run_writeThen h with ⟨hcontent, hrun⟩
  rw [hrun]
  have hfirst := Disk.read_write_other hmeta hother hm.symm hheader hr
  exact Disk.read_write_other hready.content hother hc.symm hcontent hfirst

end Files

end Kasten
