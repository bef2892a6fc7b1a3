import Kasten.Proofs.Files.Requests

/-!
# Zettel under another identifier

A zettel that is read under one identifier and written under another reads there with the same
content, and with the same pairs unless its metadata was in no file at all. That is so for every
layout: content and metadata in one file or in two, or only one of them.
-/

namespace Kasten

open Disk (join IsName)

namespace FileName

variable {z new : Zid} {a b : String}

theorem rename_injective (ha : z.Owns a) (hb : z.Owns b) (h : rename a z new = rename b z new) :
    a = b := by
  rcases ha.front with ⟨rest, hrest⟩
  rcases hb.front with ⟨rest', hrest'⟩
  rw [rename_eq hrest.symm, rename_eq hrest'.symm] at h
  have hsame : rest = rest' := List.append_cancel_left (String.ofList_injective h)
  rw [← String.toList_inj, ← hrest, ← hrest', hsame]

/-- Renaming makes no name out of none, and none out of a name. -/
theorem rename_eq_empty (h : a ≠ "" → z.Owns a) : rename a z new = "" ↔ a = "" := by
  constructor
  · intro hnone
    by_contra ha
    exact (owns_rename (h ha) new).isName.ne_empty hnone
  · rintro rfl
    exact rename_empty z new

end FileName

namespace Entry

variable {e : Entry} {new : Zid} {m : Meta}

/-! ## 1. Entries and their names -/

/-- There is a file for the metadata, or the content's file has it too. -/
def StoresMeta (e : Entry) : Prop := e.metaName ≠ "" ∨ e.hasMetaInContent = true

section Names

variable (hown : ∀ n ∈ e.files, e.zid.Owns n)

include hown

theorem owns_contentName (h : e.contentName ≠ "") : e.zid.Owns e.contentName :=
  hown _ (mem_files.mpr (.inl ⟨h, .inl rfl⟩))

theorem owns_metaName (h : e.metaName ≠ "") : e.zid.Owns e.metaName :=
  hown _ (mem_files.mpr (.inl ⟨h, .inr rfl⟩))

theorem contentName_renamed_eq_empty : (e.renamed new).contentName = "" ↔ e.contentName = "" :=
  FileName.rename_eq_empty (owns_contentName hown)

theorem metaName_renamed_eq_empty : (e.renamed new).metaName = "" ↔ e.metaName = "" :=
  FileName.rename_eq_empty (owns_metaName hown)

theorem sharesName_of_renamed (h : (e.renamed new).SharesName) : e.SharesName := by
  have hcontent : e.contentName ≠ "" := mt (contentName_renamed_eq_empty hown).mpr h.content
  have hmeta : e.metaName ≠ "" :=
    mt (metaName_renamed_eq_empty hown).mpr fun hnone => h.content (h.same.symm.trans hnone)
  refine ⟨h.apart, hcontent, ?_⟩
  exact FileName.rename_injective (owns_metaName hown hmeta) (owns_contentName hown hcontent) h.same

end Names

theorem wellFormed_completeMeta (h : m.WellFormed) (e : Entry) : (e.completeMeta m).WellFormed := by
  unfold completeMeta
  dsimp only
  split_ifs
  · exact h.set _ _
  · exact h
  · exact (h.set _ _).set _ _
  · exact h.set _ _

theorem wellFormed_impliedMeta (e : Entry) : e.impliedMeta.WellFormed :=
  ((Meta.wellFormed_new e.zid).set _ _).set _ _

/-- What is completed has a syntax, so it is not given another. -/
theorem withSyntax_completeMeta (e : Entry) (m : Meta) (default : String) :
    (e.completeMeta m).withSyntax default = e.completeMeta m := by
  apply Meta.withSyntax_of_isSome
  have hget : (e.completeMeta m).get? Key.syntaxName =
      (m.withSyntax (FileName.syntaxOfExt e.contentExt)).get? Key.syntaxName := by
    unfold Meta.get?
    rw [e.storedAlike_completeMeta (fun _ _ => rfl) Key.syntaxName (by decide)]
  rw [hget]
  exact m.isSome_withSyntax _

/-! ## 2. What is read -/

/-- A zettel that can be read from the files of the entry. -/
structure Yields (e : Entry) (z : Zettel) : Prop where
  metadata : ∃ m, m.WellFormed ∧ z.metadata = e.completeMeta m
  content : e.contentName = "" → z.content = []
  shared : e.SharesName → z.metadata = e.completeMeta (Header.parse e.zid z.content).1

end Entry

namespace Files

variable {dir : String} {d d' : Disk} {e : Entry} {z : Zettel} {new : Zid} {bytes : Bytes}

theorem always_readMeta (dir : String) (e : Entry) :
    (readMeta dir e).Always fun result => ∀ m, result = .ok m →
      ∃ m', m'.WellFormed ∧ m = e.completeMeta m' := by
  have hread : ∀ bytes m, Except.ok (e.readHeader bytes).1 = (.ok m : Except StoreError Meta) →
      ∃ m', m'.WellFormed ∧ m = e.completeMeta m' := by
    rintro bytes m h
    cases h
    exact ⟨_, Header.wellFormed_parse e.zid bytes, rfl⟩
  have himplied : ∀ m, .ok (e.completeMeta e.impliedMeta) = (.ok m : Except StoreError Meta) →
      ∃ m', m'.WellFormed ∧ m = e.completeMeta m' := by
    rintro m h
    cases h
    exact ⟨_, e.wellFormed_impliedMeta, rfl⟩
  unfold readMeta
  split
  next =>
    intro reply
    cases reply with
    | ok bytes => exact hread bytes
    | error fault =>
      dsimp only
      split
      next => exact himplied
      next => exact nofun
  next =>
    split
    next =>
      intro reply
      cases reply with
      | ok bytes => exact hread bytes
      | error fault => exact nofun
    next => exact himplied

theorem always_readContent (dir : String) (e : Entry) (m : Meta) :
    (readContent dir e m).Always fun result => ∀ z, result = .ok z →
      z.metadata = m ∧ (e.contentName = "" → z.content = []) := by
  unfold readContent
  split
  next =>
    rintro z h
    cases h
    exact ⟨rfl, fun _ => rfl⟩
  next hc =>
    intro reply
    cases reply with
    | ok bytes =>
      rintro z h
      cases h
      exact ⟨rfl, fun hempty => absurd hempty hc⟩
    | error fault => exact nofun

theorem always_readZettel (hnamed : e.Named) (dir : String) :
    (readZettel dir e).Always fun result => ∀ z, result = .ok z →
      (∃ m, m.WellFormed ∧ z.metadata = e.completeMeta m) ∧
        (e.contentName = "" → z.content = []) := by
  unfold readZettel
  split
  next hz =>
    intro reply
    cases reply with
    | ok bytes =>
      rintro z h
      cases h
      exact ⟨⟨_, Header.wellFormed_parse e.zid bytes, rfl⟩,
        fun hempty => absurd hempty (hnamed.content_ne_empty hz)⟩
    | error fault => exact nofun
  next =>
    refine (always_readMeta dir e).bind fun result hresult => ?_
    cases result with
    | error error => exact nofun
    | ok m =>
      refine (always_readContent dir e m).mono fun result hcontent z hz => ?_
      rcases hcontent z hz with ⟨hmeta, hempty⟩
      exact ⟨hmeta ▸ hresult m rfl, hempty⟩

/-- A file with both names is read twice, so the metadata is what its content says. -/
theorem run_readZettel_shared (h : e.SharesName)
    (hread : ((readZettel dir e).run (FileRequest.serve dir) d).1 = .ok z) :
    z.metadata = e.completeMeta (Header.parse e.zid z.content).1 := by
  have hm : e.metaName ≠ "" := h.same ▸ h.content
  cases hbytes : d.read (join dir e.contentName) with
  | ok bytes =>
    rw [run_readZettel_apart h.apart hm h.content (h.same ▸ hbytes) hbytes] at hread
    cases hread
    rfl
  | error fault =>
    have hserve : FileRequest.serve dir (.read e.contentName) d = (.error fault, d) :=
      congrArg (·, d) hbytes
    have hcontent : ∀ m, ((readContent dir e m).run (FileRequest.serve dir) d).1 =
        .error (readError dir e.contentName fault) := by
      intro m
      unfold readContent
      rw [if_neg h.content, Program.run_ask, hserve]
      rfl
    -- Even if metadata was made up for, there is no content then.
    unfold readZettel at hread
    rw [if_neg (ne_true_of_eq_false h.apart), Program.run_bind, run_readMeta_snd] at hread
    split at hread
    next m _ =>
      rw [hcontent m] at hread
      cases hread
    next => cases hread

theorem yields_of_run (hnamed : e.Named)
    (hread : ((readZettel dir e).run (FileRequest.serve dir) d).1 = .ok z) : e.Yields z where
  metadata := ((always_readZettel hnamed dir).run _ d z hread).1
  content := ((always_readZettel hnamed dir).run _ d z hread).2
  shared h := run_readZettel_shared h hread

/-! ## 3. Only one file -/

/-- Without content there is only the metadata file. -/
theorem readZettel_writeZettel_meta (hz : e.hasMetaInContent = false) (hm : e.metaName ≠ "")
    (hc : e.contentName = "") (hzid : e.zid = z.zid) (hwell : z.metadata.WellFormed)
    (h : (writeZettel dir e z).run (FileRequest.serve dir) d = (.ok (), d')) :
    ∃ m, (readZettel dir e).run (FileRequest.serve dir) d' = (.ok ⟨e.completeMeta m, []⟩, d') ∧
      m.zid = e.zid ∧ m.StoredAlike z.metadata := by
  have hwrites : writes e z = [(e.metaName, Header.write z.metadata)] := by
    unfold writes
    rw [if_neg (ne_true_of_eq_false hz), if_neg hm, if_pos hc, List.append_nil]
  rw [writeZettel_eq, hwrites] at h
  rcases run_writeThen (congrArg Prod.fst h) with ⟨hwrite, hrun⟩
  have hd' : (d.write (join dir e.metaName) (Header.write z.metadata)).2 = d' :=
    congrArg Prod.snd (hrun.symm.trans h)
  have hread := Disk.read_write hwrite
  rw [hd'] at hread
  refine ⟨{ z.metadata.stored with yamlSep := false }, ?_, hzid.symm, z.metadata.storedAlike_stored⟩
  unfold readZettel
  rw [if_neg (ne_true_of_eq_false hz), Program.run_bind, run_readMeta hm hread]
  dsimp only
  rw [readHeader_fst hzid (Header.parse_write hwell)]
  unfold readContent
  rw [if_pos hc]
  rfl

/-- Without a metadata file only the content is stored. -/
theorem readZettel_writeZettel_content (hz : e.hasMetaInContent = false) (hm : e.metaName = "")
    (hc : e.contentName ≠ "")
    (h : (writeZettel dir e z).run (FileRequest.serve dir) d = (.ok (), d')) :
    (readZettel dir e).run (FileRequest.serve dir) d' =
      (.ok ⟨e.completeMeta e.impliedMeta, z.content⟩, d') := by
  have hwrites : writes e z = [(e.contentName, z.content)] := by
    unfold writes
    rw [if_neg (ne_true_of_eq_false hz), if_pos hm, if_neg hc, List.nil_append]
  rw [writeZettel_eq, hwrites] at h
  rcases run_writeThen (congrArg Prod.fst h) with ⟨hwrite, hrun⟩
  have hd' : (d.write (join dir e.contentName) z.content).2 = d' :=
    congrArg Prod.snd (hrun.symm.trans h)
  have hread := Disk.read_write hwrite
  rw [hd'] at hread
  have hmeta : readMeta dir e = .done (.ok (e.completeMeta e.impliedMeta)) := by
    unfold readMeta
    rw [if_neg (not_not_intro hm), if_neg (ne_true_of_eq_false hz)]
  unfold readZettel
  rw [if_neg (ne_true_of_eq_false hz), hmeta]
  exact run_readContent hc hread _

/-! ## 4. Reading under the new identifier -/

section Renamed

variable (hnamed : e.Named) (hown : ∀ n ∈ e.files, e.zid.Owns n) (hyields : e.Yields z)

include hyields

/-- The syntax comes with what is read, so it is stored and no other one is added. -/
theorem userPairs_renamed {m : Meta} (h : m.StoredAlike z.metadata) :
    ((e.renamed new).completeMeta m).userPairs = z.metadata.userPairs := by
  rcases hyields.metadata with ⟨old, -, hold⟩
  have hpairs := (e.renamed new).storedAlike_completeMeta h
  rw [hold, e.withSyntax_completeMeta, ← hold] at hpairs
  exact hpairs.userPairs_eq

theorem userPairs_shared (hshares : e.SharesName) :
    ((e.renamed new).completeMeta (Header.parse new z.content).1).userPairs =
      z.metadata.userPairs := by
  have hnew := (e.renamed new).storedAlike_completeMeta
    (Header.storedAlike_parse new e.zid z.content)
  have hold := e.storedAlike_completeMeta (m := (Header.parse e.zid z.content).1) fun _ _ => rfl
  rw [← hyields.shared hshares] at hold
  exact (hnew.trans hold.symm).userPairs_eq

include hnamed hown

theorem readZettel_renamed (hlive : (e.renamed new).isLive = true)
    (h : (writeZettel dir (e.renamed new) ⟨{ z.metadata with zid := new }, z.content⟩).run
      (FileRequest.serve dir) d = (.ok (), d')) :
    ∃ z', (readZettel dir (e.renamed new)).run (FileRequest.serve dir) d' = (.ok z', d') ∧
      z'.content = z.content ∧ z'.zid = new ∧
      (e.StoresMeta → z'.metadata.userPairs = z.metadata.userPairs) := by
  have hnew := hnamed.renamed new
  have hsame : (e.renamed new).zid = Zettel.zid ⟨{ z.metadata with zid := new }, z.content⟩ := rfl
  have hwell : ({ z.metadata with zid := new } : Meta).WellFormed := by
    rcases hyields.metadata with ⟨m, hm, heq⟩
    rw [heq]
    exact e.wellFormed_completeMeta hm
  by_cases hc : (e.renamed new).contentName = ""
  · have hz : (e.renamed new).hasMetaInContent = false :=
      eq_false_of_ne_true fun hz => hnew.content_ne_empty hz hc
    have hm : (e.renamed new).metaName ≠ "" := by
      intro hm
      unfold Entry.isLive at hlive
      rw [hc, hm] at hlive
      exact absurd hlive (by decide)
    rcases readZettel_writeZettel_meta hz hm hc hsame hwell h with ⟨m, hread, hzid, halike⟩
    have hempty := hyields.content ((Entry.contentName_renamed_eq_empty hown).mp hc)
    exact ⟨_, hread, hempty.symm, (Entry.zid_completeMeta _ m).trans hzid,
      fun _ => userPairs_renamed hyields halike⟩
  by_cases hm : (e.renamed new).hasMetaInContent = false ∧ (e.renamed new).metaName = ""
  · refine ⟨_, readZettel_writeZettel_content hm.1 hm.2 hc h, rfl, ?_, fun hstores => ?_⟩
    · refine (Entry.zid_completeMeta _ _).trans ?_
      unfold Entry.impliedMeta
      rw [Meta.zid_set, Meta.zid_set]
      rfl
    · have hnone : ¬ e.StoresMeta := by
        rintro (hmeta | hembedded)
        · exact hmeta ((Entry.metaName_renamed_eq_empty hown).mp hm.2)
        · exact Bool.false_ne_true (hm.1.symm.trans hembedded)
      exact absurd hstores hnone
  -- The entry has all names that it needs.
  have hready : (e.renamed new).Ready :=
    ⟨(hnew.content hc).isName, fun hz => hnew.metadata fun hnone => hm ⟨hz, hnone⟩⟩
  rcases readZettel_writeZettel hready hsame hwell (congrArg Prod.fst h) with
    ⟨d₂, m, hrun, hread, hzid, hapart, hshared⟩
  cases congrArg Prod.snd (h.symm.trans hrun)
  refine ⟨_, hread, rfl, (Entry.zid_completeMeta _ m).trans hzid, fun _ => ?_⟩
  by_cases hshares : (e.renamed new).SharesName
  · have hpairs : ((e.renamed new).completeMeta (Header.parse new z.content).1).userPairs =
        z.metadata.userPairs :=
      userPairs_shared hyields (Entry.sharesName_of_renamed hown hshares)
    rw [hshared hshares]
    exact hpairs
  · have halike : m.StoredAlike z.metadata := hapart hshares
    exact userPairs_renamed hyields halike

end Renamed

end Files

end Kasten
