import Kasten.Proofs.Catalog.Tally

/-!
# A metadata file beside content that was there

Content that has no metadata yet gains a metadata file named like itself without its extension.
Whether that file is taken for metadata again when all files are sorted anew depends on what is left
of the name: a further full stop in it makes another extension.
-/

namespace Kasten.Entry

open FileName (isMetaFile)

variable {e : Entry} {z : Zid} {names files : List String}

/-! ## 1. Content without metadata -/

/-- The entry arranges the files, and there is content among them but nothing for metadata. -/
structure IsBare (e : Entry) (names : Finset String) : Prop where
  arranges : e.Arranges names
  content : e.contentName ≠ ""
  apart : e.hasMetaInContent = false
  metadata : e.metaName = ""

/-- The entry with a metadata file named like the content without its extension. -/
def beside (e : Entry) : Entry :=
  { e with metaName := FileName.base e.contentName e.contentExt }

namespace IsBare

variable {seen : Finset String} (h : e.IsBare seen)

include h

theorem prepare (m : Meta) (zettelSyntaxes : List String) :
    e.prepare m zettelSyntaxes = e.beside := by
  have hfree : (!e.hasMetaInContent && e.metaName == "") = true := by
    rw [h.apart, h.metadata]
    rfl
  unfold Entry.prepare
  rw [if_pos h.content, if_pos hfree]
  rfl

/-- Any file that could hold metadata would be the entry's metadata file. -/
theorem isMetaFile_eq_false {n : String} (hn : n ∈ seen) : isMetaFile n = false := by
  by_contra hm
  rw [Bool.not_eq_false] at hm
  exact (h.arranges.metadata.le n hn ⟨hm, h.apart⟩).1 h.metadata

theorem endsIn : FileName.EndsIn e.contentName e.contentExt := by
  have hcontent := (h.arranges.content.mem h.content).2
  rw [h.arranges.ext_eq]
  exact FileName.endsIn_ext (FileName.isMetaFile_eq_false_iff.mp hcontent).1

theorem mem_files_beside (hne : e.beside.metaName ≠ "") {n : String} :
    n ∈ e.beside.files ↔ n ∈ seen ∨ n = e.beside.metaName := by
  have hcontent : e.beside.contentName = e.contentName := rfl
  have huseless : e.beside.useless = e.useless := rfl
  rw [← h.arranges.mem_files, mem_files, mem_files, h.metadata, hcontent, huseless]
  constructor
  · rintro (⟨hn, hn' | hn'⟩ | hn)
    · exact .inl (.inl ⟨hn, .inl hn'⟩)
    · exact .inr hn'
    · exact .inl (.inr hn)
  · rintro ((⟨hn, hn' | hn'⟩ | hn) | hn)
    · exact .inl ⟨hn, .inl hn'⟩
    · exact absurd hn' hn
    · exact .inr hn
    · exact .inl ⟨hn ▸ hne, .inr hn⟩

/-! ## 2. Sorting all files anew -/

theorem not_mem_of_isMetaFile {n : String} (hm : isMetaFile n = true) : n ∉ seen := by
  intro hn
  rw [h.isMetaFile_eq_false hn] at hm
  exact Bool.noConfusion hm

theorem arranges_beside (hne : e.beside.metaName ≠ "")
    (hm : isMetaFile e.beside.metaName = true) :
    e.beside.Arranges (insert e.beside.metaName seen) := by
  have hwith := h.arranges.withMeta hne hm h.apart (.inl h.metadata)
  unfold withMeta at hwith
  rw [h.metadata, passed_empty] at hwith
  exact hwith

section Sorted

variable (hne : e.beside.metaName ≠ "") (hfiles : files.Perm e.beside.files)

include hne hfiles

theorem arranges_addAll :
    ((new e.zid).addAll files).Arranges (insert e.beside.metaName seen) := by
  have hset : ∅ ∪ files.toFinset = insert e.beside.metaName seen := by
    ext n
    rw [Finset.empty_union, List.mem_toFinset, hfiles.mem_iff, h.mem_files_beside hne,
      Finset.mem_insert, or_comm]
  have hempty : "" ∉ files := by
    rw [hfiles.mem_iff, h.mem_files_beside hne, not_or]
    exact ⟨h.arranges.named, hne.symm⟩
  have hfold := (Arranges.new e.zid).addAll files hempty
  rwa [hset] at hfold

/-- A name that counts as that of a metadata file is sorted as such again. -/
theorem alike_addAll (hm : isMetaFile e.beside.metaName = true) :
    ((new e.zid).addAll files).Alike e.beside :=
  (h.arranges_addAll hne hfiles).alike (h.arranges_beside hne hm) (zid_addAll _ files)

/-- Any other name is passed over or taken for content, and nothing is left for metadata. -/
theorem metaName_addAll (hm : isMetaFile e.beside.metaName = false) :
    ((new e.zid).addAll files).metaName = "" := by
  apply (h.arranges_addAll hne hfiles).metadata.eq_empty
  rintro n hn ⟨hmeta, -⟩
  have hnone : isMetaFile n = false := by
    rcases Finset.mem_insert.mp hn with rfl | hn
    · exact hm
    · exact h.isMetaFile_eq_false hn
  rw [hnone] at hmeta
  exact Bool.noConfusion hmeta

end Sorted

end IsBare

/-! ## 3. Files of one zettel -/

section Zettel

variable (hz : z.isValid = true) (hnames : ∀ n ∈ names, Zid.ofFileName n = z)

include hz hnames

theorem isBare_addAll (hc : ((new z).addAll names).contentName ≠ "")
    (hapart : ((new z).addAll names).hasMetaInContent = false)
    (hm : ((new z).addAll names).metaName = "") :
    ((new z).addAll names).IsBare names.toFinset := by
  have hempty : "" ∉ names := fun hin =>
    absurd ((hnames "" hin).symm ▸ hz : (Zid.ofFileName "").isValid = true) (by decide)
  have hfold := (Arranges.new z).addAll names hempty
  rw [Finset.empty_union] at hfold
  exact ⟨hfold, hc, hapart, hm⟩

theorem ofFileName_beside (h : e.IsBare names.toFinset) :
    Zid.ofFileName e.beside.metaName = z := by
  have hcontent := hnames _ (List.mem_toFinset.mp (h.arranges.contentName_mem h.content))
  exact Zid.ofFileName_of_front hz
    (Zid.front_base (Zid.front_of_ofFileName hz hcontent) h.endsIn)

theorem metaName_beside_ne_empty (h : e.IsBare names.toFinset) : e.beside.metaName ≠ "" :=
  Catalog.ne_empty_of_isValid ((ofFileName_beside hz hnames h).symm ▸ hz)

end Zettel

end Kasten.Entry
