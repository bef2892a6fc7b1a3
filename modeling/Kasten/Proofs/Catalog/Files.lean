import Kasten.Proofs.Catalog.Tally

/-!
# All files of a catalog

The files of all entries together are just the names that the catalog mirrors, each of them once.
-/

namespace Kasten

namespace Entry

theorem Arranges.nodup_files {e : Entry} {names : Finset String} (h : e.Arranges names) :
    e.files.Nodup := by
  unfold files
  rw [List.nodup_append, List.nodup_append]
  have hsingle : ∀ name : String, (if name = "" then [] else [name]).Nodup := by
    intro name
    split
    · exact List.nodup_nil
    · exact List.pairwise_singleton _ _
  refine ⟨⟨hsingle _, hsingle _, ?_⟩, h.nodup, ?_⟩
  · -- No file is there both for the content and for the metadata.
    intro c hc m hm heq
    rw [mem_of_name] at hc hm
    exact h.metaName_ne_contentName (hm.2 ▸ hm.1) (hm.2.symm.trans (heq.symm.trans hc.2))
  · intro n hn m hm heq
    rw [List.mem_append, mem_of_name, mem_of_name] at hn
    have hother := (h.mem_useless m).mp hm
    rcases hn with hn | hn
    · exact hother.2.1 (heq.symm.trans hn.2)
    · exact hother.2.2 (heq.symm.trans hn.2)

end Entry

namespace Catalog

variable {cat : Catalog} {names : Finset String}

/-- The files of all entries. -/
def files (cat : Catalog) : List String := (cat.entries fun _ => true).flatMap Entry.files

theorem files_eq (cat : Catalog) : cat.files = cat.toList.flatMap fun p => p.2.files := by
  have hentries : cat.entries (fun _ => true) = cat.toList.map Prod.snd := by
    unfold entries
    simp
  unfold files
  rw [hentries, List.flatMap_map]

theorem Mirrors.mem_files (h : cat.Mirrors names) {n : String} :
    n ∈ cat.files ↔ n ∈ names ∧ (Zid.ofFileName n).isValid = true := by
  rw [files_eq, List.mem_flatMap]
  constructor
  · rintro ⟨⟨z, e⟩, hmem, hn⟩
    have harranged := h.arranges_of_some (Std.ExtTreeMap.mem_toList_iff_getElem?_eq_some.mp hmem)
    have hof := mem_namesOf.mp (harranged.2.2.2.mem_files.mp hn)
    exact ⟨hof.1, hof.2 ▸ harranged.1⟩
  · rintro ⟨hn, hv⟩
    have hin : Zid.ofFileName n ∈ cat := (h.mem_iff _).mpr ⟨hv, n, hn, rfl⟩
    have hentry := Std.ExtTreeMap.getElem?_eq_some_getElem hin
    refine ⟨_, Std.ExtTreeMap.mem_toList_iff_getElem?_eq_some.mpr hentry, ?_⟩
    exact (h.arranges_of_some hentry).2.2.2.mem_files.mpr (mem_namesOf.mpr ⟨hn, rfl⟩)

theorem Mirrors.nodup_files (h : cat.Mirrors names) : cat.files.Nodup := by
  rw [files_eq, List.nodup_flatMap]
  constructor
  · rintro ⟨z, e⟩ hmem
    have hentry := Std.ExtTreeMap.mem_toList_iff_getElem?_eq_some.mp hmem
    exact (h.arranges_of_some hentry).2.2.2.nodup_files
  · -- A file tells by its name which entry it belongs to.
    have hof : ∀ p ∈ cat.toList, ∀ n ∈ p.2.files, Zid.ofFileName n = p.1 := by
      rintro ⟨z, e⟩ hmem n hn
      have hentry := Std.ExtTreeMap.mem_toList_iff_getElem?_eq_some.mp hmem
      exact (mem_namesOf.mp ((h.arranges_of_some hentry).2.2.2.mem_files.mp hn)).2
    refine (List.pairwise_map.mp (nodup_keys cat)).imp_of_mem ?_
    intro p q hp hq hne n hn hn'
    exact hne ((hof p hp n hn).symm.trans (hof q hq n hn'))

end Catalog

end Kasten
