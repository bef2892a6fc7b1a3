import Kasten.Proofs.Disk.Place
import Kasten.Proofs.Entry.FileName
import Kasten.Proofs.Watch.Flat

/-!
# What a directory lists after a file was written

The zettel files that are listed are the regular files directly inside the directory, by their
names. So writing a file there adds its name to the listing, if it is a zettel file at all.
-/

namespace Kasten.Disk

open FileName (isZettelFile)

variable {d d₀ : Disk} {dir folder path plain root name n : String} {data : Bytes}
variable {item : DiskItem} {names : List String}

/-! ## 1. What is listed -/

theorem childName?_eq (folder path : String) :
    childName? folder path =
      if (front folder).isPrefixOf path.toList then
        if path.toList.drop (front folder).length = [] ∨
            (path.toList.drop (front folder).length).contains '/' then none
        else some (String.ofList (path.toList.drop (front folder).length))
      else none := rfl

theorem toList_of_childName? (h : childName? folder path = some name) :
    path.toList = front folder ++ name.toList := by
  rw [childName?_eq] at h
  split at h
  next hfront =>
    split at h
    next => cases h
    next =>
      rcases List.isPrefixOf_iff_prefix.mp hfront with ⟨rest, hrest⟩
      rw [← hrest, List.drop_left] at h
      rw [← Option.some.inj h, String.toList_ofList, hrest]
  next => cases h

theorem childName?_eq_some_iff (hfolder : IsPlain folder) (hname : IsPart name) :
    childName? folder path = some name ↔ path = join folder name := by
  have hjoin : (join folder name).toList = front folder ++ name.toList := hfolder.toList_join hname
  constructor
  · intro h
    exact String.toList_inj.mp ((toList_of_childName? h).trans hjoin.symm)
  · rintro rfl
    have hne : name.toList ≠ [] := fun hnil => hname.ne_empty (String.toList_eq_nil_iff.mp hnil)
    have hfree : ¬ (name.toList = [] ∨ name.toList.contains '/' = true) := by
      rw [not_or]
      exact ⟨hne, fun hmem => hname.slash (List.contains_iff_mem.mp hmem)⟩
    rw [childName?_eq, hjoin, if_pos (List.isPrefixOf_iff_prefix.mpr (List.prefix_append _ _)),
      List.drop_left, if_neg hfree, String.ofList_toList]

theorem mem_children (hfolder : IsPlain folder) (hname : IsPart name) :
    (name, item) ∈ d.children folder ↔ d.items[join folder name]? = some item := by
  unfold children
  rw [List.mem_filterMap]
  constructor
  · rintro ⟨⟨path, found⟩, hmem, hchild⟩
    rcases Option.map_eq_some_iff.mp hchild with ⟨other, hother, heq⟩
    cases heq
    rw [← (childName?_eq_some_iff hfolder hname).mp hother]
    exact Std.ExtTreeMap.mem_toList_iff_getElem?_eq_some.mp hmem
  · intro hitem
    refine ⟨(join folder name, item), Std.ExtTreeMap.mem_toList_iff_getElem?_eq_some.mpr hitem, ?_⟩
    show (childName? folder (join folder name)).map (fun name => (name, item)) = some (name, item)
    rw [(childName?_eq_some_iff hfolder hname).mpr rfl]
    rfl

theorem mem_zettelFiles {items : List (String × DiskItem)} :
    n ∈ zettelFiles items ↔ isZettelFile n = true ∧ ∃ data, (n, .file data) ∈ items := by
  unfold zettelFiles
  rw [List.mem_filterMap]
  constructor
  · rintro ⟨⟨name, item⟩, hmem, hn⟩
    cases item with
    | folder => cases hn
    | file data =>
      dsimp only at hn
      split at hn
      next hzettel =>
        cases hn
        exact ⟨hzettel, data, hmem⟩
      next => cases hn
  · rintro ⟨hzettel, data, hmem⟩
    refine ⟨(n, .file data), hmem, ?_⟩
    dsimp only
    rw [if_pos hzettel]

theorem isName_of_isZettelFile (h : isZettelFile n = true) (hslash : '/' ∉ n.toList) : IsName n :=
  FileName.isName_of_isValid (Bool.and_eq_true_iff.mp h).1 hslash

/-- The zettel files inside a folder. -/
theorem mem_zettelFiles_children (hfolder : IsPlain folder) :
    n ∈ zettelFiles (d.children folder) ↔
      isZettelFile n = true ∧ IsName n ∧ ∃ data, d.items[join folder n]? = some (.file data) := by
  rw [mem_zettelFiles]
  constructor
  · rintro ⟨hzettel, data, hmem⟩
    have hname := isName_of_isZettelFile hzettel (d.slash_not_mem_children folder _ hmem)
    exact ⟨hzettel, hname, data, (mem_children hfolder hname.isPart).mp hmem⟩
  · rintro ⟨hzettel, hname, data, hitem⟩
    exact ⟨hzettel, data, (mem_children hfolder hname.isPart).mpr hitem⟩

theorem listZettel_of_folder (h : d.resolve dir = .ok folder)
    (hfolder : d.lookup folder = some .folder) :
    d.listZettel dir = .ok (zettelFiles (d.children folder)) := by
  unfold listZettel list
  rw [h]
  dsimp only
  rw [hfolder]

/-- A directory has the same listing under its plain path. -/
theorem listZettel_plain (hroot : d₀.resolve dir = .ok root) (h : d.listZettel dir = .ok names) :
    d.listZettel root = .ok names := by
  unfold listZettel list at h ⊢
  cases hresolve : d.resolve dir with
  | error fault =>
    rw [hresolve] at h
    cases h
  | ok plain =>
    have hplace := place_of_resolve hresolve
    rw [hresolve] at h
    rw [resolve_unique hroot hresolve, hplace.resolve_eq]
    dsimp only at h ⊢
    cases hlookup : d.lookup plain with
    | none =>
      rw [hlookup] at h
      cases h
    | some item =>
      rw [hlookup] at h
      cases item with
      | folder => exact h
      | file data =>
        -- The plain path does not end in a slash, so a file is as good as under the other path.
        have hfile : wantsFolder plain = false := hplace.isPlain.ends
        dsimp only at h ⊢
        rw [hfile]
        split at h
        next heq =>
          split at heq
          next => cases heq
          next =>
            cases heq
            exact h
        next => cases h

theorem isZettelFile_of_mem_listZettel (h : d.listZettel dir = .ok names) (hn : n ∈ names) :
    isZettelFile n = true := by
  unfold listZettel at h
  split at h
  next =>
    cases h
    exact (mem_zettelFiles.mp hn).1
  next => cases h

/-! ## 2. What a write adds -/

theorem listZettel_write (hname : IsName name) (h : (d.write (join dir name) data).1 = .ok ()) :
    ∃ names names', d.listZettel dir = .ok names ∧
      (d.write (join dir name) data).2.isFolder dir = true ∧
      (d.write (join dir name) data).2.listZettel dir = .ok names' ∧
      ∀ n, n ∈ names' ↔ n ∈ names ∨ isZettelFile n = true ∧ n = name := by
  rcases written_of_write h with ⟨plain, hw⟩
  rcases resolve_join hname.isPart hname.ne_up hw.resolve with ⟨folder, hfolder, hopen, hplain⟩
  have hfolder' := resolve_of_folders hw.lookup_of_folder hfolder
  have hopen' := hw.lookup_of_folder folder hopen
  have hends := (place_of_resolve hfolder).isPlain
  -- The folder is where it was, and it is still a folder.
  have hstill : (d.write (join dir name) data).2.isFolder dir = true := by
    unfold isFolder item?
    rw [hfolder']
    exact beq_iff_eq.mpr hopen'
  refine ⟨_, _, listZettel_of_folder hfolder hopen, hstill,
    listZettel_of_folder hfolder' hopen', ?_⟩
  intro n
  have hitems : (d.write (join dir name) data).2.items = d.items.insert plain (.file data) :=
    congrArg Disk.items hw.disk
  rw [mem_zettelFiles_children hends, mem_zettelFiles_children hends, hitems, hplain]
  by_cases hn : n = name
  · rw [hn, getElem?_insert_eq, if_pos rfl]
    constructor
    · exact fun hin => .inr ⟨hin.1, rfl⟩
    · rintro (hin | hin)
      · exact ⟨hin.1, hin.2.1, data, rfl⟩
      · exact ⟨hin.1, hname, data, rfl⟩
  · -- Every other name stands for what it stood for.
    have hother : ∀ _ : IsName n, (d.items.insert (join folder name) (.file data))[join folder n]? =
        d.items[join folder n]? := by
      intro hname'
      have hne : join folder n ≠ join folder name :=
        fun heq => hn (join_injective hname'.isPart hname.isPart heq)
      rw [getElem?_insert_eq, if_neg hne]
    constructor
    · rintro ⟨hzettel, hname', old, hold⟩
      exact .inl ⟨hzettel, hname', old, (hother hname').symm.trans hold⟩
    · rintro (⟨hzettel, hname', old, hold⟩ | hin)
      · exact ⟨hzettel, hname', old, (hother hname').trans hold⟩
      · exact absurd hin.2 hn

end Kasten.Disk
