import Kasten.Proofs.Disk.Listing
import Kasten.Proofs.Files.Independence
import Kasten.Proofs.Files.Requests

/-!
# What a directory lists after a zettel was stored or deleted

Storing a zettel adds to the listing those of its targets that are seen at all. Deleting its files
takes just these out of the listing, and a file that was gone already was not listed either.
-/

namespace Kasten

open FileName (isZettelFile)

namespace Disk

variable {d : Disk} {dir folder name : String} {fault : FileFault}

/-! ## 1. Listing an open directory -/

theorem exists_isOpen (h : d.isFolder dir = true) : ∃ folder, d.IsOpen dir folder := by
  unfold isFolder item? at h
  split at h
  next folder hresolve => exact ⟨folder, hresolve, beq_iff_eq.mp h⟩
  next => cases h

namespace IsOpen

variable (h : d.IsOpen dir folder)

include h

theorem isFolder : d.isFolder dir = true := by
  unfold Disk.isFolder item?
  rw [h.resolve]
  exact beq_iff_eq.mpr h.lookup

theorem exists_listing :
    ∃ names, d.listZettel dir = .ok names ∧ ∀ n, n ∈ names ↔
      isZettelFile n = true ∧ IsName n ∧ ∃ data, d.lookup (join folder n) = some (.file data) := by
  have hplain := (place_of_resolve h.resolve).isPlain
  refine ⟨_, listZettel_of_folder h.resolve h.lookup, fun n => ?_⟩
  rw [mem_zettelFiles_children hplain]
  refine and_congr_right fun _ => and_congr_right fun hname => ?_
  -- Where a name leads to is never the working directory itself.
  have hne : join folder n ≠ "" := by
    intro hempty
    have hjoin := hplain.toList_join hname.isPart
    rw [hempty] at hjoin
    exact hname.ne_empty (String.toList_eq_nil_iff.mp (List.append_eq_nil_iff.mp hjoin.symm).2)
  unfold Disk.lookup
  rw [if_neg hne]

theorem not_startsWith_join (hname : IsPart name) : Text.startsWith (join dir name) "/" = false := by
  by_cases hempty : dir = ""
  · have hjoin : join dir name = name := by
      unfold join
      rw [hempty, beq_self_eq_true, Bool.or_true, if_pos rfl]
    rw [hjoin]
    exact hname.not_startsWith
  · apply eq_false_of_ne_true
    intro hstart
    -- The first character is that of the directory, and a way from the root is never open.
    have hroot : Text.startsWith dir "/" = true := by
      rcases prefix_join hname dir with ⟨rest, hrest⟩
      unfold Text.startsWith at hstart ⊢
      cases hdir : dir.toList with
      | nil => exact absurd (String.toList_eq_nil_iff.mp hdir) hempty
      | cons c cs =>
        rw [← hrest, hdir] at hstart
        exact hstart
    have hopen := h.resolve
    unfold Disk.resolve at hopen
    rw [if_pos hroot] at hopen
    split at hopen
    next => cases hopen
    next => cases hopen

/-- The way to a name in an open directory may be closed, but it is not missing. -/
theorem isMissing_of_error (hname : IsName name) (hfault : d.resolve (join dir name) = .error fault) :
    fault.isMissing = false := by
  unfold Disk.resolve at hfault
  split at hfault
  next =>
    cases hfault
    rfl
  next =>
    rw [if_neg (ne_true_of_eq_false (h.not_startsWith_join hname.isPart)), namesOf_join hname.isPart,
      walk_append, resolve_eq_walk h.resolve] at hfault
    have hlast : d.walk folder [name] = .error fault := hfault
    rw [walk_name_of_folder h.lookup] at hlast
    split at hlast
    next =>
      cases hlast
      rfl
    next => cases hlast

end IsOpen

end Disk

namespace Files

open Disk (IsName IsOpen join)

variable {dir folder : String} {d : Disk} {e : Entry} {z : Zettel} {name : String}
variable {names files : List String}

/-! ## 2. Storing -/

/-- The files that are written are listed besides those that were listed before. -/
theorem listZettel_writeAll {writes : List (String × Bytes)} (hne : writes ≠ [])
    (hnames : ∀ n ∈ writes.map Prod.fst, IsName n)
    (h : ((writeAll dir writes).run (FileRequest.serve dir) d).1 = .ok ()) :
    ∃ names names', d.listZettel dir = .ok names ∧
      ((writeAll dir writes).run (FileRequest.serve dir) d).2.isFolder dir = true ∧
      ((writeAll dir writes).run (FileRequest.serve dir) d).2.listZettel dir = .ok names' ∧
      ∀ n, n ∈ names' ↔ n ∈ names ∨ isZettelFile n = true ∧ n ∈ writes.map Prod.fst := by
  induction writes generalizing d with
  | nil => exact absurd rfl hne
  | cons write rest ih =>
    rcases write with ⟨name, data⟩
    have hname := hnames name List.mem_cons_self
    unfold writeAll at h ⊢
    rcases run_writeThen h with ⟨hwrite, hrun⟩
    rw [hrun] at h ⊢
    rcases Disk.listZettel_write hname hwrite with ⟨names, between, hlist, hfolder, hbetween, hfirst⟩
    by_cases hrest : rest = []
    · have hdone : ∀ d : Disk, (writeAll dir []).run (FileRequest.serve dir) d = (.ok (), d) :=
        fun d => rfl
      rw [hrest, hdone]
      refine ⟨names, between, hlist, hfolder, hbetween, fun n => ?_⟩
      rw [hfirst, List.map_singleton, List.mem_singleton]
    · -- The writes that follow find what the first has left.
      rcases ih hrest (fun n hn => hnames n (List.mem_cons_of_mem name hn)) h with
        ⟨between', names', hbetween', hfolder', hlist', hsecond⟩
      cases hbetween.symm.trans hbetween'
      refine ⟨names, names', hlist, hfolder', hlist', fun n => ?_⟩
      rw [hsecond, hfirst, List.map_cons, List.mem_cons, and_or_left, or_assoc]

theorem listZettel_writeZettel (hne : e.targets ≠ []) (hnames : ∀ n ∈ e.targets, IsName n)
    (h : ((writeZettel dir e z).run (FileRequest.serve dir) d).1 = .ok ()) :
    ∃ names names', d.listZettel dir = .ok names ∧
      ((writeZettel dir e z).run (FileRequest.serve dir) d).2.isFolder dir = true ∧
      ((writeZettel dir e z).run (FileRequest.serve dir) d).2.listZettel dir = .ok names' ∧
      ∀ n, n ∈ names' ↔ n ∈ names ∨ isZettelFile n = true ∧ n ∈ e.targets := by
  rw [writeZettel_eq] at h ⊢
  rw [← map_fst_writes e z] at hne hnames ⊢
  exact listZettel_writeAll (fun hnil => hne (congrArg _ hnil)) hnames h

/-! ## 3. Deleting -/

/-- A file is no longer listed after it was removed, or was found missing. -/
theorem listZettel_remove (hname : IsName name) (hfolder : d.isFolder dir = true)
    (hlist : d.listZettel dir = .ok names)
    (h : ∀ fault, (d.remove (join dir name)).1 = .error fault → fault.isMissing = true) :
    ∃ names', (d.remove (join dir name)).2.isFolder dir = true ∧
      (d.remove (join dir name)).2.listZettel dir = .ok names' ∧
      ∀ n, n ∈ names' ↔ n ∈ names ∧ n ≠ name := by
  rcases Disk.exists_isOpen hfolder with ⟨folder, hopen⟩
  have hopen' : (d.remove (join dir name)).2.IsOpen dir folder :=
    FileRequest.isOpen_serve (r := .remove name) (.inl hname) hopen
  rcases hopen.exists_listing with ⟨found, hfound, hmem⟩
  cases hlist.symm.trans hfound
  rcases hopen'.exists_listing with ⟨names', hlist', hmem'⟩
  refine ⟨names', hopen'.isFolder, hlist', fun n => ?_⟩
  cases hresolve : d.resolve (join dir name) with
  | error fault =>
    have hremove := Disk.remove_of_error hresolve
    have hmissing := h fault (congrArg Prod.fst hremove)
    rw [hopen.isMissing_of_error hname hresolve] at hmissing
    cases hmissing
  | ok plain =>
    rcases Disk.resolve_join hname.isPart hname.ne_up hresolve with ⟨folder', hfolder', -, hplain⟩
    cases hopen.resolve.symm.trans hfolder'
    have hserved : (FileRequest.remove name).IsServed dir d plain :=
      FileRequest.isServed_remove hresolve
        (Disk.lookup_of_wantsFolder (.inl hname) hopen hresolve)
    have hlookup : ∀ path, (d.remove (join dir name)).2.lookup path =
        if path = plain then (FileRequest.remove name).itemAfter (d.lookup plain)
        else d.lookup path := hserved.lookup
    rw [hmem', hmem, hlookup, hplain]
    by_cases hn : n = name
    · -- No folder has the name, for that could not have been removed.
      have hgone : ∀ data, (FileRequest.remove name).itemAfter (d.lookup (join folder name)) ≠
          some (.file data) := by
        intro data
        rcases hitem : d.lookup (join folder name) with _ | _ | _
        · exact nofun
        · exact nofun
        · have hreply := hserved.reply
          rw [hplain, hitem] at hreply
          exact absurd (h .isDirectory hreply) Bool.false_ne_true
      rw [hn, if_pos rfl]
      simp [hgone]
    · constructor
      · rintro ⟨hzettel, hname', data, hitem⟩
        have hne : join folder n ≠ join folder name :=
          fun heq => hn (Disk.join_injective hname'.isPart hname.isPart heq)
        rw [if_neg hne] at hitem
        exact ⟨⟨hzettel, hname', data, hitem⟩, hn⟩
      · rintro ⟨⟨hzettel, hname', data, hitem⟩, -⟩
        have hne : join folder n ≠ join folder name :=
          fun heq => hn (Disk.join_injective hname'.isPart hname.isPart heq)
        rw [if_neg hne]
        exact ⟨hzettel, hname', data, hitem⟩

/-- The first fault is kept to the end. -/
theorem always_removeFiles (dir : String) (error : StoreError) (files : List String) :
    (removeFiles dir (some error) files).Always (· = .error error) := by
  induction files with
  | nil => exact rfl
  | cons name rest ih =>
    intro reply
    cases reply with
    | ok _ => exact ih
    | error fault =>
      dsimp only
      split
      next => exact ih
      next => exact ih

theorem run_removeFiles_cons {kept : Option StoreError}
    (h : ((removeFiles dir kept (name :: files)).run (FileRequest.serve dir) d).1 = .ok ()) :
    (∀ fault, (d.remove (join dir name)).1 = .error fault → fault.isMissing = true) ∧
      (removeFiles dir kept (name :: files)).run (FileRequest.serve dir) d =
        (removeFiles dir kept files).run (FileRequest.serve dir) (d.remove (join dir name)).2 := by
  have hserve : FileRequest.serve dir (.remove name) d = d.remove (join dir name) := rfl
  rw [removeFiles, Program.run_ask, hserve] at h ⊢
  cases hreply : (d.remove (join dir name)).1 with
  | ok _ =>
    refine ⟨fun fault hfault => ?_, rfl⟩
    cases hfault
  | error fault =>
    rw [hreply] at h
    dsimp only at h ⊢
    split at h
    next hmissing =>
      rw [if_pos hmissing]
      refine ⟨fun other hother => ?_, rfl⟩
      cases hother
      exact hmissing
    next =>
      -- Any other fault would have been kept.
      have hkept : ∃ error, (kept <|> some (removeError dir name fault)) = some error := by
        cases kept with
        | none => exact ⟨_, rfl⟩
        | some error => exact ⟨_, rfl⟩
      rcases hkept with ⟨error, hkept⟩
      rw [hkept, (always_removeFiles dir error files).run _ _] at h
      cases h

/-- If all went well, none of the files is listed any more. -/
theorem listZettel_removeFiles {kept : Option StoreError} (hnames : ∀ n ∈ files, IsName n)
    (hfolder : d.isFolder dir = true) (hlist : d.listZettel dir = .ok names)
    (h : ((removeFiles dir kept files).run (FileRequest.serve dir) d).1 = .ok ()) :
    ∃ names',
      ((removeFiles dir kept files).run (FileRequest.serve dir) d).2.isFolder dir = true ∧
      ((removeFiles dir kept files).run (FileRequest.serve dir) d).2.listZettel dir = .ok names' ∧
      ∀ n, n ∈ names' ↔ n ∈ names ∧ n ∉ files := by
  -- By induction over the files; each is removed from what those before it have left.
  induction files generalizing d names with
  | nil =>
    cases kept with
    | none => exact ⟨names, hfolder, hlist, fun n => by simp⟩
    | some error => cases h
  | cons name rest ih =>
    have hrest : ∀ n ∈ rest, IsName n := fun n hn => hnames n (List.mem_cons_of_mem name hn)
    rcases run_removeFiles_cons h with ⟨hgone, hrun⟩
    rw [hrun] at h ⊢
    rcases listZettel_remove (hnames name List.mem_cons_self) hfolder hlist hgone with
      ⟨between, hfolder', hbetween, hfirst⟩
    rcases ih hrest hfolder' hbetween h with ⟨names', hfolder'', hlist', hsecond⟩
    refine ⟨names', hfolder'', hlist', fun n => ?_⟩
    rw [hsecond, hfirst, List.mem_cons, not_or, and_assoc]

/-- A file that was removed, or was found missing, cannot be read any more. -/
theorem read_remove (hname : IsName name) (hopen : d.IsOpen dir folder)
    (h : ∀ fault, (d.remove (join dir name)).1 = .error fault → fault.isMissing = true) :
    (d.remove (join dir name)).2.read (join dir name) = .error .missing := by
  have hopen' : (d.remove (join dir name)).2.IsOpen dir folder :=
    FileRequest.isOpen_serve (r := .remove name) (.inl hname) hopen
  cases hresolve : d.resolve (join dir name) with
  | error fault =>
    have hmissing := h fault (congrArg Prod.fst (Disk.remove_of_error hresolve))
    rw [hopen.isMissing_of_error hname hresolve] at hmissing
    cases hmissing
  | ok plain =>
    have hserved : (FileRequest.remove name).IsServed dir d plain :=
      FileRequest.isServed_remove hresolve
        (Disk.lookup_of_wantsFolder (.inl hname) hopen hresolve)
    have hresolve' : (d.remove (join dir name)).2.resolve (join dir name) = .ok plain :=
      (Disk.resolve_join_eq (.inl hname) hopen hopen').trans hresolve
    have hgone : (d.remove (join dir name)).2.lookup plain = none := by
      refine (hserved.lookup plain).trans ((if_pos rfl).trans ?_)
      rcases hitem : d.lookup plain with _ | _ | _
      · rfl
      · rfl
      · -- A folder would have stayed, with a fault that is none of a missing file.
        have hreply := hserved.reply
        rw [hitem] at hreply
        exact absurd (h .isDirectory hreply) Bool.false_ne_true
    rw [Disk.read_of_ok hresolve' (Disk.lookup_of_wantsFolder (.inl hname) hopen' hresolve'), hgone]

/-- If all went well, none of the files can be read any more, nor one that could not be before. -/
theorem read_removeFiles {kept : Option StoreError} (hnames : ∀ n ∈ files, IsName n)
    (hopen : d.IsOpen dir folder)
    (h : ((removeFiles dir kept files).run (FileRequest.serve dir) d).1 = .ok ()) {n : String}
    (hn : IsName n) (hgone : n ∈ files ∨ d.read (join dir n) = .error .missing) :
    ((removeFiles dir kept files).run (FileRequest.serve dir) d).2.read (join dir n) =
      .error .missing := by
  induction files generalizing d with
  | nil =>
    have hmissing := hgone.resolve_left List.not_mem_nil
    cases kept with
    | none => exact hmissing
    | some error => cases h
  | cons name rest ih =>
    have hname := hnames name List.mem_cons_self
    have hopen' : (d.remove (join dir name)).2.IsOpen dir folder :=
      FileRequest.isOpen_serve (r := .remove name) (.inl hname) hopen
    rcases run_removeFiles_cons h with ⟨hmissing, hrun⟩
    rw [hrun] at h ⊢
    refine ih (fun other hother => hnames other (List.mem_cons_of_mem name hother)) hopen' h ?_
    by_cases hsame : n = name
    · rw [hsame]
      exact .inr (read_remove hname hopen hmissing)
    · refine hgone.imp (fun hmem => (List.mem_cons.mp hmem).resolve_left hsame) fun hbefore => ?_
      -- The removal of another file does not show here.
      have hindependent : Program.Independent (FileRequest.serve dir) (.read n) (.remove name) :=
        FileRequest.independent_of_name_ne (.inl hn) (.inl hname) fun heq => absurd heq hsame
      exact (hindependent.left d).trans hbefore

end Files

end Kasten
