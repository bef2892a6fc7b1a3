import Kasten.Archive.Basic
import Kasten.Proofs.Disk.Listing
import Mathlib.Data.List.Sort
import Mathlib.Data.String.Basic

/-!
# Listings in order

A directory and an archive list their zettel files in ascending order, each of them once. So a
listing is known as soon as it is known which files are listed.
-/

namespace Kasten

theorem eq_of_ascending {names names' : List String} (h : names.Pairwise (· < ·))
    (h' : names'.Pairwise (· < ·)) (hmem : ∀ n, n ∈ names ↔ n ∈ names') : names = names' := by
  have hperm : names.Perm names' :=
    (List.perm_ext_iff_of_nodup (h.imp ne_of_lt) (h'.imp ne_of_lt)).mpr hmem
  exact hperm.eq_of_pairwise (fun n n' _ _ hlt hgt => absurd hgt (lt_asymm hlt)) h h'

namespace Disk

variable {d : Disk} {dir : String} {names : List String}

theorem lt_of_front {folder path path' name name' : String}
    (hname : childName? folder path = some name) (hname' : childName? folder path' = some name')
    (h : path < path') : name < name' := by
  rw [String.lt_iff_toList_lt, toList_of_childName? hname, toList_of_childName? hname'] at h
  rw [String.lt_iff_toList_lt]
  -- What stands in front of both names leaves the order to what follows.
  by_contra hnot
  rcases eq_or_lt_of_not_gt hnot with heq | hlt
  · rw [heq] at h
    exact lt_irrefl _ h
  · exact lt_asymm h (List.append_left_lt hlt)

theorem pairwise_children (d : Disk) (folder : String) :
    (d.children folder).Pairwise fun p q => p.1 < q.1 := by
  unfold children
  rw [List.pairwise_filterMap]
  refine (Std.ExtTreeMap.ordered_keys_toList (t := d.items)).imp ?_
  rintro ⟨path, item⟩ ⟨path', item'⟩ hlt p hp q hq
  rcases Option.map_eq_some_iff.mp hp with ⟨name, hname, rfl⟩
  rcases Option.map_eq_some_iff.mp hq with ⟨name', hname', rfl⟩
  exact lt_of_front hname hname' (compare_lt_iff_lt.mp hlt)

theorem pairwise_zettelFiles {items : List (String × DiskItem)}
    (h : items.Pairwise fun p q => p.1 < q.1) : (zettelFiles items).Pairwise (· < ·) := by
  unfold zettelFiles
  rw [List.pairwise_filterMap]
  refine h.imp ?_
  rintro ⟨name, item⟩ ⟨name', item'⟩ hlt n hn n' hn'
  -- A file is listed by its own name or not at all.
  cases item with
  | folder => cases hn
  | file data =>
    cases item' with
    | folder => cases hn'
    | file data' =>
      simp only [Option.ite_none_right_eq_some, Option.some.injEq] at hn hn'
      rw [← hn.2, ← hn'.2]
      exact hlt

/-- A directory lists its files in order, under whatever path. -/
theorem pairwise_listZettel (h : d.listZettel dir = .ok names) : names.Pairwise (· < ·) := by
  unfold listZettel at h
  split at h
  next items hitems =>
    cases h
    apply pairwise_zettelFiles
    unfold list at hitems
    split at hitems
    next => cases hitems
    next plain _ =>
      split at hitems
      next => cases hitems
      next =>
        split at hitems
        next => cases hitems
        next =>
          cases hitems
          exact List.Pairwise.nil
      next =>
        cases hitems
        exact d.pairwise_children plain
  next => cases h

end Disk

namespace Archive

variable {n : String}

theorem nodup_eraseDups {α : Type} [BEq α] [LawfulBEq α] (xs : List α) : xs.eraseDups.Nodup := by
  match xs with
  | [] => exact List.nodup_nil
  | x :: rest =>
    rw [List.eraseDups_cons, List.nodup_cons]
    constructor
    · intro hx
      simpa using List.mem_eraseDups.mp hx
    · exact nodup_eraseDups _
termination_by xs.length
decreasing_by exact Nat.lt_succ_of_le (List.length_filter_le _ _)

theorem mem_zettelFiles (a : Archive) :
    n ∈ a.zettelFiles ↔ n ∈ a.members.map Member.name ∧ '/' ∉ n.toList ∧
      FileName.isZettelFile n = true := by
  unfold zettelFiles
  rw [List.mem_mergeSort, List.mem_filter, List.mem_eraseDups]
  simp

theorem pairwise_zettelFiles (a : Archive) : a.zettelFiles.Pairwise (· < ·) := by
  have hnodup : a.zettelFiles.Nodup := by
    unfold zettelFiles
    exact (List.mergeSort_perm _ _).nodup_iff.mpr ((nodup_eraseDups _).filter _)
  have hsorted : a.zettelFiles.Pairwise (· ≤ ·) := List.pairwise_mergeSort' (· ≤ ·) _
  -- Names that are in order and not the same are in strict order.
  exact (hsorted.and hnodup).imp fun hboth => lt_of_le_of_ne hboth.1 hboth.2

end Archive

end Kasten
