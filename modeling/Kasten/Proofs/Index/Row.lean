import Mathlib.Logic.Function.Basic
import Kasten.Proofs.Map
import Kasten.Proofs.Zid.Slice

/-!
# Rows of a table

A table of slices is changed by putting an identifier into a row or taking it out. A row in which
nothing is left goes away, so no table ever holds an empty row.
-/

namespace Kasten.Index

variable {κ : Type} [Ord κ] [Std.TransOrd κ]

/-- Puts an identifier into a row of a table. -/
def addMember (m : Std.ExtTreeMap κ ZidSlice) (k : κ) (z : Zid) : Std.ExtTreeMap κ ZidSlice :=
  m.insert k ((m.getD k ∅).insert z)

/-- Takes an identifier out of a row, and the row out of the table when nothing is left in it. -/
def dropMember (m : Std.ExtTreeMap κ ZidSlice) (k : κ) (z : Zid) : Std.ExtTreeMap κ ZidSlice :=
  match m[k]? with
  | none => m
  | some row => if (row.erase z).isEmpty then m.erase k else m.insert k (row.erase z)

theorem omits_addMember {m : Std.ExtTreeMap κ ZidSlice} (hm : Omits m ∅) (k : κ) (z : Zid) :
    Omits (addMember m k z) ∅ := by
  refine hm.insert ?_ k
  intro h
  exact (ZidSlice.eq_empty_iff _).mp h z (ZidSlice.mem_insert.mpr (Or.inl rfl))

theorem omits_dropMember {m : Std.ExtTreeMap κ ZidSlice} (hm : Omits m ∅) (k : κ) (z : Zid) :
    Omits (dropMember m k z) ∅ := by
  unfold dropMember
  cases m[k]? with
  | none => exact hm
  | some row => exact hm.ite_erase_insert k _ _ (ZidSlice.isEmpty_iff _)

variable [Std.LawfulEqOrd κ] [DecidableEq κ]

theorem row_addMember (m : Std.ExtTreeMap κ ZidSlice) (k : κ) (z : Zid) :
    (fun a => (addMember m k z).getD a ∅) =
      Function.update (fun a => m.getD a ∅) k ((m.getD k ∅).insert z) := by
  funext a
  rw [addMember, getD_insert_eq, Function.update_apply]

theorem row_dropMember (m : Std.ExtTreeMap κ ZidSlice) (k : κ) (z : Zid) :
    (fun a => (dropMember m k z).getD a ∅) =
      Function.update (fun a => m.getD a ∅) k ((m.getD k ∅).erase z) := by
  funext a
  rw [Function.update_apply]
  unfold dropMember
  cases hrow : m[k]? with
  | none =>
    rw [getD_of_getElem?_none hrow, ZidSlice.erase_empty]
    by_cases h : a = k
    · rw [if_pos h, h]
      exact getD_of_getElem?_none hrow _
    · rw [if_neg h]
  | some row =>
    rw [getD_of_getElem? hrow]
    exact getD_ite_erase_insert _ _ _ _ _ _ (ZidSlice.isEmpty_iff _)

end Kasten.Index
