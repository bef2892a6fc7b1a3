import Kasten.Proofs.Index.Anteroom

/-!
# Copies in the anteroom

The ordinary rooms hold one action at most for a zettel, and the rooms of a full scan hold others.
So there may be several, and each request brings one more at most.
-/

namespace Kasten.Index

/-- One of these actions waits in the room for the zettel. -/
def Room.holds (room : Room) (p : Action → Bool) (z : Zid) : Bool := room.pending[z]?.any p

theorem Room.holds_insert (room : Room) (p : Action → Bool) (y z : Zid) (action : Action) :
    Room.holds { room with pending := room.pending.insert y action } p z =
      if z = y then p action else room.holds p z := by
  show ((room.pending.insert y action)[z]?).any p = _
  rw [getElem?_insert_eq]
  split <;> rfl

namespace Anteroom

/-- In how many rooms one of these actions waits for the zettel. -/
def copies (a : Anteroom) (p : Action → Bool) (z : Zid) : Nat :=
  a.rooms.countP fun room => room.holds p z

section Enqueue

variable {p : Action → Bool} {y z : Zid} {action : Action}

theorem countP_insert_le (room : Room) (rest : List Room) :
    (({ room with pending := room.pending.insert y action } : Room) :: rest).countP
        (fun room => room.holds p z) ≤
      (room :: rest).countP (fun room => room.holds p z) +
        if z = y ∧ p action = true then 1 else 0 := by
  rw [List.countP_cons, List.countP_cons, Room.holds_insert]
  by_cases hz : z = y
  · rw [if_pos hz]
    by_cases hp : p action = true
    · have hboth : z = y ∧ p action = true := ⟨hz, hp⟩
      rw [if_pos hp, if_pos hboth]
      omega
    · rw [if_neg hp]
      omega
  · rw [if_neg hz]
    omega

theorem countP_single_le :
    [single y action].countP (fun room => room.holds p z) ≤
      if z = y ∧ p action = true then 1 else 0 := by
  have h : [single y action].countP (fun room => room.holds p z) ≤ _ :=
    countP_insert_le ⟨∅, false⟩ []
  have hempty : [(⟨∅, false⟩ : Room)].countP (fun room => room.holds p z) = 0 := by
    rw [List.countP_singleton, Room.holds, Std.ExtTreeMap.getElem?_empty]
    rfl
  rw [hempty, Nat.zero_add] at h
  exact h

theorem countP_replace_le {rooms rooms' : List Room} (h : replace y action rooms = some rooms') :
    rooms'.countP (fun room => room.holds p z) ≤
      rooms.countP (fun room => room.holds p z) + if z = y ∧ p action = true then 1 else 0 := by
  induction rooms generalizing rooms' with
  | nil => cases h
  | cons room rest ih =>
    unfold replace at h
    split at h
    next =>
      cases h
      exact countP_insert_le room rest
    next =>
      rcases Option.map_eq_some_iff.mp h with ⟨rest', hrest', rfl⟩
      have hrest := ih hrest'
      rw [List.countP_cons, List.countP_cons]
      omega

theorem countP_place_le (maxLoad : Nat) (rooms : List Room) :
    (place maxLoad y action rooms).countP (fun room => room.holds p z) ≤
      rooms.countP (fun room => room.holds p z) + if z = y ∧ p action = true then 1 else 0 := by
  have hsingle : [single y action].countP (fun room => room.holds p z) ≤
      if z = y ∧ p action = true then 1 else 0 := countP_single_le
  induction rooms with
  | nil => exact Nat.le_add_left_of_le hsingle
  | cons room rest ih =>
    cases rest with
    | nil =>
      unfold place
      split
      next => exact countP_insert_le room []
      next =>
        show ([room] ++ [single y action]).countP _ ≤ _
        rw [List.countP_append]
        omega
    | cons next rest =>
      unfold place
      rw [List.countP_cons, List.countP_cons]
      omega

/-- An action is one copy more at most, and none if it takes the place of another. -/
theorem copies_enqueue_le (a : Anteroom) (p : Action → Bool) (y z : Zid) (action : Action) :
    (a.enqueue y action).copies p z ≤
      a.copies p z + if z = y ∧ p action = true then 1 else 0 := by
  unfold enqueue
  split
  next => exact Nat.le_add_right _ _
  next =>
    split
    next rooms hreplace => exact countP_replace_le hreplace
    next => exact countP_place_le a.maxLoad a.rooms

end Enqueue

variable (p : Action → Bool) (z : Zid)

theorem copies_foldl_enqueue_le {zids : List Zid} (hzids : zids.Nodup) (a : Anteroom) :
    (zids.foldl (fun a y => a.enqueue y .update) a).copies p z ≤
      a.copies p z + if z ∈ zids ∧ p .update = true then 1 else 0 := by
  induction zids generalizing a with
  | nil => exact Nat.le_add_right _ _
  | cons y rest ih =>
    rcases List.nodup_cons.mp hzids with ⟨hy, hrest⟩
    have hfirst := a.copies_enqueue_le p y z .update
    have hlater := ih hrest (a.enqueue y .update)
    rw [List.foldl_cons]
    -- The zettel is asked for by the first or by a later one, but not by both.
    by_cases hzy : z = y
    · subst hzy
      simp only [hy, List.mem_cons_self, true_and, false_and, if_false] at hfirst hlater ⊢
      omega
    · simp only [hzy, List.mem_cons, false_and, false_or, if_false] at hfirst ⊢
      omega

theorem countP_reloadRoom_le (zids : List Zid) (action : Action) :
    (reloadRoom zids action).countP (fun room => room.holds p z) ≤
      if z ∈ zids ∧ p action = true then 1 else 0 := by
  rcases reloadRoom_eq zids action with ⟨-, hnil⟩ | hroom
  · rw [hnil]
    exact Nat.zero_le _
  · have hholds : (scanRoom (zids.filter Zid.isValid) action).holds p z = true →
        z ∈ zids ∧ p action = true := by
      unfold Room.holds
      rw [getElem?_scanRoom]
      split
      next hmem => exact fun hp => ⟨(List.mem_filter.mp hmem).1, hp⟩
      next => exact nofun
    rw [hroom, List.countP_singleton]
    split
    next h => exact Nat.le_of_eq (if_pos (hholds h)).symm
    next => exact Nat.zero_le _

theorem copies_reload_le (a : Anteroom) (gone there : List Zid) :
    (a.reload gone there).copies p z ≤ a.copies p z +
      ((if z ∈ there ∧ p .update = true then 1 else 0) +
        if z ∈ gone ∧ p .delete = true then 1 else 0) := by
  have hgone := countP_reloadRoom_le p z gone .delete
  have hthere := countP_reloadRoom_le p z there .update
  have hkept : (a.rooms.filter fun room => !room.isReload).countP (fun room => room.holds p z) ≤
      a.rooms.countP fun room => room.holds p z :=
    List.Sublist.countP_le List.filter_sublist
  unfold copies reload
  rw [List.countP_append, List.countP_append]
  omega

variable {p} in
theorem copies_reset (hp : p .reload = false) (a : Anteroom) : a.reset.copies p z = 0 := by
  have hnone : (single Zid.invalid .reload).holds p z = false := by
    unfold Room.holds
    rw [getElem?_single]
    split
    next => exact hp
    next => rfl
  exact List.countP_singleton.trans (if_neg (ne_true_of_eq_false hnone))

theorem countP_takeFirst {rooms rooms' : List Room} {action : Action} {y : Zid}
    (h : takeFirst rooms = (some (action, y), rooms')) :
    rooms'.countP (fun room => room.holds p z) + (if z = y ∧ p action = true then 1 else 0) =
      rooms.countP fun room => room.holds p z := by
  induction rooms with
  | nil => cases h
  | cons room rest ih =>
    rw [List.countP_cons]
    unfold takeFirst at h
    cases hmin : room.pending.minEntry? with
    | none =>
      rw [hmin] at h
      rw [ih h, Room.holds, eq_empty_of_no_first hmin, Std.ExtTreeMap.getElem?_empty]
      rfl
    | some entry =>
      rcases entry with ⟨y', action'⟩
      rw [hmin] at h
      rcases Prod.mk.inj h with ⟨hnext, hrooms⟩
      rcases Prod.mk.inj (Option.some.inj hnext) with ⟨rfl, rfl⟩
      -- What the first room holds is the entry that leaves, or stays in it.
      have hz := getElem?_of_first hmin
      have hroom : (if Room.holds { room with pending := room.pending.erase y' } p z = true then 1
          else 0) + (if z = y' ∧ p action' = true then 1 else 0) =
            if room.holds p z = true then 1 else 0 := by
        unfold Room.holds
        dsimp only
        rw [getElem?_erase_eq]
        by_cases hzy : z = y'
        · simp [hzy, hz]
        · simp [hzy]
      by_cases hleft : (room.pending.erase y').isEmpty = true
      · rw [if_pos hleft] at hrooms
        have hnone : Room.holds { room with pending := room.pending.erase y' } p z = false := by
          unfold Room.holds
          rw [Std.ExtTreeMap.isEmpty_iff.mp hleft, Std.ExtTreeMap.getElem?_empty]
          rfl
        rw [hnone, if_neg Bool.false_ne_true, Nat.zero_add] at hroom
        rw [← hrooms, hroom]
      · rw [if_neg hleft] at hrooms
        rw [← hrooms, List.countP_cons, Nat.add_assoc, hroom]

theorem copies_dequeue {a a' : Anteroom} {action : Action} {y : Zid}
    (h : a.dequeue = (some (action, y), a')) :
    a'.copies p z + (if z = y ∧ p action = true then 1 else 0) = a.copies p z := by
  unfold dequeue at h
  rcases Prod.mk.inj h with ⟨hnext, rfl⟩
  exact countP_takeFirst p z (Prod.ext hnext rfl)

end Anteroom

end Kasten.Index
