import Kasten.Proofs.Index.Copies
import Kasten.Proofs.Index.Rooms

/-!
# What leaves before an action

An action waits until the rooms before its own are emptied. Nothing that is taken in makes these
fuller, and whatever leaves either leaves them or comes from the room of the action itself, where
the zettel leave in their order.
-/

namespace Kasten.Index.Anteroom

variable {p : Action → Bool} {y z : Zid} {action : Action} {rooms rooms' : List Room}

/-! ## 1. The rooms before -/

variable (p z) in
/-- How many entries there are before the first room that holds one of these actions for the
zettel. -/
def entriesBefore : List Room → Option Nat
  | [] => none
  | room :: rest =>
    if room.holds p z then some 0 else (entriesBefore rest).map (room.pending.size + ·)

theorem entriesBefore_of_holds {room : Room} (h : room.holds p z = true) (rest : List Room) :
    entriesBefore p z (room :: rest) = some 0 :=
  if_pos h

theorem entriesBefore_of_not_holds {room : Room} (h : room.holds p z = false) (rest : List Room) :
    entriesBefore p z (room :: rest) =
      (entriesBefore p z rest).map (room.pending.size + ·) :=
  if_neg (ne_true_of_eq_false h)

theorem isSome_entriesBefore (rooms : List Room) :
    (entriesBefore p z rooms).isSome = true ↔ 0 < rooms.countP fun room => room.holds p z := by
  induction rooms with
  | nil => exact iff_of_false Bool.false_ne_true (Nat.lt_irrefl 0)
  | cons room rest ih =>
    rw [List.countP_cons]
    cases hroom : room.holds p z with
    | true =>
      rw [entriesBefore_of_holds hroom]
      simp
    | false =>
      rw [entriesBefore_of_not_holds hroom, Option.isSome_map, ih]
      simp

/-- The action is still there, and no further behind. -/
def Nears (p : Action → Bool) (z : Zid) (rooms rooms' : List Room) : Prop :=
  ∀ n, entriesBefore p z rooms = some n → ∃ n' ≤ n, entriesBefore p z rooms' = some n'

theorem Nears.refl (rooms : List Room) : Nears p z rooms rooms := fun n h => ⟨n, Nat.le_refl n, h⟩

theorem Nears.trans {rooms'' : List Room} (h : Nears p z rooms rooms')
    (h' : Nears p z rooms' rooms'') : Nears p z rooms rooms'' := by
  intro n hn
  rcases h n hn with ⟨k, hk, hk'⟩
  rcases h' k hk' with ⟨m, hm, hm'⟩
  exact ⟨m, Nat.le_trans hm hk, hm'⟩

theorem Nears.cons (h : Nears p z rooms rooms') (room : Room) :
    Nears p z (room :: rooms) (room :: rooms') := by
  intro n hn
  cases hroom : room.holds p z with
  | true =>
    rw [entriesBefore_of_holds hroom] at hn ⊢
    exact ⟨n, Nat.le_refl n, hn⟩
  | false =>
    rw [entriesBefore_of_not_holds hroom] at hn ⊢
    rcases Option.map_eq_some_iff.mp hn with ⟨k, hk, rfl⟩
    rcases h k hk with ⟨k', hle, hk'⟩
    exact ⟨room.pending.size + k', Nat.add_le_add_left hle _,
      Option.map_eq_some_iff.mpr ⟨k', hk', rfl⟩⟩

theorem Nears.of_last {room room' : Room} (h : room.holds p z = true → room'.holds p z = true)
    (more : List Room) : Nears p z [room] (room' :: more) := by
  intro n hn
  cases hroom : room.holds p z with
  | true => exact ⟨0, Nat.zero_le n, entriesBefore_of_holds (h hroom) more⟩
  | false =>
    rw [entriesBefore_of_not_holds hroom] at hn
    cases hn

/-! ## 2. Taking in -/

section Enqueue

variable (hp : p action = true)

include hp

theorem holds_insert (room : Room) (y : Zid) (h : room.holds p z = true) :
    Room.holds { room with pending := room.pending.insert y action } p z = true := by
  rw [Room.holds_insert]
  split
  · exact hp
  · exact h

theorem nears_replace (h : replace y action rooms = some rooms') : Nears p z rooms rooms' := by
  induction rooms generalizing rooms' with
  | nil => cases h
  | cons room rest ih =>
    unfold replace at h
    split at h
    next hthere =>
      cases h
      -- The room has as many entries as before.
      have hsize : (room.pending.insert y action).size = room.pending.size := by
        rw [Std.ExtTreeMap.size_insert, if_pos (Bool.and_eq_true_iff.mp hthere).2]
      intro n hn
      cases hroom : room.holds p z with
      | true => exact ⟨0, Nat.zero_le n, entriesBefore_of_holds (holds_insert hp room y hroom) rest⟩
      | false =>
        rw [entriesBefore_of_not_holds hroom] at hn
        unfold entriesBefore
        split
        · exact ⟨0, Nat.zero_le n, rfl⟩
        · rw [hsize]
          exact ⟨n, Nat.le_refl n, hn⟩
    next =>
      rcases Option.map_eq_some_iff.mp h with ⟨rest', hrest', rfl⟩
      exact (ih hrest').cons room

theorem nears_place (maxLoad : Nat) (rooms : List Room) :
    Nears p z rooms (place maxLoad y action rooms) := by
  induction rooms with
  | nil => exact nofun
  | cons room rest ih =>
    cases rest with
    | nil =>
      unfold place
      split
      · exact .of_last (holds_insert hp room y) []
      · exact .of_last id _
    | cons next rest => exact ih.cons room

theorem nears_enqueue (a : Anteroom) (y : Zid) :
    Nears p z a.rooms (a.enqueue y action).rooms := by
  unfold enqueue
  split
  next => exact .refl _
  next =>
    split
    next hreplace => exact nears_replace hp hreplace
    next => exact nears_place hp a.maxLoad a.rooms

end Enqueue

theorem nears_foldl_enqueue (hp : p .update = true) (zids : List Zid) (a : Anteroom) :
    Nears p z a.rooms (zids.foldl (fun a y => a.enqueue y .update) a).rooms := by
  induction zids generalizing a with
  | nil => exact .refl _
  | cons y rest ih => exact (nears_enqueue hp a y).trans (ih _)

/-! ## 3. Leaving -/

/-- Where an action waits, something leaves. -/
theorem exists_takeFirst {n : Nat} (hn : entriesBefore p z rooms = some n) :
    ∃ next rooms', takeFirst rooms = (some next, rooms') := by
  induction rooms generalizing n with
  | nil => cases hn
  | cons room rest ih =>
    unfold takeFirst
    cases hmin : room.pending.minEntry? with
    | some entry => exact ⟨_, _, rfl⟩
    | none =>
      have hroom : room.holds p z = false := by
        unfold Room.holds
        rw [eq_empty_of_no_first hmin, Std.ExtTreeMap.getElem?_empty]
        rfl
      rw [entriesBefore_of_not_holds hroom] at hn
      rcases Option.map_eq_some_iff.mp hn with ⟨k, hk, -⟩
      exact ih hk

/-- What leaves was in the room of the action and is not above it, or there is one entry less before
that room. -/
theorem takeFirst_nears {n : Nat} (h : takeFirst rooms = (some (action, y), rooms'))
    (hn : entriesBefore p z rooms = some n) :
    (¬ z < y ∧ ∃ room ∈ rooms, room.pending[y]? = some action ∧ room.holds p z = true) ∨
      ∃ n', n' < n ∧ entriesBefore p z rooms' = some n' := by
  induction rooms generalizing n with
  | nil => cases h
  | cons room rest ih =>
    unfold takeFirst at h
    cases hmin : room.pending.minEntry? with
    | none =>
      rw [hmin] at h
      have hempty := eq_empty_of_no_first hmin
      have hroom : room.holds p z = false := by
        unfold Room.holds
        rw [hempty, Std.ExtTreeMap.getElem?_empty]
        rfl
      rw [entriesBefore_of_not_holds hroom, hempty, Std.ExtTreeMap.size_empty] at hn
      rcases Option.map_eq_some_iff.mp hn with ⟨k, hk, rfl⟩
      rcases ih h hk with ⟨hle, room', hmem, hboth⟩ | ⟨n', hless, hn'⟩
      · exact .inl ⟨hle, room', List.mem_cons_of_mem room hmem, hboth⟩
      · exact .inr ⟨n', by omega, hn'⟩
    | some entry =>
      rcases entry with ⟨y', action'⟩
      rw [hmin] at h
      rcases Prod.mk.inj h with ⟨hnext, hrooms⟩
      rcases Prod.mk.inj (Option.some.inj hnext) with ⟨rfl, rfl⟩
      have hentry := getElem?_of_first hmin
      cases hroom : room.holds p z with
      | true =>
        -- A room is left in the order of the identifiers, whatever their actions are.
        refine .inl ⟨?_, room, List.mem_cons_self, hentry, hroom⟩
        rcases (Option.any_eq_true _ _).mp hroom with ⟨action, hz, -⟩
        rcases eq_or_lt_of_first hmin hz with rfl | hlt
        · exact Zid.lt_irrefl _
        · exact Zid.lt_asymm (Nat.compare_eq_lt.mp hlt)
      | false =>
        rw [entriesBefore_of_not_holds hroom] at hn
        rcases Option.map_eq_some_iff.mp hn with ⟨k, hk, rfl⟩
        have hsize := size_of_first hmin
        refine .inr ?_
        rw [← hrooms]
        split
        · exact ⟨k, by omega, hk⟩
        · have hleft : Room.holds { room with pending := room.pending.erase y' } p z = false := by
            unfold Room.holds at hroom ⊢
            rw [getElem?_erase_eq]
            split
            · rfl
            · exact hroom
          rw [entriesBefore_of_not_holds hleft, hk]
          exact ⟨(room.pending.erase y').size + k, by omega, rfl⟩

end Kasten.Index.Anteroom
