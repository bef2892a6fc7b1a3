import Kasten.Index.Anteroom
import Kasten.Proofs.Map

/-!
# The last word of the anteroom

Of all that waits in the anteroom for a zettel only the last action counts: `Anteroom.word` is the
action that will be done last when the rooms are emptied, where a full scan that is asked for
concerns every zettel. Taking in an action makes it the last word, and the action that leaves is
the one that counted least.
-/

namespace Kasten.Index

/-! ## 1. Rooms -/

namespace Room

/-- What a room says of a zettel. -/
def word (room : Room) (z : Zid) : Option Action :=
  room.pending[z]?.or room.pending[Zid.invalid]?

/-- Only a room of a full scan may hold the request for one, and then nothing else. -/
structure Tidy (room : Room) : Prop where
  entries (z : Zid) (action : Action) : room.pending[z]? = some action →
    z.isValid = true ∧ action ≠ .reload ∨
      room.isReload = true ∧ z = Zid.invalid ∧ action = .reload
  alone (z : Zid) : room.pending[Zid.invalid]? ≠ none → z ≠ Zid.invalid → room.pending[z]? = none

/-- No room of a full scan is behind an ordinary one, and no two ordinary ones share a zettel. -/
def Precedes (room later : Room) : Prop :=
  room.isReload = false →
    later.isReload = false ∧ ∀ z : Zid, room.pending[z]? ≠ none → later.pending[z]? = none

end Room

theorem ne_invalid {z : Zid} (hz : z.isValid = true) : z ≠ Zid.invalid := by
  rintro rfl
  exact absurd hz (by decide)

/-- An action put into a room is what the room says of its zettel. -/
theorem Room.word_insert (room : Room) {z : Zid} (hz : z.isValid = true) (action : Action) (y : Zid) :
    Room.word { room with pending := room.pending.insert z action } y =
      if y = z then some action else room.word y := by
  have hinv : Zid.invalid ≠ z := (ne_invalid hz).symm
  show ((room.pending.insert z action)[y]?).or (room.pending.insert z action)[Zid.invalid]? = _
  rw [getElem?_insert_eq, getElem?_insert_eq, if_neg hinv]
  split
  · rfl
  · rfl

theorem Room.Tidy.insert {room : Room} (h : room.Tidy) (hord : room.isReload = false) {z : Zid}
    (hz : z.isValid = true) {action : Action} (ha : action ≠ .reload) :
    Room.Tidy { room with pending := room.pending.insert z action } := by
  refine ⟨?_, ?_⟩
  · intro y act hy
    change (room.pending.insert z action)[y]? = some act at hy
    rw [getElem?_insert_eq] at hy
    split at hy
    next heq =>
      rcases Option.some.inj hy with rfl
      exact Or.inl ⟨heq ▸ hz, ha⟩
    next => exact h.entries y act hy
  · intro y hinv
    change (room.pending.insert z action)[Zid.invalid]? ≠ none at hinv
    rw [getElem?_insert_eq, if_neg (ne_invalid hz).symm] at hinv
    rcases Option.ne_none_iff_exists'.mp hinv with ⟨act, hact⟩
    rcases h.entries _ _ hact with ⟨hvalid, -⟩ | ⟨hre, -⟩
    · exact absurd hvalid (by decide)
    · exact absurd (hord.symm.trans hre) Bool.false_ne_true

theorem Room.Tidy.erase {room : Room} (h : room.Tidy) (z : Zid) :
    Room.Tidy { room with pending := room.pending.erase z } := by
  have hsome : ∀ {y : Zid} {act : Action}, (room.pending.erase z)[y]? = some act →
      room.pending[y]? = some act := by
    intro y act hy
    rw [getElem?_erase_eq] at hy
    split at hy
    · exact absurd hy.symm (Option.some_ne_none act)
    · exact hy
  refine ⟨fun y act hy => h.entries y act (hsome hy), ?_⟩
  intro y hinv hy
  rcases Option.ne_none_iff_exists'.mp hinv with ⟨act, hact⟩
  show (room.pending.erase z)[y]? = none
  rw [getElem?_erase_eq]
  split
  · rfl
  · refine h.alone y ?_ hy
    rw [hsome hact]
    exact Option.some_ne_none act

/-- Whether an action on one zettel concerns another. -/
def Action.word (action : Action) (z y : Zid) : Option Action :=
  if action = .reload ∨ y = z then some action else none

namespace Anteroom

/-! ## 2. The last word -/

/-- What the rooms say of a zettel; a later room is right over an earlier one. -/
def roomsWord : List Room → Zid → Option Action
  | [], _ => none
  | room :: rest, z => (roomsWord rest z).or (room.word z)

def word (a : Anteroom) (z : Zid) : Option Action := roomsWord a.rooms z

structure TidyRooms (rooms : List Room) : Prop where
  each : ∀ room ∈ rooms, room.Tidy
  ordered : rooms.Pairwise Room.Precedes

def Tidy (a : Anteroom) : Prop := TidyRooms a.rooms

theorem roomsWord_append (rooms later : List Room) (z : Zid) :
    roomsWord (rooms ++ later) z = (roomsWord later z).or (roomsWord rooms z) := by
  induction rooms with
  | nil => rw [List.nil_append, roomsWord, Option.or_none]
  | cons room rest ih => rw [List.cons_append, roomsWord, roomsWord, ih, Option.or_assoc]

theorem roomsWord_eq_none {rooms : List Room} {z : Zid} (h : ∀ room ∈ rooms, room.word z = none) :
    roomsWord rooms z = none := by
  induction rooms with
  | nil => rfl
  | cons room rest ih =>
    rw [roomsWord, ih fun r hr => h r (List.mem_cons_of_mem room hr), h room List.mem_cons_self]
    rfl

theorem tidyRooms_nil : TidyRooms [] :=
  ⟨fun _ h => absurd h List.not_mem_nil, List.Pairwise.nil⟩

theorem TidyRooms.tail {room : Room} {rest : List Room} (h : TidyRooms (room :: rest)) :
    TidyRooms rest :=
  ⟨fun r hr => h.each r (List.mem_cons_of_mem room hr), (List.pairwise_cons.mp h.ordered).2⟩

/-- Ordinary rooms say nothing of a zettel that does not wait in them. -/
theorem word_eq_none_of_ordinary {room : Room} (h : room.Tidy) (hord : room.isReload = false)
    {z : Zid} (hz : room.pending[z]? = none) : room.word z = none := by
  have hinv : room.pending[Zid.invalid]? = none := by
    cases hact : room.pending[Zid.invalid]? with
    | none => rfl
    | some act =>
      rcases h.entries _ _ hact with ⟨hvalid, -⟩ | ⟨hre, -⟩
      · exact absurd hvalid (by decide)
      · exact absurd (hord.symm.trans hre) Bool.false_ne_true
  rw [Room.word, hz, hinv]
  rfl

/-! ## 3. Taking in an action -/

/-- Putting in an action for a zettel leaves what waits for others as it is. -/
structure Touches (z : Zid) (room room' : Room) : Prop where
  isReload : room'.isReload = room.isReload
  pending (y : Zid) : y ≠ z → room'.pending[y]? = room.pending[y]?

theorem Touches.refl (z : Zid) (room : Room) : Touches z room room := ⟨rfl, fun _ _ => rfl⟩

theorem touches_insert (z : Zid) (room : Room) (action : Action) :
    Touches z room { room with pending := room.pending.insert z action } := by
  refine ⟨rfl, ?_⟩
  intro y hy
  show (room.pending.insert z action)[y]? = room.pending[y]?
  rw [getElem?_insert_eq, if_neg hy]

theorem Touches.precedes {z : Zid} {room later later' : Room} (h : Touches z later later')
    (hp : room.Precedes later) (hz : room.isReload = false → room.pending[z]? = none) :
    room.Precedes later' := by
  intro hord
  rcases hp hord with ⟨hlater, hshare⟩
  refine ⟨h.isReload.trans hlater, ?_⟩
  intro y hy
  have hyz : y ≠ z := by
    rintro rfl
    exact hy (hz hord)
  rw [h.pending y hyz]
  exact hshare y hy

/-- The rooms after an action was taken in. -/
structure Took (z : Zid) (action : Action) (rooms rooms' : List Room) : Prop where
  tidy : TidyRooms rooms'
  touches : ∀ room' ∈ rooms',
    room' = single z action ∨ ∃ room ∈ rooms, Touches z room room'
  word (y : Zid) : y.isValid = true →
    roomsWord rooms' y = if y = z then some action else roomsWord rooms y

theorem getElem?_single (z y : Zid) (action : Action) :
    (single z action).pending[y]? = if y = z then some action else none := by
  show ((∅ : Std.ExtTreeMap Zid Action).insert z action)[y]? = _
  rw [getElem?_insert_eq, Std.ExtTreeMap.getElem?_empty]

section Enqueue

variable {z : Zid} {action : Action} (hz : z.isValid = true) (ha : action ≠ .reload)

include hz ha in
theorem tidy_single : (single z action).Tidy := by
  refine ⟨?_, ?_⟩
  · intro y act hy
    rw [getElem?_single] at hy
    split at hy
    next heq =>
      rw [← Option.some.inj hy, heq]
      exact Or.inl ⟨hz, ha⟩
    next => exact absurd hy.symm (Option.some_ne_none act)
  · intro y hinv
    rw [getElem?_single, if_neg (ne_invalid hz).symm] at hinv
    exact absurd rfl hinv

include hz in
theorem word_single (y : Zid) : (single z action).word y = if y = z then some action else none := by
  rw [Room.word, getElem?_single, getElem?_single, if_neg (ne_invalid hz).symm, Option.or_none]

theorem precedes_single {room : Room} (hroom : room.isReload = false → room.pending[z]? = none) :
    room.Precedes (single z action) := by
  intro hord
  refine ⟨rfl, ?_⟩
  intro y hy
  rw [getElem?_single, if_neg]
  rintro rfl
  exact hy (hroom hord)

/-- Rooms in front are left alone. -/
theorem Took.cons {room : Room} {rest rest' : List Room} (hroom : room.Tidy)
    (hnot : room.isReload = false → room.pending[z]? = none)
    (hafter : ∀ r ∈ rest, room.Precedes r) (h : Took z action rest rest') :
    Took z action (room :: rest) (room :: rest') := by
  refine ⟨⟨?_, ?_⟩, ?_, ?_⟩
  · intro r hr
    rcases List.mem_cons.mp hr with rfl | hr
    · exact hroom
    · exact h.tidy.each r hr
  · refine List.pairwise_cons.mpr ⟨?_, h.tidy.ordered⟩
    intro r hr
    rcases h.touches r hr with rfl | ⟨r', hr', htouches⟩
    · exact precedes_single hnot
    · exact htouches.precedes (hafter r' hr') hnot
  · intro r hr
    rcases List.mem_cons.mp hr with rfl | hr
    · exact Or.inr ⟨r, List.mem_cons_self, Touches.refl z r⟩
    · rcases h.touches r hr with hsingle | ⟨r', hr', htouches⟩
      · exact Or.inl hsingle
      · exact Or.inr ⟨r', List.mem_cons_of_mem room hr', htouches⟩
  · intro y hy
    rw [roomsWord, roomsWord, h.word y hy]
    split
    · rfl
    · rfl

include hz ha in
/-- The action goes into an ordinary room, and no later room knows of its zettel. -/
theorem took_insert {room : Room} {rest : List Room} (h : TidyRooms (room :: rest))
    (hord : room.isReload = false) (hrest : ∀ r ∈ rest, r.pending[z]? = none) :
    Took z action (room :: rest)
      ({ room with pending := room.pending.insert z action } :: rest) := by
  have hafter := (List.pairwise_cons.mp h.ordered).1
  refine ⟨⟨?_, ?_⟩, ?_, ?_⟩
  · intro r hr
    rcases List.mem_cons.mp hr with rfl | hr
    · exact (h.each room List.mem_cons_self).insert hord hz ha
    · exact h.each r (List.mem_cons_of_mem room hr)
  · refine List.pairwise_cons.mpr ⟨?_, (List.pairwise_cons.mp h.ordered).2⟩
    intro r hr _
    rcases hafter r hr hord with ⟨hlater, hshare⟩
    refine ⟨hlater, ?_⟩
    intro y hy
    by_cases hyz : y = z
    · rw [hyz]
      exact hrest r hr
    · rw [(touches_insert z room action).pending y hyz] at hy
      exact hshare y hy
  · intro r hr
    rcases List.mem_cons.mp hr with rfl | hr
    · exact Or.inr ⟨room, List.mem_cons_self, touches_insert z room action⟩
    · exact Or.inr ⟨r, List.mem_cons_of_mem room hr, Touches.refl z r⟩
  · intro y _
    rw [roomsWord, roomsWord, Room.word_insert room hz]
    by_cases hyz : y = z
    · -- No later room has a word on it, so that the new one is the last.
      have hnone : roomsWord rest y = none := by
        refine roomsWord_eq_none fun r hr => ?_
        rw [hyz]
        exact word_eq_none_of_ordinary (h.each r (List.mem_cons_of_mem room hr))
          (hafter r hr hord).1 (hrest r hr)
      rw [hnone, if_pos hyz, if_pos hyz]
      rfl
    · rw [if_neg hyz, if_neg hyz]

theorem not_pending {room : Room} (h : ¬ (!room.isReload && room.pending.contains z) = true) :
    room.isReload = false → room.pending[z]? = none := by
  intro hord
  rw [hord, Bool.not_false, Bool.true_and, Std.ExtTreeMap.contains_eq_isSome_getElem?,
    Bool.not_eq_true, Option.isSome_eq_false_iff, Option.isNone_iff_eq_none] at h
  exact h

include hz ha in
theorem took_replace {rooms rooms' : List Room} (h : TidyRooms rooms)
    (hr : replace z action rooms = some rooms') : Took z action rooms rooms' := by
  induction rooms generalizing rooms' with
  | nil => exact absurd hr.symm (Option.some_ne_none _)
  | cons room rest ih =>
    have hafter := (List.pairwise_cons.mp h.ordered).1
    unfold replace at hr
    by_cases hthere : (!room.isReload && room.pending.contains z) = true
    · rw [if_pos hthere] at hr
      rcases Bool.and_eq_true_iff.mp hthere with ⟨hord, hcontains⟩
      rw [Bool.not_eq_true'] at hord
      rw [Std.ExtTreeMap.contains_eq_isSome_getElem?, Option.isSome_iff_ne_none] at hcontains
      rw [← Option.some.inj hr]
      exact took_insert hz ha h hord fun r hr => (hafter r hr hord).2 z hcontains
    · rw [if_neg hthere] at hr
      rcases Option.map_eq_some_iff.mp hr with ⟨rest', hrest', rfl⟩
      exact (ih h.tail hrest').cons (h.each room List.mem_cons_self) (not_pending hthere) hafter

theorem replace_eq_none {rooms : List Room} (hr : replace z action rooms = none) :
    ∀ room ∈ rooms, room.isReload = false → room.pending[z]? = none := by
  induction rooms with
  | nil => exact fun room h => absurd h List.not_mem_nil
  | cons room rest ih =>
    unfold replace at hr
    by_cases hthere : (!room.isReload && room.pending.contains z) = true
    · rw [if_pos hthere] at hr
      exact absurd hr (Option.some_ne_none _)
    · rw [if_neg hthere, Option.map_eq_none_iff] at hr
      intro r hmem
      rcases List.mem_cons.mp hmem with rfl | hmem
      · exact not_pending hthere
      · exact ih hr r hmem

include hz ha in
theorem took_place (maxLoad : Nat) {rooms : List Room} (h : TidyRooms rooms)
    (hnot : ∀ room ∈ rooms, room.isReload = false → room.pending[z]? = none) :
    Took z action rooms (place maxLoad z action rooms) := by
  have hsingle : Took z action [] [single z action] := by
    refine ⟨⟨?_, List.pairwise_singleton _ _⟩, ?_, ?_⟩
    · intro r hr
      rw [List.mem_singleton.mp hr]
      exact tidy_single hz ha
    · intro r hr
      exact Or.inl (List.mem_singleton.mp hr)
    · intro y _
      show (none : Option Action).or ((single z action).word y) = _
      rw [Option.none_or, word_single hz]
      rfl
  induction rooms with
  | nil => exact hsingle
  | cons room rest ih =>
    have hroom := h.each room List.mem_cons_self
    have hfirst := hnot room List.mem_cons_self
    cases rest with
    | nil =>
      unfold place
      by_cases hspace : (!room.isReload && decide (room.pending.size < maxLoad)) = true
      · rw [if_pos hspace]
        have hord := (Bool.and_eq_true_iff.mp hspace).1
        rw [Bool.not_eq_true'] at hord
        exact took_insert hz ha h hord fun r hr => absurd hr List.not_mem_nil
      · rw [if_neg hspace]
        exact hsingle.cons hroom hfirst fun r hr => absurd hr List.not_mem_nil
    | cons next rest =>
      have hrest := ih h.tail fun r hr => hnot r (List.mem_cons_of_mem room hr)
      exact hrest.cons hroom hfirst (List.pairwise_cons.mp h.ordered).1

end Enqueue

/-- Taking in an action makes it the last word on its zettel, and on no other. -/
theorem took_enqueue {a : Anteroom} (h : a.Tidy) {z : Zid} (hz : z.isValid = true)
    {action : Action} (ha : action ≠ .reload) :
    Took z action a.rooms (a.enqueue z action).rooms := by
  have haccepted : (!z.isValid || action == .reload) = false := by
    rw [hz, Bool.not_true, Bool.false_or, beq_eq_false_iff_ne]
    exact ha
  unfold enqueue
  rw [haccepted, if_neg Bool.false_ne_true]
  cases hr : replace z action a.rooms with
  | some rooms => exact took_replace hz ha h hr
  | none => exact took_place hz ha a.maxLoad h (replace_eq_none hr)

theorem enqueue_of_invalid {a : Anteroom} {z : Zid} (hz : z.isValid = false) (action : Action) :
    a.enqueue z action = a := by
  unfold enqueue
  rw [hz]
  rfl

theorem tidy_enqueue {a : Anteroom} (h : a.Tidy) (z : Zid) {action : Action}
    (ha : action ≠ .reload) : (a.enqueue z action).Tidy := by
  cases hz : z.isValid with
  | true => exact (took_enqueue h hz ha).tidy
  | false =>
    rw [enqueue_of_invalid hz]
    exact h

/-- Zettel that are queued to be looked at again. -/
theorem word_foldl_enqueue {a : Anteroom} (h : a.Tidy) (zids : List Zid) :
    (zids.foldl (fun a z => a.enqueue z .update) a).Tidy ∧
      ∀ y : Zid, y.isValid = true → (zids.foldl (fun a z => a.enqueue z .update) a).word y =
        if y ∈ zids then some .update else a.word y := by
  -- By induction over the zettel, with the queue that the first ones have made.
  induction zids generalizing a with
  | nil => exact ⟨h, fun _ _ => rfl⟩
  | cons z rest ih =>
    rcases ih (tidy_enqueue h z (by decide : Action.update ≠ .reload)) with ⟨htidy, hword⟩
    refine ⟨htidy, ?_⟩
    intro y hy
    rw [List.foldl_cons, hword y hy]
    by_cases hrest : y ∈ rest
    · rw [if_pos hrest, if_pos (List.mem_cons_of_mem z hrest)]
    · rw [if_neg hrest]
      cases hz : z.isValid with
      | true =>
        rw [show (a.enqueue z .update).word y = _ from
          (took_enqueue h hz (by decide)).word y hy]
        simp only [List.mem_cons, hrest, or_false]
        rfl
      | false =>
        have hne : y ≠ z := by
          rintro rfl
          exact absurd (hy.symm.trans hz) (by decide)
        rw [enqueue_of_invalid hz, if_neg (not_or.mpr ⟨hne, hrest⟩ ∘ List.mem_cons.mp)]

/-! ## 4. Full scans -/

/-- What the ordinary rooms say. -/
def late (a : Anteroom) (z : Zid) : Option Action :=
  roomsWord (a.rooms.filter fun room => !room.isReload) z

/-- The rooms of a scan stand in front. -/
theorem rooms_eq_split {rooms : List Room} (h : rooms.Pairwise Room.Precedes) :
    rooms = rooms.filter (fun room => room.isReload) ++
      rooms.filter (fun room => !room.isReload) := by
  induction rooms with
  | nil => rfl
  | cons room rest ih =>
    rcases List.pairwise_cons.mp h with ⟨hafter, hrest⟩
    cases hre : room.isReload with
    | true =>
      rw [List.filter_cons_of_pos hre, List.filter_cons_of_neg (by rw [hre]; decide),
        List.cons_append, ← ih hrest]
    | false =>
      have hnone : (room :: rest).filter (fun room => room.isReload) = [] := by
        rw [List.filter_eq_nil_iff]
        intro r hr
        rcases List.mem_cons.mp hr with rfl | hr
        · rw [hre]
          exact Bool.false_ne_true
        · rw [(hafter r hr hre).1]
          exact Bool.false_ne_true
      have hall : (room :: rest).filter (fun room => !room.isReload) = room :: rest := by
        rw [List.filter_eq_self]
        intro r hr
        rcases List.mem_cons.mp hr with rfl | hr
        · rw [hre]
          rfl
        · rw [(hafter r hr hre).1]
          rfl
      rw [hnone, hall, List.nil_append]

/-- The ordinary rooms are right over those of a full scan. -/
theorem word_eq_late_or {a : Anteroom} (h : a.Tidy) (z : Zid) :
    a.word z = (a.late z).or (roomsWord (a.rooms.filter fun room => room.isReload) z) := by
  unfold word
  rw [rooms_eq_split h.ordered, roomsWord_append, ← rooms_eq_split h.ordered]
  rfl

/-- A room with the same action for all. -/
def scanRoom (zids : List Zid) (action : Action) : Room :=
  ⟨zids.foldl (fun m z => m.insert z action) ∅, true⟩

theorem getElem?_scanRoom (zids : List Zid) (action : Action) (y : Zid) :
    (scanRoom zids action).pending[y]? = if y ∈ zids then some action else none := by
  have hfold : ∀ m : Std.ExtTreeMap Zid Action,
      (zids.foldl (fun m z => m.insert z action) m)[y]? =
        if y ∈ zids then some action else m[y]? := by
    induction zids with
    | nil => exact fun _ => rfl
    | cons z rest ih =>
      intro m
      rw [List.foldl_cons, ih, getElem?_insert_eq]
      by_cases hy : y = z
      · simp [hy]
      · simp [hy]
  exact (hfold ∅).trans (by rw [Std.ExtTreeMap.getElem?_empty])

theorem reloadRoom_eq (zids : List Zid) (action : Action) :
    zids.filter Zid.isValid = [] ∧ reloadRoom zids action = [] ∨
      reloadRoom zids action = [scanRoom (zids.filter Zid.isValid) action] := by
  unfold reloadRoom
  split
  next hnil => exact Or.inl ⟨hnil, rfl⟩
  next => exact Or.inr rfl

theorem invalid_not_mem (zids : List Zid) : Zid.invalid ∉ zids.filter Zid.isValid :=
  fun h => ne_invalid (List.mem_filter.mp h).2 rfl

theorem tidy_scanRoom (zids : List Zid) {action : Action} (ha : action ≠ .reload) :
    (scanRoom (zids.filter Zid.isValid) action).Tidy := by
  refine ⟨?_, ?_⟩
  · intro y act hy
    rw [getElem?_scanRoom] at hy
    split at hy
    next hmem =>
      rw [← Option.some.inj hy]
      exact Or.inl ⟨(List.mem_filter.mp hmem).2, ha⟩
    next => exact absurd hy.symm (Option.some_ne_none act)
  · intro y hinv
    rw [getElem?_scanRoom, if_neg (invalid_not_mem zids)] at hinv
    exact absurd rfl hinv

theorem mem_reloadRoom {zids : List Zid} {action : Action} (ha : action ≠ .reload) {room : Room}
    (h : room ∈ reloadRoom zids action) : room.isReload = true ∧ room.Tidy := by
  rcases reloadRoom_eq zids action with ⟨-, hnil⟩ | hroom
  · rw [hnil] at h
    exact absurd h List.not_mem_nil
  · rw [hroom, List.mem_singleton] at h
    rw [h]
    exact ⟨rfl, tidy_scanRoom zids ha⟩

theorem word_reloadRoom (zids : List Zid) (action : Action) {y : Zid} (hy : y.isValid = true) :
    roomsWord (reloadRoom zids action) y = if y ∈ zids then some action else none := by
  have hmem : y ∈ zids.filter Zid.isValid ↔ y ∈ zids := by
    rw [List.mem_filter, and_iff_left hy]
  rcases reloadRoom_eq zids action with ⟨hfilter, hnil⟩ | hroom
  · rw [hfilter] at hmem
    rw [hnil, if_neg fun h => List.not_mem_nil (hmem.mpr h)]
    rfl
  · rw [hroom]
    show (none : Option Action).or ((scanRoom _ action).pending[y]?.or
      (scanRoom _ action).pending[Zid.invalid]?) = _
    rw [Option.none_or, getElem?_scanRoom, getElem?_scanRoom, if_neg (invalid_not_mem zids),
      Option.or_none]
    simp only [hmem]

/-- After a full scan its results are the last word, unless an ordinary room has one. -/
theorem word_reload (a : Anteroom) (gone there : List Zid) {y : Zid} (hy : y.isValid = true) :
    (a.reload gone there).word y =
      (a.late y).or (if y ∈ there then some .update else if y ∈ gone then some .delete else none) := by
  show roomsWord (reloadRoom gone .delete ++ reloadRoom there .update ++ _) y = _
  rw [roomsWord_append, roomsWord_append, word_reloadRoom there .update hy,
    word_reloadRoom gone .delete hy]
  unfold late
  split
  · rfl
  · rw [Option.none_or]

theorem tidy_reload {a : Anteroom} (h : a.Tidy) (gone there : List Zid) :
    (a.reload gone there).Tidy := by
  have hscan : ∀ room ∈ reloadRoom gone .delete ++ reloadRoom there .update,
      room.isReload = true ∧ room.Tidy := by
    intro room hroom
    rcases List.mem_append.mp hroom with hroom | hroom
    · exact mem_reloadRoom (by decide) hroom
    · exact mem_reloadRoom (by decide) hroom
  -- Nothing is asked of what follows the room of a scan.
  have hvacuous : ∀ {room later : Room}, room.isReload = true → room.Precedes later :=
    fun hre hord => absurd (hord.symm.trans hre) Bool.false_ne_true
  refine ⟨?_, ?_⟩
  · intro room hroom
    rcases List.mem_append.mp hroom with hroom | hroom
    · exact (hscan room hroom).2
    · exact h.each room (List.mem_filter.mp hroom).1
  · refine List.pairwise_append.mpr ⟨?_, h.ordered.filter _, ?_⟩
    · exact List.pairwise_of_forall_mem_list fun room hroom _ _ => hvacuous (hscan room hroom).1
    · exact fun room hroom _ _ => hvacuous (hscan room hroom).1

theorem word_reset (a : Anteroom) (y : Zid) : a.reset.word y = some .reload := by
  show (none : Option Action).or
    ((((∅ : Std.ExtTreeMap Zid Action).insert Zid.invalid .reload)[y]?).or
      ((∅ : Std.ExtTreeMap Zid Action).insert Zid.invalid .reload)[Zid.invalid]?) = _
  rw [Option.none_or, getElem?_insert_eq, getElem?_insert_eq, if_pos rfl,
    Std.ExtTreeMap.getElem?_empty]
  split
  · rfl
  · rfl

theorem tidy_reset (a : Anteroom) : a.reset.Tidy := by
  refine ⟨?_, List.pairwise_singleton _ _⟩
  intro room hroom
  rw [List.mem_singleton.mp hroom]
  refine ⟨?_, ?_⟩
  · intro y act hy
    change ((∅ : Std.ExtTreeMap Zid Action).insert Zid.invalid .reload)[y]? = some act at hy
    rw [getElem?_insert_eq, Std.ExtTreeMap.getElem?_empty] at hy
    split at hy
    next heq => exact Or.inr ⟨rfl, heq, (Option.some.inj hy).symm⟩
    next => exact absurd hy.symm (Option.some_ne_none act)
  · intro y _ hy
    show ((∅ : Std.ExtTreeMap Zid Action).insert Zid.invalid .reload)[y]? = none
    rw [getElem?_insert_eq, Std.ExtTreeMap.getElem?_empty, if_neg hy]

/-! ## 5. Leaving -/

/-- What is left when an action has left. -/
structure Left (action : Action) (z : Zid) (rooms rooms' : List Room) : Prop where
  tidy : TidyRooms rooms'
  entry : z.isValid = true ∧ action ≠ .reload ∨ z = Zid.invalid ∧ action = .reload
  word (y : Zid) : y.isValid = true →
    roomsWord rooms y = (roomsWord rooms' y).or (Action.word action z y)

theorem word_of_empty {room : Room} (h : room.pending = ∅) (z : Zid) : room.word z = none := by
  rw [Room.word, h, Std.ExtTreeMap.getElem?_empty, Std.ExtTreeMap.getElem?_empty]
  rfl

/-- The first action of a room goes, and is what the room says of nobody else but those that a
full scan concerns. -/
theorem word_erase {room : Room} (h : room.Tidy) {z : Zid} {action : Action}
    (hz : room.pending[z]? = some action) {y : Zid} (hy : y.isValid = true) :
    room.word y = (Room.word { room with pending := room.pending.erase z } y).or
      (Action.word action z y) := by
  have hyinv := ne_invalid hy
  show (room.pending[y]?).or room.pending[Zid.invalid]? =
    (((room.pending.erase z)[y]?).or (room.pending.erase z)[Zid.invalid]?).or
      (if action = .reload ∨ y = z then some action else none)
  rw [getElem?_erase_eq, getElem?_erase_eq]
  rcases h.entries z action hz with ⟨hvalid, hre⟩ | ⟨-, hinv, hre⟩
  · have hzinv := ne_invalid hvalid
    have hnone : room.pending[Zid.invalid]? = none := by
      cases hsome : room.pending[Zid.invalid]? with
      | none => rfl
      | some act =>
        have hgone := h.alone z (by rw [hsome]; exact Option.some_ne_none act) hzinv
        rw [hz] at hgone
        exact absurd hgone (Option.some_ne_none action)
    rw [hnone, Option.or_none]
    by_cases hyz : y = z
    · rw [if_pos hyz, if_pos (Or.inr hyz), hyz, hz]
      split <;> rfl
    · rw [if_neg hyz, if_neg (not_or.mpr ⟨hre, hyz⟩), Option.or_none]
      split <;> rw [Option.or_none]
  · have hnone : room.pending[y]? = none := by
      refine h.alone y ?_ hyinv
      rw [← hinv, hz]
      exact Option.some_ne_none action
    rw [hnone, ← hinv, hz, if_pos rfl, if_pos (Or.inl hre)]
    split <;> rfl

theorem precedes_erase_left {room later : Room} (h : room.Precedes later) (z : Zid) :
    Room.Precedes { room with pending := room.pending.erase z } later := by
  intro hord
  refine ⟨(h hord).1, ?_⟩
  intro y hy
  apply (h hord).2 y
  change (room.pending.erase z)[y]? ≠ none at hy
  rw [getElem?_erase_eq] at hy
  split at hy
  · exact absurd rfl hy
  · exact hy

theorem left_takeFirst {rooms rooms' : List Room} (h : TidyRooms rooms) {action : Action} {z : Zid}
    (ht : takeFirst rooms = (some (action, z), rooms')) : Left action z rooms rooms' := by
  induction rooms generalizing rooms' with
  | nil => exact absurd (congrArg Prod.fst ht).symm (Option.some_ne_none _)
  | cons room rest ih =>
    have hroom := h.each room List.mem_cons_self
    rcases List.pairwise_cons.mp h.ordered with ⟨hafter, hordered⟩
    unfold takeFirst at ht
    cases hmin : room.pending.minEntry? with
    | none =>
      rw [hmin] at ht
      have hrest := ih h.tail ht
      refine ⟨hrest.tidy, hrest.entry, ?_⟩
      intro y hy
      rw [roomsWord, word_of_empty (eq_empty_of_no_first hmin), Option.or_none, hrest.word y hy]
    | some entry =>
      rcases entry with ⟨z', action'⟩
      rw [hmin] at ht
      rcases Prod.mk.inj ht with ⟨hnext, hrooms⟩
      rcases Prod.mk.inj (Option.some.inj hnext) with ⟨rfl, rfl⟩
      have hz := getElem?_of_first hmin
      have hentry : z'.isValid = true ∧ action' ≠ .reload ∨
          z' = Zid.invalid ∧ action' = .reload :=
        (hroom.entries z' action' hz).imp_right And.right
      by_cases hleft : (room.pending.erase z').isEmpty = true
      · -- The room is left for good.
        rw [if_pos hleft] at hrooms
        rw [← hrooms]
        refine ⟨h.tail, hentry, ?_⟩
        intro y hy
        have hempty : Room.word { room with pending := room.pending.erase z' } y = none :=
          word_of_empty (Std.ExtTreeMap.isEmpty_iff.mp hleft) y
        rw [roomsWord, word_erase hroom hz hy, hempty, Option.none_or]
      · rw [if_neg hleft] at hrooms
        rw [← hrooms]
        refine ⟨⟨?_, ?_⟩, hentry, ?_⟩
        · intro r hr
          rcases List.mem_cons.mp hr with rfl | hr
          · exact hroom.erase z'
          · exact h.each r (List.mem_cons_of_mem room hr)
        · refine List.pairwise_cons.mpr ⟨?_, hordered⟩
          exact fun r hr => precedes_erase_left (hafter r hr) z'
        · intro y hy
          rw [roomsWord, roomsWord, word_erase hroom hz hy, Option.or_assoc]

/-- The action that leaves was the last word only where nothing else was said. -/
theorem left_dequeue {a a' : Anteroom} (h : a.Tidy) {action : Action} {z : Zid}
    (hd : a.dequeue = (some (action, z), a')) : Left action z a.rooms a'.rooms := by
  unfold dequeue at hd
  rcases Prod.mk.inj hd with ⟨hnext, rfl⟩
  exact left_takeFirst h (Prod.ext hnext rfl)

theorem word_of_isEmpty {a : Anteroom} (h : a.isEmpty = true) (z : Zid) : a.word z = none := by
  apply roomsWord_eq_none
  intro room hroom
  exact word_of_empty (Std.ExtTreeMap.isEmpty_iff.mp (List.all_eq_true.mp h room hroom)) z

/-- An action that waits alone leaves at once. -/
theorem takeFirst_single (z : Zid) (action : Action) :
    takeFirst [single z action] = (some (action, z), []) := by
  have hmin : (single z action).pending.minEntry? = some (z, action) := by
    cases hfirst : (single z action).pending.minEntry? with
    | none =>
      have hz := getElem?_single z z action
      rw [eq_empty_of_no_first hfirst, Std.ExtTreeMap.getElem?_empty, if_pos rfl] at hz
      exact absurd hz.symm (Option.some_ne_none action)
    | some entry =>
      have hentry := getElem?_of_first hfirst
      rw [getElem?_single] at hentry
      split at hentry
      next hz => rw [Option.some_inj, Prod.ext_iff]; exact ⟨hz, (Option.some.inj hentry).symm⟩
      next => exact absurd hentry.symm (Option.some_ne_none _)
  have hleft : ((single z action).pending.erase z).isEmpty = true := by
    rw [Std.ExtTreeMap.isEmpty_iff]
    refine Std.ExtTreeMap.ext_getElem? ?_
    intro y
    rw [getElem?_erase_eq, getElem?_single, Std.ExtTreeMap.getElem?_empty]
    split <;> rfl
  unfold takeFirst
  rw [hmin]
  dsimp only
  rw [if_pos hleft]

theorem dequeue_single (z : Zid) (action : Action) (maxLoad : Nat) :
    Anteroom.dequeue ⟨[single z action], maxLoad⟩ = (some (action, z), ⟨[], maxLoad⟩) := by
  unfold dequeue
  rw [takeFirst_single]

end Anteroom

end Kasten.Index
