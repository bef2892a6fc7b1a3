import Kasten.Proofs.Index.Delivery

/-!
# The rooms of the anteroom

Whatever is asked of an anteroom, its rooms keep their shape: none is empty, those of a full scan
stand in front, and no zettel waits in two ordinary rooms. Work leaves by the first of the ordinary
rooms and comes into the last, so that the others stay full.
-/

namespace Kasten.Index

/-- A room with the request for a scan holds nothing else. -/
theorem Room.Tidy.sentinel {room : Room} (h : room.Tidy) {z : Zid}
    {action : Action} (hz : room.pending[z]? = some action)
    (hout : z.isValid = false ∨ action = .reload) :
    room.isReload = true ∧ room.pending.toList = [(Zid.invalid, .reload)] := by
  rcases h.entries z action hz with ⟨hvalid, hne⟩ | ⟨hre, rfl, rfl⟩
  · rcases hout with hinvalid | hreload
    · exact absurd (hvalid.symm.trans hinvalid) (by decide)
    · exact absurd hreload hne
  · refine ⟨hre, toList_eq_of_mem_iff (List.pairwise_singleton _ _) ?_⟩
    intro y act
    rw [List.mem_singleton, Prod.mk.injEq]
    constructor
    · rintro ⟨rfl, rfl⟩
      exact hz
    · intro hy
      by_cases hinv : y = Zid.invalid
      · subst hinv
        exact ⟨rfl, Option.some.inj (hy.symm.trans hz)⟩
      · have hnone := h.alone y (by rw [hz]; exact Option.some_ne_none _) hinv
        exact absurd (hy.symm.trans hnone) (Option.some_ne_none act)

namespace Anteroom

/-! ## 1. Loads -/

/-- The number of entries of each room. -/
def loads (rooms : List Room) : List Nat := rooms.map fun room => room.pending.size

/-- No room is empty or too full, and there is space at most in the first and in the last. -/
structure Loaded (maxLoad : Nat) (loads : List Nat) : Prop where
  pos : ∀ n ∈ loads, 0 < n
  le : ∀ n ∈ loads, n ≤ maxLoad
  full : ∀ n ∈ loads.dropLast.tail, n = maxLoad

namespace Loaded

variable {maxLoad n : Nat} {front rest : List Nat}

theorem nil (maxLoad : Nat) : Loaded maxLoad [] :=
  ⟨fun _ h => absurd h List.not_mem_nil, fun _ h => absurd h List.not_mem_nil,
    fun _ h => absurd h List.not_mem_nil⟩

theorem one (h : 0 < maxLoad) : Loaded maxLoad [1] := by
  refine ⟨?_, ?_, fun _ h => absurd h List.not_mem_nil⟩
  · intro k hk
    rw [List.mem_singleton.mp hk]
    decide
  · intro k hk
    rw [List.mem_singleton.mp hk]
    exact h

/-- The first room goes away, and the next one takes its place. -/
theorem tail (h : Loaded maxLoad (n :: rest)) : Loaded maxLoad rest where
  pos k hk := h.pos k (List.mem_cons_of_mem n hk)
  le k hk := h.le k (List.mem_cons_of_mem n hk)
  full k hk := by
    cases rest with
    | nil => exact absurd hk List.not_mem_nil
    | cons next more =>
      apply h.full k
      rw [List.dropLast_cons_cons]
      exact List.mem_of_mem_tail hk

/-- An entry leaves the first room. -/
theorem lessen (h : Loaded maxLoad ((n + 1) :: rest)) (hn : 0 < n) :
    Loaded maxLoad (n :: rest) where
  pos k hk := by
    rcases List.mem_cons.mp hk with rfl | hk
    · exact hn
    · exact h.pos k (List.mem_cons_of_mem _ hk)
  le k hk := by
    rcases List.mem_cons.mp hk with rfl | hk
    · have hfirst := h.le (k + 1) List.mem_cons_self
      omega
    · exact h.le k (List.mem_cons_of_mem _ hk)
  full k hk := by
    apply h.full k
    cases rest with
    | nil => exact hk
    | cons next more =>
      rw [List.dropLast_cons_cons, List.tail_cons] at hk ⊢
      exact hk

/-- An entry comes into the last room. -/
theorem raise (h : Loaded maxLoad (front ++ [n])) (hn : n < maxLoad) :
    Loaded maxLoad (front ++ [n + 1]) where
  pos k hk := by
    rcases List.mem_append.mp hk with hk | hk
    · exact h.pos k (List.mem_append_left _ hk)
    · rw [List.mem_singleton.mp hk]
      omega
  le k hk := by
    rcases List.mem_append.mp hk with hk | hk
    · exact h.le k (List.mem_append_left _ hk)
    · rw [List.mem_singleton.mp hk]
      omega
  full k hk := by
    apply h.full k
    rw [List.dropLast_concat] at hk ⊢
    exact hk

/-- A new room is opened behind a full one. -/
theorem push (h : Loaded maxLoad (front ++ [n])) (hn : ¬ n < maxLoad) :
    Loaded maxLoad (front ++ [n, 1]) := by
  have hlast : n ∈ front ++ [n] := List.mem_append_right front List.mem_cons_self
  have hfull : n = maxLoad := by
    have hle := h.le n hlast
    omega
  have hsplit : front ++ [n, 1] = (front ++ [n]) ++ [1] := by simp
  rw [hsplit]
  refine ⟨?_, ?_, ?_⟩
  · intro k hk
    rcases List.mem_append.mp hk with hk | hk
    · exact h.pos k hk
    · rw [List.mem_singleton.mp hk]
      decide
  · intro k hk
    rcases List.mem_append.mp hk with hk | hk
    · exact h.le k hk
    · rw [List.mem_singleton.mp hk, ← hfull]
      exact h.pos n hlast
  · -- The room that was the last one is now between others, unless it is the first.
    intro k hk
    rw [List.dropLast_concat] at hk
    cases front with
    | nil => exact absurd hk List.not_mem_nil
    | cons first more =>
      rw [List.cons_append, List.tail_cons] at hk
      rcases List.mem_append.mp hk with hk | hk
      · apply h.full k
        rw [List.dropLast_concat]
        exact hk
      · rw [List.mem_singleton.mp hk]
        exact hfull

end Loaded

/-! ## 2. What is asked of the rooms -/

section Enqueue

variable {z : Zid} {action : Action}

theorem contains_eq_false {room : Room} (h : room.pending[z]? = none) :
    room.pending.contains z = false := by
  rw [Std.ExtTreeMap.contains_eq_isSome_getElem?, h]
  rfl

theorem size_single (z : Zid) (action : Action) : (single z action).pending.size = 1 := by
  show ((∅ : Std.ExtTreeMap Zid Action).insert z action).size = 1
  rw [Std.ExtTreeMap.size_insert, Std.ExtTreeMap.contains_empty, if_neg Bool.false_ne_true,
    Std.ExtTreeMap.size_empty]

/-- A later action takes no space beside the earlier one. -/
theorem loads_replace {rooms rooms' : List Room} (hr : replace z action rooms = some rooms') :
    loads rooms' = loads rooms := by
  induction rooms generalizing rooms' with
  | nil => exact absurd hr.symm (Option.some_ne_none _)
  | cons room rest ih =>
    unfold replace at hr
    by_cases hthere : (!room.isReload && room.pending.contains z) = true
    · rw [if_pos hthere] at hr
      have hsize : (room.pending.insert z action).size = room.pending.size := by
        rw [Std.ExtTreeMap.size_insert, if_pos (Bool.and_eq_true_iff.mp hthere).2]
      rw [← Option.some.inj hr]
      show (room.pending.insert z action).size :: loads rest = room.pending.size :: loads rest
      rw [hsize]
    · rw [if_neg hthere] at hr
      rcases Option.map_eq_some_iff.mp hr with ⟨rest', hrest', rfl⟩
      exact congrArg (room.pending.size :: ·) (ih hrest')

theorem place_concat (maxLoad : Nat) (front : List Room) (room : Room) :
    place maxLoad z action (front ++ [room]) = front ++ place maxLoad z action [room] := by
  induction front with
  | nil => rfl
  | cons first more ih =>
    rw [List.cons_append, List.cons_append, ← ih]
    cases more with
    | nil => rfl
    | cons next more => rfl

theorem loaded_place {maxLoad : Nat} (hmax : 0 < maxLoad) {rooms : List Room}
    (hord : ∀ room ∈ rooms, room.isReload = false)
    (hnot : ∀ room ∈ rooms, room.isReload = false → room.pending[z]? = none)
    (h : Loaded maxLoad (loads rooms)) : Loaded maxLoad (loads (place maxLoad z action rooms)) := by
  -- Only the last room gets work, and a new one behind it when it is full.
  rcases List.eq_nil_or_concat rooms with rfl | ⟨front, room, rfl⟩
  · show Loaded maxLoad [(single z action).pending.size]
    rw [size_single]
    exact .one hmax
  · rw [List.concat_eq_append] at hord hnot h ⊢
    have hroom : room ∈ front ++ [room] := List.mem_append_right front List.mem_cons_self
    have hfalse := hord room hroom
    have hsize : (room.pending.insert z action).size = room.pending.size + 1 := by
      rw [Std.ExtTreeMap.size_insert, contains_eq_false (hnot room hroom hfalse),
        if_neg Bool.false_ne_true]
    have hloads : ∀ more : List Room, loads (front ++ more) = loads front ++ loads more :=
      fun more => List.map_append
    rw [hloads] at h
    rw [place_concat, hloads]
    unfold place
    rw [hfalse, Bool.not_false, Bool.true_and]
    by_cases hspace : room.pending.size < maxLoad
    · rw [if_pos (decide_eq_true hspace)]
      show Loaded maxLoad (loads front ++ [(room.pending.insert z action).size])
      rw [hsize]
      exact h.raise hspace
    · rw [if_neg (by rwa [decide_eq_true_iff])]
      show Loaded maxLoad (loads front ++ [room.pending.size, (single z action).pending.size])
      rw [size_single]
      exact h.push hspace

theorem loaded_enqueue {maxLoad : Nat} (hmax : 0 < maxLoad) {rooms : List Room}
    (hord : ∀ room ∈ rooms, room.isReload = false) (h : Loaded maxLoad (loads rooms)) :
    Loaded maxLoad (loads (enqueue ⟨rooms, maxLoad⟩ z action).rooms) := by
  unfold enqueue
  split
  · exact h
  · dsimp only
    cases hr : replace z action rooms with
    | some rooms' =>
      show Loaded maxLoad (loads rooms')
      rw [loads_replace hr]
      exact h
    | none => exact loaded_place hmax hord (replace_eq_none hr) h

end Enqueue

/-- The rooms when an entry has left the first of them and `left` remains of it. -/
def afterFirst (left : Room) (rest : List Room) : List Room :=
  if left.pending.size = 0 then rest else left :: rest

/-- One entry of the first room goes, and the room goes with its last entry. -/
theorem takeFirst_cons {room : Room} (h : 0 < room.pending.size) (rest : List Room) :
    ∃ left : Room, left.isReload = room.isReload ∧
      left.pending.size + 1 = room.pending.size ∧
      (takeFirst (room :: rest)).2 = afterFirst left rest := by
  unfold takeFirst
  cases hmin : room.pending.minEntry? with
  | none =>
    rw [eq_empty_of_no_first hmin, Std.ExtTreeMap.size_empty] at h
    exact absurd h (Nat.lt_irrefl 0)
  | some entry =>
    rcases entry with ⟨z, action⟩
    refine ⟨{ room with pending := room.pending.erase z }, rfl, (size_of_first hmin).symm, ?_⟩
    unfold afterFirst
    dsimp only
    rw [Std.ExtTreeMap.isEmpty_eq_size_beq_zero]
    simp only [beq_iff_eq]

section AfterFirst

variable {left : Room} {rest : List Room} {p : Room → Bool}

theorem filter_afterFirst_of_pos (h : p left = true) :
    (afterFirst left rest).filter p = afterFirst left (rest.filter p) := by
  unfold afterFirst
  split
  · rfl
  · exact List.filter_cons_of_pos h

theorem filter_afterFirst_of_neg (h : ¬ p left = true) :
    (afterFirst left rest).filter p = rest.filter p := by
  unfold afterFirst
  split
  · rfl
  · exact List.filter_cons_of_neg h

theorem size_pos_afterFirst (h : ∀ room ∈ rest, 0 < room.pending.size) :
    ∀ room ∈ afterFirst left rest, 0 < room.pending.size := by
  unfold afterFirst
  split
  · exact h
  next hne =>
    intro room hroom
    rcases List.mem_cons.mp hroom with rfl | hroom
    · exact Nat.pos_of_ne_zero hne
    · exact h room hroom

theorem loaded_afterFirst {maxLoad : Nat}
    (h : Loaded maxLoad ((left.pending.size + 1) :: loads rest)) :
    Loaded maxLoad (loads (afterFirst left rest)) := by
  unfold afterFirst
  split
  · exact h.tail
  next hne => exact h.lessen (Nat.pos_of_ne_zero hne)

end AfterFirst

/-! ## 3. The rooms of a scan and the ordinary ones -/

def scanRooms (a : Anteroom) : List Room := a.rooms.filter fun room => room.isReload

def ordinaryRooms (a : Anteroom) : List Room := a.rooms.filter fun room => !room.isReload

/-- The invariant of all histories. -/
structure Furnished (a : Anteroom) : Prop where
  tidy : a.Tidy
  maxLoad_pos : 0 < a.maxLoad
  nonempty : ∀ room ∈ a.scanRooms, 0 < room.pending.size
  loaded : Loaded a.maxLoad (loads a.ordinaryRooms)

theorem maxLoad_ask (a : Anteroom) (q : Ask) : (a.ask q).2.maxLoad = a.maxLoad := by
  cases q with
  | enqueue z action =>
    show (a.enqueue z action).maxLoad = a.maxLoad
    unfold enqueue
    split
    · rfl
    · split <;> rfl
  | reload gone there => rfl
  | reset => rfl
  | dequeue => rfl

theorem isReload_of_mem_ordinaryRooms {a : Anteroom} {room : Room} (h : room ∈ a.ordinaryRooms) :
    room.isReload = false := by
  simpa using (List.mem_filter.mp h).2

theorem Tidy.enqueue_split {a : Anteroom} (h : a.Tidy) (z : Zid) (action : Action) :
    (a.enqueue z action).scanRooms = a.scanRooms ∧
      (a.enqueue z action).ordinaryRooms =
        (Anteroom.enqueue ⟨a.ordinaryRooms, a.maxLoad⟩ z action).rooms := by
  -- What is enqueued goes by the rooms of a scan.
  rcases h.exists_split with ⟨scan, ordinary, heq, hscan, hord, htidy⟩
  have hsplit := filter_split hscan hord
  have hrooms : a.rooms = scan ++ ordinary := congrArg rooms heq
  have hordinary : a.ordinaryRooms = ordinary := by
    unfold ordinaryRooms
    rw [hrooms, hsplit.2]
  have hscanned : a.scanRooms = scan := by
    unfold scanRooms
    rw [hrooms, hsplit.1]
  have hrooms' : (a.enqueue z action).rooms =
      scan ++ (Anteroom.enqueue ⟨ordinary, a.maxLoad⟩ z action).rooms := by
    rw [← rooms_enqueue hscan, ← heq]
  have hsplit' := filter_split hscan (isReload_enqueue htidy hord a.maxLoad z action)
  rw [hordinary, hscanned]
  unfold scanRooms ordinaryRooms
  rw [hrooms']
  exact hsplit'

/-- A scan that found nothing makes no room. -/
theorem size_reloadRoom_pos {zids : List Zid} {action : Action} {room : Room}
    (h : room ∈ reloadRoom zids action) : 0 < room.pending.size := by
  have hroom : ∀ z rest, 0 < (scanRoom (z :: rest) action).pending.size := by
    intro z rest
    have hz : (scanRoom (z :: rest) action).pending[z]? = some action := by
      rw [getElem?_scanRoom, if_pos List.mem_cons_self]
    rw [← Std.ExtTreeMap.length_toList]
    exact List.length_pos_of_mem (Std.ExtTreeMap.mem_toList_iff_getElem?_eq_some.mpr hz)
  unfold reloadRoom at h
  split at h
  · exact absurd h List.not_mem_nil
  next hne =>
    rw [List.mem_singleton.mp h]
    cases hzids : zids.filter Zid.isValid with
    | nil => exact absurd hzids hne
    | cons z rest => exact hroom z rest

namespace Furnished

variable {a : Anteroom}

theorem fresh (maxLoad : Nat) : (new maxLoad).Furnished where
  tidy := (carries_new maxLoad).tidy
  maxLoad_pos := by
    show 0 < if maxLoad = 0 then defaultMaxLoad else maxLoad
    split
    · decide
    next h => exact Nat.pos_of_ne_zero h
  nonempty := fun _ h => absurd h List.not_mem_nil
  loaded := .nil _

theorem enqueue (h : a.Furnished) (z : Zid) (action : Action) :
    (a.enqueue z action).Furnished := by
  by_cases haccepted : z.isValid = true ∧ action ≠ .reload
  · have hmax : (a.enqueue z action).maxLoad = a.maxLoad := a.maxLoad_ask (.enqueue z action)
    rcases h.tidy.enqueue_split z action with ⟨hscan, hordinary⟩
    refine ⟨(took_enqueue h.tidy haccepted.1 haccepted.2).tidy, hmax ▸ h.maxLoad_pos, ?_, ?_⟩
    · rw [hscan]
      exact h.nonempty
    · rw [hmax, hordinary]
      exact loaded_enqueue h.maxLoad_pos (fun _ => isReload_of_mem_ordinaryRooms) h.loaded
  · rw [enqueue_of_not_accepted haccepted]
    exact h

theorem reload (h : a.Furnished) (gone there : List Zid) : (a.reload gone there).Furnished := by
  have hscan : ∀ room ∈ reloadRoom gone .delete ++ reloadRoom there .update,
      room.isReload = true := by
    intro room hroom
    rcases List.mem_append.mp hroom with hroom | hroom
    · exact (mem_reloadRoom (by decide) hroom).1
    · exact (mem_reloadRoom (by decide) hroom).1
  have hsplit := filter_split hscan fun room (hroom : room ∈ a.ordinaryRooms) =>
    isReload_of_mem_ordinaryRooms hroom
  refine ⟨tidy_reload h.tidy gone there, h.maxLoad_pos, ?_, ?_⟩
  · intro room hroom
    rw [show (a.reload gone there).scanRooms = _ from hsplit.1] at hroom
    rcases List.mem_append.mp hroom with hroom | hroom
    · exact size_reloadRoom_pos hroom
    · exact size_reloadRoom_pos hroom
  · rw [show (a.reload gone there).ordinaryRooms = _ from hsplit.2]
    exact h.loaded

theorem reset (h : a.Furnished) : a.reset.Furnished := by
  refine ⟨tidy_reset a, h.maxLoad_pos, ?_, .nil _⟩
  intro room hroom
  rw [List.mem_singleton.mp hroom]
  show 0 < ((∅ : Std.ExtTreeMap Zid Action).insert Zid.invalid .reload).size
  decide

theorem size_pos (h : a.Furnished) : ∀ room ∈ a.rooms, 0 < room.pending.size := by
  intro room hroom
  rw [rooms_eq_split h.tidy.ordered] at hroom
  rcases List.mem_append.mp hroom with hroom | hroom
  · exact h.nonempty room hroom
  · exact h.loaded.pos _ (List.mem_map_of_mem hroom)

theorem dequeue (h : a.Furnished) : a.dequeue.2.Furnished := by
  have hnonempty := h.nonempty
  have hloaded := h.loaded
  have hpos := h.size_pos
  unfold scanRooms at hnonempty
  unfold ordinaryRooms at hloaded
  have hleft : (∀ room ∈ (takeFirst a.rooms).2.filter (fun room => room.isReload),
        0 < room.pending.size) ∧
      Loaded a.maxLoad (loads ((takeFirst a.rooms).2.filter fun room => !room.isReload)) := by
    cases hrooms : a.rooms with
    | nil =>
      rw [hrooms] at hnonempty hloaded
      exact ⟨hnonempty, hloaded⟩
    | cons room rest =>
      rw [hrooms] at hnonempty hloaded hpos
      rcases takeFirst_cons (hpos room List.mem_cons_self) rest with ⟨left, hkind, hsize, hnext⟩
      rw [hnext]
      -- The entry leaves a room of the scan as long as there is one, else the first ordinary room.
      cases hroom : room.isReload with
      | true =>
        have hscan := hkind.trans hroom
        rw [List.filter_cons_of_pos hroom] at hnonempty
        rw [List.filter_cons_of_neg (by rw [hroom]; decide)] at hloaded
        rw [filter_afterFirst_of_pos hscan, filter_afterFirst_of_neg (by rw [hscan]; decide)]
        exact ⟨size_pos_afterFirst fun r hr => hnonempty r (List.mem_cons_of_mem room hr), hloaded⟩
      | false =>
        have hordinary := hkind.trans hroom
        rw [List.filter_cons_of_neg (by rw [hroom]; decide)] at hnonempty
        rw [List.filter_cons_of_pos (by rw [hroom]; rfl)] at hloaded
        change Loaded a.maxLoad (room.pending.size :: loads _) at hloaded
        rw [filter_afterFirst_of_neg (by rw [hordinary]; decide),
          filter_afterFirst_of_pos (by rw [hordinary]; rfl)]
        rw [← hsize] at hloaded
        exact ⟨hnonempty, loaded_afterFirst hloaded⟩
  exact ⟨tidy_dequeue h.tidy, h.maxLoad_pos, hleft.1, hleft.2⟩

/-- What one step keeps. -/
theorem ask (h : a.Furnished) (q : Ask) : (a.ask q).2.Furnished := by
  cases q with
  | enqueue z action => exact h.enqueue z action
  | reload gone there => exact h.reload gone there
  | reset => exact h.reset
  | dequeue => exact h.dequeue

/-- What a history keeps. -/
theorem askAll (h : a.Furnished) (asks : List Ask) :
    (a.askAll asks).Furnished ∧ (a.askAll asks).maxLoad = a.maxLoad := by
  induction asks generalizing a with
  | nil => exact ⟨h, rfl⟩
  | cons q rest ih =>
    rcases ih (h.ask q) with ⟨hrest, hmax⟩
    exact ⟨hrest, hmax.trans (a.maxLoad_ask q)⟩

end Furnished

/-! ## 4. The shape of the rooms -/

/-- How the rooms stand, whatever was asked of them. -/
structure InShape (a : Anteroom) : Prop where
  nonempty : ∀ room ∈ a.rooms, 0 < room.pending.size
  scanFirst : a.rooms = a.scanRooms ++ a.ordinaryRooms
  load : ∀ room ∈ a.ordinaryRooms, 1 ≤ room.pending.size ∧ room.pending.size ≤ a.maxLoad
  entries : ∀ room ∈ a.ordinaryRooms, ∀ (z : Zid) (action : Action),
    room.pending[z]? = some action → z.isValid = true ∧ (action = .update ∨ action = .delete)
  apart : a.ordinaryRooms.Pairwise fun room later =>
    ∀ z : Zid, room.pending[z]? = none ∨ later.pending[z]? = none
  sentinel : ∀ room ∈ a.rooms, ∀ (z : Zid) (action : Action), room.pending[z]? = some action →
    z.isValid = false ∨ action = .reload →
      room.isReload = true ∧ room.pending.toList = [(Zid.invalid, .reload)]
  full : ∀ room ∈ a.ordinaryRooms.dropLast.tail, room.pending.size = a.maxLoad

theorem Furnished.inShape {a : Anteroom} (h : a.Furnished) : a.InShape := by
  have hmem : ∀ room ∈ a.ordinaryRooms, room.pending.size ∈ loads a.ordinaryRooms :=
    fun room hroom => List.mem_map_of_mem hroom
  have hsplit := rooms_eq_split h.tidy.ordered
  refine ⟨h.size_pos, hsplit, ?_, ?_, ?_, ?_, ?_⟩
  · exact fun room hroom => ⟨h.loaded.pos _ (hmem room hroom), h.loaded.le _ (hmem room hroom)⟩
  · intro room hroom z action hz
    rcases (h.tidy.each room (List.mem_filter.mp hroom).1).entries z action hz with
      ⟨hvalid, hne⟩ | ⟨hre, -⟩
    · refine ⟨hvalid, ?_⟩
      cases action with
      | reload => exact absurd rfl hne
      | update => exact Or.inl rfl
      | delete => exact Or.inr rfl
    · exact absurd ((isReload_of_mem_ordinaryRooms hroom).symm.trans hre) Bool.false_ne_true
  · refine (h.tidy.ordered.filter _).imp_of_mem ?_
    intro room later hroom _ hprecedes z
    by_cases hz : room.pending[z]? = none
    · exact Or.inl hz
    · exact Or.inr ((hprecedes (isReload_of_mem_ordinaryRooms hroom)).2 z hz)
  · intro room hroom z action hz hout
    exact (h.tidy.each room hroom).sentinel hz hout
  · intro room hroom
    apply h.loaded.full
    show room.pending.size ∈ (loads a.ordinaryRooms).dropLast.tail
    unfold loads
    rw [← List.map_dropLast, ← List.map_tail]
    exact List.mem_map_of_mem hroom

/-- Whatever is asked of a new anteroom, its rooms are in shape. -/
theorem askAll_inShape (maxLoad : Nat) (asks : List Ask) :
    let a := (new maxLoad).askAll asks
    a.maxLoad = (if maxLoad = 0 then defaultMaxLoad else maxLoad) ∧ a.InShape := by
  intro a
  rcases (Furnished.fresh maxLoad).askAll asks with ⟨hfurnished, hmax⟩
  exact ⟨hmax, hfurnished.inShape⟩

/-- Work has left the first of three rooms and has not yet filled the last one. -/
example : loads ((new 2).askAll [.enqueue ⟨1⟩ .update, .enqueue ⟨2⟩ .update, .enqueue ⟨3⟩ .delete,
    .enqueue ⟨4⟩ .update, .enqueue ⟨5⟩ .update, .dequeue]).rooms = [1, 2, 1] := by
  cbv

end Anteroom

end Kasten.Index
