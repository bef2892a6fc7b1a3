import Mathlib.Logic.Function.Basic
import Kasten.Proofs.Index.Anteroom
import Kasten.Proofs.Zid.Slice

/-!
# What leaves the anteroom

Told without rooms, the anteroom is an agenda: what the last full scan left to do comes first, in
order, and then one action for each zettel for which an action was asked, the last one. Nothing of
it is lost, and nothing leaves twice.
-/

namespace Kasten.Index

/-! ## 1. Agendas -/

/-- `first` is what has to be taken before all else, and `pending` what was asked for. -/
structure Agenda where
  first : List (Action × Zid)
  pending : Zid → Option Action

/-- Valid zettel in ascending order, each once, with the same action. -/
def scanned (zids : List Zid) (action : Action) : List (Action × Zid) :=
  (ZidSet.ofZids (zids.filter Zid.isValid)).toList.map (action, ·)

namespace Agenda

def nothing : Agenda := ⟨[], fun _ => none⟩

/-- The last action that was asked for counts. -/
def enqueue (g : Agenda) (z : Zid) (action : Action) : Agenda :=
  if z.isValid = true ∧ action ≠ .reload then
    { g with pending := Function.update g.pending z (some action) }
  else g

def reload (g : Agenda) (gone there : List Zid) : Agenda :=
  { g with first := scanned gone .delete ++ scanned there .update }

def reset : Agenda := ⟨[(.reload, Zid.invalid)], fun _ => none⟩

theorem first_enqueue (g : Agenda) (z : Zid) (action : Action) :
    (g.enqueue z action).first = g.first := by
  unfold enqueue
  split <;> rfl

/-- What left is done with. -/
def deliver (g : Agenda) (next : Option (Action × Zid)) : Agenda :=
  match g.first, next with
  | _ :: rest, _ => { g with first := rest }
  | [], some (_, z) => { g with pending := Function.update g.pending z none }
  | [], none => g

section Deliver

variable {g : Agenda}

theorem deliver_first {entry : Action × Zid} {rest : List (Action × Zid)}
    (h : g.first = entry :: rest) (next : Option (Action × Zid)) :
    g.deliver next = { g with first := rest } := by
  unfold deliver
  rw [h]

theorem deliver_pending (h : g.first = []) (action : Action) (z : Zid) :
    g.deliver (some (action, z)) = { g with pending := Function.update g.pending z none } := by
  unfold deliver
  rw [h]

theorem deliver_none (h : g.first = []) : g.deliver none = g := by
  unfold deliver
  rw [h]

theorem first_deliver (g : Agenda) (next : Option (Action × Zid)) :
    (g.deliver next).first = g.first.tail := by
  unfold deliver
  split
  next h => rw [h, List.tail_cons]
  next h => rw [h, List.tail_nil]
  next h => rw [h, List.tail_nil]

theorem pending_deliver (g : Agenda) (next : Option (Action × Zid)) (y : Zid) :
    (g.deliver next).pending y = g.pending y ∨ (g.deliver next).pending y = none := by
  unfold deliver
  split
  · exact Or.inl rfl
  next z _ =>
    show Function.update g.pending z none y = _ ∨ Function.update g.pending z none y = none
    rw [Function.update_apply]
    split
    · exact Or.inr rfl
    · exact Or.inl rfl
  · exact Or.inl rfl

end Deliver

/-- What may leave. -/
inductive Next (g : Agenda) : Option (Action × Zid) → Prop where
  | first {entry : Action × Zid} {rest : List (Action × Zid)} : g.first = entry :: rest →
      Next g (some entry)
  | pending {action : Action} {z : Zid} : g.first = [] → g.pending z = some action →
      Next g (some (action, z))
  | nothing : g.first = [] → (∀ z, g.pending z = none) → Next g none

theorem Next.eq_of_first {g : Agenda} {next : Option (Action × Zid)} (h : g.Next next)
    {entry : Action × Zid} {rest : List (Action × Zid)} (hg : g.first = entry :: rest) :
    next = some entry := by
  cases h with
  | first hfirst => rw [(List.cons.inj (hfirst.symm.trans hg)).1]
  | pending hfirst _ => exact absurd (hg.symm.trans hfirst) (List.cons_ne_nil entry rest)
  | nothing hfirst _ => exact absurd (hg.symm.trans hfirst) (List.cons_ne_nil entry rest)

end Agenda

/-! ## 2. The work in rooms -/

namespace Room

def work (room : Room) : List (Action × Zid) := room.pending.toList.map Prod.swap

theorem mem_work {room : Room} {action : Action} {z : Zid} :
    (action, z) ∈ room.work ↔ room.pending[z]? = some action := by
  rw [work, List.mem_map, ← Std.ExtTreeMap.mem_toList_iff_getElem?_eq_some]
  constructor
  · rintro ⟨⟨y, act⟩, hmem, heq⟩
    rcases Prod.mk.inj heq with ⟨rfl, rfl⟩
    exact hmem
  · intro hmem
    exact ⟨(z, action), hmem, rfl⟩

theorem map_snd_work (room : Room) : room.work.map Prod.snd = room.pending.toList.map Prod.fst := by
  rw [work, List.map_map]
  rfl

theorem work_eq_nil {room : Room} (h : room.pending = ∅) : room.work = [] := by
  rw [work, h, Std.ExtTreeMap.toList_eq_nil_iff.mpr rfl, List.map_nil]

theorem work_of_first {room : Room} {z : Zid} {action : Action}
    (h : room.pending.minEntry? = some (z, action)) :
    room.work = (action, z) :: Room.work { room with pending := room.pending.erase z } := by
  rw [work, toList_of_first h]
  rfl

end Room

namespace Anteroom

/-- The work of some rooms, in the order in which it leaves. -/
def roomsWork (rooms : List Room) : List (Action × Zid) := rooms.flatMap Room.work

def scanWork (a : Anteroom) : List (Action × Zid) :=
  roomsWork (a.rooms.filter fun room => room.isReload)

def ordinaryWork (a : Anteroom) : List (Action × Zid) :=
  roomsWork (a.rooms.filter fun room => !room.isReload)

theorem roomsWork_cons (room : Room) (rest : List Room) :
    roomsWork (room :: rest) = room.work ++ roomsWork rest :=
  List.flatMap_cons

theorem roomsWork_append (rooms later : List Room) :
    roomsWork (rooms ++ later) = roomsWork rooms ++ roomsWork later :=
  List.flatMap_append

section Ordinary

variable {rooms : List Room} (h : TidyRooms rooms)
  (hord : ∀ room ∈ rooms, room.isReload = false)

include h hord

/-- In ordinary rooms there is for each zettel only the last word. -/
theorem mem_roomsWork_iff {action : Action} {z : Zid} :
    (action, z) ∈ roomsWork rooms ↔ z.isValid = true ∧ roomsWord rooms z = some action := by
  induction rooms with
  | nil =>
    constructor
    · exact fun hmem => absurd hmem List.not_mem_nil
    · exact fun hword => absurd hword.2.symm (Option.some_ne_none action)
  | cons room rest ih =>
    have hroom := h.each room List.mem_cons_self
    have hfirst := hord room List.mem_cons_self
    have hafter := (List.pairwise_cons.mp h.ordered).1
    rw [roomsWork_cons, List.mem_append, Room.mem_work,
      ih h.tail fun r hr => hord r (List.mem_cons_of_mem room hr), roomsWord]
    cases hz : room.pending[z]? with
    | none =>
      rw [word_eq_none_of_ordinary hroom hfirst hz, Option.or_none]
      exact or_iff_right (Option.some_ne_none action).symm
    | some act =>
      -- The later rooms know nothing of the zettel.
      have hne : room.pending[z]? ≠ none := by
        rw [hz]
        exact Option.some_ne_none act
      have hrest : roomsWord rest z = none := by
        refine roomsWord_eq_none fun r hr => ?_
        exact word_eq_none_of_ordinary (h.each r (List.mem_cons_of_mem room hr))
          (hafter r hr hfirst).1 ((hafter r hr hfirst).2 z hne)
      have hvalid : z.isValid = true := by
        rcases hroom.entries z act hz with ⟨hvalid, -⟩ | ⟨hre, -⟩
        · exact hvalid
        · exact absurd (hfirst.symm.trans hre) Bool.false_ne_true
      rw [hrest, Room.word, hz, Option.none_or, Option.some_or]
      simp [hvalid]

/-- No zettel is twice in ordinary rooms. -/
theorem nodup_roomsWork : ((roomsWork rooms).map Prod.snd).Nodup := by
  induction rooms with
  | nil => exact List.nodup_nil
  | cons room rest ih =>
    have hfirst := hord room List.mem_cons_self
    have hafter := (List.pairwise_cons.mp h.ordered).1
    rw [roomsWork_cons, List.map_append, room.map_snd_work, List.nodup_append]
    refine ⟨nodup_keys room.pending,
      ih h.tail fun r hr => hord r (List.mem_cons_of_mem room hr), ?_⟩
    rintro z hz _ hrest rfl
    rcases List.mem_map.mp hz with ⟨⟨_, action⟩, hpair, rfl⟩
    rcases List.mem_map.mp hrest with ⟨⟨act, _⟩, hwork, heq⟩
    rcases List.mem_flatMap.mp hwork with ⟨r, hr, hmem⟩
    have hlater := Room.mem_work.mp hmem
    rw [Std.ExtTreeMap.mem_toList_iff_getElem?_eq_some] at hpair
    have hnone := (hafter r hr hfirst).2 _ (by rw [hpair]; exact Option.some_ne_none action)
    change _ = _ at heq
    subst heq
    exact absurd (hlater.symm.trans hnone) (Option.some_ne_none act)

end Ordinary

/-! ## 3. Rooms of full scans and ordinary ones -/

theorem filter_split {scan ordinary : List Room} (hscan : ∀ room ∈ scan, room.isReload = true)
    (hord : ∀ room ∈ ordinary, room.isReload = false) :
    (scan ++ ordinary).filter (fun room => room.isReload) = scan ∧
      (scan ++ ordinary).filter (fun room => !room.isReload) = ordinary := by
  rw [List.filter_append, List.filter_append]
  have h1 : scan.filter (fun room => room.isReload) = scan := List.filter_eq_self.mpr hscan
  have h2 : scan.filter (fun room => !room.isReload) = [] := by
    rw [List.filter_eq_nil_iff]
    intro room hroom
    rw [hscan room hroom]
    decide
  have h3 : ordinary.filter (fun room => room.isReload) = [] := by
    rw [List.filter_eq_nil_iff]
    intro room hroom
    rw [hord room hroom]
    decide
  have h4 : ordinary.filter (fun room => !room.isReload) = ordinary := by
    rw [List.filter_eq_self]
    intro room hroom
    rw [hord room hroom]
    rfl
  rw [h1, h2, h3, h4, List.append_nil, List.nil_append]
  exact ⟨rfl, rfl⟩

theorem replace_append {scan : List Room} (hscan : ∀ room ∈ scan, room.isReload = true) (z : Zid)
    (action : Action) (ordinary : List Room) :
    replace z action (scan ++ ordinary) = (replace z action ordinary).map (scan ++ ·) := by
  induction scan with
  | nil => simp
  | cons room rest ih =>
    have hroom := hscan room List.mem_cons_self
    rw [List.cons_append, replace, hroom, ih fun r hr => hscan r (List.mem_cons_of_mem room hr)]
    rw [Bool.not_true, Bool.false_and, if_neg Bool.false_ne_true, Option.map_map]
    rfl

theorem place_append {scan : List Room} (hscan : ∀ room ∈ scan, room.isReload = true)
    (maxLoad : Nat) (z : Zid) (action : Action) (ordinary : List Room) :
    place maxLoad z action (scan ++ ordinary) = scan ++ place maxLoad z action ordinary := by
  induction scan with
  | nil => rfl
  | cons room rest ih =>
    have hroom := hscan room List.mem_cons_self
    have hrest := ih fun r hr => hscan r (List.mem_cons_of_mem room hr)
    rw [List.cons_append, List.cons_append, ← hrest]
    -- The room of a scan is passed by, be it the last one or not.
    cases rest ++ ordinary with
    | nil => simp [place, hroom]
    | cons next more => simp [place]

theorem rooms_enqueue {scan ordinary : List Room} (hscan : ∀ room ∈ scan, room.isReload = true)
    (maxLoad : Nat) (z : Zid) (action : Action) :
    (enqueue ⟨scan ++ ordinary, maxLoad⟩ z action).rooms =
      scan ++ (enqueue ⟨ordinary, maxLoad⟩ z action).rooms := by
  unfold enqueue
  split
  · rfl
  · dsimp only
    rw [replace_append hscan]
    cases replace z action ordinary with
    | none => exact place_append hscan maxLoad z action ordinary
    | some rooms => rfl

/-- What leaves is the first of the work, and the rest of it is left. -/
theorem takeFirst_work (rooms : List Room) :
    (takeFirst rooms).1 = (roomsWork rooms).head? ∧
      roomsWork (takeFirst rooms).2 = (roomsWork rooms).tail := by
  induction rooms with
  | nil => exact ⟨rfl, rfl⟩
  | cons room rest ih =>
    unfold takeFirst
    rw [roomsWork_cons]
    cases hmin : room.pending.minEntry? with
    | none =>
      rw [Room.work_eq_nil (eq_empty_of_no_first hmin)]
      exact ih
    | some entry =>
      rcases entry with ⟨z, action⟩
      rw [Room.work_of_first hmin, List.cons_append]
      refine ⟨rfl, ?_⟩
      dsimp only [List.tail_cons]
      -- A room is dropped with its last entry, so it has no work left then.
      by_cases hleft : (room.pending.erase z).isEmpty = true
      · have hnil : Room.work { room with pending := room.pending.erase z } = [] :=
          Room.work_eq_nil (Std.ExtTreeMap.isEmpty_iff.mp hleft)
        rw [if_pos hleft, hnil, List.nil_append]
      · rw [if_neg hleft, roomsWork_cons]

theorem isReload_takeFirst {rooms : List Room} {isReload : Bool}
    (h : ∀ room ∈ rooms, room.isReload = isReload) :
    ∀ room ∈ (takeFirst rooms).2, room.isReload = isReload := by
  induction rooms with
  | nil => exact h
  | cons room rest ih =>
    have hrest : ∀ r ∈ rest, r.isReload = isReload := fun r hr => h r (List.mem_cons_of_mem room hr)
    unfold takeFirst
    cases room.pending.minEntry? with
    | none => exact ih hrest
    | some entry =>
      dsimp only
      split
      · exact hrest
      · intro r hr
        rcases List.mem_cons.mp hr with rfl | hr
        · exact h room List.mem_cons_self
        · exact hrest r hr

/-- Ordinary rooms wait until the rooms of a scan are done with. -/
theorem takeFirst_append (scan ordinary : List Room) :
    takeFirst (scan ++ ordinary) =
      if roomsWork scan = [] then takeFirst ordinary
      else ((takeFirst scan).1, (takeFirst scan).2 ++ ordinary) := by
  induction scan with
  | nil => rfl
  | cons room rest ih =>
    rw [List.cons_append, takeFirst, takeFirst, roomsWork_cons]
    cases hmin : room.pending.minEntry? with
    | none =>
      rw [Room.work_eq_nil (eq_empty_of_no_first hmin)]
      exact ih
    | some entry =>
      rcases entry with ⟨z, action⟩
      rw [Room.work_of_first hmin, List.cons_append, if_neg (List.cons_ne_nil _ _)]
      dsimp only
      split
      · rfl
      · rfl

theorem takeFirst_eq_nil {rooms : List Room} (h : (takeFirst rooms).1 = none) :
    (takeFirst rooms).2 = [] := by
  induction rooms with
  | nil => rfl
  | cons room rest ih =>
    unfold takeFirst at h ⊢
    cases hmin : room.pending.minEntry? with
    | none =>
      rw [hmin] at h
      exact ih h
    | some entry =>
      rw [hmin] at h
      exact absurd h (Option.some_ne_none _)

/-! ## 4. Rooms that carry an agenda -/

structure Carries (a : Anteroom) (g : Agenda) : Prop where
  tidy : a.Tidy
  first : a.scanWork = g.first
  pending (action : Action) (z : Zid) :
    (action, z) ∈ a.ordinaryWork ↔ g.pending z = some action

theorem work_of_split {a : Anteroom} {scan ordinary : List Room}
    (hrooms : a.rooms = scan ++ ordinary) (hscan : ∀ room ∈ scan, room.isReload = true)
    (hord : ∀ room ∈ ordinary, room.isReload = false) :
    a.scanWork = roomsWork scan ∧ a.ordinaryWork = roomsWork ordinary := by
  unfold scanWork ordinaryWork
  rw [hrooms, (filter_split hscan hord).1, (filter_split hscan hord).2]
  exact ⟨rfl, rfl⟩

/-- The rooms of a scan, and the ordinary ones behind them. -/
theorem Tidy.exists_split {a : Anteroom} (h : a.Tidy) : ∃ scan ordinary : List Room,
    a = ⟨scan ++ ordinary, a.maxLoad⟩ ∧ (∀ room ∈ scan, room.isReload = true) ∧
      (∀ room ∈ ordinary, room.isReload = false) ∧ TidyRooms ordinary := by
  refine ⟨a.rooms.filter fun room => room.isReload, a.rooms.filter fun room => !room.isReload,
    ?_, ?_, ?_, ?_, ?_⟩
  · rw [← rooms_eq_split h.ordered]
  · exact fun room hroom => (List.mem_filter.mp hroom).2
  · intro room hroom
    simpa using (List.mem_filter.mp hroom).2
  · exact fun room hroom => h.each room (List.mem_filter.mp hroom).1
  · exact h.ordered.filter _

theorem carries_new (maxLoad : Nat) : (new maxLoad).Carries Agenda.nothing where
  tidy := tidyRooms_nil
  first := rfl
  pending action z := by
    constructor
    · exact fun h => absurd h List.not_mem_nil
    · exact fun h => absurd h.symm (Option.some_ne_none action)

theorem enqueue_of_not_accepted {a : Anteroom} {z : Zid} {action : Action}
    (h : ¬ (z.isValid = true ∧ action ≠ .reload)) : a.enqueue z action = a := by
  unfold enqueue
  rw [if_pos]
  simpa [imp_iff_not_or] using h

/-- Nothing that is taken in makes an ordinary room one of a scan. -/
theorem isReload_enqueue {ordinary : List Room} (htidy : TidyRooms ordinary)
    (hord : ∀ room ∈ ordinary, room.isReload = false) (maxLoad : Nat) (z : Zid) (action : Action) :
    ∀ room ∈ (Anteroom.enqueue ⟨ordinary, maxLoad⟩ z action).rooms, room.isReload = false := by
  by_cases haccepted : z.isValid = true ∧ action ≠ .reload
  · intro room hroom
    rcases (took_enqueue (a := ⟨ordinary, maxLoad⟩) htidy haccepted.1 haccepted.2).touches room hroom
      with rfl | ⟨old, hold, htouches⟩
    · rfl
    · exact htouches.isReload.trans (hord old hold)
  · rw [enqueue_of_not_accepted haccepted]
    exact hord

theorem Carries.enqueue {a : Anteroom} {g : Agenda} (h : a.Carries g) (z : Zid)
    (action : Action) : (a.enqueue z action).Carries (g.enqueue z action) := by
  unfold Agenda.enqueue
  by_cases haccepted : z.isValid = true ∧ action ≠ .reload
  · rw [if_pos haccepted]
    rcases h.tidy.exists_split with ⟨scan, ordinary, heq, hscan, hord, htidy⟩
    have hwork := work_of_split (congrArg rooms heq) hscan hord
    -- Only the ordinary rooms take in anything.
    have htook := took_enqueue (a := ⟨ordinary, a.maxLoad⟩) htidy haccepted.1 haccepted.2
    have hord' := isReload_enqueue htidy hord a.maxLoad z action
    have hrooms : (a.enqueue z action).rooms =
        scan ++ (Anteroom.enqueue ⟨ordinary, a.maxLoad⟩ z action).rooms := by
      rw [← rooms_enqueue hscan, ← heq]
    have hwork' := work_of_split hrooms hscan hord'
    refine ⟨(took_enqueue h.tidy haccepted.1 haccepted.2).tidy,
      hwork'.1.trans (hwork.1.symm.trans h.first), ?_⟩
    intro act y
    have hold := h.pending act y
    rw [hwork.2, mem_roomsWork_iff htidy hord] at hold
    rw [hwork'.2, mem_roomsWork_iff htook.tidy hord']
    show _ ↔ Function.update g.pending z (some action) y = some act
    rw [Function.update_apply]
    by_cases hyz : y = z
    · subst hyz
      rw [if_pos rfl, htook.word y haccepted.1, if_pos rfl]
      exact and_iff_right haccepted.1
    · rw [if_neg hyz, ← hold]
      apply and_congr_right
      intro hy
      rw [htook.word y hy, if_neg hyz]
  · rw [if_neg haccepted, enqueue_of_not_accepted haccepted]
    exact h

theorem work_scanRoom (zids : List Zid) (action : Action) :
    (scanRoom zids action).work = (ZidSet.ofZids zids).toList.map (action, ·) := by
  have hlist : (scanRoom zids action).pending.toList =
      (ZidSet.ofZids zids).toList.map (·, action) := by
    apply toList_eq_of_mem_iff
    · rw [List.pairwise_map]
      exact Std.ExtTreeSet.ordered_toList (t := ZidSet.ofZids zids)
    · intro z act
      rw [getElem?_scanRoom, List.mem_map]
      simp only [Prod.mk.injEq, Std.ExtTreeSet.mem_toList, ZidSet.mem_ofZids]
      constructor
      · rintro ⟨y, hy, rfl, rfl⟩
        exact if_pos hy
      · split
        next hz => exact fun hact => ⟨z, hz, rfl, Option.some.inj hact⟩
        next => exact fun hact => absurd hact.symm (Option.some_ne_none act)
  rw [Room.work, hlist, List.map_map]
  rfl

theorem work_reloadRoom (zids : List Zid) (action : Action) :
    roomsWork (reloadRoom zids action) = scanned zids action := by
  unfold scanned
  rcases reloadRoom_eq zids action with ⟨hfilter, hnil⟩ | hroom
  · rw [hnil, hfilter]
    rfl
  · rw [hroom, roomsWork_cons, work_scanRoom]
    exact List.append_nil _

theorem Carries.reload {a : Anteroom} {g : Agenda} (h : a.Carries g) (gone there : List Zid) :
    (a.reload gone there).Carries (g.reload gone there) := by
  have hscan : ∀ room ∈ reloadRoom gone .delete ++ reloadRoom there .update,
      room.isReload = true := by
    intro room hroom
    rcases List.mem_append.mp hroom with hroom | hroom
    · exact (mem_reloadRoom (by decide) hroom).1
    · exact (mem_reloadRoom (by decide) hroom).1
  have hord : ∀ room ∈ a.rooms.filter fun room => !room.isReload, room.isReload = false := by
    intro room hroom
    simpa using (List.mem_filter.mp hroom).2
  have hwork := work_of_split (a := a.reload gone there) rfl hscan hord
  refine ⟨tidy_reload h.tidy gone there, ?_, ?_⟩
  · rw [hwork.1, roomsWork_append, work_reloadRoom, work_reloadRoom]
    rfl
  · intro action z
    rw [hwork.2]
    exact h.pending action z

theorem carries_reset (a : Anteroom) : a.reset.Carries Agenda.reset where
  tidy := tidy_reset a
  first := rfl
  pending action z := by
    constructor
    · exact fun h => absurd h List.not_mem_nil
    · exact fun h => absurd h.symm (Option.some_ne_none action)

theorem tidy_dequeue {a : Anteroom} (h : a.Tidy) : a.dequeue.2.Tidy := by
  rcases hd : a.dequeue with ⟨_ | ⟨action, z⟩, a'⟩
  · have hrooms : a'.rooms = [] := by
      have hnone : (takeFirst a.rooms).1 = none := congrArg Prod.fst hd
      rw [show a' = a.dequeue.2 from (congrArg Prod.snd hd).symm]
      exact takeFirst_eq_nil hnone
    unfold Tidy
    rw [hrooms]
    exact tidyRooms_nil
  · exact (left_dequeue h hd).tidy

theorem takeFirst_of_split {a : Anteroom} {scan ordinary : List Room}
    (h : a = ⟨scan ++ ordinary, a.maxLoad⟩) :
    (a.dequeue.1, a.dequeue.2.rooms) =
      if roomsWork scan = [] then takeFirst ordinary
      else ((takeFirst scan).1, (takeFirst scan).2 ++ ordinary) := by
  rw [h, ← takeFirst_append]
  rfl

theorem Tidy.dequeue_of_scan {a : Anteroom} (h : a.Tidy) (hne : a.scanWork ≠ []) :
    a.dequeue.1 = a.scanWork.head? ∧ a.dequeue.2.scanWork = a.scanWork.tail ∧
      a.dequeue.2.ordinaryWork = a.ordinaryWork := by
  rcases h.exists_split with ⟨scan, ordinary, heq, hscan, hord, -⟩
  have hwork := work_of_split (congrArg rooms heq) hscan hord
  have htake := takeFirst_of_split heq
  rw [hwork.1] at hne
  rw [if_neg hne] at htake
  rcases Prod.mk.inj htake with ⟨hnext, hrooms⟩
  have hwork' := work_of_split hrooms (isReload_takeFirst hscan) hord
  have hhead := takeFirst_work scan
  rw [hwork'.1, hwork'.2, hwork.1, hwork.2]
  exact ⟨hnext.trans hhead.1, hhead.2, rfl⟩

theorem Tidy.dequeue_of_no_scan {a : Anteroom} (h : a.Tidy) (hnil : a.scanWork = []) :
    a.dequeue.1 = a.ordinaryWork.head? ∧ a.dequeue.2.scanWork = [] ∧
      a.dequeue.2.ordinaryWork = a.ordinaryWork.tail := by
  rcases h.exists_split with ⟨scan, ordinary, heq, hscan, hord, -⟩
  have hwork := work_of_split (congrArg rooms heq) hscan hord
  have htake := takeFirst_of_split heq
  rw [hwork.1] at hnil
  rw [if_pos hnil] at htake
  rcases Prod.mk.inj htake with ⟨hnext, hrooms⟩
  -- The rooms of the scan are empty, and dropped on the way to the ordinary ones.
  have hwork' : a.dequeue.2.scanWork = roomsWork [] ∧
      a.dequeue.2.ordinaryWork = roomsWork (takeFirst ordinary).2 :=
    work_of_split hrooms (fun _ hr => absurd hr List.not_mem_nil) (isReload_takeFirst hord)
  have hhead := takeFirst_work ordinary
  rw [hwork'.2, hwork.2]
  exact ⟨hnext.trans hhead.1, hwork'.1, hhead.2⟩

theorem Tidy.nodup_ordinaryWork {a : Anteroom} (h : a.Tidy) :
    (a.ordinaryWork.map Prod.snd).Nodup := by
  rcases h.exists_split with ⟨scan, ordinary, heq, hscan, hord, htidy⟩
  rw [(work_of_split (congrArg rooms heq) hscan hord).2]
  exact nodup_roomsWork htidy hord

theorem Carries.dequeue {a : Anteroom} {g : Agenda} (h : a.Carries g) :
    g.Next a.dequeue.1 ∧ a.dequeue.2.Carries (g.deliver a.dequeue.1) := by
  have htidy := tidy_dequeue h.tidy
  cases hg : g.first with
  | cons entry rest =>
    have hfirst : a.scanWork = entry :: rest := h.first.trans hg
    rcases h.tidy.dequeue_of_scan (hfirst ▸ List.cons_ne_nil entry rest) with
      ⟨hnext, hscan, hordinary⟩
    rw [hfirst, List.head?_cons] at hnext
    rw [hfirst, List.tail_cons] at hscan
    rw [hnext, Agenda.deliver_first hg]
    refine ⟨.first hg, htidy, hscan, ?_⟩
    intro action z
    rw [hordinary]
    exact h.pending action z
  | nil =>
    rcases h.tidy.dequeue_of_no_scan (h.first.trans hg) with ⟨hnext, hscan, hordinary⟩
    have hpending := h.pending
    rw [hnext]
    cases hlist : a.ordinaryWork with
    | nil =>
      simp only [hlist] at hpending
      rw [hlist] at hordinary
      show g.Next none ∧ a.dequeue.2.Carries (g.deliver none)
      rw [Agenda.deliver_none hg]
      refine ⟨.nothing hg ?_, htidy, hscan.trans hg.symm, ?_⟩
      · intro z
        rw [Option.eq_none_iff_forall_ne_some]
        intro action hz
        exact absurd ((hpending action z).mpr hz) List.not_mem_nil
      · intro action z
        rw [hordinary]
        exact hpending action z
    | cons entry rest =>
      rcases entry with ⟨action, z⟩
      have hnodup := h.tidy.nodup_ordinaryWork
      rw [hlist, List.map_cons, List.nodup_cons] at hnodup
      simp only [hlist] at hpending
      rw [hlist, List.tail_cons] at hordinary
      show g.Next (some (action, z)) ∧ a.dequeue.2.Carries (g.deliver (some (action, z)))
      rw [Agenda.deliver_pending hg]
      refine ⟨.pending hg ((hpending action z).mp List.mem_cons_self), htidy,
        hscan.trans hg.symm, ?_⟩
      intro act y
      rw [hordinary]
      show (act, y) ∈ rest ↔ Function.update g.pending z none y = some act
      rw [Function.update_apply]
      by_cases hyz : y = z
      · -- The zettel waits in no other room.
        rw [if_pos hyz, hyz]
        refine ⟨fun hmem => absurd (List.mem_map_of_mem hmem) hnodup.1, ?_⟩
        exact fun hnone => absurd hnone.symm (Option.some_ne_none act)
      · rw [if_neg hyz, ← hpending, List.mem_cons, Prod.mk.injEq]
        exact ⟨Or.inr, fun hmem => hmem.resolve_left fun heq => hyz heq.2⟩

/-! ## 5. Emptying the rooms -/

theorem work_eq {a : Anteroom} (h : a.Tidy) :
    roomsWork a.rooms = a.scanWork ++ a.ordinaryWork := by
  rw [scanWork, ordinaryWork, ← roomsWork_append, ← rooms_eq_split h.ordered]

theorem size_eq (a : Anteroom) : a.size = (roomsWork a.rooms).length := by
  unfold size
  induction a.rooms with
  | nil => rfl
  | cons room rest ih =>
    have hroom : room.work.length = room.pending.size := by
      rw [Room.work, List.length_map, Std.ExtTreeMap.length_toList]
    rw [List.foldr_cons, ih, roomsWork_cons, List.length_append, hroom]

theorem drainSteps_eq (n : Nat) (a : Anteroom) (h : (roomsWork a.rooms).length < n) :
    drainSteps n a = (roomsWork a.rooms, ⟨[], a.maxLoad⟩) := by
  -- By induction over the steps, of which one is needed to find that nothing is left.
  induction n generalizing a with
  | zero => omega
  | succ n ih =>
    rcases takeFirst_work a.rooms with ⟨hhead, htail⟩
    unfold drainSteps dequeue
    rcases htake : takeFirst a.rooms with ⟨_ | next, rooms⟩
    · rw [htake] at hhead htail
      have hrooms : rooms = [] := by
        have hnil : (takeFirst a.rooms).2 = [] := takeFirst_eq_nil (by rw [htake])
        rwa [htake] at hnil
      rw [List.head?_eq_none_iff.mp hhead.symm, hrooms]
    · rw [htake] at hhead htail
      rcases List.head?_eq_some_iff.mp hhead.symm with ⟨rest, hwork⟩
      rw [hwork, List.tail_cons] at htail
      rw [hwork, List.length_cons] at h
      have hrest := ih ⟨rooms, a.maxLoad⟩ (by show (roomsWork rooms).length < n; rw [htail]; omega)
      dsimp only
      rw [hrest, hwork]
      show (next :: roomsWork rooms, _) = _
      rw [htail]

theorem drain_eq (a : Anteroom) : a.drain = (roomsWork a.rooms, ⟨[], a.maxLoad⟩) := by
  apply drainSteps_eq
  rw [size_eq]
  omega

/-! ## 6. All histories -/

/-- What is asked of an anteroom. -/
inductive Ask where
  | enqueue (z : Zid) (action : Action)
  | reload (gone there : List Zid)
  | reset
  | dequeue

/-- Whether what was first until now is dropped. -/
def Ask.startsAnew : Ask → Bool
  | .reload _ _ => true
  | .reset => true
  | _ => false

def ask (a : Anteroom) : Ask → Option (Action × Zid) × Anteroom
  | .enqueue z action => (none, a.enqueue z action)
  | .reload gone there => (none, a.reload gone there)
  | .reset => (none, a.reset)
  | .dequeue => a.dequeue

def askAll (a : Anteroom) (asks : List Ask) : Anteroom := asks.foldl (fun a q => (a.ask q).2) a

/-- What leaves at each time that something is asked to leave. -/
def answers (a : Anteroom) : List Ask → List (Option (Action × Zid))
  | [] => []
  | .dequeue :: rest => a.dequeue.1 :: a.dequeue.2.answers rest
  | q :: rest => (a.ask q).2.answers rest

end Anteroom

namespace Agenda

/-- The agenda after something was asked and answered. -/
def note (g : Agenda) (answer : Option (Action × Zid)) : Anteroom.Ask → Agenda
  | .enqueue z action => g.enqueue z action
  | .reload gone there => g.reload gone there
  | .reset => reset
  | .dequeue => g.deliver answer

/-- The agenda after all that was asked of an anteroom. -/
def noteAll (g : Agenda) (a : Anteroom) : List Anteroom.Ask → Agenda
  | [] => g
  | q :: rest => (g.note (a.ask q).1 q).noteAll (a.ask q).2 rest

end Agenda

namespace Anteroom

theorem Carries.ask {a : Anteroom} {g : Agenda} (h : a.Carries g) (q : Ask) :
    (a.ask q).2.Carries (g.note (a.ask q).1 q) := by
  cases q with
  | enqueue z action => exact h.enqueue z action
  | reload gone there => exact h.reload gone there
  | reset => exact carries_reset a
  | dequeue => exact h.dequeue.2

theorem Carries.askAll {a : Anteroom} {g : Agenda} (h : a.Carries g) (asks : List Ask) :
    (a.askAll asks).Carries (g.noteAll a asks) := by
  induction asks generalizing a g with
  | nil => exact h
  | cons q rest ih => exact ih (h.ask q)

/-- What is first leaves first, whatever is asked for in the meantime. -/
theorem Carries.answers_of_first {a : Anteroom} {g : Agenda} (h : a.Carries g) {later : List Ask}
    (hlater : ∀ q ∈ later, q.startsAnew = false) :
    (a.answers later).take g.first.length = (g.first.map some).take (a.answers later).length := by
  -- By induction over what is asked for; only a dequeue changes what is first.
  induction later generalizing a g with
  | nil => rw [answers, List.take_nil, List.length_nil, List.take_zero]
  | cons q rest ih =>
    have hrest : ∀ r ∈ rest, r.startsAnew = false := fun r hr => hlater r (List.mem_cons_of_mem q hr)
    cases q with
    | reload gone there => exact absurd (hlater _ List.mem_cons_self).symm Bool.false_ne_true
    | reset => exact absurd (hlater _ List.mem_cons_self).symm Bool.false_ne_true
    | enqueue z action =>
      have hlist := ih (h.enqueue z action) hrest
      rw [g.first_enqueue z action] at hlist
      exact hlist
    | dequeue =>
      rcases h.dequeue with ⟨hnext, hcarries⟩
      have hlist := ih hcarries hrest
      show (a.dequeue.1 :: a.dequeue.2.answers rest).take _ = _
      cases hg : g.first with
      | nil => simp
      | cons entry others =>
        rw [Agenda.deliver_first hg] at hlist
        rw [hnext.eq_of_first hg, List.length_cons, List.take_succ_cons, hlist]
        rfl

theorem mem_scanned {zids : List Zid} {action act : Action} {z : Zid} :
    (act, z) ∈ scanned zids action ↔ act = action ∧ z.isValid = true ∧ z ∈ zids := by
  unfold scanned
  rw [List.mem_map]
  simp only [Prod.mk.injEq, Std.ExtTreeSet.mem_toList, ZidSet.mem_ofZids, List.mem_filter]
  constructor
  · rintro ⟨y, ⟨hy, hvalid⟩, rfl, rfl⟩
    exact ⟨rfl, hvalid, hy⟩
  · rintro ⟨rfl, hvalid, hz⟩
    exact ⟨z, ⟨hz, hvalid⟩, rfl, rfl⟩

theorem ascending_scanned (zids : List Zid) (action : Action) :
    ((scanned zids action).map Prod.snd).Pairwise (· < ·) := by
  have hzids : (scanned zids action).map Prod.snd =
      (ZidSet.ofZids (zids.filter Zid.isValid)).slice.ids := by
    unfold scanned
    rw [List.map_map]
    exact List.map_id _
  rw [hzids]
  exact ZidSet.ascending_slice _

/-- What waits is what the agenda says, and it leaves in this order. -/
structure Delivers (a : Anteroom) (g : Agenda) : Prop where
  scan : a.scanWork = g.first
  ordinary (action : Action) (z : Zid) :
    (action, z) ∈ a.ordinaryWork ↔ g.pending z = some action
  distinct : (a.ordinaryWork.map Prod.snd).Nodup
  next : a.dequeue.1 = (a.scanWork ++ a.ordinaryWork).head?
  drain : a.drain = (a.scanWork ++ a.ordinaryWork, ⟨[], a.maxLoad⟩)

theorem Carries.delivers {a : Anteroom} {g : Agenda} (h : a.Carries g) : a.Delivers g where
  scan := h.first
  ordinary := h.pending
  distinct := h.tidy.nodup_ordinaryWork
  next := by
    rw [← work_eq h.tidy]
    exact (takeFirst_work a.rooms).1
  drain := by
    rw [← work_eq h.tidy]
    exact a.drain_eq

/-- No history loses work or has it done twice. -/
theorem askAll_delivers (maxLoad : Nat) (asks : List Ask) :
    let a := (new maxLoad).askAll asks
    let g := Agenda.nothing.noteAll (new maxLoad) asks
    a.Delivers g ∧
      (∀ gone there, (a.reload gone there).Delivers
        ⟨scanned gone .delete ++ scanned there .update, g.pending⟩) ∧
      (∀ gone there later, (∀ q ∈ later, q.startsAnew = false) →
        let first := scanned gone .delete ++ scanned there .update
        let answers := (a.reload gone there).answers later
        answers.take first.length = (first.map some).take answers.length) ∧
      (∀ zids action, ((scanned zids action).map Prod.snd).Pairwise (· < ·) ∧
        ∀ act z, (act, z) ∈ scanned zids action ↔ act = action ∧ z.isValid = true ∧ z ∈ zids) ∧
      a.reset.Delivers ⟨[(.reload, Zid.invalid)], fun _ => none⟩ ∧
      ∀ later, (∀ q ∈ later, q.startsAnew = false) →
        let answers := a.reset.answers later
        answers.take 1 = [some (.reload, Zid.invalid)].take answers.length := by
  intro a g
  have hcarries := (carries_new maxLoad).askAll asks
  refine ⟨hcarries.delivers, ?_, ?_, ?_, (carries_reset a).delivers, ?_⟩
  · exact fun gone there => (hcarries.reload gone there).delivers
  · exact fun gone there later hlater => (hcarries.reload gone there).answers_of_first hlater
  · exact fun zids action => ⟨ascending_scanned zids action, fun _ _ => mem_scanned⟩
  · exact fun later hlater => (carries_reset a).answers_of_first hlater

/-- A scan that finds one zettel gone and another one there, while a third is waiting. -/
theorem askAll_delivers_scan_first :
    let a := (new 1).askAll [.enqueue ⟨1⟩ .update, .enqueue ⟨2⟩ .update, .enqueue ⟨1⟩ .delete]
    let later : List Ask := [.dequeue, .enqueue ⟨3⟩ .update, .dequeue]
    (∀ q ∈ later, q.startsAnew = false) ∧
      ((a.reload [⟨3⟩, ⟨0⟩] [⟨2⟩, ⟨2⟩]).answers later).take 2 =
        [some (.delete, ⟨3⟩), some (.update, ⟨2⟩)] := by
  intro a later
  have hlater : ∀ q ∈ later, q.startsAnew = false := by decide
  have hdelivers := askAll_delivers 1
    [.enqueue ⟨1⟩ .update, .enqueue ⟨2⟩ .update, .enqueue ⟨1⟩ .delete]
  have hfirst : scanned [⟨3⟩, ⟨0⟩] .delete ++ scanned [⟨2⟩, ⟨2⟩] .update =
      [(.delete, ⟨3⟩), (.update, ⟨2⟩)] := by decide
  have hanswers := hdelivers.2.2.1 [⟨3⟩, ⟨0⟩] [⟨2⟩, ⟨2⟩] later hlater
  dsimp only at hanswers
  rw [hfirst] at hanswers
  exact ⟨hlater, hanswers⟩

end Anteroom

end Kasten.Index
