import Mathlib
import Kasten.Index.Indexer
import Kasten.Proofs.Index.Anteroom
import Kasten.Proofs.Index.Ledger
import Kasten.Proofs.Index.Record

/-!
# The indexer beside its box

A box changes while the indexer works, and the changes reach the indexer late. Here a box is a map,
and the box, the feeder and the worker take their steps in any order; a zettel that the worker has
read may be gone when the worker goes on. In all that time each zettel is either due, as something
is still to be done for it, or the index has its record, but for references to zettel that are due.
So the index is right whenever nothing is left to do.
-/

namespace Kasten.Index

/-! ## 1. The system -/

/-- A box that is no more than a map. -/
abbrev Shelf := Std.ExtTreeMap Zid Zettel

namespace Shelf

def read (shelf : Shelf) (z : Zid) : Except StoreError Zettel :=
  match shelf[z]? with
  | some zettel => .ok zettel
  | none => .error (.notFound z)

/-- What an indexer sees of a shelf. -/
def source : Source Shelf where
  get z shelf := (shelf.read z, shelf)
  has z shelf := shelf.contains z
  list shelf := (.ok shelf.keys, shelf)

/-- Each zettel stands under its own identifier, and that is a valid one. -/
def Valid (shelf : Shelf) : Prop :=
  ∀ (z : Zid) (zettel : Zettel), shelf[z]? = some zettel → z.isValid = true ∧ zettel.zid = z

theorem Valid.eq_none {shelf : Shelf} (h : Valid shelf) {z : Zid} (hz : z.isValid = false) :
    shelf[z]? = none := by
  rw [Option.eq_none_iff_forall_ne_some]
  intro zettel hzettel
  exact absurd (hz.symm.trans (h z zettel hzettel).1) Bool.false_ne_true

theorem valid_empty : Valid ∅ := by
  intro z zettel h
  rw [Std.ExtTreeMap.getElem?_empty] at h
  exact absurd h.symm (Option.some_ne_none zettel)

theorem Valid.insert {shelf : Shelf} (h : Valid shelf) {zettel : Zettel}
    (hvalid : zettel.zid.isValid = true) : Valid (shelf.insert zettel.zid zettel) := by
  intro z other hz
  rw [getElem?_insert_eq] at hz
  split at hz
  next heq =>
    rw [← Option.some.inj hz, heq]
    exact ⟨hvalid, rfl⟩
  next => exact h z other hz

theorem read_congr {shelf shelf' : Shelf} {z : Zid} (h : shelf'[z]? = shelf[z]?) :
    shelf'.read z = shelf.read z := by
  unfold read
  rw [h]

end Shelf

/-- `held` is the zettel that the worker reads, with what came of it. -/
structure System where
  shelf : Shelf
  indexer : Indexer
  held : Option (Zid × Except StoreError Zettel)

namespace System

/-- Every step runs from one point where a task may be interrupted to the next. -/
inductive Step : System → System → Prop where
  | put (s : System) (zettel : Zettel) (origin : String) : zettel.zid.isValid = true →
      Step s { s with
        shelf := s.shelf.insert zettel.zid zettel
        indexer := s.indexer.receive [⟨origin, .onZettel, zettel.zid⟩] }
  | remove (s : System) (z : Zid) (origin : String) :
      Step s { s with
        shelf := s.shelf.erase z
        indexer := s.indexer.receive [⟨origin, .onDelete, z⟩] }
  | refresh (s : System) (z : Zid) (origin : String) :
      Step s { s with indexer := s.indexer.receive [⟨origin, .onReload, z⟩] }
  | accept (s : System) (c : Change) (rest : List Change) : s.indexer.inbox = c :: rest →
      Step s { s with indexer := Indexer.accept { s.indexer with inbox := rest } c }
  | idle (s : System) : s.held = none →
      Step s { s with indexer := s.indexer.reload (.ok s.shelf.keys) }
  | fetch (s : System) (z : Zid) (anteroom : Anteroom) : s.held = none →
      s.indexer.anteroom.dequeue = (some (.update, z), anteroom) →
      Step s { s with
        indexer := { s.indexer with anteroom }
        held := some (z, s.shelf.read z) }
  | work (s : System) (now : Nat) (action : Action) (z : Zid) (anteroom : Anteroom) :
      s.held = none → s.indexer.anteroom.dequeue = (some (action, z), anteroom) →
      action ≠ .update →
      Step s { s with
        indexer :=
          (Indexer.act Shelf.source now { s.indexer with anteroom } s.shelf (action, z)).1 }
  | finish (s : System) (now : Nat) (z : Zid) (result : Except StoreError Zettel) :
      s.held = some (z, result) →
      Step s { s with
        indexer := s.indexer.finish now s.shelf.contains z result
        held := none }

/-- The states that come up from an empty box and an indexer that did nothing yet. -/
inductive Reachable (config : IndexerConfig) (scan : Scanner) : System → Prop where
  | start : Reachable config scan ⟨∅, .new config scan, none⟩
  | next {s t : System} : Reachable config scan s → Step s t → Reachable config scan t

/-- What the worker does in one go is a run of these steps. -/
theorem steps_of_work {s : System} (hheld : s.held = none) (now : Nat) {x : Indexer}
    {shelf : Shelf} (hwork : s.indexer.work Shelf.source now s.shelf = some (x, shelf)) :
    Relation.ReflTransGen Step s ⟨shelf, x, none⟩ := by
  unfold Indexer.work at hwork
  rcases hd : s.indexer.anteroom.dequeue with ⟨_ | next, anteroom⟩
  · rw [hd] at hwork
    exact absurd hwork.symm (Option.some_ne_none _)
  · rw [hd] at hwork
    have hact := Option.some.inj hwork
    rcases next with ⟨action, z⟩
    cases action with
    | reload =>
      have hstep := Step.work s now .reload z anteroom hheld hd (by decide)
      rw [hact, hheld] at hstep
      rcases Prod.mk.inj hact with ⟨-, rfl⟩
      exact .single hstep
    | delete =>
      have hstep := Step.work s now .delete z anteroom hheld hd (by decide)
      rw [hact, hheld] at hstep
      rcases Prod.mk.inj hact with ⟨-, rfl⟩
      exact .single hstep
    | update =>
      have hfetch := Step.fetch s z anteroom hheld hd
      have hfinish := Step.finish
        ⟨s.shelf, { s.indexer with anteroom }, some (z, s.shelf.read z)⟩ now z _ rfl
      rcases Prod.mk.inj hact with ⟨rfl, rfl⟩
      exact .tail (.single hfetch) hfinish

theorem Reachable.steps {config : IndexerConfig} {scan : Scanner} {s t : System}
    (h : Reachable config scan s) (hsteps : Relation.ReflTransGen Step s t) :
    Reachable config scan t := by
  induction hsteps with
  | refl => exact h
  | tail _ hstep ih => exact ih.next hstep

theorem Reachable.work {config : IndexerConfig} {scan : Scanner} {s : System}
    (h : Reachable config scan s) (hheld : s.held = none) (now : Nat) {x : Indexer}
    {shelf : Shelf} (hwork : s.indexer.work Shelf.source now s.shelf = some (x, shelf)) :
    Reachable config scan ⟨shelf, x, none⟩ :=
  h.steps (steps_of_work hheld now hwork)

/-! ### Runs move by move -/

/-- What may be done next, if there is an occasion. -/
inductive Move where
  | put (zettel : Zettel) (origin : String)
  | remove (z : Zid) (origin : String)
  | refresh (z : Zid) (origin : String)
  | accept
  | idle
  | work (now : Nat)
  | finish (now : Nat)

/-- Makes a move. The worker holds a zettel that is to be read, and does all else at once. -/
def perform (s : System) : Move → Option System
  | .put zettel origin =>
    if zettel.zid.isValid = true then
      some { s with
        shelf := s.shelf.insert zettel.zid zettel
        indexer := s.indexer.receive [⟨origin, .onZettel, zettel.zid⟩] }
    else none
  | .remove z origin =>
    some { s with
      shelf := s.shelf.erase z
      indexer := s.indexer.receive [⟨origin, .onDelete, z⟩] }
  | .refresh z origin => some { s with indexer := s.indexer.receive [⟨origin, .onReload, z⟩] }
  | .accept =>
    match s.indexer.inbox with
    | [] => none
    | c :: rest => some { s with indexer := Indexer.accept { s.indexer with inbox := rest } c }
  | .idle =>
    match s.held with
    | none => some { s with indexer := s.indexer.reload (.ok s.shelf.keys) }
    | some _ => none
  | .work now =>
    match s.held, s.indexer.anteroom.dequeue with
    | none, (some (.update, z), anteroom) =>
      some { s with indexer := { s.indexer with anteroom }, held := some (z, s.shelf.read z) }
    | none, (some next, anteroom) =>
      some { s with
        indexer := (Indexer.act Shelf.source now { s.indexer with anteroom } s.shelf next).1 }
    | _, _ => none
  | .finish now =>
    match s.held with
    | some (z, result) =>
      some { s with indexer := s.indexer.finish now s.shelf.contains z result, held := none }
    | none => none

theorem step_of_perform {s t : System} {m : Move} (h : s.perform m = some t) : Step s t := by
  cases m with
  | put zettel origin =>
    simp only [perform] at h
    split at h
    next hvalid => exact Option.some.inj h ▸ .put s zettel origin hvalid
    next => cases h
  | remove z origin => exact Option.some.inj h ▸ .remove s z origin
  | refresh z origin => exact Option.some.inj h ▸ .refresh s z origin
  | accept =>
    simp only [perform] at h
    split at h
    next => cases h
    next c rest hinbox => exact Option.some.inj h ▸ .accept s c rest hinbox
  | idle =>
    simp only [perform] at h
    split at h
    next hheld => exact Option.some.inj h ▸ .idle s hheld
    next => cases h
  | work now =>
    simp only [perform] at h
    split at h
    next z anteroom hheld hnext => exact Option.some.inj h ▸ .fetch s z anteroom hheld hnext
    next next anteroom hother hheld hnext =>
      rcases next with ⟨action, z⟩
      have haction : action ≠ .update := fun heq => hother z (heq ▸ rfl)
      exact Option.some.inj h ▸ .work s now action z anteroom hheld hnext haction
    next => cases h
  | finish now =>
    simp only [perform] at h
    split at h
    next z result hheld => exact Option.some.inj h ▸ .finish s now z result hheld
    next => cases h

theorem Step.exists_perform {s t : System} (h : Step s t) : ∃ m, s.perform m = some t := by
  cases h with
  | put zettel origin hvalid => exact ⟨.put zettel origin, if_pos hvalid⟩
  | remove z origin => exact ⟨.remove z origin, rfl⟩
  | refresh z origin => exact ⟨.refresh z origin, rfl⟩
  | accept c rest hinbox => exact ⟨.accept, by simp only [perform, hinbox]⟩
  | idle hheld => exact ⟨.idle, by simp only [perform, hheld]⟩
  | fetch z anteroom hheld hnext => exact ⟨.work 0, by simp only [perform, hheld, hnext]⟩
  | work now action z anteroom hheld hnext haction =>
    refine ⟨.work now, ?_⟩
    cases action with
    | update => exact absurd rfl haction
    | reload => simp only [perform, hheld, hnext]
    | delete => simp only [perform, hheld, hnext]
  | finish now z result hheld => exact ⟨.finish now, by simp only [perform, hheld]⟩

/-- The steps are what the moves do. -/
theorem step_iff_perform {s t : System} : Step s t ↔ ∃ m, s.perform m = some t :=
  ⟨Step.exists_perform, fun ⟨_, h⟩ => step_of_perform h⟩

/-- Makes one move after another, if there is an occasion for each of them. -/
def performAll (s : System) : List Move → Option System
  | [] => some s
  | m :: rest => (s.perform m).bind fun t => t.performAll rest

theorem Reachable.performAll {config : IndexerConfig} {scan : Scanner} {s t : System}
    (h : Reachable config scan s) {moves : List Move} (hmoves : s.performAll moves = some t) :
    Reachable config scan t := by
  induction moves generalizing s with
  | nil => exact Option.some.inj hmoves ▸ h
  | cons m rest ih =>
    rcases Option.bind_eq_some_iff.mp hmoves with ⟨u, hu, hrest⟩
    exact ih (h.next (step_of_perform hu)) hrest

end System

/-! ## 2. What is still to be done -/

/-- What a change asks for. -/
def asked : Reason → Action
  | .onZettel => .update
  | .onDelete => .delete
  | .onReload => .reload

/-- The last word of the changes that are not taken in yet. -/
def inboxWord : List Change → Zid → Option Action
  | [], _ => none
  | c :: rest, z => (inboxWord rest z).or ((asked c.reason).word c.zid z)

theorem inboxWord_append (changes later : List Change) (z : Zid) :
    inboxWord (changes ++ later) z = (inboxWord later z).or (inboxWord changes z) := by
  induction changes with
  | nil => rw [List.nil_append, inboxWord, Option.or_none]
  | cons c rest ih => rw [List.cons_append, inboxWord, inboxWord, ih, Option.or_assoc]

/-- Taking in a change puts its word on top of those in the anteroom. -/
theorem word_accept {x : Indexer} (h : x.anteroom.Tidy) (c : Change) :
    (x.accept c).anteroom.Tidy ∧ ∀ z : Zid, z.isValid = true →
      (x.accept c).anteroom.word z = ((asked c.reason).word c.zid z).or (x.anteroom.word z) := by
  have henqueue : ∀ action : Action, action ≠ .reload →
      (x.anteroom.enqueue c.zid action).Tidy ∧ ∀ z : Zid, z.isValid = true →
        (x.anteroom.enqueue c.zid action).word z =
          (action.word c.zid z).or (x.anteroom.word z) := by
    intro action ha
    refine ⟨Anteroom.tidy_enqueue h c.zid ha, ?_⟩
    intro z hz
    unfold Action.word
    by_cases hzc : z = c.zid
    · rw [if_pos (Or.inr hzc)]
      have htook := Anteroom.took_enqueue h (hzc ▸ hz) ha
      exact (htook.word z hz).trans (if_pos hzc)
    · rw [if_neg (not_or.mpr ⟨ha, hzc⟩), Option.none_or]
      cases hc : c.zid.isValid with
      | true => exact ((Anteroom.took_enqueue h hc ha).word z hz).trans (if_neg hzc)
      | false => rw [Anteroom.enqueue_of_invalid hc]
  unfold Indexer.accept
  cases hreason : c.reason with
  | onZettel => exact henqueue .update (by decide)
  | onDelete => exact henqueue .delete (by decide)
  | onReload => exact ⟨Anteroom.tidy_reset _, fun z _ => Anteroom.word_reset _ z⟩

namespace System

/-- The last word of all that is to be done. -/
def word (s : System) (z : Zid) : Option Action :=
  (inboxWord s.indexer.inbox z).or (s.indexer.anteroom.word z)

/-- Something is to be done for the zettel. -/
def Due (s : System) (z : Zid) : Prop :=
  z.isValid = true ∧ (s.word z ≠ none ∨ ∃ result, s.held = some (z, result))

/-! ## 3. The invariant -/

/-- The ledger has the right content for a zettel, but for references to zettel that are due. -/
structure Right (s : System) (m : Ledger) (z : Zid) : Prop where
  absent : s.shelf[z]? = none → m z = Content.empty
  present (zettel : Zettel) : s.shelf[z]? = some zettel →
    ∃ isThere, m z = (Record.ofZettel s.indexer.scan isThere zettel).content ∧
      ∀ t, isThere t = s.shelf.contains t ∨ s.Due t

structure Invariant (s : System) (m : Ledger) : Prop where
  keeps : s.indexer.store.Keeps m
  tidy : s.indexer.anteroom.Tidy
  shelf : Shelf.Valid s.shelf
  right (z : Zid) : s.Due z ∨ s.Right m z
  -- What is in the box will not be forgotten in the end.
  kept (z : Zid) : s.shelf[z]? ≠ none → s.word z ≠ some .delete
  held (z : Zid) (result : Except StoreError Zettel) : s.held = some (z, result) →
    z.isValid = true ∧ (result = s.shelf.read z ∨ s.word z ≠ none) ∧
      (result = .error (.notFound z) ∨ ∃ zettel, result = .ok zettel ∧ zettel.zid = z)

theorem invariant_start (config : IndexerConfig) (scan : Scanner) :
    Invariant ⟨∅, .new config scan, none⟩ Ledger.empty where
  keeps := Store.keeps_new
  tidy := Anteroom.tidyRooms_nil
  shelf := Shelf.valid_empty
  right z := by
    refine Or.inr ⟨fun _ => rfl, ?_⟩
    intro zettel h
    rw [Std.ExtTreeMap.getElem?_empty] at h
    exact absurd h.symm (Option.some_ne_none zettel)
  kept z h := absurd Std.ExtTreeMap.getElem?_empty h
  held z result h := absurd h.symm (Option.some_ne_none _)

/-- A zettel stays right while others come and go that are due thereby. -/
theorem Right.of_shelf {s t : System} {m : Ledger} {z : Zid} (h : s.Right m z)
    (hscan : t.indexer.scan = s.indexer.scan) (hz : t.shelf[z]? = s.shelf[z]?)
    (hshelf : ∀ y, t.shelf[y]? = s.shelf[y]? ∨ t.Due y) (hdue : ∀ y, s.Due y → t.Due y) :
    t.Right m z := by
  refine ⟨fun hnone => h.absent (hz ▸ hnone), ?_⟩
  intro zettel hzettel
  rcases h.present zettel (hz ▸ hzettel) with ⟨isThere, hm, hthere⟩
  refine ⟨isThere, by rw [hscan]; exact hm, ?_⟩
  intro y
  rcases hthere y with hy | hy
  · rcases hshelf y with heq | hy'
    · apply Or.inl
      rw [hy, Std.ExtTreeMap.contains_eq_isSome_getElem?,
        Std.ExtTreeMap.contains_eq_isSome_getElem?, heq]
    · exact Or.inr hy'
  · exact Or.inr (hdue y hy)

/-! ## 4. Changes -/

theorem word_receive (s : System) (shelf : Shelf) (c : Change) (z : Zid) :
    System.word { s with shelf, indexer := s.indexer.receive [c] } z =
      ((asked c.reason).word c.zid z).or (s.word z) := by
  show (inboxWord (s.indexer.inbox ++ [c]) z).or (s.indexer.anteroom.word z) = _
  rw [inboxWord_append, Option.or_assoc]
  rfl

section Receive

variable (s : System) (shelf : Shelf) (c : Change) {z : Zid}

theorem word_receive_ne_none (hz : s.word z ≠ none) :
    System.word { s with shelf, indexer := s.indexer.receive [c] } z ≠ none := by
  intro hnone
  rw [word_receive, Option.or_eq_none_iff] at hnone
  exact hz hnone.2

theorem word_receive_of_asked {action : Action} (hw : (asked c.reason).word c.zid z = some action) :
    System.word { s with shelf, indexer := s.indexer.receive [c] } z = some action := by
  rw [word_receive, hw, Option.some_or]

theorem due_receive (h : s.Due z) :
    System.Due { s with shelf, indexer := s.indexer.receive [c] } z := by
  rcases h with ⟨hvalid, hz | hheld⟩
  · exact ⟨hvalid, Or.inl (s.word_receive_ne_none shelf c hz)⟩
  · exact ⟨hvalid, Or.inr hheld⟩

end Receive

/-- The box changes no zettel that the change which it sends does not concern. -/
theorem Invariant.receive {s : System} {m : Ledger} (h : s.Invariant m) (shelf : Shelf) (c : Change)
    (hshelf : Shelf.Valid shelf)
    (hsame : ∀ z, (asked c.reason).word c.zid z = none → shelf[z]? = s.shelf[z]?)
    (hdelete : ∀ z, (asked c.reason).word c.zid z = some .delete → shelf[z]? = none) :
    Invariant { s with shelf, indexer := s.indexer.receive [c] } m := by
  -- Where the box changes, the change that it sends asks for the zettel, so it is due.
  have hchanged : ∀ z, shelf[z]? = s.shelf[z]? ∨
      System.Due { s with shelf, indexer := s.indexer.receive [c] } z := by
    intro z
    cases hw : (asked c.reason).word c.zid z with
    | none => exact Or.inl (hsame z hw)
    | some action =>
      cases hvalid : z.isValid with
      | true =>
        refine Or.inr ⟨hvalid, Or.inl ?_⟩
        rw [s.word_receive_of_asked shelf c hw]
        exact Option.some_ne_none action
      | false => exact Or.inl ((hshelf.eq_none hvalid).trans (h.shelf.eq_none hvalid).symm)
  refine ⟨h.keeps, h.tidy, hshelf, ?_, ?_, ?_⟩
  -- A zettel that the change concerns is due now; the others are right or due as before.
  · intro z
    rcases hchanged z with hz | hz
    · rcases h.right z with hright | hright
      · exact Or.inl (s.due_receive shelf c hright)
      · exact Or.inr (hright.of_shelf rfl hz hchanged fun y => s.due_receive shelf c)
    · exact Or.inl hz
  · intro z hz
    cases hw : (asked c.reason).word c.zid z with
    | none =>
      rw [word_receive, hw, Option.none_or]
      exact h.kept z (hsame z hw ▸ hz)
    | some action =>
      rw [s.word_receive_of_asked shelf c hw]
      intro hdel
      exact hz (hdelete z (hw.trans hdel))
  · intro z result hheld
    rcases h.held z result hheld with ⟨hvalid, hresult, hshape⟩
    refine ⟨hvalid, ?_, hshape⟩
    cases hw : (asked c.reason).word c.zid z with
    | none =>
      rcases hresult with hread | hz
      · exact Or.inl (hread.trans (Shelf.read_congr (hsame z hw)).symm)
      · exact Or.inr (s.word_receive_ne_none shelf c hz)
    | some action =>
      -- What is held is out of date, but the zettel is asked for again.
      right
      rw [s.word_receive_of_asked shelf c hw]
      exact Option.some_ne_none action

theorem Action.word_of_ne_reload {action : Action} (ha : action ≠ .reload) (z y : Zid) :
    action.word z y = if y = z then some action else none := by
  unfold Action.word
  simp only [ha, false_or]

theorem Invariant.put {s : System} {m : Ledger} (h : s.Invariant m) {zettel : Zettel}
    (hvalid : zettel.zid.isValid = true) (origin : String) :
    Invariant { s with
      shelf := s.shelf.insert zettel.zid zettel
      indexer := s.indexer.receive [⟨origin, .onZettel, zettel.zid⟩] } m := by
  have hword := Action.word_of_ne_reload (by decide : Action.update ≠ .reload) zettel.zid
  refine h.receive _ ⟨origin, .onZettel, zettel.zid⟩ (h.shelf.insert hvalid) ?_ ?_
  · intro z hz
    change Action.word .update zettel.zid z = none at hz
    rw [hword] at hz
    split at hz
    · exact absurd hz (Option.some_ne_none _)
    next hne => rw [getElem?_insert_eq, if_neg hne]
  · intro z hz
    change Action.word .update zettel.zid z = some .delete at hz
    rw [hword] at hz
    split at hz
    · exact absurd (Option.some.inj hz) (by decide)
    · exact absurd hz.symm (Option.some_ne_none _)

theorem Invariant.remove {s : System} {m : Ledger} (h : s.Invariant m) (z : Zid) (origin : String) :
    Invariant { s with
      shelf := s.shelf.erase z
      indexer := s.indexer.receive [⟨origin, .onDelete, z⟩] } m := by
  have hword := Action.word_of_ne_reload (by decide : Action.delete ≠ .reload) z
  refine h.receive _ ⟨origin, .onDelete, z⟩ ?_ ?_ ?_
  · intro y zettel hy
    rw [getElem?_erase_eq] at hy
    split at hy
    · exact absurd hy.symm (Option.some_ne_none zettel)
    · exact h.shelf y zettel hy
  · intro y hy
    change Action.word .delete z y = none at hy
    rw [hword] at hy
    split at hy
    · exact absurd hy (Option.some_ne_none _)
    next hne => rw [getElem?_erase_eq, if_neg hne]
  · intro y hy
    change Action.word .delete z y = some .delete at hy
    rw [hword] at hy
    split at hy
    next heq => rw [getElem?_erase_eq, if_pos heq]
    next => exact absurd hy.symm (Option.some_ne_none _)

theorem Invariant.refresh {s : System} {m : Ledger} (h : s.Invariant m) (z : Zid)
    (origin : String) :
    Invariant { s with indexer := s.indexer.receive [⟨origin, .onReload, z⟩] } m := by
  refine h.receive s.shelf ⟨origin, .onReload, z⟩ h.shelf (fun _ _ => rfl) ?_
  intro y hy
  change Action.word .reload z y = some .delete at hy
  exact absurd (Option.some.inj hy) (by decide)

/-! ## 5. Taking in and taking out -/

/-- Work may be moved about as long as none of it is lost. -/
theorem Invariant.of_word {s t : System} {m : Ledger} (h : s.Invariant m)
    (hshelf : t.shelf = s.shelf) (hstore : t.indexer.store = s.indexer.store)
    (hscan : t.indexer.scan = s.indexer.scan) (htidy : t.indexer.anteroom.Tidy)
    (hdue : ∀ z, s.Due z → t.Due z)
    (hdelete : ∀ z : Zid, z.isValid = true → t.word z = some .delete → s.word z = some .delete)
    (hheld : ∀ z result, t.held = some (z, result) →
      z.isValid = true ∧ (result = t.shelf.read z ∨ t.word z ≠ none) ∧
        (result = .error (.notFound z) ∨ ∃ zettel, result = .ok zettel ∧ zettel.zid = z)) :
    t.Invariant m := by
  refine ⟨hstore ▸ h.keeps, htidy, hshelf ▸ h.shelf, ?_, ?_, hheld⟩
  · intro z
    rcases h.right z with hz | hz
    · exact Or.inl (hdue z hz)
    · exact Or.inr (hz.of_shelf hscan (by rw [hshelf]) (fun y => Or.inl (by rw [hshelf])) hdue)
  · intro z hz hdel
    rw [hshelf] at hz
    rcases Option.ne_none_iff_exists'.mp hz with ⟨zettel, hzettel⟩
    exact h.kept z hz (hdelete z (h.shelf z zettel hzettel).1 hdel)

theorem Invariant.accept {s : System} {m : Ledger} (h : s.Invariant m) {c : Change}
    {rest : List Change} (hinbox : s.indexer.inbox = c :: rest) :
    Invariant { s with indexer := Indexer.accept { s.indexer with inbox := rest } c } m := by
  have haccept := word_accept (x := { s.indexer with inbox := rest }) h.tidy c
  have hword : ∀ z : Zid, z.isValid = true →
      System.word { s with indexer := Indexer.accept { s.indexer with inbox := rest } c } z =
        s.word z := by
    intro z hz
    show (inboxWord rest z).or _ = (inboxWord s.indexer.inbox z).or _
    rw [hinbox, inboxWord, haccept.2 z hz, Option.or_assoc]
  refine h.of_word rfl rfl rfl haccept.1 ?_ ?_ ?_
  · rintro z ⟨hz, hword' | hheld⟩
    · exact ⟨hz, Or.inl (by rw [hword z hz]; exact hword')⟩
    · exact ⟨hz, Or.inr hheld⟩
  · intro z hz hdel
    rwa [hword z hz] at hdel
  · intro z result hheld
    rcases h.held z result hheld with ⟨hz, hresult, hshape⟩
    rw [hword z hz]
    exact ⟨hz, hresult, hshape⟩

/-- What is still to be done when an action has left the anteroom. -/
theorem word_dequeue {s : System} (htidy : s.indexer.anteroom.Tidy) {action : Action} {z : Zid}
    {anteroom : Anteroom} (hd : s.indexer.anteroom.dequeue = (some (action, z), anteroom))
    (held : Option (Zid × Except StoreError Zettel)) {y : Zid} (hy : y.isValid = true) :
    s.word y =
      (System.word { s with indexer := { s.indexer with anteroom }, held } y).or
        (action.word z y) := by
  show (inboxWord _ y).or (s.indexer.anteroom.word y) = ((inboxWord _ y).or (anteroom.word y)).or _
  rw [Option.or_assoc]
  congr 1
  exact (Anteroom.left_dequeue htidy hd).word y hy

theorem read_eq (shelf : Shelf) (z : Zid) :
    shelf[z]? = none ∧ shelf.read z = .error (.notFound z) ∨
      ∃ zettel, shelf[z]? = some zettel ∧ shelf.read z = .ok zettel := by
  unfold Shelf.read
  cases shelf[z]? with
  | none => exact Or.inl ⟨rfl, rfl⟩
  | some zettel => exact Or.inr ⟨zettel, rfl, rfl⟩

/-- Reading a zettel, or taking it for one that is not there: it is held until the index has been
brought in line with the result. -/
theorem Invariant.hold {s : System} {m : Ledger} (h : s.Invariant m) {action : Action} {z : Zid}
    {anteroom : Anteroom} (hheld : s.held = none) (ha : action ≠ .reload)
    (hd : s.indexer.anteroom.dequeue = (some (action, z), anteroom))
    {result : Except StoreError Zettel}
    (hresult : result = s.shelf.read z ∨ action = .delete ∧ result = .error (.notFound z)) :
    Invariant { s with
      indexer := { s.indexer with anteroom }
      held := some (z, result) } m := by
  have hleft := Anteroom.left_dequeue h.tidy hd
  have hz : z.isValid = true := by
    rcases hleft.entry with ⟨hz, -⟩ | ⟨-, hre⟩
    · exact hz
    · exact absurd hre ha
  have hword := fun y => word_dequeue h.tidy hd (some (z, result)) (y := y)
  -- What has left the queue is held instead, so it is still due.
  refine h.of_word rfl rfl rfl hleft.tidy ?_ ?_ ?_
  · rintro y ⟨hy, hdue | ⟨other, hother⟩⟩
    · by_cases hyz : y = z
      · exact ⟨hy, Or.inr ⟨result, by rw [hyz]⟩⟩
      · rw [hword y hy, Action.word_of_ne_reload ha, if_neg hyz, Option.or_none] at hdue
        exact ⟨hy, Or.inl hdue⟩
    · rw [hheld] at hother
      exact absurd hother.symm (Option.some_ne_none _)
  · intro y hy hdel
    rw [hword y hy, hdel, Option.some_or]
  · rintro y other hother
    rcases Prod.mk.inj (Option.some.inj hother) with ⟨rfl, rfl⟩
    refine ⟨hz, ?_, ?_⟩
    · rcases hresult with hread | ⟨rfl, rfl⟩
      · exact Or.inl hread
      · rcases read_eq s.shelf z with ⟨-, hread⟩ | ⟨zettel, hzettel, -⟩
        · exact Or.inl hread.symm
        · -- A zettel that is there will be looked at again.
          apply Or.inr
          intro hnone
          apply h.kept z (by rw [hzettel]; exact Option.some_ne_none zettel)
          rw [hword z hz, hnone, Option.none_or, Action.word_of_ne_reload ha, if_pos rfl]
    · rcases hresult with hread | ⟨-, rfl⟩
      · rcases read_eq s.shelf z with ⟨-, hnone⟩ | ⟨zettel, hzettel, hok⟩
        · exact Or.inl (hread.trans hnone)
        · exact Or.inr ⟨zettel, hread.trans hok, (h.shelf z zettel hzettel).2⟩
      · exact Or.inl rfl

/-! ## 6. Full scans -/

theorem mem_keys_iff {β : Type} (m : Std.ExtTreeMap Zid β) (z : Zid) :
    z ∈ m.keys ↔ m[z]? ≠ none := by
  rw [Std.ExtTreeMap.mem_keys, Std.ExtTreeMap.mem_iff_isSome_getElem?, Option.isSome_iff_ne_none]

section Scan

variable (s : System) {anteroom : Anteroom} {z : Zid}

theorem word_scan (hz : z.isValid = true) :
    System.word { s with
      indexer := Indexer.reload { s.indexer with anteroom } (.ok s.shelf.keys) } z =
    (inboxWord s.indexer.inbox z).or ((anteroom.late z).or
      (if z ∈ s.shelf.keys then some .update
      else if z ∈ s.indexer.store.tables.indexed.filter fun z => !s.shelf.keys.contains z then
        some .delete
      else none)) :=
  congrArg _ (Anteroom.word_reload anteroom _ s.shelf.keys hz)

/-- After a full scan all is due that is in the box or in the index. -/
theorem due_scan (hz : z.isValid = true)
    (hscan : z ∈ s.shelf.keys ∨ z ∈ s.indexer.store.tables.indexed) :
    System.Due { s with
      indexer := Indexer.reload { s.indexer with anteroom } (.ok s.shelf.keys) } z := by
  refine ⟨hz, Or.inl ?_⟩
  rw [s.word_scan hz, ne_eq, Option.or_eq_none_iff, Option.or_eq_none_iff]
  rintro ⟨-, -, hnone⟩
  by_cases hthere : z ∈ s.shelf.keys
  · rw [if_pos hthere] at hnone
    exact Option.some_ne_none _ hnone
  · have hgone : z ∈ s.indexer.store.tables.indexed.filter fun z => !s.shelf.keys.contains z := by
      apply List.mem_filter.mpr
      refine ⟨hscan.resolve_left hthere, ?_⟩
      rw [Bool.not_eq_true', List.contains_eq_mem, decide_eq_false_iff_not]
      exact hthere
    rw [if_neg hthere, if_pos hgone] at hnone
    exact Option.some_ne_none _ hnone

end Scan

theorem Invariant.reload {s : System} {m : Ledger} (h : s.Invariant m) (hheld : s.held = none)
    {anteroom : Anteroom} (htidy : anteroom.Tidy)
    (hdelete : ∀ z : Zid, z.isValid = true →
      (inboxWord s.indexer.inbox z).or (anteroom.word z) = some .delete →
        s.word z = some .delete) :
    Invariant { s with
      indexer := Indexer.reload { s.indexer with anteroom } (.ok s.shelf.keys) } m := by
  refine ⟨h.keeps, Anteroom.tidy_reload htidy _ _, h.shelf, ?_, ?_, ?_⟩
  · intro z
    cases hz : z.isValid with
    | false =>
      rcases h.right z with ⟨hvalid, -⟩ | hright
      · exact absurd (hz.symm.trans hvalid) Bool.false_ne_true
      · refine Or.inr ⟨hright.absent, ?_⟩
        intro zettel hzettel
        exact absurd (hz.symm.trans (h.shelf z zettel hzettel).1) Bool.false_ne_true
    | true =>
      -- All that the box or the index knows of becomes due.
      by_cases hscan : z ∈ s.shelf.keys ∨ z ∈ s.indexer.store.tables.indexed
      · exact Or.inl (s.due_scan hz hscan)
      · -- Neither the box nor the index knows of it.
        rcases not_or.mp hscan with ⟨hthere, hindexed⟩
        rw [Tables.indexed, mem_keys_iff, not_not] at hindexed
        rw [mem_keys_iff, not_not] at hthere
        refine Or.inr ⟨fun _ => h.keeps.eq_empty hindexed, ?_⟩
        intro zettel hzettel
        exact absurd (hthere.symm.trans hzettel) (Option.some_ne_none zettel).symm
  · intro z hz hdel
    rcases Option.ne_none_iff_exists'.mp hz with ⟨zettel, hzettel⟩
    have hvalid := (h.shelf z zettel hzettel).1
    rw [s.word_scan hvalid, if_pos ((mem_keys_iff s.shelf z).mpr hz), ← Option.or_assoc] at hdel
    apply h.kept z hz (hdelete z hvalid _)
    rw [Anteroom.word_eq_late_or htidy, ← Option.or_assoc]
    cases hlast : (inboxWord s.indexer.inbox z).or (anteroom.late z) with
    | none =>
      rw [hlast] at hdel
      exact absurd (Option.some.inj hdel) (by decide)
    | some action =>
      rw [hlast] at hdel
      exact hdel
  · intro z result hother
    exact absurd (hheld.symm.trans hother) (Option.some_ne_none _).symm

end System

/-! ## 7. Records of zettel that come and go -/

namespace Record

variable {scan : Scanner}

theorem content_congr {isThere isThere' : Zid → Bool} {zettel : Zettel}
    (h : ∀ inverse t, Mentions scan zettel inverse t → isThere t = isThere' t) :
    (ofZettel scan isThere zettel).content = (ofZettel scan isThere' zettel).content := by
  -- The heads under which references stand are all that depends on what is there.
  have hslot : ∀ k, (ofZettel scan isThere zettel).slot k = (ofZettel scan isThere' zettel).slot k := by
    intro k
    apply Std.ExtTreeSet.ext_mem
    intro t
    rw [mem_slot_ofZettel, mem_slot_ofZettel]
    unfold Slot.of
    constructor
    · rintro ⟨inverse, hmentions, hk⟩
      rw [h inverse t hmentions] at hk
      exact ⟨inverse, hmentions, hk⟩
    · rintro ⟨inverse, hmentions, hk⟩
      rw [← h inverse t hmentions] at hk
      exact ⟨inverse, hmentions, hk⟩
  have hrest := rest_ofZettel scan isThere zettel isThere'
  simp only [rest, Prod.mk.injEq] at hrest
  rcases hrest with ⟨-, hwords, hurls, htags⟩
  exact Content.ext (hslot .dead) (hslot .forward) (funext fun key => hslot (.typed key)) hwords
    hurls (congrArg (fun tags : TextSet => " ".intercalate tags.toList) htags)

/-- A zettel that is mentioned but not there is known as dead, and one that is there is not. -/
theorem mem_dead_content {isThere : Zid → Bool} {zettel : Zettel} {t : Zid}
    (ht : isThere t = false) {inverse : Option String} (h : Mentions scan zettel inverse t) :
    t ∈ (ofZettel scan isThere zettel).content.dead := by
  show t ∈ (ofZettel scan isThere zettel).slot .dead
  rw [mem_slot_ofZettel]
  refine ⟨inverse, h, ?_⟩
  unfold Slot.of
  rw [ht]
  rfl

theorem refersTo_content {isThere : Zid → Bool} {zettel : Zettel} {t : Zid}
    (ht : isThere t = true) {inverse : Option String} (h : Mentions scan zettel inverse t) :
    (ofZettel scan isThere zettel).content.RefersTo t := by
  cases inverse with
  | none =>
    apply Or.inl
    show t ∈ (ofZettel scan isThere zettel).slot .forward
    rw [mem_slot_ofZettel]
    exact ⟨none, h, by rw [Slot.of, ht]; rfl⟩
  | some key =>
    refine Or.inr ⟨key, ?_⟩
    show t ∈ (ofZettel scan isThere zettel).slot (.typed key)
    rw [mem_slot_ofZettel]
    exact ⟨some key, h, by rw [Slot.of, ht]; rfl⟩

/-- As long as a zettel is not mentioned it may come and go. -/
theorem content_update {isThere : Zid → Bool} {zettel : Zettel} {z : Zid} (there : Bool)
    (h : ∀ inverse, ¬ Mentions scan zettel inverse z) :
    (ofZettel scan isThere zettel).content =
      (ofZettel scan (Function.update isThere z there) zettel).content := by
  apply content_congr
  intro inverse t hmentions
  rw [Function.update_of_ne]
  rintro rfl
  exact h inverse hmentions

end Record

namespace System

/-! ## 8. Going on with what was read -/

/-- What finishing a zettel makes of an indexer. -/
def settle (x : Indexer) (z : Zid) (c : Call) : Indexer :=
  (x.settled z (x.store.call c).2).requeue (x.store.call c).1

/-- The zettel that are to be looked at again are due, and all else that was to be done still
is. -/
theorem word_settle {s : System} (htidy : s.indexer.anteroom.Tidy) (z : Zid) (c : Call) :
    (settle s.indexer z c).anteroom.Tidy ∧ ∀ y : Zid, y.isValid = true →
      System.word { s with indexer := settle s.indexer z c, held := none } y =
        (inboxWord s.indexer.inbox y).or (if y ∈ (s.indexer.store.call c).1 then some .update
          else s.indexer.anteroom.word y) := by
  have hqueue := Anteroom.word_foldl_enqueue htidy (s.indexer.store.call c).1.toList
  refine ⟨hqueue.1, ?_⟩
  intro y hy
  refine congrArg _ ((hqueue.2 y hy).trans ?_)
  simp only [Std.ExtTreeSet.mem_toList]

/-- What was read of a zettel, as it goes into the index. -/
def outcome (s : System) (z : Zid) : Except StoreError Zettel → Call
  | .ok zettel => .update (Record.ofZettel s.indexer.scan s.shelf.contains zettel)
  | .error _ => .delete z

section Settle

variable {s : System} {m : Ledger} {z : Zid} {result : Except StoreError Zettel}

theorem word_settle_ne_none (htidy : s.indexer.anteroom.Tidy) (c : Call) {y : Zid}
    (hy : y.isValid = true) (hdue : s.word y ≠ none ∨ y ∈ (s.indexer.store.call c).1) :
    System.word { s with indexer := settle s.indexer z c, held := none } y ≠ none := by
  rw [(word_settle htidy z c).2 y hy, ne_eq, Option.or_eq_none_iff]
  rintro ⟨hinbox, hnone⟩
  split at hnone
  · exact Option.some_ne_none _ hnone
  next hnot =>
    rcases hdue with hword | hmem
    · apply hword
      unfold System.word
      rw [hinbox, hnone]
      rfl
    · exact hnot hmem

/-- The ledger changes for no other zettel, unless that one is to be looked at again. -/
theorem call_outcome_of_ne (h : s.Invariant m) (hheld : s.held = some (z, result)) {y : Zid}
    (hyz : y ≠ z) (hnot : ¬ m.Answers (s.outcome z result) y) :
    m.call (s.outcome z result) y = m y := by
  rcases (h.held z result hheld).2.2 with rfl | ⟨zettel, rfl, hzid⟩
  · exact Ledger.call_delete_of_not_answers hyz hnot
  · refine Function.update_of_ne ?_ _ _
    rw [Record.zid_ofZettel, hzid]
    exact hyz

/-- A zettel that has a reference under the wrong head is among those to be looked at again. -/
theorem answers_of_mentions (h : s.Invariant m) (hread : result = s.shelf.read z)
    {y : Zid} (hyz : y ≠ z) {zettel : Zettel} {isThere : Zid → Bool}
    (hm : m y = (Record.ofZettel s.indexer.scan isThere zettel).content)
    (hwrong : isThere z ≠ s.shelf.contains z) {inverse : Option String}
    (hmentions : Record.Mentions s.indexer.scan zettel inverse z) :
    m.Answers (s.outcome z result) y := by
  rw [Std.ExtTreeMap.contains_eq_isSome_getElem?] at hwrong
  rcases read_eq s.shelf z with ⟨hnone, herror⟩ | ⟨own, hown, hok⟩
  · rw [hnone, Option.isSome_none, ne_eq, Bool.not_eq_false] at hwrong
    rw [hread, herror]
    refine ⟨hyz, ?_⟩
    rw [hm]
    exact Record.refersTo_content hwrong hmentions
  · rw [hown, Option.isSome_some, ne_eq, Bool.not_eq_true] at hwrong
    have hzid : (Record.ofZettel s.indexer.scan s.shelf.contains own).zid = z :=
      (Record.zid_ofZettel _ _ own).trans (h.shelf z own hown).2
    rw [hread, hok]
    refine ⟨?_, ?_⟩
    · rw [hzid]
      exact hyz
    · rw [hzid, hm]
      exact Record.mem_dead_content hwrong hmentions

/-- A zettel that is not to be looked at again stays right. -/
theorem right_other (h : s.Invariant m) (hheld : s.held = some (z, result)) {y : Zid}
    (hright : s.Right m y) (hyz : y ≠ z) (hnot : ¬ m.Answers (s.outcome z result) y) :
    Right { s with indexer := settle s.indexer z (s.outcome z result), held := none }
      (m.call (s.outcome z result)) y := by
  let t : System := { s with indexer := settle s.indexer z (s.outcome z result), held := none }
  show t.Right (m.call (s.outcome z result)) y
  have hsame := call_outcome_of_ne h hheld hyz hnot
  have hdue : ∀ a, a ≠ z → s.Due a → t.Due a := by
    rintro a haz ⟨ha, hword | ⟨other, hother⟩⟩
    · exact ⟨ha, Or.inl (word_settle_ne_none h.tidy _ ha (Or.inl hword))⟩
    · rw [hheld] at hother
      exact absurd (congrArg Prod.fst (Option.some.inj hother)).symm haz
  refine ⟨fun hnone => hsame.trans (hright.absent hnone), ?_⟩
  intro zettel hzettel
  rcases hright.present zettel hzettel with ⟨isThere, hm, hthere⟩
  -- Only the head for references to `z` can have become wrong. If it is right, or `z` is due, the
  -- record may stay.
  by_cases hfine : isThere z = s.shelf.contains z ∨ t.Due z
  · refine ⟨isThere, hsame.trans hm, ?_⟩
    intro a
    by_cases haz : a = z
    · rw [haz]
      exact hfine
    · exact (hthere a).imp id (hdue a haz)
  · rcases not_or.mp hfine with ⟨hwrong, hdone⟩
    rcases h.held z result hheld with ⟨hz, hread | hword, -⟩
    -- Else the zettel does not mention `z`, or it would have been asked for again.
    · have hmentions : ∀ inverse, ¬ Record.Mentions s.indexer.scan zettel inverse z :=
        fun inverse hmentions => hnot (answers_of_mentions h hread hyz hm hwrong hmentions)
      refine ⟨Function.update isThere z (s.shelf.contains z),
        (hsame.trans hm).trans (Record.content_update _ hmentions), ?_⟩
      intro a
      by_cases haz : a = z
      · rw [haz]
        exact Or.inl (Function.update_self _ _ _)
      · rw [Function.update_of_ne haz]
        exact (hthere a).imp id (hdue a haz)
    · exact absurd ⟨hz, Or.inl (word_settle_ne_none h.tidy _ hz (Or.inl hword))⟩ hdone

/-- What was read is right, if it is not out of date. -/
theorem right_own (h : s.Invariant m) (hread : result = s.shelf.read z) :
    Right { s with indexer := settle s.indexer z (s.outcome z result), held := none }
      (m.call (s.outcome z result)) z := by
  rcases read_eq s.shelf z with ⟨hnone, herror⟩ | ⟨zettel, hzettel, hok⟩
  · rw [hread, herror]
    refine ⟨fun _ => if_pos rfl, ?_⟩
    intro zettel hzettel
    exact absurd (hnone.symm.trans hzettel) (Option.some_ne_none zettel).symm
  · have hzid : (Record.ofZettel s.indexer.scan s.shelf.contains zettel).zid = z :=
      (Record.zid_ofZettel _ _ zettel).trans (h.shelf z zettel hzettel).2
    rw [hread, hok]
    refine ⟨fun hnone => absurd (hnone.symm.trans hzettel) (Option.some_ne_none zettel).symm, ?_⟩
    intro other hother
    rcases Option.some.inj (hzettel.symm.trans hother) with rfl
    refine ⟨s.shelf.contains, ?_, fun _ => Or.inl rfl⟩
    show Function.update m _ _ z = _
    rw [hzid, Function.update_self]
    rfl

theorem Invariant.finish (h : s.Invariant m) (hheld : s.held = some (z, result)) :
    Invariant { s with indexer := settle s.indexer z (s.outcome z result), held := none }
      (m.call (s.outcome z result)) := by
  have hanswer := h.keeps.answer (s.outcome z result)
  have hsettle := word_settle h.tidy z (s.outcome z result)
  refine ⟨h.keeps.call _, hsettle.1, h.shelf, ?_, ?_, ?_⟩
  · intro y
    -- The zettel itself is right now, or due again because it has changed since it was read.
    -- Another one stays right unless the call asks for it.
    by_cases hyz : y = z
    · rw [hyz]
      rcases h.held z result hheld with ⟨hz, hread | hword, -⟩
      · exact Or.inr (right_own h hread)
      · exact Or.inl ⟨hz, Or.inl (word_settle_ne_none h.tidy _ hz (Or.inl hword))⟩
    · rcases h.right y with ⟨hy, hword | ⟨other, hother⟩⟩ | hright
      · exact Or.inl ⟨hy, Or.inl (word_settle_ne_none h.tidy _ hy (Or.inl hword))⟩
      · rw [hheld] at hother
        exact absurd (congrArg Prod.fst (Option.some.inj hother)).symm hyz
      · by_cases hasked : m.Answers (s.outcome z result) y
        · cases hy : y.isValid with
          | true =>
            exact Or.inl ⟨hy, Or.inl (word_settle_ne_none h.tidy _ hy (Or.inr ((hanswer y).mpr hasked)))⟩
          | false =>
            exact absurd hasked (Ledger.not_answers_of_empty (hright.absent (h.shelf.eq_none hy)) _)
        · exact Or.inr (right_other h hheld hright hyz hasked)
  · intro y hy hdel
    rcases Option.ne_none_iff_exists'.mp hy with ⟨zettel, hzettel⟩
    apply h.kept y hy
    rw [hsettle.2 y (h.shelf y zettel hzettel).1] at hdel
    unfold System.word
    cases hinbox : inboxWord s.indexer.inbox y with
    | some action =>
      rw [hinbox] at hdel
      exact hdel
    | none =>
      rw [hinbox, Option.none_or] at hdel
      split at hdel
      · exact absurd (Option.some.inj hdel) (by decide)
      · exact hdel
  · intro y other hother
    exact absurd hother.symm (Option.some_ne_none _)

end Settle

/-! ## 9. All runs -/

theorem Invariant.step {s t : System} {m : Ledger} (h : s.Invariant m) (hstep : Step s t) :
    ∃ m', t.Invariant m' := by
  cases hstep with
  | put zettel origin hvalid => exact ⟨m, h.put hvalid origin⟩
  | remove z origin => exact ⟨m, h.remove z origin⟩
  | refresh z origin => exact ⟨m, h.refresh z origin⟩
  | accept c rest hinbox => exact ⟨m, h.accept hinbox⟩
  | idle hheld => exact ⟨m, h.reload hheld h.tidy fun _ _ hdel => hdel⟩
  | fetch z anteroom hheld hd => exact ⟨m, h.hold hheld (by decide) hd (Or.inl rfl)⟩
  | work now action z anteroom hheld hd ha =>
    cases action with
    | update => exact absurd rfl ha
    | reload =>
      refine ⟨m, h.reload hheld (Anteroom.left_dequeue h.tidy hd).tidy ?_⟩
      intro y hy hdel
      rw [word_dequeue h.tidy hd s.held hy]
      exact (congrArg (Option.or · _) hdel).trans (Option.some_or ..)
    | delete =>
      have hheld' := h.hold hheld (by decide) hd (Or.inr ⟨rfl, rfl⟩)
      have hdone := hheld'.finish rfl
      rw [← hheld] at hdone
      exact ⟨_, hdone⟩
  | finish now z result hheld =>
    have hdone := h.finish hheld
    rcases (h.held z result hheld).2.2 with rfl | ⟨zettel, rfl, -⟩
    · exact ⟨_, hdone⟩
    · exact ⟨_, hdone⟩

theorem Invariant.steps {s t : System} {m : Ledger} (h : s.Invariant m)
    (hsteps : Relation.ReflTransGen Step s t) : ∃ m', t.Invariant m' := by
  induction hsteps with
  | refl => exact ⟨m, h⟩
  | tail _ hstep ih =>
    rcases ih with ⟨m', hm'⟩
    exact hm'.step hstep

variable {config : IndexerConfig} {scan : Scanner}

theorem Reachable.invariant {s : System} (h : Reachable config scan s) : ∃ m, s.Invariant m := by
  induction h with
  | start => exact ⟨Ledger.empty, invariant_start config scan⟩
  | next _ hstep ih =>
    rcases ih with ⟨m, hm⟩
    exact hm.step hstep

theorem scan_finish (x : Indexer) (now : Nat) (has : Zid → Bool) (z : Zid)
    (result : Except StoreError Zettel) : (x.finish now has z result).scan = x.scan := by
  unfold Indexer.finish
  split
  · rfl
  · rfl
  · split
    · unfold Indexer.putOff
      dsimp only
      split <;> rfl
    · rfl

theorem Step.scan_eq {s t : System} (h : Step s t) : t.indexer.scan = s.indexer.scan := by
  cases h with
  | work now action z anteroom hheld hd ha =>
    cases action with
    | update => exact absurd rfl ha
    | reload => rfl
    | delete => rfl
  | finish now z result hheld => exact scan_finish _ now _ z result
  | _ => rfl

theorem Reachable.scan_eq {s : System} (h : Reachable config scan s) : s.indexer.scan = scan := by
  induction h with
  | start => rfl
  | next _ hstep ih => exact hstep.scan_eq.trans ih

/-- The records of all that is in the box, in some order. -/
def records (s : System) (order : List Zettel) : List Record :=
  order.map (Record.ofZettel s.indexer.scan s.shelf.contains)

/-- Where nothing is due, the ledger is the one that has all records of the box. -/
theorem Invariant.ledger_eq {s : System} {m : Ledger} (h : s.Invariant m)
    (hdone : ∀ z, ¬ s.Due z) {order : List Zettel}
    (horder : order.Perm (s.shelf.toList.map Prod.snd)) :
    Ledger.empty.callAll ((s.records order).map .update) = m := by
  have hzids : (s.records order).map Record.zid = order.map Zettel.zid := by
    unfold records
    rw [List.map_map]
    exact List.map_congr_left fun zettel _ => Record.zid_ofZettel _ _ zettel
  have hkeys : (s.shelf.toList.map Prod.snd).map Zettel.zid = s.shelf.toList.map Prod.fst := by
    rw [List.map_map]
    apply List.map_congr_left
    intro p hp
    exact (h.shelf p.1 p.2 (Std.ExtTreeMap.mem_toList_iff_getElem?_eq_some.mp hp)).2
  have hperm : ((s.records order).map Record.zid).Perm (s.shelf.toList.map Prod.fst) := by
    rw [hzids, ← hkeys]
    exact horder.map Zettel.zid
  have hnodup : ((s.records order).map Record.zid).Nodup :=
    hperm.nodup_iff.mpr (nodup_keys s.shelf)
  -- With nothing due, each record has been made with what is there now.
  funext z
  rcases (h.right z).resolve_left (hdone z) with ⟨habsent, hpresent⟩
  cases hz : s.shelf[z]? with
  | none =>
    rw [habsent hz]
    refine Ledger.callAll_updates_of_not_mem ?_ _
    intro hmem
    rcases List.mem_map.mp (hperm.mem_iff.mp hmem) with ⟨p, hp, rfl⟩
    rw [Std.ExtTreeMap.mem_toList_iff_getElem?_eq_some, hz] at hp
    exact Option.some_ne_none p.2 hp.symm
  | some zettel =>
    rcases hpresent zettel hz with ⟨isThere, hm, hthere⟩
    have hexists : isThere = s.shelf.contains := by
      funext t
      exact (hthere t).resolve_right (hdone t)
    have hrecord : Record.ofZettel s.indexer.scan s.shelf.contains zettel ∈ s.records order := by
      refine List.mem_map_of_mem (horder.mem_iff.mpr ?_)
      exact List.mem_map.mpr
        ⟨(z, zettel), Std.ExtTreeMap.mem_toList_iff_getElem?_eq_some.mpr hz, rfl⟩
    have hcontent := Ledger.callAll_updates_of_mem hnodup hrecord Ledger.empty
    rw [Record.zid_ofZettel, (h.shelf z zettel hz).2] at hcontent
    rw [hcontent, hm, hexists]

/-- When no change is under way and nothing is left to do, the index is the one that a new indexer
would make of the box. -/
theorem Reachable.dump_eq {s : System} (h : Reachable config scan s)
    (hinbox : s.indexer.inbox = []) (hrooms : s.indexer.anteroom.isEmpty = true)
    (hheld : s.held = none) {order : List Zettel}
    (horder : order.Perm (s.shelf.toList.map Prod.snd)) :
    s.indexer.store.tables.dump =
      (Store.new.callAll (order.map fun zettel =>
        .update (Record.ofZettel scan s.shelf.contains zettel))).tables.dump := by
  rcases h.invariant with ⟨m, hm⟩
  have hdone : ∀ z, ¬ s.Due z := by
    rintro z ⟨-, hword | ⟨result, hother⟩⟩
    · unfold System.word at hword
      rw [hinbox, Anteroom.word_of_isEmpty hrooms] at hword
      exact hword rfl
    · exact absurd (hheld.symm.trans hother) (Option.some_ne_none _).symm
  have hledger := hm.ledger_eq hdone horder
  have hkeeps := Store.keeps_after ((s.records order).map .update)
  rw [hledger] at hkeeps
  have hcalls : (s.records order).map Call.update = order.map fun zettel =>
      .update (Record.ofZettel scan s.shelf.contains zettel) := by
    unfold records
    rw [List.map_map, h.scan_eq]
    rfl
  rw [← hcalls, hm.keeps.ext hkeeps]

/-- A text is the identifier of a zettel, or else one word. -/
def wholeText : Scanner := fun _ text =>
  match Zid.parse? text with
  | some z => { ScanResult.empty with links := ZidSet.ofZids [z] }
  | none => { ScanResult.empty with words := addTexts ∅ [text] }

/-- Two zettel that refer to each other, and one of them to a third one. -/
def first : Zettel := ⟨((Meta.new ⟨1⟩).set "syntax" "none").set "title" "00000000000002", []⟩

def second : Zettel :=
  ⟨(((Meta.new ⟨2⟩).set "syntax" "none").set "title" "00000000000003").set "precursor"
    "00000000000001", []⟩

/-- The second one is not there when the first one is indexed, and the first one goes while the
worker holds the second one. -/
def parting : List Move :=
  [.put first "", .accept, .work 0, .finish 0,
    .put second "", .accept, .work 0, .remove ⟨1⟩ "", .finish 0]

/-- The first one is to be looked at again and not found, but comes back while the worker holds what
it found. -/
def meeting : List Move :=
  [.work 0, .put first "", .finish 0,
    -- The deletion and the new zettel are one action, after which the second one is looked at again.
    .accept, .accept, .work 0, .finish 0, .work 0, .finish 0,
    .refresh Zid.invalid "", .accept, .work 0, .work 0, .finish 0, .work 0, .finish 0]

/-- The index while each of the two is taken to be missing by the other. -/
def deadEnds : String := "\n".intercalate
  ["=== 00000000000001", "* dead: 00000000000002", "* words: none",
    "=== 00000000000002", "* dead: 00000000000001 00000000000003", "* words: none",
    "==== Dead references", "00000000000001: 00000000000002", "00000000000002: 00000000000001",
    "00000000000003: 00000000000002",
    "==== Words", "none: 00000000000001 00000000000002", ""]

/-- The index once both are known to be there. -/
def liveEnds : String := "\n".intercalate
  ["=== 00000000000001", "* forward: 00000000000002", "* meta folge backward: 00000000000002",
    "* words: none",
    "=== 00000000000002", "* dead: 00000000000003", "* backward: 00000000000001",
    "* meta folge forward: 00000000000001", "* words: none",
    "==== Dead references", "00000000000003: 00000000000002",
    "==== Words", "none: 00000000000001 00000000000002", ""]

set_option maxRecDepth 20000 in
/-- The references that are dead on the way live in the end. -/
theorem dump_eq_of_meeting : ∃ s t : System,
    performAll ⟨∅, .new .default wholeText, none⟩ parting = some s ∧
      s.indexer.store.tables.dump = deadEnds ∧
    s.performAll meeting = some t ∧ Reachable .default wholeText t ∧
      t.shelf.keys = [⟨1⟩, ⟨2⟩] ∧ t.indexer.inbox = [] ∧ t.indexer.anteroom.isEmpty = true ∧
      t.held = none ∧ t.indexer.store.tables.dump = liveEnds ∧
      t.indexer.store.tables.dump = (Store.new.callAll ((t.shelf.toList.map Prod.snd).map
        fun zettel => .update (Record.ofZettel wholeText t.shelf.contains zettel))).tables.dump := by
  have hrun : ((performAll ⟨∅, .new .default wholeText, none⟩ parting).bind fun s =>
      (s.performAll meeting).map fun t =>
        (s.indexer.store.tables.dump, t.shelf.keys, t.indexer.inbox.isEmpty,
          t.indexer.anteroom.isEmpty, t.held.isNone, t.indexer.store.tables.dump)) =
      some (deadEnds, [⟨1⟩, ⟨2⟩], true, true, true, liveEnds) := by
    cbv
  rcases Option.bind_eq_some_iff.mp hrun with ⟨s, hs, hrest⟩
  rcases Option.map_eq_some_iff.mp hrest with ⟨t, ht, hend⟩
  simp only [Prod.mk.injEq, List.isEmpty_iff, Option.isNone_iff_eq_none] at hend
  rcases hend with ⟨hparted, hkeys, hinbox, hrooms, hheld, hdump⟩
  have hreached := (Reachable.start.performAll hs).performAll ht
  exact ⟨s, t, hs, hparted, ht, hreached, hkeys, hinbox, hrooms, hheld, hdump,
    hreached.dump_eq hinbox hrooms hheld (.refl _)⟩

end System

end Kasten.Index
