import Kasten.Proofs.Catalog.Refinement
import Kasten.Proofs.Catalog.Scan

/-!
# The life of a service

A service is started once at most, and stopped for good. In between it has a catalog just while it
is working: what a notifier tells and what is changed by hand keep the two in step, in whatever
order they come.

A call or an event is one step here. What may happen within one is left out: a service that is
stopped after it has looked whether it is stopping, but before it has taken in the event, may go on
with another phase.
-/

namespace Kasten

namespace Service

/-! ## 1. Calls -/

/-- What can be done with a service; its notifier may also go away. -/
inductive Call where
  | start
  | stop
  | tell (event : Event)
  | hangUp
  | change (m : Mutation)

/-- What comes of a call. -/
structure Response where
  answer : Except StoreError Unit
  service : Service
  changes : List Change

/-- An attempt that fails leaves the service as it is. -/
def attempt (s : Service) : Except StoreError Service → Response
  | .ok s' => ⟨.ok (), s', []⟩
  | .error error => ⟨.error error, s, []⟩

def call (s : Service) : Call → Response
  | .start => s.attempt s.start
  | .stop => ⟨.ok (), s.stop, []⟩
  | .tell event => ⟨.ok (), (s.send [event]).1, (s.send [event]).2⟩
  | .hangUp => ⟨.ok (), { s with isListening := false }, []⟩
  | .change m => s.attempt (s.mutate m)

def callAll (s : Service) (calls : List Call) : Service :=
  calls.foldl (fun s c => (s.call c).service) s

variable {s s' : Service} {origin : String} {cat : Catalog} {event : Event} {m : Mutation}
variable {error : StoreError}

/-! ## 2. Changes by hand that fail -/

theorem present_of_some (h : s.catalog = some cat) : s.present = .ok cat := by
  unfold present
  rw [h]

theorem present_of_none (h : s.catalog = none) : s.present = .error (.noDirectory s.origin) := by
  unfold present
  rw [h]

theorem mutate_of_none (h : s.catalog = none) (m : Mutation) :
    s.mutate m = .error (.noDirectory s.origin) := by
  cases m with
  | reserve now =>
    unfold mutate reserve
    rw [present_of_none h]
    rfl
  | put e =>
    unfold mutate put
    rw [present_of_none h]
    rfl
  | drop z =>
    unfold mutate drop
    rw [present_of_none h]
    rfl
  | rename old new =>
    unfold mutate rename
    rw [present_of_none h]
    rfl

theorem reserve_of_some (h : s.catalog = some cat) (now : Time) :
    s.reserve now = match Zid.fresh true now fun z => !cat.contains z with
      | .ok z => .ok (z, { s with catalog := some (cat.insert z (Entry.new z)) })
      | .error e => .error (.ofZidError e) := by
  unfold reserve
  rw [present_of_some h]
  rfl

theorem rename_of_some (h : s.catalog = some cat) (old : Entry) (new : Zid) :
    s.rename old new =
      if cat.contains new then .error (.invalidZid s!"{new} already exists")
      else .ok (old.renamed new,
        { s with catalog := some ((cat.erase old.zid).insert new (old.renamed new)) }) := by
  unfold rename
  rw [present_of_some h]
  show (if cat.contains new then _ else _) = _
  split
  next => rfl
  next => rfl

theorem fresh_error {withSeconds : Bool} {now : Time} {isFree : Zid → Bool} {failure : ZidError}
    (h : Zid.fresh withSeconds now isFree = .error failure) :
    failure = .exhausted Zid.maxAttempts := by
  unfold Zid.fresh at h
  split at h
  next => cases h
  next =>
    cases h
    rfl

/-- With a catalog there are two ways to fail: no identifier is free, or just the wanted one is
taken. -/
theorem error_of_mutate (hcat : s.catalog = some cat) (h : s.mutate m = .error error) :
    error = .exhaustedIds ∨ ∃ new ∈ cat, error = .invalidZid s!"{new} already exists" := by
  cases m with
  | reserve now =>
    have hreserve := eq_error_of_map_eq_error h
    rw [reserve_of_some hcat] at hreserve
    split at hreserve
    next => cases hreserve
    next failure hfresh =>
      cases hreserve
      rw [fresh_error hfresh]
      exact .inl rfl
  | put e =>
    unfold mutate put at h
    rw [present_of_some hcat] at h
    cases h
  | drop z =>
    unfold mutate drop at h
    rw [present_of_some hcat] at h
    cases h
  | rename old new =>
    have hrename := eq_error_of_map_eq_error h
    rw [rename_of_some hcat] at hrename
    split at hrename
    next hin =>
      cases hrename
      exact .inr ⟨new, Std.ExtTreeMap.contains_iff_mem.mp hin, rfl⟩
    next => cases hrename

theorem isSome_of_mutate (h : s.mutate m = .ok s') : s.catalog.isSome = true := by
  cases hcat : s.catalog with
  | none =>
    rw [mutate_of_none hcat] at h
    cases h
  | some cat => rfl

/-! ## 3. Phases -/

theorem send_single (s : Service) (event : Event) :
    s.send [event] = if s.isListening then s.handle event else (s, []) := rfl

theorem handle_of_stopping (h : s.phase = .stopping) (event : Event) : s.handle event = (s, []) := by
  unfold handle
  rw [if_pos h]

/-- How an event may leave a service: as far as it was, at work with a catalog, or without the
directory. -/
structure Advances (s s' : Service) : Prop where
  origin : s'.origin = s.origin
  listening : s'.isListening = s.isListening
  phase : s'.phase = s.phase ∧ s'.catalog.isSome = s.catalog.isSome ∨
    s'.phase = .working ∧ s'.catalog.isSome = true ∨ s'.phase = .missing ∧ s'.catalog.isSome = false

theorem advances_finishScan (s : Service) : s.Advances s.finishScan.1 := by
  unfold finishScan
  split
  next => exact ⟨rfl, rfl, .inl ⟨rfl, rfl⟩⟩
  next => exact ⟨rfl, rfl, .inr (.inl ⟨rfl, rfl⟩)⟩

theorem advances_handle (s : Service) (event : Event) : s.Advances (s.handle event).1 := by
  have hstays : ∀ catalog shadow : Option Catalog, catalog.isSome = s.catalog.isSome →
      s.Advances { s with catalog, shadow } :=
    fun _ _ hsome => ⟨rfl, rfl, .inl ⟨rfl, hsome⟩⟩
  unfold handle
  split
  next => exact hstays _ _ rfl
  next =>
    cases event with
    | make => exact hstays _ _ rfl
    | list name =>
      dsimp only
      split
      next => exact advances_finishScan s
      next => exact hstays _ _ rfl
    | ready => exact advances_finishScan s
    | update name => exact hstays _ _ Option.isSome_map
    | delete name =>
      show s.Advances (s.deleteFile name).1
      rw [deleteFile_fst]
      exact hstays _ _ Option.isSome_map
    | destroy => exact ⟨rfl, rfl, .inr (.inr ⟨rfl, rfl⟩)⟩
    | error _ => exact hstays _ _ rfl

/-- What holds of a service throughout its life. Before it is started it hears of nothing. -/
structure IsAlive (origin : String) (s : Service) : Prop where
  origin : s.origin = origin
  working : s.phase ≠ .stopping → (s.catalog.isSome = true ↔ s.phase = .working)
  silent : s.phase = .created → s.isListening = false

namespace IsAlive

theorem new (origin : String) : (new origin).IsAlive origin where
  origin := rfl
  working _ := by simp [Service.new]
  silent _ := rfl

theorem start (h : s.IsAlive origin) (hs : s.start = .ok s') : s'.IsAlive origin := by
  unfold Service.start at hs
  split at hs
  next hcreated =>
    cases hs
    refine ⟨h.origin, fun _ => ?_, fun hphase => Phase.noConfusion hphase⟩
    -- A service that is only created has no catalog yet, and starting gives it none.
    have hworking := h.working (by rw [hcreated]; decide)
    rw [hcreated] at hworking
    show s.catalog.isSome = true ↔ Phase.starting = .working
    rw [hworking]
    decide
  next => cases hs

theorem stop (h : s.IsAlive origin) : s.stop.IsAlive origin :=
  ⟨h.origin, fun hphase => absurd rfl hphase, fun _ => rfl⟩

theorem send (h : s.IsAlive origin) (event : Event) : (s.send [event]).1.IsAlive origin := by
  rw [send_single]
  split
  next hlistening =>
    by_cases hstopping : s.phase = .stopping
    · rw [handle_of_stopping hstopping]
      exact h
    · have hcreated : s.phase ≠ .created := by
        intro hphase
        rw [h.silent hphase] at hlistening
        cases hlistening
      have hstep := advances_handle s event
      refine ⟨hstep.origin.trans h.origin, fun _ => ?_, fun hphase => ?_⟩
      · rcases hstep.phase with ⟨hphase, hcat⟩ | ⟨hphase, hcat⟩ | ⟨hphase, hcat⟩
        · rw [hphase, hcat]
          exact h.working hstopping
        · simp [hphase, hcat]
        · simp [hphase, hcat]
      · rcases hstep.phase with ⟨hsame, -⟩ | ⟨hworking, -⟩ | ⟨hmissing, -⟩
        · exact absurd (hsame.symm.trans hphase) hcreated
        · rw [hworking] at hphase
          cases hphase
        · rw [hmissing] at hphase
          cases hphase
  next => exact h

theorem mutate (h : s.IsAlive origin) (hm : s.mutate m = .ok s') : s'.IsAlive origin := by
  rcases mutate_eq hm with ⟨cat, rfl⟩
  refine ⟨h.origin, fun hphase => ?_, h.silent⟩
  rw [← h.working hphase, isSome_of_mutate hm]
  rfl

theorem attempt {x : Except StoreError Service} (h : s.IsAlive origin)
    (hx : ∀ s', x = .ok s' → s'.IsAlive origin) : (s.attempt x).service.IsAlive origin := by
  cases x with
  | ok s' => exact hx s' rfl
  | error error => exact h

theorem call (h : s.IsAlive origin) (c : Call) : (s.call c).service.IsAlive origin := by
  cases c with
  | start => exact h.attempt fun _ hs => h.start hs
  | stop => exact h.stop
  | tell event => exact h.send event
  | hangUp => exact ⟨h.origin, h.working, fun _ => rfl⟩
  | change m => exact h.attempt fun _ hm => h.mutate hm

theorem callAll (h : s.IsAlive origin) (calls : List Call) : (s.callAll calls).IsAlive origin := by
  induction calls generalizing s with
  | nil => exact h
  | cons c rest ih => exact ih (h.call c)

end IsAlive

/-! ## 4. The ends of life -/

theorem start_eq (s : Service) : s.start =
    if s.phase = .created then
      .ok { s with phase := .starting, isListening := true, hasNotifier := true }
    else .error (.internal s!"directory service {s.origin} already started") := rfl

/-- Before its start a service hears of nothing, so only a start or a stop ends this phase. -/
theorem phase_call_of_created (h : s.phase = .created) (hsilent : s.isListening = false) (c : Call) :
    (s.call c).service.phase = .created ∨ c = .start ∨ c = .stop := by
  cases c with
  | start => exact .inr (.inl rfl)
  | stop => exact .inr (.inr rfl)
  | tell event =>
    left
    show (s.send [event]).1.phase = .created
    rw [send_single, hsilent]
    exact h
  | hangUp => exact .inl h
  | change m =>
    left
    show (s.attempt (s.mutate m)).service.phase = .created
    cases hm : s.mutate m with
    | error error => exact h
    | ok s' =>
      rcases mutate_eq hm with ⟨cat, rfl⟩
      exact h

theorem send_of_stopping (h : s.phase = .stopping) (event : Event) : s.send [event] = (s, []) := by
  rw [send_single, handle_of_stopping h, ite_self]

theorem phase_call_of_stopping (h : s.phase = .stopping) (c : Call) :
    (s.call c).service.phase = .stopping := by
  cases c with
  | start =>
    show (s.attempt s.start).service.phase = .stopping
    rw [start_eq, h]
    exact h
  | stop => rfl
  | tell event =>
    show (s.send [event]).1.phase = .stopping
    rw [send_of_stopping h]
    exact h
  | hangUp => exact h
  | change m =>
    show (s.attempt (s.mutate m)).service.phase = .stopping
    cases hm : s.mutate m with
    | error error => exact h
    | ok s' =>
      rcases mutate_eq hm with ⟨cat, rfl⟩
      exact h

theorem phase_callAll_of_stopping (h : s.phase = .stopping) (calls : List Call) :
    (s.callAll calls).phase = .stopping := by
  induction calls generalizing s with
  | nil => exact h
  | cons c rest ih => exact ih (phase_call_of_stopping h c)

/-! ## 5. Whole lives -/

/-- How a service answers whatever is done with it next. -/
structure IsOrderly (origin : String) (s : Service) : Prop where
  catalog : s.phase ≠ .stopping → (s.catalog.isSome = true ↔ s.phase = .working)
  created : s.phase = .created → ∀ c, (s.call c).service.phase = .created ∨ c = .start ∨ c = .stop
  starts : s.phase = .created → (s.call .start).answer = .ok ()
  started : s.phase ≠ .created →
    s.call .start = ⟨.error (.internal s!"directory service {origin} already started"), s, []⟩
  stopping : s.phase = .stopping → ∀ more, (s.callAll more).phase = .stopping
  deaf : s.phase = .stopping → ∀ event, s.call (.tell event) = ⟨.ok (), s, []⟩
  absent : s.catalog = none → ∀ m, s.call (.change m) = ⟨.error (.noDirectory origin), s, []⟩
  failed : ∀ m error, (s.call (.change m)).answer = .error error →
    (s.call (.change m)).service = s ∧ (s.call (.change m)).changes = [] ∧
      (error = .noDirectory origin ↔ s.catalog = none)

theorem call_change_of_error (h : s.mutate m = .error error) :
    s.call (.change m) = ⟨.error error, s, []⟩ := by
  show s.attempt (s.mutate m) = _
  rw [h]
  rfl

theorem mutate_of_answer (h : (s.call (.change m)).answer = .error error) :
    s.mutate m = .error error := by
  change (s.attempt (s.mutate m)).answer = .error error at h
  cases hm : s.mutate m with
  | ok s' =>
    rw [hm] at h
    cases h
  | error failure =>
    rw [hm] at h
    cases h
    rfl

theorem noDirectory_iff (h : s.mutate m = .error error) :
    error = .noDirectory s.origin ↔ s.catalog = none := by
  cases hcat : s.catalog with
  | none =>
    rw [mutate_of_none hcat] at h
    cases h
    simp
  | some cat =>
    rcases error_of_mutate hcat h with rfl | ⟨new, -, rfl⟩
    · simp
    · simp

/-- Over whole lives there is a catalog just while the service works, it is started once, a stop is
final, and a change by hand that fails, as every change does without a catalog, changes nothing. -/
theorem isOrderly_callAll (origin : String) (calls : List Call) :
    ((new origin).callAll calls).IsOrderly origin := by
  have halive := (IsAlive.new origin).callAll calls
  generalize (new origin).callAll calls = s at halive
  refine ⟨halive.working, ?created, ?starts, ?started, ?stopping, ?deaf, ?absent, ?failed⟩
  case created =>
    intro hphase c
    exact phase_call_of_created hphase (halive.silent hphase) c
  case starts =>
    intro hphase
    show (s.attempt s.start).answer = .ok ()
    rw [start_eq, if_pos hphase]
    rfl
  case started =>
    intro hphase
    show s.attempt s.start = _
    rw [start_eq, if_neg hphase, halive.origin]
    rfl
  case stopping =>
    intro hphase more
    exact phase_callAll_of_stopping hphase more
  case deaf =>
    intro hphase event
    show Response.mk (.ok ()) (s.send [event]).1 (s.send [event]).2 = _
    rw [send_of_stopping hphase]
  case absent =>
    intro hcat m
    rw [call_change_of_error (mutate_of_none hcat m), halive.origin]
  case failed =>
    intro m error hanswer
    have hm := mutate_of_answer hanswer
    rw [call_change_of_error hm]
    refine ⟨rfl, rfl, ?_⟩
    rw [← halive.origin]
    exact noDirectory_iff hm

end Service

end Kasten
