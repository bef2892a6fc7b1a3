/-!
# Supervision

A supervisor runs a task and starts it anew, after a pause, when it fails. It gives up after so
many restarts. A task that returns is not started again, and neither is any task once work is
cancelled. Times are in milliseconds.
-/

namespace Kasten

/-- What a run of the task does; one that waits returns when work is cancelled. -/
inductive Conduct where
  | fails
  | returns
  | waits
  | cancels
  | cancelsAndFails
deriving DecidableEq, Repr, Inhabited

inductive ExitReason where
  | completed
  | cancelled
  | failed
deriving DecidableEq, Repr

structure RestartPolicy where
  maxRestarts : Nat := 32
  backoffMs : Nat := 50
deriving DecidableEq, Repr

/-- What the task is doing: it can start, is running until work is cancelled, pauses until a time,
or is over. -/
inductive TaskState where
  | ready
  | waiting
  | pausing (due : Nat)
  | over (reason : ExitReason)
deriving DecidableEq, Repr

structure Supervisor where
  policy : RestartPolicy
  isCancelled : Bool
  runs : Nat
  state : TaskState
deriving DecidableEq, Repr

namespace Supervisor

def new (policy : RestartPolicy) (isCancelled : Bool) : Supervisor :=
  ⟨policy, isCancelled, 0, .ready⟩

/-- A failed run is the last one if the restarts are used up. Otherwise a pause follows, unless
work is cancelled. -/
def afterFailure (s : Supervisor) (now : Nat) : Supervisor :=
  if s.policy.maxRestarts < s.runs then { s with state := .over .failed }
  else if s.isCancelled then { s with state := .over .cancelled }
  else { s with state := .pausing (now + s.policy.backoffMs) }

def afterReturn (s : Supervisor) : Supervisor :=
  { s with state := .over (if s.isCancelled then .cancelled else .completed) }

/-- Starts the task, which does what is planned for this run. -/
def start (s : Supervisor) (plan : Nat → Conduct) (now : Nat) : Supervisor :=
  if s.isCancelled then { s with state := .over .cancelled }
  else
    let conduct := plan s.runs
    let s := { s with runs := s.runs + 1 }
    match conduct with
    | .fails => s.afterFailure now
    | .returns => s.afterReturn
    | .waits => { s with state := .waiting }
    | .cancels => { s with isCancelled := true }.afterReturn
    | .cancelsAndFails => { s with isCancelled := true }.afterFailure now

/-- Starts the task as long as it is ready or its pause is over. Each start uses up a restart. -/
def settleWith (plan : Nat → Conduct) (now : Nat) : Nat → Supervisor → Supervisor
  | 0, s => s
  | fuel + 1, s =>
    match s.state with
    | .ready => settleWith plan now fuel (s.start plan now)
    | .pausing due => if due ≤ now then settleWith plan now fuel (s.start plan now) else s
    | _ => s

/-- Goes on until nothing happens without more time. -/
def settle (s : Supervisor) (plan : Nat → Conduct) (now : Nat) : Supervisor :=
  settleWith plan now (s.policy.maxRestarts + 2 - s.runs) s

/-- Cancels the work. A task that waits returns, and a pause ends at once. -/
def cancel (s : Supervisor) : Supervisor :=
  let s := { s with isCancelled := true }
  match s.state with
  | .waiting => { s with state := .over .cancelled }
  | .pausing _ => { s with state := .over .cancelled }
  | _ => s

end Supervisor

end Kasten
