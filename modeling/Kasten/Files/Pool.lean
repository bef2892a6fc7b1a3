import Kasten.Files.Command
import Kasten.Files.Routing

/-!
# The pool of file workers

A command goes to the worker of its zettel, which runs it to the end. Whoever asked waits only so
long: a command that takes longer answers with a timeout, though its work is still done.
-/

namespace Kasten.Files

/-- A disk, and how long it hangs before it answers next, in milliseconds. -/
structure SlowDisk where
  disk : Disk
  delay : Nat

structure Pool where
  dir : String
  workers : Nat
  timeoutMs : Nat
  isRunning : Bool
deriving DecidableEq, Repr

namespace Pool

/-- Starts a prime number of workers, near the number that is asked for. -/
def start (dir : String) (workers timeoutMs : Nat) : Pool :=
  { dir, workers := poolSize workers, timeoutMs, isRunning := true }

def stop (p : Pool) : Pool := { p with isRunning := false }

/-- Runs a command and answers for it. A command that asks for files is late if the disk hangs
too long; if nobody waits at all, every command is late. -/
def submit (p : Pool) (c : Command) (d : SlowDisk) : c.Reply × SlowDisk :=
  if !p.isRunning then (.error (.stopped s!"file worker for {c.zid} is gone"), d)
  else
    let program := c.program p.dir
    let (reply, disk) := program.run (FileRequest.serve p.dir) d.disk
    let delay := if program.isDone then 0 else d.delay
    let left : SlowDisk := ⟨disk, d.delay - delay⟩
    if p.timeoutMs ≤ delay then (.error (.timeout s!"{c.operation} for {c.zid}"), left)
    else (reply, left)

end Pool

end Kasten.Files
