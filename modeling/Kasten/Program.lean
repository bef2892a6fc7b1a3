/-!
# Programs that ask

A program either is done or asks for something and goes on with the reply. Whoever runs it decides
what the replies are, so that one program can run against a disk, with faults, or interleaved with
others.
-/

namespace Kasten

inductive Program (Request : Type) (Reply : Request → Type) (α : Type) where
  | done (value : α)
  | ask (request : Request) (next : Reply request → Program Request Reply α)

namespace Program

variable {Request : Type} {Reply : Request → Type} {α β σ : Type}

def bind : Program Request Reply α → (α → Program Request Reply β) → Program Request Reply β
  | done value, f => f value
  | ask request next, f => ask request fun reply => (next reply).bind f

instance : Monad (Program Request Reply) where
  pure := done
  bind := bind

/-- Asks once and gives back the reply. -/
def request (r : Request) : Program Request Reply (Reply r) := ask r done

/-- Runs to the end; `serve` answers requests from a state that it may change. -/
def run (serve : (r : Request) → σ → Reply r × σ) : Program Request Reply α → σ → α × σ
  | done value, s => (value, s)
  | ask r next, s =>
    let (reply, s) := serve r s
    run serve (next reply) s

/-- Whether nothing is asked. -/
def isDone : Program Request Reply α → Bool
  | done _ => true
  | ask _ _ => false

end Program

end Kasten
