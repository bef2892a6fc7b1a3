import Kasten.Program

/-!
# Running programs

What holds of every outcome that a program may have, whatever it is replied, holds of the outcome
of each run. A request that does not get in the way of any that a program makes can be served
before the program or after it.
-/

namespace Kasten.Program

variable {Request : Type} {Reply : Request → Type} {α β σ : Type}
  (serve : (r : Request) → σ → Reply r × σ)

/-! ## 1. Runs -/

theorem run_ask (r : Request) (next : Reply r → Program Request Reply α) (s : σ) :
    run serve (.ask r next) s = run serve (next (serve r s).1) (serve r s).2 :=
  rfl

theorem run_bind (program : Program Request Reply α) (f : α → Program Request Reply β) (s : σ) :
    run serve (program.bind f) s =
      run serve (f (run serve program s).1) (run serve program s).2 := by
  induction program generalizing s with
  | done value => rfl
  | ask r next ih => exact ih (serve r s).1 (serve r s).2

/-- The program ends with a value of this kind, whatever it is replied. -/
def Always (p : α → Prop) : Program Request Reply α → Prop
  | done value => p value
  | ask _ next => ∀ reply, (next reply).Always p

theorem Always.run {p : α → Prop} {program : Program Request Reply α} (h : program.Always p)
    (s : σ) : p (program.run serve s).1 := by
  induction program generalizing s with
  | done value => exact h
  | ask r next ih => exact ih (serve r s).1 (h (serve r s).1) (serve r s).2

theorem Always.mono {p q : α → Prop} {program : Program Request Reply α} (h : program.Always p)
    (hpq : ∀ value, p value → q value) : program.Always q := by
  induction program with
  | done value => exact hpq value h
  | ask r next ih => exact fun reply => ih reply (h reply)

theorem Always.bind {p : α → Prop} {q : β → Prop} {program : Program Request Reply α}
    {f : α → Program Request Reply β} (h : program.Always p)
    (hf : ∀ value, p value → (f value).Always q) : (program.bind f).Always q := by
  induction program with
  | done value => exact hf value h
  | ask r next ih => exact fun reply => ih reply (h reply)

/-- All that the program may ask for is of this kind. -/
def Asks (p : Request → Prop) : Program Request Reply α → Prop
  | done _ => True
  | ask r next => p r ∧ ∀ reply, (next reply).Asks p

theorem Asks.mono {p q : Request → Prop} {program : Program Request Reply α} (h : program.Asks p)
    (hpq : ∀ r, p r → q r) : program.Asks q := by
  induction program with
  | done value => exact trivial
  | ask r next ih => exact ⟨hpq r h.1, fun reply => ih reply (h.2 reply)⟩

theorem asks_bind {p : Request → Prop} {program : Program Request Reply α}
    {f : α → Program Request Reply β} (h : program.Asks p) (hf : ∀ value, (f value).Asks p) :
    (program.bind f).Asks p := by
  induction program with
  | done value => exact hf value
  | ask r next ih => exact ⟨h.1, fun reply => ih reply (h.2 reply)⟩

/-- What each of the requests keeps, the whole program keeps. -/
theorem Asks.run_keeps {p : Request → Prop} {keeps : σ → Prop}
    {program : Program Request Reply α} (h : program.Asks p)
    (hserve : ∀ r s, p r → keeps s → keeps (serve r s).2) {s : σ} (hs : keeps s) :
    keeps (program.run serve s).2 := by
  induction program generalizing s with
  | done value => exact hs
  | ask r next ih => exact ih _ (h.2 _) (hserve r s h.1 hs)

/-- A program whose requests change nothing and are told the same from both states ends alike. -/
theorem Asks.run_congr {p : Request → Prop} {program : Program Request Reply α}
    (h : program.Asks p) {s s' : σ} (hsame : ∀ r, p r → (serve r s').1 = (serve r s).1)
    (hs : ∀ r, p r → (serve r s).2 = s) (hs' : ∀ r, p r → (serve r s').2 = s') :
    (program.run serve s').1 = (program.run serve s).1 := by
  induction program with
  | done value => rfl
  | ask r next ih =>
    rw [run_ask, run_ask, hs r h.1, hs' r h.1, hsame r h.1]
    exact ih _ (h.2 _)

/-! ## 2. Replies that are not certain -/

/-- The program may end with this value, if each request may get any of several replies and leave
any of several states. -/
inductive Ends (may : (r : Request) → σ → Reply r → σ → Prop) :
    Program Request Reply α → σ → α → σ → Prop where
  | done (value : α) (s : σ) : Ends may (.done value) s value s
  | ask {r : Request} {next : Reply r → Program Request Reply α} {s s' s'' : σ} {reply : Reply r}
      {value : α} (h : may r s reply s') (hrest : Ends may (next reply) s' value s'') :
      Ends may (.ask r next) s value s''

section Ends

variable {may : (r : Request) → σ → Reply r → σ → Prop} {program : Program Request Reply α}
variable {s s' : σ} {value : α}

theorem ends_run (hserve : ∀ r s, may r s (serve r s).1 (serve r s).2)
    (program : Program Request Reply α) (s : σ) :
    program.Ends may s (program.run serve s).1 (program.run serve s).2 := by
  induction program generalizing s with
  | done value => exact .done value s
  | ask r next ih => exact .ask (hserve r s) (ih _ _)

theorem Ends.eq_of_done {a : α} (h : (Program.done a).Ends may s value s') :
    value = a ∧ s' = s := by
  cases h
  exact ⟨rfl, rfl⟩

theorem Always.ends {p : α → Prop} (h : program.Always p) (hends : program.Ends may s value s') :
    p value := by
  induction hends with
  | done value s => exact h
  | ask _ _ ih => exact ih (h _)

/-- What is kept whatever a request comes to, the whole program keeps. -/
theorem Asks.ends_keeps {p : Request → Prop} {keeps : σ → Prop} (h : program.Asks p)
    (hmay : ∀ r s reply s', p r → may r s reply s' → keeps s → keeps s')
    (hends : program.Ends may s value s') (hs : keeps s) : keeps s' := by
  induction hends with
  | done value s => exact hs
  | ask hreply _ ih => exact ih (h.2 _) (hmay _ _ _ _ h.1 hreply hs)

end Ends

/-! ## 3. Programs side by side -/

/-- Each request gets the same reply before and after the other, and both orders end alike. -/
structure Independent (r r' : Request) : Prop where
  left : ∀ s, (serve r (serve r' s).2).1 = (serve r s).1
  right : ∀ s, (serve r' (serve r s).2).1 = (serve r' s).1
  comm : ∀ s, (serve r (serve r' s).2).2 = (serve r' (serve r s).2).2

theorem run_serve {r : Request} {program : Program Request Reply α}
    (h : program.Asks (Independent serve r)) (s : σ) :
    program.run serve (serve r s).2 =
        ((program.run serve s).1, (serve r (program.run serve s).2).2) ∧
      (serve r (program.run serve s).2).1 = (serve r s).1 := by
  -- By induction over the program: the request is moved over each of its requests in turn.
  induction program generalizing s with
  | done value => exact ⟨rfl, rfl⟩
  | ask r' next ih =>
    rcases h with ⟨hr, hnext⟩
    rcases ih (serve r' s).1 (hnext _) (serve r' s).2 with ⟨hrun, hreply⟩
    rw [run_ask, run_ask, hr.right, ← hr.comm]
    exact ⟨hrun, hreply.trans (hr.left s)⟩

end Kasten.Program
