import Kasten.Files.Pool
import Kasten.Proofs.Files.Independence
import Kasten.Proofs.Files.Requests
import Mathlib.Logic.Relation

/-!
# Workers side by side

Each worker does its commands in the order in which they were given to the pool, one file operation
after another, while the operations of different workers come in any order. As long as commands
keep to the files of their own zettel, this ends like doing all commands in turn.
-/

namespace Kasten

namespace Files

open Disk (IsName)

/-! ## 1. What commands ask for -/

/-- The request is for a file of the zettel, or for no file at all. -/
def FileRequest.KeepsTo (z : Zid) (r : FileRequest) : Prop :=
  z.Owns r.name ∨ r.name = ""

theorem FileRequest.KeepsTo.independent {z z' : Zid} {r r' : FileRequest} (h : r.KeepsTo z)
    (h' : r'.KeepsTo z') (hz : z.isValid = true) (hz' : z'.isValid = true) (hne : z ≠ z')
    (dir : String) : Program.Independent (serve dir) r r' := by
  apply independent_of_name_ne (h.imp_left Zid.Owns.isName) (h'.imp_left Zid.Owns.isName)
  intro hsame
  rcases h with h | hempty
  · rcases h' with h' | hempty'
    · exact absurd (h.unique (hsame ▸ h') hz hz') hne
    · exact hsame.trans hempty'
  · exact hempty

namespace Command

def entry : Command → Entry
  | getMeta e => e
  | getZettel e => e
  | setZettel e _ => e
  | deleteFiles e => e

end Command

section Asks

variable {e : Entry} (h : ∀ name ∈ e.files, e.zid.Owns name)

include h

theorem keepsTo_content (r : FileRequest) (hr : r.name = e.contentName) : r.KeepsTo e.zid := by
  unfold FileRequest.KeepsTo
  rw [hr]
  by_cases hempty : e.contentName = ""
  · exact .inr hempty
  · exact .inl (h _ (Entry.mem_files.mpr (.inl ⟨hempty, .inl rfl⟩)))

theorem keepsTo_meta (r : FileRequest) (hr : r.name = e.metaName) : r.KeepsTo e.zid := by
  unfold FileRequest.KeepsTo
  rw [hr]
  by_cases hempty : e.metaName = ""
  · exact .inr hempty
  · exact .inl (h _ (Entry.mem_files.mpr (.inl ⟨hempty, .inr rfl⟩)))

theorem keepsTo_of_mem_targets {name : String} (hname : name ∈ e.targets) (r : FileRequest)
    (hr : r.name = name) : r.KeepsTo e.zid := by
  rcases Entry.eq_of_mem_targets hname with rfl | rfl
  · exact keepsTo_meta h r hr
  · exact keepsTo_content h r hr

end Asks

theorem asks_program {c : Command} (h : ∀ name ∈ c.entry.files, c.zid.Owns name) (dir : String) :
    (c.program dir).Asks (FileRequest.KeepsTo c.zid) := by
  cases c with
  | getMeta e => exact asks_readMeta (keepsTo_content h _ rfl) (keepsTo_meta h _ rfl) dir
  | getZettel e => exact asks_readZettel (keepsTo_content h _ rfl) (keepsTo_meta h _ rfl) dir
  | setZettel e z =>
    exact asks_writeZettel (fun _ hname _ => keepsTo_of_mem_targets h hname _ rfl) dir z
  | deleteFiles e => exact asks_removeFiles (fun name hname => .inl (h name hname)) dir none

/-! ## 2. Workers at their tasks -/

/-- A command and what is left to do for it. -/
structure Task where
  command : Command
  rest : FileProgram command.Reply

/-- A command and the reply to it. -/
structure Answer where
  command : Command
  reply : command.Reply

/-- The commands in the order in which they were given to the pool, and the disk. -/
structure Shift where
  tasks : List Task
  disk : Disk

def Answer.task (a : Answer) : Task := ⟨a.command, .done a.reply⟩

/-- Nothing is left to do. -/
def Shift.IsFinished (s : Shift) : Prop := ∀ t ∈ s.tasks, t.rest.isDone = true

/-- All that is asked for on behalf of a command is its own. -/
structure Task.IsTidy (t : Task) : Prop where
  valid : t.command.zid.isValid = true
  asks : t.rest.Asks (FileRequest.KeepsTo t.command.zid)

namespace Pool

variable {p : Pool} {s s' : Shift} {c : Command} {cs : List Command} {d : Disk}

def task (p : Pool) (c : Command) : Task := ⟨c, c.program p.dir⟩

def workerOf (p : Pool) (c : Command) : Nat := workerIndex c.zid p.workers

def begin (p : Pool) (cs : List Command) (d : Disk) : Shift := ⟨cs.map p.task, d⟩

/-- Does the next file operation of a task. -/
def advance (p : Pool) (t : Task) (d : Disk) : Task × Disk :=
  match t.rest with
  | .done _ => (t, d)
  | .ask r next =>
    let (reply, d) := r.serve p.dir d
    (⟨t.command, next reply⟩, d)

/-- One file operation of a worker. It is for the first of its commands that is not done. -/
inductive Step (p : Pool) : Shift → Shift → Prop where
  | advance (before after : List Task) (t : Task) (d : Disk) (hrest : t.rest.isDone = false)
      (hqueue : ∀ u ∈ before, p.workerOf u.command = p.workerOf t.command → u.rest.isDone = true) :
      Step p ⟨before ++ t :: after, d⟩
        ⟨before ++ (p.advance t d).1 :: after, (p.advance t d).2⟩

/-- Does one command after another, each to its end. -/
def inTurn (p : Pool) : List Command → Disk → List Answer × Disk
  | [], d => ([], d)
  | c :: rest, d =>
    let (reply, d) := (c.program p.dir).run (FileRequest.serve p.dir) d
    let (answers, d) := p.inTurn rest d
    (⟨c, reply⟩ :: answers, d)

/-- Does what is left of each task, one after another. -/
def finish (p : Pool) : List Task → Disk → List Answer × Disk
  | [], d => ([], d)
  | t :: rest, d =>
    let (reply, d) := t.rest.run (FileRequest.serve p.dir) d
    let (answers, d) := p.finish rest d
    (⟨t.command, reply⟩ :: answers, d)

theorem finish_cons (p : Pool) (t : Task) (rest : List Task) (d : Disk) :
    p.finish (t :: rest) d =
      (⟨t.command, (t.rest.run (FileRequest.serve p.dir) d).1⟩ ::
          (p.finish rest (t.rest.run (FileRequest.serve p.dir) d).2).1,
        (p.finish rest (t.rest.run (FileRequest.serve p.dir) d).2).2) :=
  rfl

theorem finish_begin (p : Pool) (cs : List Command) (d : Disk) :
    p.finish (p.begin cs d).tasks (p.begin cs d).disk = p.inTurn cs d := by
  show p.finish (cs.map p.task) d = _
  induction cs generalizing d with
  | nil => rfl
  | cons c rest ih =>
    rw [List.map_cons, finish_cons, ih]
    rfl

theorem finish_answers (p : Pool) (answers : List Answer) (d : Disk) :
    p.finish (answers.map Answer.task) d = (answers, d) := by
  induction answers with
  | nil => rfl
  | cons a rest ih =>
    show (a :: (p.finish (rest.map Answer.task) d).1, (p.finish (rest.map Answer.task) d).2) = _
    rw [ih]

/-! ## 3. Any order ends alike -/

/-- What a task asks for does not get in the way of another worker. -/
theorem independent_of_queue {t : Task} {r : FileRequest} (ht : t.IsTidy)
    (hc : c.zid.isValid = true) (hr : r.KeepsTo c.zid)
    (hqueue : p.workerOf t.command = p.workerOf c → t.rest.isDone = true) :
    t.rest.Asks (Program.Independent (FileRequest.serve p.dir) r) := by
  by_cases hworker : p.workerOf t.command = p.workerOf c
  · -- The task is done, so it asks for nothing.
    have hdone := hqueue hworker
    cases hrest : t.rest with
    | done reply => trivial
    | ask r' next =>
      rw [hrest] at hdone
      cases hdone
  · have hne : c.zid ≠ t.command.zid := by
      intro hsame
      apply hworker
      unfold workerOf
      rw [hsame]
    exact ht.asks.mono fun r' hr' => hr.independent hr' hc ht.valid hne p.dir

/-- A file operation of a task changes nothing about how the tasks end. -/
theorem finish_serve {before after : List Task} {r : FileRequest}
    {next : r.Reply → FileProgram c.Reply}
    (htidy : ∀ t ∈ before ++ ⟨c, .ask r next⟩ :: after, t.IsTidy)
    (hqueue : ∀ t ∈ before, p.workerOf t.command = p.workerOf c → t.rest.isDone = true)
    (d : Disk) :
    p.finish (before ++ ⟨c, next (r.serve p.dir d).1⟩ :: after) (r.serve p.dir d).2 =
      p.finish (before ++ ⟨c, .ask r next⟩ :: after) d := by
  have hown : (Task.mk c (.ask r next)).IsTidy := htidy _ (by simp)
  -- By induction over the tasks given to the pool before this one.
  induction before generalizing d with
  | nil => rfl
  | cons t before ih =>
    have ht := htidy t List.mem_cons_self
    have hasks := independent_of_queue ht hown.valid hown.asks.1 (hqueue t List.mem_cons_self)
    rcases Program.run_serve (FileRequest.serve p.dir) hasks d with ⟨hrun, hreply⟩
    have hrest := ih (fun u hu => htidy u (List.mem_cons_of_mem t hu))
      (fun u hu => hqueue u (List.mem_cons_of_mem t hu)) (t.rest.run (FileRequest.serve p.dir) d).2
    rw [hreply] at hrest
    rw [List.cons_append, List.cons_append, finish_cons, finish_cons, hrun]
    dsimp only
    rw [hrest]

theorem isTidy_serve {before after : List Task} {r : FileRequest}
    {next : r.Reply → FileProgram c.Reply}
    (htidy : ∀ t ∈ before ++ ⟨c, .ask r next⟩ :: after, t.IsTidy) (reply : r.Reply) :
    ∀ t ∈ before ++ ⟨c, next reply⟩ :: after, t.IsTidy := by
  intro t ht
  rcases List.mem_append.mp ht with ht | ht
  · exact htidy t (List.mem_append_left _ ht)
  · rcases List.mem_cons.mp ht with rfl | ht
    · have hown : (Task.mk c (.ask r next)).IsTidy := htidy _ (by simp)
      exact ⟨hown.valid, hown.asks.2 reply⟩
    · exact htidy t (List.mem_append_right _ (List.mem_cons_of_mem _ ht))

theorem Step.finish_eq (h : p.Step s s') (htidy : ∀ t ∈ s.tasks, t.IsTidy) :
    p.finish s'.tasks s'.disk = p.finish s.tasks s.disk ∧ ∀ t ∈ s'.tasks, t.IsTidy := by
  cases h with
  | advance before after t d hrest hqueue =>
    rcases t with ⟨c, program⟩
    cases program with
    | done reply => cases hrest
    | ask r next => exact ⟨finish_serve htidy hqueue d, isTidy_serve htidy _⟩

theorem isTidy_begin (hown : ∀ c ∈ cs, c.zid.isValid = true ∧ ∀ n ∈ c.entry.files, c.zid.Owns n)
    (d : Disk) : ∀ t ∈ (p.begin cs d).tasks, t.IsTidy := by
  intro t ht
  rcases List.mem_map.mp ht with ⟨c, hc, rfl⟩
  rcases hown c hc with ⟨hvalid, hfiles⟩
  exact ⟨hvalid, asks_program hfiles p.dir⟩

/-! ## 4. All commands done -/

theorem exists_answers {tasks : List Task} (h : ∀ t ∈ tasks, t.rest.isDone = true) :
    ∃ answers : List Answer, tasks = answers.map Answer.task := by
  induction tasks with
  | nil => exact ⟨[], rfl⟩
  | cons t rest ih =>
    rcases ih fun u hu => h u (List.mem_cons_of_mem t hu) with ⟨answers, rfl⟩
    rcases t with ⟨c, program⟩
    cases program with
    | done reply => exact ⟨⟨c, reply⟩ :: answers, rfl⟩
    | ask r next => exact absurd (h _ List.mem_cons_self) Bool.false_ne_true

/-- A worker whose turn it is can do its command to the end. -/
theorem reaches_done (p : Pool) (answers : List Answer) (c : Command)
    (program : FileProgram c.Reply) (rest : List Task) (d : Disk) :
    Relation.ReflTransGen p.Step ⟨answers.map Answer.task ++ ⟨c, program⟩ :: rest, d⟩
      ⟨answers.map Answer.task ++
        ⟨c, .done (program.run (FileRequest.serve p.dir) d).1⟩ :: rest,
        (program.run (FileRequest.serve p.dir) d).2⟩ := by
  induction program generalizing d with
  | done reply => exact .refl
  | ask r next ih =>
    refine .head (.advance (answers.map Answer.task) rest ⟨c, .ask r next⟩ d rfl ?_) (ih _ _)
    intro t ht _
    rcases List.mem_map.mp ht with ⟨a, -, rfl⟩
    rfl

/-- What is left of all tasks can be done in turn. -/
theorem reaches_finish (p : Pool) (answers : List Answer) (tasks : List Task) (d : Disk) :
    Relation.ReflTransGen p.Step ⟨answers.map Answer.task ++ tasks, d⟩
      ⟨(answers ++ (p.finish tasks d).1).map Answer.task, (p.finish tasks d).2⟩ := by
  induction tasks generalizing answers d with
  | nil =>
    show Relation.ReflTransGen p.Step _ ⟨(answers ++ []).map Answer.task, d⟩
    rw [List.append_nil, List.append_nil]
  | cons t rest ih =>
    rcases t with ⟨c, program⟩
    let a : Answer := ⟨c, (program.run (FileRequest.serve p.dir) d).1⟩
    have hrest := ih (answers ++ [a]) (program.run (FileRequest.serve p.dir) d).2
    rw [List.map_append, List.append_assoc, List.append_assoc] at hrest
    exact (reaches_done p answers c program rest d).trans hrest

theorem finish_eq_of_reaches (h : Relation.ReflTransGen p.Step s s')
    (htidy : ∀ t ∈ s.tasks, t.IsTidy) :
    p.finish s'.tasks s'.disk = p.finish s.tasks s.disk ∧ ∀ t ∈ s'.tasks, t.IsTidy := by
  induction h with
  | refl => exact ⟨rfl, htidy⟩
  | tail _ hstep ih =>
    have hnext := hstep.finish_eq ih.2
    exact ⟨hnext.1.trans ih.1, hnext.2⟩

/-- Whatever the order in which the workers have done their file operations so far, they can bring
all commands to an end, and there is only one: the replies and the disk that come of doing the
commands one after another. -/
theorem shift_ends_in_turn
    (hown : ∀ c ∈ cs, c.zid.isValid = true ∧ ∀ n ∈ c.entry.files, c.zid.Owns n)
    (hreach : Relation.ReflTransGen p.Step (p.begin cs d) s) :
    let ending : Shift := ⟨(p.inTurn cs d).1.map Answer.task, (p.inTurn cs d).2⟩
    Relation.ReflTransGen p.Step s ending ∧ ending.IsFinished ∧ (s.IsFinished → s = ending) := by
  intro ending
  have hfinish := (finish_eq_of_reaches hreach (isTidy_begin hown d)).1
  rw [finish_begin] at hfinish
  refine ⟨?_, ?_, ?_⟩
  · have hends := reaches_finish p [] s.tasks s.disk
    rw [hfinish] at hends
    exact hends
  · intro t ht
    rcases List.mem_map.mp ht with ⟨a, -, rfl⟩
    rfl
  · intro hdone
    rcases exists_answers hdone with ⟨answers, hanswers⟩
    rw [hanswers, finish_answers] at hfinish
    show s = ⟨(p.inTurn cs d).1.map Answer.task, (p.inTurn cs d).2⟩
    rw [← hfinish, ← hanswers]

/-- A zettel of another worker is removed between the two writes of one that is stored. -/
theorem shift_ends_in_turn_of_two_workers :
    let p : Pool := ⟨"box", 7, 0, true⟩
    let e : Entry := ⟨⟨20200310195100⟩, "20200310195100", "20200310195100.md", "md", []⟩
    let e' : Entry := ⟨⟨20200310195101⟩, "", "20200310195101.zettel", "zettel", []⟩
    let store : Command := .setZettel e ⟨Meta.new e.zid, Text.Utf8.encodeText "hello"⟩
    let remove : Command := .deleteFiles e'
    let d : Disk := ⟨((∅ : Std.ExtTreeMap String DiskItem).insert "box" .folder).insert
      "box/20200310195101.zettel" (.file [])⟩
    let stored := p.advance (p.task store) d
    let removed := p.advance (p.task remove) stored.2
    let ended := p.advance stored.1 removed.2
    let s : Shift := ⟨[ended.1, removed.1], ended.2⟩
    (∀ c ∈ [store, remove], c.zid.isValid = true ∧ ∀ n ∈ c.entry.files, c.zid.Owns n) ∧
      Relation.ReflTransGen p.Step (p.begin [store, remove] d) s ∧ s.IsFinished ∧
      s = ⟨(p.inTurn [store, remove] d).1.map Answer.task, (p.inTurn [store, remove] d).2⟩ ∧
      s.disk.items.keys = ["box", "box/20200310195100", "box/20200310195100.md"] := by
  intro p e e' store remove d stored removed ended s
  have hown : ∀ c ∈ [store, remove], c.zid.isValid = true ∧ ∀ n ∈ c.entry.files, c.zid.Owns n := by
    have hvalid : ∀ c ∈ [store, remove], c.zid.isValid = true := by decide +kernel
    have hslash : ∀ c ∈ [store, remove], ∀ n ∈ c.entry.files, '/' ∉ n.toList := by decide +kernel
    have hfront : ∀ c ∈ [store, remove], ∀ n ∈ c.entry.files, c.zid.digits <+: n.toList := by
      decide +kernel
    exact fun c hc => ⟨hvalid c hc, fun n hn => ⟨hslash c hc n hn, hfront c hc n hn⟩⟩
  have hfirst : p.Step (p.begin [store, remove] d) ⟨[stored.1, p.task remove], stored.2⟩ :=
    .advance [] [p.task remove] (p.task store) d (by decide +kernel) (by decide +kernel)
  have hsecond : p.Step ⟨[stored.1, p.task remove], stored.2⟩ ⟨[stored.1, removed.1], removed.2⟩ :=
    .advance [stored.1] [] (p.task remove) stored.2 (by decide +kernel) (by decide +kernel)
  have hthird : p.Step ⟨[stored.1, removed.1], removed.2⟩ s :=
    .advance [] [removed.1] stored.1 removed.2 (by decide +kernel) (by decide +kernel)
  have hreach : Relation.ReflTransGen p.Step (p.begin [store, remove] d) s :=
    .head hfirst (.head hsecond (.single hthird))
  have hdone : s.IsFinished := by
    unfold Shift.IsFinished
    decide +kernel
  exact ⟨hown, hreach, hdone, (shift_ends_in_turn hown hreach).2.2 hdone, by decide +kernel⟩

end Pool

end Files

end Kasten
