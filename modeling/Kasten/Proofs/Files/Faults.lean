import Kasten.Proofs.Files.Interleaving
import Kasten.Proofs.Files.Listing

/-!
# Disks that fail now and then

Each file operation may fail, and a file that cannot be written may be left with anything in it.
A command that answers with success has met no failure at all. Whatever else it comes to, the
files of other zettel read as before.
-/

namespace Kasten.Files

open Disk (IsName join)

/-! ## 1. Requests -/

namespace FileRequest

/-- What may come of a request. It is served, or nothing is done, or it fails though a file has been
removed or what was to be written got there in part. No disk says of a file that is there that it
is missing. -/
inductive May (dir : String) : (r : FileRequest) → Disk → r.Reply → Disk → Prop where
  | served (r : FileRequest) (d : Disk) : May dir r d (r.serve dir d).1 (r.serve dir d).2
  | refused (r : FileRequest) (d : Disk) {fault : FileFault} (h : fault.isMissing = false) :
      May dir r d (r.refuse fault) d
  | spoilt (name : String) (data left : Bytes) (d : Disk) {fault : FileFault}
      (h : fault.isMissing = false) :
      May dir (.write name data) d (.error fault) (serve dir (.write name left) d).2
  | removed (name : String) (d : Disk) {fault : FileFault} (h : fault.isMissing = false) :
      May dir (.remove name) d (.error fault) (serve dir (.remove name) d).2

end FileRequest

/-- The files of the zettel read alike on both disks. -/
def ReadsAlike (dir : String) (z : Zid) (d d' : Disk) : Prop :=
  ∀ name, (FileRequest.read name).KeepsTo z → d'.read (join dir name) = d.read (join dir name)

variable {dir : String} {d d' d'' : Disk} {z z' : Zid} {e : Entry} {α β : Type}
variable {program : FileProgram (Except StoreError α)}

theorem ReadsAlike.refl (dir : String) (z : Zid) (d : Disk) : ReadsAlike dir z d d :=
  fun _ _ => rfl

theorem ReadsAlike.trans (h : ReadsAlike dir z d d') (h' : ReadsAlike dir z d' d'') :
    ReadsAlike dir z d d'' :=
  fun name hname => (h' name hname).trans (h name hname)

/-- Whatever a request comes to, it changes the file that it is for at most. -/
theorem FileRequest.May.readsAlike {r : FileRequest} {reply : r.Reply} (h : May dir r d reply d')
    (hr : r.KeepsTo z') (hz : z.isValid = true) (hz' : z'.isValid = true) (hne : z ≠ z') :
    ReadsAlike dir z d d' := by
  intro name hname
  cases h with
  | served r d => exact (hname.independent hr hz hz' hne dir).left d
  | refused => rfl
  | spoilt file data left d =>
    have hleft : (FileRequest.write file left).KeepsTo z' := hr
    exact (hname.independent hleft hz hz' hne dir).left d
  | removed file d => exact (hname.independent hr hz hz' hne dir).left d

theorem run_readZettel_of_readsAlike (h : ReadsAlike dir z d d') (hzid : e.zid = z)
    (hown : ∀ n ∈ e.files, z.Owns n) :
    ((readZettel dir e).run (FileRequest.serve dir) d').1 =
      ((readZettel dir e).run (FileRequest.serve dir) d).1 := by
  subst hzid
  let isOwnRead (r : FileRequest) : Prop := ∃ name, r = .read name ∧ r.KeepsTo e.zid
  have hasks : (readZettel dir e).Asks isOwnRead :=
    asks_readZettel ⟨_, rfl, keepsTo_content hown _ rfl⟩ ⟨_, rfl, keepsTo_meta hown _ rfl⟩ dir
  refine hasks.run_congr _ ?_ ?_ ?_
  · rintro r ⟨name, rfl, hname⟩
    exact h name hname
  · rintro r ⟨name, rfl, -⟩
    rfl
  · rintro r ⟨name, rfl, -⟩
    rfl

/-! ## 2. Programs that insist -/

def Failed (result : Except StoreError α) : Prop := ∃ error, result = .error error

/-- Once a request is refused, the program fails in the end. -/
def Insists : FileProgram (Except StoreError α) → Prop
  | .done _ => True
  | .ask r next =>
    (∀ fault, fault.isMissing = false → (next (r.refuse fault)).Always Failed) ∧
      ∀ reply, Insists (next reply)

/-- Success means that each request was served. -/
theorem Insists.run_eq {a : α} (h : Insists program)
    (hends : program.Ends (FileRequest.May dir) d (.ok a) d') :
    program.run (FileRequest.serve dir) d = (.ok a, d') := by
  generalize hresult : Except.ok a = result at hends
  induction hends with
  | done value d => rfl
  | ask hreply hrest ih =>
    cases hreply with
    | served r d => exact ih (h.2 _) hresult
    | refused r d hfault =>
      rcases (h.1 _ hfault).ends hrest with ⟨error, herror⟩
      cases hresult.trans herror
    | spoilt name data left d hfault =>
      rcases (h.1 _ hfault).ends hrest with ⟨error, herror⟩
      cases hresult.trans herror
    | removed name d hfault =>
      rcases (h.1 _ hfault).ends hrest with ⟨error, herror⟩
      cases hresult.trans herror

theorem Insists.bind {f : Except StoreError α → FileProgram (Except StoreError β)}
    (h : Insists program) (hf : ∀ result, Insists (f result))
    (hfailed : ∀ result, Failed result → (f result).Always Failed) :
    Insists (program.bind f) := by
  induction program with
  | done result => exact hf result
  | ask r next ih =>
    exact ⟨fun fault hfault => (h.1 fault hfault).bind hfailed, fun reply => ih reply (h.2 reply)⟩

theorem insists_readMeta (dir : String) (e : Entry) : Insists (readMeta dir e) := by
  unfold readMeta
  split
  next =>
    refine ⟨fun fault hfault => ?_, fun reply => ?_⟩
    · -- Only a metadata file that is missing is made up for.
      show Program.Always Failed (if fault.isMissing = true then _ else _)
      rw [hfault, if_neg Bool.false_ne_true]
      exact ⟨_, rfl⟩
    · cases reply with
      | ok bytes => trivial
      | error fault =>
        dsimp only
        split <;> trivial
  next =>
    split
    next =>
      refine ⟨fun fault _ => ⟨_, rfl⟩, fun reply => ?_⟩
      cases reply <;> trivial
    next => trivial

theorem insists_readContent (dir : String) (e : Entry) (m : Meta) :
    Insists (readContent dir e m) := by
  unfold readContent
  split
  next => trivial
  next =>
    refine ⟨fun fault _ => ⟨_, rfl⟩, fun reply => ?_⟩
    cases reply <;> trivial

theorem insists_readZettel (dir : String) (e : Entry) : Insists (readZettel dir e) := by
  unfold readZettel
  split
  next =>
    refine ⟨fun fault _ => ⟨_, rfl⟩, fun reply => ?_⟩
    cases reply <;> trivial
  next =>
    refine (insists_readMeta dir e).bind (fun result => ?_) ?_
    · cases result with
      | ok m => exact insists_readContent dir e m
      | error error => trivial
    · rintro result ⟨error, rfl⟩
      exact ⟨error, rfl⟩

theorem insists_writeAll (dir : String) (files : List (String × Bytes)) :
    Insists (writeAll dir files) := by
  induction files with
  | nil => trivial
  | cons file rest ih =>
    refine ⟨fun fault _ => ⟨_, rfl⟩, fun reply => ?_⟩
    cases reply with
    | ok _ => exact ih
    | error fault => trivial

theorem failed_of_eq {error : StoreError} {program : FileProgram (Except StoreError α)}
    (h : program.Always (· = .error error)) : program.Always Failed :=
  h.mono fun _ heq => ⟨error, heq⟩

theorem insists_removeFiles (dir : String) (kept : Option StoreError) (names : List String) :
    Insists (removeFiles dir kept names) := by
  induction names generalizing kept with
  | nil =>
    unfold removeFiles
    split <;> trivial
  | cons name rest ih =>
    refine ⟨fun fault hfault => ?_, fun reply => ?_⟩
    · -- The fault is kept, or one before it.
      show Program.Always Failed (if fault.isMissing = true then _ else _)
      rw [hfault, if_neg Bool.false_ne_true]
      cases kept with
      | none => exact failed_of_eq (always_removeFiles dir _ rest)
      | some error => exact failed_of_eq (always_removeFiles dir error rest)
    · cases reply with
      | ok _ => exact ih kept
      | error fault =>
        dsimp only
        split
        next => exact ih kept
        next => exact ih _

theorem insists_program (dir : String) (c : Command) : Insists (c.program dir) := by
  cases c with
  | getMeta e => exact insists_readMeta dir e
  | getZettel e => exact insists_readZettel dir e
  | setZettel e z =>
    show Insists (writeZettel dir e z)
    rw [writeZettel_eq]
    exact insists_writeAll dir (writes e z)
  | deleteFiles e => exact insists_removeFiles dir none e.files

/-! ## 3. Commands -/

namespace Pool

/-- What may come of a command. Its work is done with whatever failures, and the answer is that of
the work or that it came too late. -/
inductive May (p : Pool) : (c : Command) → Disk → c.Reply → Disk → Prop where
  | stopped (c : Command) (d : Disk) (h : p.isRunning = false) :
      May p c d (.error (.stopped s!"file worker for {c.zid} is gone")) d
  | answered {c : Command} {d d' : Disk} {reply : c.Reply} (hrunning : p.isRunning = true)
      (htime : 0 < p.timeoutMs)
      (h : (c.program p.dir).Ends (FileRequest.May p.dir) d reply d') : May p c d reply d'
  | late {c : Command} {d d' : Disk} {reply : c.Reply} (hrunning : p.isRunning = true)
      (h : (c.program p.dir).Ends (FileRequest.May p.dir) d reply d') :
      May p c d (.error (.timeout s!"{c.operation} for {c.zid}")) d'

variable {p : Pool} {c : Command} {reply : c.Reply}

theorem may_submit (p : Pool) (c : Command) (d : SlowDisk) :
    p.May c d.disk (p.submit c d).1 (p.submit c d).2.disk := by
  have hends := Program.ends_run (FileRequest.serve p.dir) FileRequest.May.served
    (c.program p.dir) d.disk
  unfold submit
  by_cases hrunning : p.isRunning = true
  · rw [hrunning, Bool.not_true, if_neg Bool.false_ne_true]
    dsimp only
    generalize (if (c.program p.dir).isDone = true then 0 else d.delay) = delay
    by_cases hlate : p.timeoutMs ≤ delay
    · rw [if_pos hlate]
      exact .late hrunning hends
    · rw [if_neg hlate]
      exact .answered hrunning (by omega) hends
  · rw [eq_false_of_ne_true hrunning, Bool.not_false, if_pos rfl]
    exact .stopped c d.disk (eq_false_of_ne_true hrunning)

namespace May

theorem run_eq {r : c.Result} (h : p.May c d (.ok r) d') :
    p.isRunning = true ∧ 0 < p.timeoutMs ∧
      (c.program p.dir).run (FileRequest.serve p.dir) d = (.ok r, d') := by
  generalize hreply : Except.ok r = reply at h
  cases h with
  | stopped => cases hreply
  | answered hrunning htime h =>
    subst hreply
    exact ⟨hrunning, htime, (insists_program p.dir c).run_eq h⟩
  | late => cases hreply

/-- What is kept by all requests that a command makes is kept by the command. -/
theorem keeps {q : FileRequest → Prop} {keeps : Disk → Prop} (h : p.May c d reply d')
    (hasks : (c.program p.dir).Asks q)
    (hmay : ∀ r d reply d', q r → FileRequest.May p.dir r d reply d' → keeps d → keeps d')
    (hd : keeps d) : keeps d' := by
  cases h with
  | stopped => exact hd
  | answered _ _ h => exact hasks.ends_keeps hmay h hd
  | late _ h => exact hasks.ends_keeps hmay h hd

theorem eq_of_getZettel {reply : (Command.getZettel e).Reply} (h : p.May (.getZettel e) d reply d') :
    d' = d := by
  have hasks : ((Command.getZettel e).program p.dir).Asks FileRequest.IsRead :=
    asks_readZettel ⟨_, rfl⟩ ⟨_, rfl⟩ p.dir
  have hkeeps : ∀ r d₁ reply d₂, FileRequest.IsRead r → FileRequest.May p.dir r d₁ reply d₂ →
      d₁ = d → d₂ = d := by
    rintro r d₁ reply d₂ ⟨name, rfl⟩ hmay hd
    cases hmay with
    | served => exact hd
    | refused => exact hd
  exact h.keeps hasks hkeeps rfl

theorem readsAlike (h : p.May c d reply d') (hown : ∀ n ∈ c.entry.files, c.zid.Owns n)
    (hz : z.isValid = true) (hzid : c.zid.isValid = true) (hne : z ≠ c.zid) :
    ReadsAlike p.dir z d d' := by
  have hkeeps : ∀ r d₁ reply d₂, r.KeepsTo c.zid → FileRequest.May p.dir r d₁ reply d₂ →
      ReadsAlike p.dir z d d₁ → ReadsAlike p.dir z d d₂ :=
    fun r d₁ reply d₂ hr hmay hd => hd.trans (hmay.readsAlike hr hz hzid hne)
  exact h.keeps (asks_program hown p.dir) hkeeps (.refl p.dir z d)

end May

/-- Work in time on a disk that serves requests in one of the ways that may come about. -/
theorem ends_of_serve {serve : (r : FileRequest) → Disk → r.Reply × Disk}
    (hrunning : p.isRunning = true) (htime : 0 < p.timeoutMs)
    (hserve : ∀ r d, FileRequest.May p.dir r d (serve r d).1 (serve r d).2)
    (work : Program Command Command.Reply α) (d : Disk) :
    work.Ends p.May d (work.run (fun c => (c.program p.dir).run serve) d).1
      (work.run (fun c => (c.program p.dir).run serve) d).2 :=
  Program.ends_run _
    (fun c d => .answered hrunning htime (Program.ends_run serve hserve (c.program p.dir) d)) work d

end Pool

end Kasten.Files
