import Kasten.Proofs.Entry.Ownership
import Kasten.Proofs.Files.ReadWrite

/-!
# What commands ask for

A zettel is read from the files that its entry has a name for, it is written to its targets one
after another, and all its files are removed with it.
-/

namespace Kasten.Files

variable {p : FileRequest → Prop} {dir : String} {e : Entry} {names : List String}

/-! ## 1. Reading -/

section Reading

variable (hcontent : p (.read e.contentName))

include hcontent

theorem asks_readContent (dir : String) (m : Meta) : (readContent dir e m).Asks p := by
  unfold readContent
  split
  next => trivial
  next =>
    refine ⟨hcontent, fun reply => ?_⟩
    cases reply <;> trivial

variable (hmeta : p (.read e.metaName))

include hmeta

theorem asks_readMeta (dir : String) : (readMeta dir e).Asks p := by
  unfold readMeta
  split
  next =>
    refine ⟨hmeta, fun reply => ?_⟩
    cases reply with
    | ok bytes => trivial
    | error fault =>
      dsimp only
      split <;> trivial
  next =>
    split
    next =>
      refine ⟨hcontent, fun reply => ?_⟩
      cases reply <;> trivial
    next => trivial

theorem asks_readZettel (dir : String) : (readZettel dir e).Asks p := by
  unfold readZettel
  split
  next =>
    refine ⟨hcontent, fun reply => ?_⟩
    cases reply <;> trivial
  next =>
    refine Program.asks_bind (asks_readMeta hcontent hmeta dir) fun result => ?_
    cases result with
    | ok m => exact asks_readContent hcontent dir m
    | error error => trivial

end Reading

def FileRequest.IsRead (r : FileRequest) : Prop := ∃ name, r = read name

/-- Reading changes nothing on the disk. -/
theorem run_snd_of_asks_read {α : Type} {program : FileProgram α}
    (h : program.Asks FileRequest.IsRead) (dir : String) (d : Disk) :
    (program.run (FileRequest.serve dir) d).2 = d := by
  have hkeeps : ∀ r d', FileRequest.IsRead r → d' = d → (r.serve dir d').2 = d := by
    rintro r d' ⟨name, rfl⟩ hd'
    exact hd'
  exact h.run_keeps _ hkeeps rfl

theorem run_readMeta_snd (dir : String) (e : Entry) (d : Disk) :
    ((readMeta dir e).run (FileRequest.serve dir) d).2 = d :=
  run_snd_of_asks_read (asks_readMeta ⟨_, rfl⟩ ⟨_, rfl⟩ dir) dir d

theorem run_readZettel_snd (dir : String) (e : Entry) (d : Disk) :
    ((readZettel dir e).run (FileRequest.serve dir) d).2 = d :=
  run_snd_of_asks_read (asks_readZettel ⟨_, rfl⟩ ⟨_, rfl⟩ dir) dir d

/-! ## 2. Writing -/

/-- Writes files one after another, until one of them cannot be written. -/
def writeAll (dir : String) : List (String × Bytes) → FileProgram (Except StoreError Unit)
  | [] => .done (.ok ())
  | (name, data) :: rest => writeThen dir name data (writeAll dir rest)

/-- What is written of a zettel, with the names of the files. -/
def writes (e : Entry) (z : Zettel) : List (String × Bytes) :=
  if e.hasMetaInContent then [(e.contentName, Header.writeFile z.metadata z.content)]
  else
    (if e.metaName = "" then [] else [(e.metaName, Header.write z.metadata)]) ++
      (if e.contentName = "" then [] else [(e.contentName, z.content)])

theorem map_fst_writes (e : Entry) (z : Zettel) : (writes e z).map Prod.fst = e.targets := by
  unfold writes Entry.targets
  split
  next => rfl
  next =>
    rw [List.map_append]
    split_ifs <;> rfl

theorem writeContent_eq (dir : String) (e : Entry) (z : Zettel) :
    writeContent dir e z =
      writeAll dir (if e.contentName = "" then [] else [(e.contentName, z.content)]) := by
  unfold writeContent
  split
  next => rfl
  next => exact ask_write_eq rfl fun _ => rfl

theorem writeZettel_eq (dir : String) (e : Entry) (z : Zettel) :
    writeZettel dir e z = writeAll dir (writes e z) := by
  unfold writeZettel writes
  split
  next => exact ask_write_eq rfl fun _ => rfl
  next =>
    rw [writeContent_eq]
    by_cases hm : e.metaName = ""
    · rw [if_neg (not_not_intro hm), if_pos hm, List.nil_append]
    · rw [if_pos hm, if_neg hm]
      exact ask_write_eq rfl fun _ => rfl

theorem asks_writeAll {files : List (String × Bytes)}
    (h : ∀ name ∈ files.map Prod.fst, ∀ data, p (.write name data)) (dir : String) :
    (writeAll dir files).Asks p := by
  induction files with
  | nil => trivial
  | cons file rest ih =>
    rcases file with ⟨name, data⟩
    refine ⟨h name List.mem_cons_self data, fun reply => ?_⟩
    cases reply with
    | ok _ => exact ih fun other hother => h other (List.mem_cons_of_mem name hother)
    | error fault => trivial

theorem asks_writeZettel (h : ∀ name ∈ e.targets, ∀ data, p (.write name data)) (dir : String)
    (z : Zettel) : (writeZettel dir e z).Asks p := by
  rw [writeZettel_eq]
  rw [← map_fst_writes e z] at h
  exact asks_writeAll h dir

/-! ## 3. Removing -/

theorem asks_removeFiles (h : ∀ name ∈ names, p (.remove name)) (dir : String)
    (kept : Option StoreError) : (removeFiles dir kept names).Asks p := by
  induction names generalizing kept with
  | nil =>
    unfold removeFiles
    split <;> trivial
  | cons name rest ih =>
    have hrest := ih fun other hother => h other (List.mem_cons_of_mem name hother)
    refine ⟨h name List.mem_cons_self, fun reply => ?_⟩
    cases reply with
    | ok _ => exact hrest kept
    | error fault =>
      dsimp only
      split
      next => exact hrest kept
      next => exact hrest _

end Kasten.Files
