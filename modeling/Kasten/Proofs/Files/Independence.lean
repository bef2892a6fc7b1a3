import Kasten.Files.Command
import Kasten.Proofs.Disk.Place
import Kasten.Proofs.Entry.FileName
import Kasten.Proofs.Program

/-!
# Requests that do not get in each other's way

What comes of a request depends only on what its name stands for in the directory, and nothing but
that changes. Requests for different names can therefore be served in either order.
-/

namespace Kasten

namespace Disk

variable {d d' : Disk} {dir folder name plain : String} {data : Bytes}

/-! ## 1. Open directories -/

/-- The path leads to a folder. -/
structure IsOpen (d : Disk) (dir folder : String) : Prop where
  resolve : d.resolve dir = .ok folder
  lookup : d.lookup folder = some .folder

/-- With no name behind it a path is that of the directory itself, in the form of one. -/
theorem join_empty (dir : String) :
    join dir "" = dir ∧ (dir = "" ∨ wantsFolder dir = true) ∨
      dir ≠ "" ∧ (join dir "").toList = dir.toList ++ ['/'] := by
  unfold join
  rw [show Text.startsWith "" "/" = false from rfl, Bool.false_or]
  by_cases hempty : dir = ""
  · rw [if_pos (beq_iff_eq.mpr hempty)]
    exact .inl ⟨hempty.symm, .inl hempty⟩
  · rw [if_neg fun hb => hempty (beq_iff_eq.mp hb)]
    split
    next hends => exact .inl ⟨String.append_empty, .inr hends⟩
    next =>
      refine .inr ⟨hempty, ?_⟩
      rw [String.append_empty, String.toList_append]
      rfl

theorem namesOf_join_empty (dir : String) : namesOf (join dir "") = namesOf dir := by
  rcases join_empty dir with ⟨hjoin, -⟩ | ⟨-, hjoin⟩
  · rw [hjoin]
  · -- Behind the last slash there is an empty part, which is no name.
    unfold namesOf
    rw [hjoin, Text.splitOn_append, List.filter_append]
    show List.map _ (_ ++ []) = _
    rw [List.append_nil]

theorem wantsFolder_join_empty (h : dir ≠ "") : wantsFolder (join dir "") = true := by
  rcases join_empty dir with ⟨hjoin, hempty | hends⟩ | ⟨-, hjoin⟩
  · exact absurd hempty h
  · rw [hjoin]
    exact hends
  · apply List.isSuffixOf_iff_suffix.mpr
    rw [hjoin]
    exact List.suffix_append ..

theorem walk_name_of_folder (h : d.lookup folder = some .folder) (name : String) :
    d.walk folder [name] =
      if maxName < name.utf8ByteSize then .error .nameTooLong
      else .ok (if name = ".." then parent folder else join folder name) := by
  rw [walk, h]
  rfl

/-- Where a name in an open directory leads does not depend on anything else on the disk. -/
theorem resolve_join_eq (hname : IsName name ∨ name = "") (h : d.IsOpen dir folder)
    (h' : d'.IsOpen dir folder) : d'.resolve (join dir name) = d.resolve (join dir name) := by
  have hwalk := resolve_eq_walk h.resolve
  have hwalk' := resolve_eq_walk h'.resolve
  unfold resolve
  rcases hname with hname | rfl
  · rw [namesOf_join hname.isPart, walk_append, walk_append, hwalk, hwalk']
    show (if _ then _ else if _ then _ else d'.walk folder [name]) =
      (if _ then _ else if _ then _ else d.walk folder [name])
    rw [walk_name_of_folder h.lookup, walk_name_of_folder h'.lookup]
  · rw [namesOf_join_empty, hwalk, hwalk']

theorem lookup_of_no_name (h : d.IsOpen dir folder)
    (hplain : d.resolve (join dir "") = .ok plain) : d.lookup plain = some .folder := by
  have hwalk := resolve_eq_walk hplain
  rw [namesOf_join_empty, resolve_eq_walk h.resolve] at hwalk
  cases hwalk
  exact h.lookup

/-- Only a name that stands for a folder can be meant as one. -/
theorem lookup_of_wantsFolder (hname : IsName name ∨ name = "") (h : d.IsOpen dir folder)
    (hplain : d.resolve (join dir name) = .ok plain) (hwants : wantsFolder (join dir name) = true) :
    d.lookup plain = some .folder := by
  rcases hname with hname | rfl
  · rw [wantsFolder_join hname.isPart] at hwants
    cases hwants
  · exact lookup_of_no_name h hplain

/-- Two names that lead to one place are the same, unless it is the directory itself. -/
theorem lookup_of_same_place {other : String} (hname : IsName name ∨ name = "")
    (hother : IsName other ∨ other = "") (hne : name = other → name = "")
    (h : d.IsOpen dir folder) (hplain : d.resolve (join dir name) = .ok plain)
    (hplain' : d.resolve (join dir other) = .ok plain) : d.lookup plain = some .folder := by
  rcases hname with hname | rfl
  · rcases hother with hother | rfl
    · by_cases hsame : name = other
      · exact absurd (hne hsame) hname.ne_empty
      · exact absurd rfl (resolve_ne hname hother hsame hplain hplain')
    · exact lookup_of_no_name h hplain'
  · exact lookup_of_no_name h hplain

theorem read_of_error {path : String} {fault : FileFault} (h : d.resolve path = .error fault) :
    d.read path = .error fault := by
  unfold read
  rw [h]

theorem write_of_error {path : String} {fault : FileFault} (h : d.resolve path = .error fault) :
    d.write path data = (.error fault, d) := by
  unfold write
  rw [h]

theorem remove_of_error {path : String} {fault : FileFault} (h : d.resolve path = .error fault) :
    d.remove path = (.error fault, d) := by
  unfold remove
  rw [h]

theorem read_of_ok {path : String} (h : d.resolve path = .ok plain)
    (hkind : wantsFolder path = true → d.lookup plain = some .folder) :
    d.read path = match d.lookup plain with
      | none => .error .missing
      | some .folder => .error .isDirectory
      | some (.file data) => .ok data := by
  unfold read
  rw [h]
  dsimp only
  cases hitem : d.lookup plain with
  | none => rfl
  | some item =>
    cases item with
    | folder => rfl
    | file data =>
      rw [hitem] at hkind
      exact if_neg fun hwants => DiskItem.noConfusion (Option.some.inj (hkind hwants))

theorem write_of_ok {path : String} (h : d.resolve path = .ok plain)
    (hkind : wantsFolder path = true → d.lookup plain = some .folder) :
    d.write path data =
      if d.lookup plain = some .folder then (.error .isDirectory, d)
      else (.ok (), ⟨d.items.insert plain (.file data)⟩) := by
  unfold write
  rw [h]
  dsimp only
  by_cases hfolder : d.lookup plain = some .folder
  · rw [if_pos hfolder, hfolder]
  · have hwants : ¬ wantsFolder path = true := fun hwants => hfolder (hkind hwants)
    rw [if_neg hfolder, if_neg hwants, if_neg hwants]
    split
    next hitem => exact absurd hitem hfolder
    next => rfl
    next => rfl

theorem remove_of_ok {path : String} (h : d.resolve path = .ok plain)
    (hkind : wantsFolder path = true → d.lookup plain = some .folder) :
    d.remove path = match d.lookup plain with
      | none => (.error .missing, d)
      | some .folder => (.error .isDirectory, d)
      | some (.file _) => (.ok (), ⟨d.items.erase plain⟩) := by
  unfold remove
  rw [h]
  dsimp only
  cases hitem : d.lookup plain with
  | none => rfl
  | some item =>
    cases item with
    | folder => rfl
    | file data =>
      rw [hitem] at hkind
      exact if_neg fun hwants => DiskItem.noConfusion (Option.some.inj (hkind hwants))

theorem ext_lookup (h : ∀ path, d.lookup path = d'.lookup path)
    (hroot : d.items[""]? = d'.items[""]?) : d = d' := by
  have hitems : d.items = d'.items := by
    apply Std.ExtTreeMap.ext_getElem?
    intro path
    by_cases hpath : path = ""
    · rw [hpath]
      exact hroot
    · have hat := h path
      unfold lookup at hat
      rwa [if_neg hpath, if_neg hpath] at hat
  cases d
  cases d'
  exact congrArg Disk.mk hitems

end Disk

namespace Files.FileRequest

open Disk (IsName IsOpen join wantsFolder)

variable {d : Disk} {dir folder plain : String} {r r' : FileRequest} {fault : FileFault}

/-! ## 2. What comes of a request -/

def name : FileRequest → String
  | read name => name
  | write name _ => name
  | remove name => name

/-- The reply if there is no way to what the name stands for. -/
def refuse (fault : FileFault) : (r : FileRequest) → r.Reply
  | read _ => .error fault
  | write _ _ => .error fault
  | remove _ => .error fault

/-- The reply for what the name stands for. -/
def replyFor : (r : FileRequest) → Option DiskItem → r.Reply
  | read _, none => .error .missing
  | read _, some .folder => .error .isDirectory
  | read _, some (.file data) => .ok data
  | write _ _, some .folder => .error .isDirectory
  | write _ _, _ => .ok ()
  | remove _, none => .error .missing
  | remove _, some .folder => .error .isDirectory
  | remove _, some (.file _) => .ok ()

/-- What the name stands for afterwards. -/
def itemAfter : FileRequest → Option DiskItem → Option DiskItem
  | _, some .folder => some .folder
  | read _, item => item
  | write _ data, _ => some (.file data)
  | remove _, _ => none

/-- The request was served at this place. -/
structure IsServed (dir : String) (r : FileRequest) (d : Disk) (plain : String) : Prop where
  reply : (r.serve dir d).1 = r.replyFor (d.lookup plain)
  lookup : ∀ path, (r.serve dir d).2.lookup path =
    if path = plain then r.itemAfter (d.lookup plain) else d.lookup path
  root : (r.serve dir d).2.items[""]? = d.items[""]?

theorem serve_of_error (h : d.resolve (join dir r.name) = .error fault) :
    r.serve dir d = (r.refuse fault, d) := by
  cases r with
  | read name => exact congrArg (·, d) (Disk.read_of_error h)
  | write name data => exact Disk.write_of_error h
  | remove name => exact Disk.remove_of_error h

theorem isServed_of_eq (h : r.serve dir d = (r.replyFor (d.lookup plain), d))
    (hitem : r.itemAfter (d.lookup plain) = d.lookup plain) : r.IsServed dir d plain := by
  constructor
  · rw [h]
  · intro path
    rw [h, hitem]
    split
    next hpath => rw [hpath]
    next => rfl
  · rw [h]

theorem isServed_read {name : String} (h : d.resolve (join dir name) = .ok plain)
    (hkind : wantsFolder (join dir name) = true → d.lookup plain = some .folder) :
    (read name).IsServed dir d plain := by
  apply isServed_of_eq
  · show (d.read (join dir name), d) = _
    rw [Disk.read_of_ok h hkind]
    rcases d.lookup plain with _ | _ | _ <;> rfl
  · rcases d.lookup plain with _ | _ | _ <;> rfl

theorem isServed_write {name : String} {data : Bytes} (h : d.resolve (join dir name) = .ok plain)
    (hkind : wantsFolder (join dir name) = true → d.lookup plain = some .folder) :
    (write name data).IsServed dir d plain := by
  have hserve : serve dir (write name data) d = _ := Disk.write_of_ok h hkind
  by_cases hfolder : d.lookup plain = some .folder
  · rw [if_pos hfolder] at hserve
    exact isServed_of_eq (by rw [hserve, hfolder]; rfl) (by rw [hfolder]; rfl)
  · have hne : plain ≠ "" := fun hempty => hfolder (if_pos hempty)
    -- A file that is replaced is treated like one that is new.
    have hnew : (write name data).replyFor (d.lookup plain) = .ok () ∧
        (write name data).itemAfter (d.lookup plain) = some (.file data) := by
      rcases hitem : d.lookup plain with _ | _ | _
      · exact ⟨rfl, rfl⟩
      · exact ⟨rfl, rfl⟩
      · exact absurd hitem hfolder
    rw [if_neg hfolder] at hserve
    refine ⟨?_, fun path => ?_, ?_⟩
    · rw [hserve, hnew.1]
    · rw [hserve, hnew.2]
      exact Disk.lookup_insert hne _ path
    · rw [hserve]
      show (d.items.insert plain _)[""]? = _
      rw [getElem?_insert_eq, if_neg hne.symm]

theorem isServed_remove {name : String} (h : d.resolve (join dir name) = .ok plain)
    (hkind : wantsFolder (join dir name) = true → d.lookup plain = some .folder) :
    (remove name).IsServed dir d plain := by
  have hserve : serve dir (remove name) d = _ := Disk.remove_of_ok h hkind
  rcases hitem : d.lookup plain with _ | old | _
  · rw [hitem] at hserve
    exact isServed_of_eq (by rw [hserve, hitem]; rfl) (by rw [hitem]; rfl)
  · have hne : plain ≠ "" := by
      rintro rfl
      exact DiskItem.noConfusion (Option.some.inj hitem)
    rw [hitem] at hserve
    refine ⟨?_, fun path => ?_, ?_⟩
    · rw [hserve, hitem]
      rfl
    · rw [hserve, hitem]
      exact Disk.lookup_erase hne path
    · rw [hserve]
      show (d.items.erase plain)[""]? = _
      rw [getElem?_erase_eq, if_neg hne.symm]
  · rw [hitem] at hserve
    exact isServed_of_eq (by rw [hserve, hitem]; rfl) (by rw [hitem]; rfl)

theorem isServed_of_ok (h : d.resolve (join dir r.name) = .ok plain)
    (hkind : wantsFolder (join dir r.name) = true → d.lookup plain = some .folder) :
    r.IsServed dir d plain := by
  cases r with
  | read name => exact isServed_read h hkind
  | write name data => exact isServed_write h hkind
  | remove name => exact isServed_remove h hkind

/-! ## 3. Requests for different names -/

theorem serve_of_wantsFolder (h : wantsFolder (join dir r.name) = true) : (r.serve dir d).2 = d := by
  cases r with
  | read name => rfl
  | write name data =>
    show (d.write (join dir name) data).2 = d
    unfold Disk.write
    rw [show wantsFolder (join dir name) = true from h]
    split
    next => rfl
    next => split <;> rfl
  | remove name =>
    show (d.remove (join dir name)).2 = d
    unfold Disk.remove
    rw [show wantsFolder (join dir name) = true from h]
    split
    next => rfl
    next => split <;> rfl

/-- Nothing is written to or removed from a directory that is not there. -/
theorem serve_of_closed (hname : IsName r.name ∨ r.name = "")
    (h : ∀ folder, ¬ d.IsOpen dir folder) : (r.serve dir d).2 = d := by
  cases hresolve : d.resolve (join dir r.name) with
  | error fault => rw [serve_of_error hresolve]
  | ok plain =>
    rcases hname with hname | hempty
    · rcases Disk.resolve_join hname.isPart hname.ne_up hresolve with ⟨folder, hfolder, hopen, -⟩
      exact absurd ⟨hfolder, hopen⟩ (h folder)
    · have hdir : dir ≠ "" := by
        rintro rfl
        exact h "" ⟨Disk.Place.root.resolve_eq, rfl⟩
      apply serve_of_wantsFolder
      rw [hempty]
      exact Disk.wantsFolder_join_empty hdir

/-- A request is refused on every disk that has the directory, or served at one place on all. -/
theorem refused_or_served (hname : IsName r.name ∨ r.name = "") (hopen : d.IsOpen dir folder) :
    (∃ fault, ∀ d' : Disk, d'.IsOpen dir folder → r.serve dir d' = (r.refuse fault, d')) ∨
      ∃ plain, ∀ d' : Disk, d'.IsOpen dir folder →
        d'.resolve (join dir r.name) = .ok plain ∧ r.IsServed dir d' plain := by
  cases hresolve : d.resolve (join dir r.name) with
  | error fault =>
    refine .inl ⟨fault, fun d' hopen' => serve_of_error ?_⟩
    rw [Disk.resolve_join_eq hname hopen hopen', hresolve]
  | ok plain =>
    refine .inr ⟨plain, fun d' hopen' => ?_⟩
    have hresolve' : d'.resolve (join dir r.name) = .ok plain := by
      rw [Disk.resolve_join_eq hname hopen hopen', hresolve]
    exact ⟨hresolve', isServed_of_ok hresolve' (Disk.lookup_of_wantsFolder hname hopen' hresolve')⟩

@[simp]
theorem itemAfter_folder (r : FileRequest) : r.itemAfter (some .folder) = some .folder := by
  cases r <;> rfl

theorem isOpen_serve (hname : IsName r.name ∨ r.name = "") (hopen : d.IsOpen dir folder) :
    (r.serve dir d).2.IsOpen dir folder := by
  rcases refused_or_served hname hopen with ⟨fault, hrefused⟩ | ⟨plain, hserved⟩
  · rw [hrefused d hopen]
    exact hopen
  · have hkeeps : ∀ p, d.lookup p = some .folder → (r.serve dir d).2.lookup p = some .folder := by
      intro p hp
      rw [(hserved d hopen).2.lookup]
      split
      next hplain => rw [← hplain, hp, itemAfter_folder]
      next => exact hp
    exact ⟨Disk.resolve_of_folders hkeeps hopen.resolve, hkeeps folder hopen.lookup⟩

section Pairs

variable (hname : IsName r.name ∨ r.name = "") (hother : IsName r'.name ∨ r'.name = "")
  (hne : r.name = r'.name → r.name = "")

include hname hother hne

theorem serve_fst_serve (d : Disk) : (r.serve dir (r'.serve dir d).2).1 = (r.serve dir d).1 := by
  by_cases hdir : ∃ folder, d.IsOpen dir folder
  · rcases hdir with ⟨folder, hopen⟩
    rcases refused_or_served hother hopen with ⟨fault, hrefused'⟩ | ⟨plain', hserved'⟩
    · rw [hrefused' d hopen]
    · have hopen' := isOpen_serve hother hopen
      rcases hserved' d hopen with ⟨hplain', hs'⟩
      rcases refused_or_served hname hopen with ⟨fault, hrefused⟩ | ⟨plain, hserved⟩
      · rw [hrefused _ hopen', hrefused d hopen]
      · rcases hserved d hopen with ⟨hplain, hs⟩
        rw [(hserved _ hopen').2.reply, hs.reply, hs'.lookup]
        split
        next hsame =>
          rw [← hsame] at hplain' ⊢
          rw [Disk.lookup_of_same_place hname hother hne hopen hplain hplain', itemAfter_folder]
        next => rfl
  · rw [serve_of_closed hother (not_exists.mp hdir)]

theorem serve_snd_serve (d : Disk) :
    (r.serve dir (r'.serve dir d).2).2 = (r'.serve dir (r.serve dir d).2).2 := by
  by_cases hdir : ∃ folder, d.IsOpen dir folder
  · rcases hdir with ⟨folder, hopen⟩
    have hopen₁ := isOpen_serve hname hopen
    have hopen₂ := isOpen_serve hother hopen
    rcases refused_or_served hother hopen with ⟨fault, hrefused'⟩ | ⟨plain', hserved'⟩
    · rw [hrefused' d hopen, hrefused' _ hopen₁]
    rcases refused_or_served hname hopen with ⟨fault, hrefused⟩ | ⟨plain, hserved⟩
    · rw [hrefused _ hopen₂, hrefused d hopen]
    rcases hserved d hopen with ⟨hplain, hs⟩
    rcases hserved' d hopen with ⟨hplain', hs'⟩
    have hs₂ := (hserved _ hopen₂).2
    have hs₁ := (hserved' _ hopen₁).2
    apply Disk.ext_lookup
    · intro path
      rw [hs₂.lookup, hs₁.lookup, hs'.lookup, hs.lookup, hs'.lookup, hs.lookup]
      by_cases hsame : plain = plain'
      · -- Both lead to the directory itself, which stays what it is.
        rw [← hsame] at hplain' ⊢
        rw [Disk.lookup_of_same_place hname hother hne hopen hplain hplain']
        simp
      · have hsame' : plain' ≠ plain := fun heq => hsame heq.symm
        rw [if_neg hsame, if_neg hsame']
        by_cases hp : path = plain
        · rw [if_pos hp, if_neg fun heq => hsame (hp.symm.trans heq), if_pos hp]
        · rw [if_neg hp, if_neg hp]
    · rw [hs₂.root, hs'.root, hs₁.root, hs.root]
  · rw [serve_of_closed hother (not_exists.mp hdir), serve_of_closed hname (not_exists.mp hdir),
      serve_of_closed hother (not_exists.mp hdir)]

/-- Requests for different names do not get in each other's way. -/
theorem independent_of_name_ne : Program.Independent (serve dir) r r' where
  left := serve_fst_serve hname hother hne
  right := serve_fst_serve hother hname fun heq => heq.trans (hne heq.symm)
  comm := serve_snd_serve hname hother hne

end Pairs

end Files.FileRequest

end Kasten
