import Kasten.Disk.Basic
import Kasten.Proofs.Except
import Kasten.Proofs.Map

/-!
# Files keep what is written to them

The names in one directory lead to different places. A file that was written holds what was
written, and every other file of the directory what it held before.
-/

namespace Kasten

namespace Text

variable {separator : Char} {left : List Char}

theorem splitOn_of_not_mem (h : separator ∉ left) : splitOn separator left = [left] := by
  induction left with
  | nil => rfl
  | cons c left ih =>
    have hc : c ≠ separator := fun hc => h (hc ▸ List.mem_cons_self)
    rw [splitOn, if_neg hc, ih fun hmem => h (List.mem_cons_of_mem c hmem)]

theorem splitOn_ne_nil (separator : Char) (cs : List Char) : splitOn separator cs ≠ [] := by
  cases cs with
  | nil => exact List.cons_ne_nil [] []
  | cons c cs =>
    rw [splitOn]
    split
    · exact List.cons_ne_nil _ _
    · split
      · exact List.cons_ne_nil _ _
      · exact List.cons_ne_nil _ _

theorem splitOn_append (left right : List Char) :
    splitOn separator (left ++ separator :: right) =
      splitOn separator left ++ splitOn separator right := by
  induction left with
  | nil => exact if_pos rfl
  | cons c left ih =>
    rw [List.cons_append, splitOn, ih]
    by_cases hc : c = separator
    · rw [if_pos hc, splitOn, if_pos hc]
      rfl
    · rw [if_neg hc, splitOn, if_neg hc]
      -- The character joins the first part of what is left of the separator.
      cases hleft : splitOn separator left with
      | nil => exact absurd hleft (splitOn_ne_nil separator left)
      | cons part rest => rfl

end Text

namespace Disk

/-! ## 1. Names in a directory -/

/-- The text is one of the names that a path is made of. -/
structure IsPart (name : String) : Prop where
  ne_empty : name ≠ ""
  slash : '/' ∉ name.toList
  ne_here : name ≠ "."

/-- The text is the name of something inside a directory, not a way to another one. -/
structure IsName (name : String) : Prop where
  slash : '/' ∉ name.toList
  first : ∃ c cs, name.toList = c :: cs ∧ c ≠ '.'

variable {d d' : Disk} {dir path plain name other : String} {data bytes : Bytes}

theorem IsName.ne_empty (h : IsName name) : name ≠ "" := by
  rintro rfl
  rcases h.first with ⟨c, cs, heq, -⟩
  exact absurd heq.symm (List.cons_ne_nil c cs)

theorem IsName.ne_up (h : IsName name) : name ≠ ".." := by
  rintro rfl
  rcases h.first with ⟨c, cs, heq, hc⟩
  exact hc (List.cons.inj heq).1.symm

theorem IsName.isPart (h : IsName name) : IsPart name := by
  refine ⟨h.ne_empty, h.slash, ?_⟩
  rintro rfl
  rcases h.first with ⟨c, cs, heq, hc⟩
  exact hc (List.cons.inj heq).1.symm

theorem IsPart.not_startsWith (h : IsPart name) : Text.startsWith name "/" = false := by
  cases hlist : name.toList with
  | nil => exact absurd (String.toList_eq_nil_iff.mp hlist) h.ne_empty
  | cons c cs =>
    have hmem : c ∈ name.toList := hlist ▸ List.mem_cons_self
    have hc : ('/' == c) = false := beq_false_of_ne fun hc => h.slash (hc ▸ hmem)
    unfold Text.startsWith
    rw [hlist]
    show ('/' == c && List.isPrefixOf [] cs) = false
    rw [hc, Bool.false_and]

/-- A name is the one part of itself. -/
theorem parts_of_isPart (h : IsPart name) :
    (Text.splitOn '/' name.toList).filter (fun cs => cs ≠ [] && cs ≠ ['.']) = [name.toList] := by
  have hdot : name.toList ≠ ['.'] := fun hdot => h.ne_here (String.toList_inj.mp hdot)
  have hnil : name.toList ≠ [] := fun hnil => h.ne_empty (String.toList_eq_nil_iff.mp hnil)
  rw [Text.splitOn_of_not_mem h.slash, List.filter_cons_of_pos, List.filter_nil]
  rw [Bool.and_eq_true, decide_eq_true_iff, decide_eq_true_iff]
  exact ⟨hnil, hdot⟩

theorem toList_join (h : IsPart name) (dir : String) :
    dir = "" ∧ join dir name = name ∨
      (∃ front, dir.toList = front ++ ['/'] ∧
        (join dir name).toList = front ++ '/' :: name.toList) ∨
      dir ≠ "" ∧ (join dir name).toList = dir.toList ++ '/' :: name.toList := by
  unfold join
  rw [h.not_startsWith, Bool.false_or]
  by_cases hempty : dir = ""
  · rw [if_pos (beq_iff_eq.mpr hempty)]
    exact .inl ⟨hempty, rfl⟩
  rw [if_neg (fun hb => hempty (beq_iff_eq.mp hb))]
  by_cases hends : Text.endsWith dir "/" = true
  · rw [if_pos hends]
    rcases List.isSuffixOf_iff_suffix.mp hends with ⟨front, hfront⟩
    refine .inr (.inl ⟨front, hfront.symm, ?_⟩)
    rw [String.toList_append, ← hfront, List.append_assoc]
    rfl
  · rw [if_neg hends]
    refine .inr (.inr ⟨hempty, ?_⟩)
    rw [String.toList_append, String.toList_append, List.append_assoc]
    rfl

/-- A name in a directory comes after the names that lead there. -/
theorem namesOf_join (h : IsPart name) (dir : String) :
    namesOf (join dir name) = namesOf dir ++ [name] := by
  have hparts := parts_of_isPart h
  have hname : String.ofList name.toList = name := String.ofList_toList
  unfold namesOf
  rcases toList_join h dir with ⟨rfl, hjoin⟩ | ⟨front, hdir, hjoin⟩ | ⟨-, hjoin⟩
  · rw [hjoin, hparts, List.map_singleton, hname]
    rfl
  · rw [hjoin, hdir, Text.splitOn_append, Text.splitOn_append, List.filter_append, hparts,
      List.map_append, List.map_singleton, hname, List.filter_append, List.map_append]
    exact (congrArg (· ++ [name]) (List.append_nil _)).symm
  · rw [hjoin, Text.splitOn_append, List.filter_append, hparts, List.map_append,
      List.map_singleton, hname]

theorem join_injective (hname : IsPart name) (hother : IsPart other)
    (h : join dir name = join dir other) : name = other := by
  have hnames := congrArg namesOf h
  rw [namesOf_join hname, namesOf_join hother] at hnames
  exact List.singleton_inj.mp (List.append_cancel_left hnames)

/-! ## 2. Where a path leads -/

theorem walk_append (d : Disk) (start : String) (names more : List String) :
    d.walk start (names ++ more) = d.walk start names >>= fun path => d.walk path more := by
  induction names generalizing start with
  | nil => rfl
  | cons name names ih =>
    rw [List.cons_append, walk, walk]
    cases d.lookup start with
    | none => rfl
    | some item =>
      cases item with
      | file data => rfl
      | folder =>
        dsimp only
        by_cases hlong : maxName < name.utf8ByteSize
        · rw [if_pos hlong, if_pos hlong]
          rfl
        · rw [if_neg hlong, if_neg hlong]
          exact ih _

theorem resolve_eq_walk (h : d.resolve path = .ok plain) :
    d.walk "" (namesOf path) = .ok plain := by
  unfold resolve at h
  split at h
  next => cases h
  next =>
    split at h
    next => cases h
    next => exact h

/-- The last step of a way goes to a place inside the directory that the others lead to. -/
theorem walk_name (hup : name ≠ "..") (h : d.walk dir [name] = .ok plain) :
    plain = join dir name := by
  rw [walk] at h
  split at h
  next => cases h
  next => cases h
  next =>
    split at h
    next => cases h
    next => exact (Except.ok.inj h).symm

/-- Different names in a directory lead to different places. -/
theorem resolve_ne {plain' : String} (hname : IsName name) (hother : IsName other)
    (hne : name ≠ other) (h : d.resolve (join dir name) = .ok plain)
    (h' : d.resolve (join dir other) = .ok plain') : plain ≠ plain' := by
  have hwalk := resolve_eq_walk h
  have hwalk' := resolve_eq_walk h'
  rw [namesOf_join hname.isPart, walk_append] at hwalk
  rw [namesOf_join hother.isPart, walk_append] at hwalk'
  rcases exists_of_bind_eq_ok hwalk with ⟨folder, hfolder, hlast⟩
  rcases exists_of_bind_eq_ok hwalk' with ⟨folder', hfolder', hlast'⟩
  -- Up to the last step both ways are the same.
  have hsame : folder = folder' := Except.ok.inj (hfolder.symm.trans hfolder')
  rw [walk_name hname.ne_up hlast, walk_name hother.ne_up hlast', ← hsame]
  intro hjoin
  exact hne (join_injective hname.isPart hother.isPart hjoin)

/-- A way stays open as long as its directories stay. -/
theorem walk_of_folders (hd : ∀ p, d.lookup p = some .folder → d'.lookup p = some .folder)
    {start : String} {names : List String} (h : d.walk start names = .ok plain) :
    d'.walk start names = .ok plain := by
  -- By induction over the names; every step but the last starts in a folder.
  induction names generalizing start with
  | nil => exact h
  | cons name names ih =>
    rw [walk] at h ⊢
    cases hstart : d.lookup start with
    | none =>
      rw [hstart] at h
      cases h
    | some item =>
      cases item with
      | file data =>
        rw [hstart] at h
        cases h
      | folder =>
        rw [hstart] at h
        rw [hd start hstart]
        dsimp only at h ⊢
        split at h
        next => cases h
        next hlong =>
          rw [if_neg hlong]
          exact ih h

theorem resolve_of_folders (hd : ∀ p, d.lookup p = some .folder → d'.lookup p = some .folder)
    (h : d.resolve path = .ok plain) : d'.resolve path = .ok plain := by
  have hwalk := walk_of_folders hd (resolve_eq_walk h)
  unfold resolve at h ⊢
  split at h
  next => cases h
  next hnul =>
    split at h
    next => cases h
    next hroot =>
      rw [if_neg hnul, if_neg hroot]
      exact hwalk

/-! ## 3. Writing and reading -/

theorem lookup_insert (h : plain ≠ "") (item : DiskItem) (p : String) :
    (⟨d.items.insert plain item⟩ : Disk).lookup p = if p = plain then some item else d.lookup p := by
  unfold lookup
  by_cases hp : p = plain
  · rw [if_pos hp, if_neg (hp ▸ h), getElem?_insert_eq, if_pos hp]
  · rw [if_neg hp, getElem?_insert_eq, if_neg hp]

theorem lookup_erase (h : plain ≠ "") (p : String) :
    (⟨d.items.erase plain⟩ : Disk).lookup p = if p = plain then none else d.lookup p := by
  unfold lookup
  by_cases hp : p = plain
  · rw [if_pos hp, if_neg (hp ▸ h), getElem?_erase_eq, if_pos hp]
  · rw [if_neg hp, getElem?_erase_eq, if_neg hp]

/-- A disk after one file was written. -/
structure Written (d : Disk) (path plain : String) (data : Bytes) (d' : Disk) : Prop where
  resolve : d.resolve path = .ok plain
  lookup : d.lookup plain ≠ some .folder
  wantsFolder : wantsFolder path = false
  disk : d' = ⟨d.items.insert plain (.file data)⟩

theorem written_of_write (h : (d.write path data).1 = .ok ()) :
    ∃ plain, Written d path plain data (d.write path data).2 := by
  generalize hout : d.write path data = out at h ⊢
  unfold write at hout
  split at hout
  next =>
    cases hout
    cases h
  next plain hresolve =>
    -- A new file and one that is there already are written alike, and refused with other faults.
    split at hout
    next =>
      cases hout
      cases h
    next old hlookup =>
      split at hout
      next =>
        cases hout
        cases h
      next hwants =>
        cases hout
        exact ⟨plain, hresolve, hlookup ▸ nofun, eq_false_of_ne_true hwants, rfl⟩
    next hlookup =>
      split at hout
      next =>
        cases hout
        cases h
      next hwants =>
        cases hout
        exact ⟨plain, hresolve, hlookup ▸ nofun, eq_false_of_ne_true hwants, rfl⟩

namespace Written

variable (h : Written d path plain data d')

include h

theorem plain_ne_empty : plain ≠ "" := fun hempty => h.lookup (if_pos hempty)

theorem lookup_eq (p : String) :
    d'.lookup p = if p = plain then some (.file data) else d.lookup p := by
  rw [h.disk]
  exact lookup_insert h.plain_ne_empty _ p

theorem lookup_of_folder (p : String) (hp : d.lookup p = some .folder) :
    d'.lookup p = some .folder := by
  have hne : p ≠ plain := fun hne => h.lookup (hne ▸ hp)
  rw [h.lookup_eq, if_neg hne, hp]

theorem read_self : d'.read path = .ok data := by
  unfold read
  rw [resolve_of_folders h.lookup_of_folder h.resolve]
  dsimp only
  rw [h.lookup_eq, if_pos rfl]
  dsimp only
  rw [h.wantsFolder]
  rfl

end Written

theorem read_of_resolve (hr : d.read path = .ok bytes) : ∃ plain, d.resolve path = .ok plain := by
  unfold read at hr
  cases hp : d.resolve path with
  | ok plain => exact ⟨plain, rfl⟩
  | error fault =>
    rw [hp] at hr
    cases hr

theorem Written.read_other {path' plain' : String} (h : Written d path plain data d')
    (hresolve : d.resolve path' = .ok plain') (hne : plain' ≠ plain) :
    d'.read path' = d.read path' := by
  unfold read
  rw [resolve_of_folders h.lookup_of_folder hresolve, hresolve]
  dsimp only
  rw [h.lookup_eq, if_neg hne]

/-- What was written to a file is read from it. -/
theorem read_write (h : (d.write path data).1 = .ok ()) :
    (d.write path data).2.read path = .ok data := by
  rcases written_of_write h with ⟨plain, hw⟩
  exact hw.read_self

/-- A file keeps what it holds when another one of the directory is written. -/
theorem read_write_other (hname : IsName name) (hother : IsName other) (hne : name ≠ other)
    (h : (d.write (join dir name) data).1 = .ok ()) (hr : d.read (join dir other) = .ok bytes) :
    (d.write (join dir name) data).2.read (join dir other) = .ok bytes := by
  rcases written_of_write h with ⟨plain, hw⟩
  rcases read_of_resolve hr with ⟨plain', hresolve⟩
  rw [hw.read_other hresolve (resolve_ne hother hname hne.symm hresolve hw.resolve), hr]

end Disk

end Kasten
