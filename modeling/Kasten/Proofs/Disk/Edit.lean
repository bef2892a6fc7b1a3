import Mathlib.Data.List.Basic
import Kasten.Disk.Edit
import Kasten.Proofs.Files.Independence

/-!
# Edits of files

On a disk whose items are where their paths lead there is nothing below a file. So an edit of files
changes what is found under one path or, for a move, under two, and all that it changes is seen.
-/

namespace Kasten.Disk

variable {d d' : Disk} {path p q old new : String} {data : Bytes} {item : DiskItem}

/-! ## 1. Disks that are trees -/

/-- Every item is found where its path leads. -/
def WellFormed (d : Disk) : Prop :=
  ∀ path ∈ d.items, d.resolve path = .ok path

theorem lookup_of_ne (hp : p ≠ "") : d.lookup p = d.items[p]? :=
  if_neg hp

theorem mem_items_of_lookup (hp : p ≠ "") (h : d.lookup p = some item) : p ∈ d.items := by
  rw [Std.ExtTreeMap.mem_iff_isSome_getElem?, ← lookup_of_ne hp, h]
  rfl

theorem exists_lookup_of_mem (h : d.items[p]? = some item) : ∃ there, d.lookup p = some there := by
  by_cases hp : p = ""
  · exact ⟨.folder, if_pos hp⟩
  · exact ⟨item, (lookup_of_ne hp).trans h⟩

theorem WellFormed.place (hd : d.WellFormed) (h : d.lookup p = some item) : d.Place p := by
  by_cases hp : p = ""
  · rw [hp]
    exact .root
  · exact place_of_resolve (hd p (mem_items_of_lookup hp h))

/-- A place stays one as long as the folders stay. -/
theorem Place.mono (hfolder : ∀ q, d.lookup q = some .folder → d'.lookup q = some .folder)
    (h : d.Place p) : d'.Place p := by
  induction h with
  | root => exact .root
  | inside h hopen hname hup hlength hnul ih =>
    exact ih.inside (hfolder _ hopen) hname hup hlength hnul

theorem isBelow_iff : isBelow p q = true ↔ p = q ∨ q.toList ++ ['/'] <+: p.toList := by
  unfold isBelow
  rw [Bool.or_eq_true, beq_iff_eq, List.isPrefixOf_iff_prefix]

theorem isBelow_self (p : String) : isBelow p p = true :=
  isBelow_iff.mpr (.inl rfl)

/-- What is above a place is a folder. -/
theorem Place.lookup_of_isBelow (h : d.Place p) (hbelow : isBelow p q = true) (hne : p ≠ q) :
    d.lookup q = some .folder := by
  have hfront := (isBelow_iff.mp hbelow).resolve_left hne
  clear hbelow
  induction h with
  | root => exact absurd (List.prefix_nil.mp hfront) (List.append_ne_nil_of_right_ne_nil _ nofun)
  | @inside above name h hopen hname hup hlength hnul ih =>
    rw [h.isPlain.toList_join hname] at hfront
    rcases hfront with ⟨rest, hrest⟩
    unfold front at hrest
    split at hrest
    next =>
      -- The name would have a slash in it.
      apply absurd _ hname.slash
      rw [List.nil_append] at hrest
      rw [← hrest]
      simp
    next =>
      rw [List.append_assoc, List.append_assoc] at hrest
      rcases List.append_eq_append_iff.mp hrest with ⟨cs, habove, hcs⟩ | ⟨cs, hq, hcs⟩
      · cases cs with
        | nil =>
          rw [List.append_nil] at habove
          rw [← String.toList_inj.mp habove]
          exact hopen
        | cons c cs =>
          cases hcs
          have hlonger : above ≠ q := by
            intro heq
            rw [heq] at habove
            simp at habove
          refine ih hlonger ?_
          rw [habove]
          exact ⟨cs, by simp⟩
      · cases cs with
        | nil =>
          rw [List.append_nil] at hq
          rw [String.toList_inj.mp hq]
          exact hopen
        | cons c cs =>
          have hname' : name.toList = cs ++ '/' :: rest := (List.cons.inj hcs).2
          apply absurd _ hname.slash
          rw [hname']
          simp

/-! ## 2. What is found after an edit -/

theorem lookup_filter (keeps : String → Bool) (p : String) :
    (⟨d.items.filter fun p _ => keeps p⟩ : Disk).lookup p =
      if p = "" ∨ keeps p = true then d.lookup p else none := by
  by_cases hp : p = ""
  · rw [if_pos (.inl hp), hp]
    rfl
  · rw [lookup_of_ne hp, lookup_of_ne hp, Std.ExtTreeMap.getElem?_filter']
    cases d.items[p]? with
    | none => exact (ite_self none).symm
    | some item => simp [Option.filter_some, hp]

/-- A regular file is there or can be put there. -/
structure IsFilePlace (d : Disk) (path : String) : Prop where
  resolve : d.resolve path = .ok path
  lookup : d.lookup path ≠ some .folder

namespace IsFilePlace

variable (h : d.IsFilePlace path)

include h

theorem ne_empty : path ≠ "" :=
  fun hempty => h.lookup (if_pos hempty)

/-- Nothing else is below a file. -/
theorem isBelow_iff_eq (hd : d.WellFormed) (hp : d.lookup p = some item) :
    isBelow p path = true ↔ p = path := by
  constructor
  · intro hbelow
    by_contra hne
    exact h.lookup ((hd.place hp).lookup_of_isBelow hbelow hne)
  · rintro rfl
    exact isBelow_self p

/-- So nothing else is removed along with it. -/
theorem below_eq_nil (hd : d.WellFormed) : Edit.below d path = [] := by
  unfold Edit.below
  rw [List.filter_eq_nil_iff]
  intro p hp hbelow
  rw [Bool.and_eq_true, decide_eq_true_iff] at hbelow
  have hfound := Std.ExtTreeMap.getElem?_eq_some_getElem (Std.ExtTreeMap.mem_keys.mp hp)
  rcases exists_lookup_of_mem hfound with ⟨_, hthere⟩
  exact hbelow.1 ((h.isBelow_iff_eq hd hthere).mp hbelow.2)

theorem lookup_write (data : Bytes) (p : String) :
    (d.write path data).2.lookup p = if p = path then some (.file data) else d.lookup p := by
  have hplain : wantsFolder path = false := (place_of_resolve h.resolve).isPlain.ends
  rw [write_of_ok h.resolve (by simp [hplain]), if_neg h.lookup]
  exact lookup_insert h.ne_empty _ p

theorem lookup_clear (hd : d.WellFormed) (p : String) :
    (d.clear path).lookup p = if p = path then none else d.lookup p := by
  have hclear : d.clear path = ⟨d.items.filter fun p _ => !isBelow p path⟩ := by
    unfold clear
    rw [h.resolve]
    exact if_neg h.ne_empty
  rw [hclear, lookup_filter]
  cases hp : d.lookup p with
  | none => simp
  | some item =>
    by_cases hsame : p = path
    · simp [hsame, h.ne_empty, isBelow_self]
    · simp [hsame, (h.isBelow_iff_eq hd hp).not.mpr hsame]

/-- A move of a file takes nothing else along. -/
theorem moved_eq (hd : d.WellFormed) (hitem : d.lookup path = some item) :
    (d.items.toList.filter fun (p, _) => isBelow p path) = [(path, item)] := by
  have hnodup : d.items.toList.Nodup :=
    (List.pairwise_map.mp (nodup_keys d.items)).imp fun hne heq => hne (congrArg Prod.fst heq)
  have hfound : d.items[path]? = some item := (lookup_of_ne h.ne_empty).symm.trans hitem
  apply List.perm_singleton.mp
  apply (List.perm_ext_iff_of_nodup (hnodup.filter _) (List.pairwise_singleton _ _)).mpr
  rintro ⟨p, there⟩
  rw [List.mem_filter, Std.ExtTreeMap.mem_toList_iff_getElem?_eq_some, List.mem_singleton]
  constructor
  · rintro ⟨hp, hbelow⟩
    rcases exists_lookup_of_mem hp with ⟨_, hlookup⟩
    have hsame : p = path := (h.isBelow_iff_eq hd hlookup).mp hbelow
    rw [hsame] at hp ⊢
    rw [Option.some.inj (hp.symm.trans hfound)]
  · intro heq
    cases heq
    exact ⟨hfound, isBelow_self path⟩

end IsFilePlace

theorem lookup_move (hd : d.WellFormed) (hold : d.IsFilePlace old) (hnew : d.IsFilePlace new)
    (hitem : d.lookup old = some item) (hne : old ≠ new) (p : String) :
    (d.move old new).lookup p =
      if p = new then some item else if p = old then none else d.lookup p := by
  have hmove : d.move old new =
      ⟨(d.items.filter fun p _ => !isBelow p old && !isBelow p new).insert new item⟩ := by
    have hguard : ¬ ((d.lookup old).isNone || old == new || old == "" || new == "") = true := by
      simp [hitem, hne, hold.ne_empty, hnew.ne_empty]
    have hname : new ++ String.ofList (old.toList.drop old.toList.length) = new := by
      rw [List.drop_length]
      exact String.append_empty
    unfold move
    rw [hold.resolve, hnew.resolve]
    dsimp only
    rw [if_neg hguard, hold.moved_eq hd hitem, List.foldl_cons, List.foldl_nil]
    dsimp only
    rw [hname]
  rw [hmove, lookup_insert hnew.ne_empty]
  split
  next => rfl
  next hp =>
    rw [lookup_filter fun p => !isBelow p old && !isBelow p new]
    cases hthere : d.lookup p with
    | none => simp
    | some there =>
      have hnot : isBelow p new = false :=
        eq_false_of_ne_true ((hnew.isBelow_iff_eq hd hthere).not.mpr hp)
      by_cases hsame : p = old
      · simp [hsame, hold.ne_empty, isBelow_self]
      · simp [hsame, hnot, (hold.isBelow_iff_eq hd hthere).not.mpr hsame]

/-! ## 3. What an edit does -/

/-- The edit is of regular files, named by the paths under which they are found. -/
def Edit.IsOfFiles (d : Disk) : Edit → Prop
  | .write path _ => d.IsFilePlace path
  | .makeFolder _ => False
  | .clear path => d.IsFilePlace path
  | .move old new => d.IsFilePlace old ∧ d.IsFilePlace new

/-- Whatever is told of an edit says of each path what became of it. -/
theorem Edit.kind_of_mem_notices {e : Edit} {n : Notice} (h : n ∈ e.notices d) :
    n.kind ≠ .renamed := by
  unfold Edit.notices at h
  dsimp only at h
  split at h
  next =>
    cases e with
    | write path data =>
      dsimp only at h
      split at h
      next =>
        rw [List.mem_singleton.mp h]
        nofun
      next => cases h
    | _ => cases h
  next =>
    cases e with
    | write path data =>
      rw [List.mem_singleton.mp h]
      dsimp only
      split <;> nofun
    | makeFolder path =>
      rcases List.mem_map.mp h with ⟨p, -, rfl⟩
      nofun
    | clear path =>
      rcases List.mem_map.mp h with ⟨p, -, rfl⟩
      nofun
    | move old new =>
      rw [List.mem_singleton.mp h]
      nofun

/-- So it is the same for whoever takes it apart later. -/
theorem Edit.flatMap_notices (e : Edit) (d : Disk) (isThere : String → Bool) :
    (e.notices d).flatMap (·.sightings isThere) = e.sightings d := by
  refine List.flatMap_congr fun n hn => ?_
  have hkind := Edit.kind_of_mem_notices hn
  rcases n with ⟨kind, paths⟩
  cases kind with
  | renamed => exact absurd rfl hkind
  | _ => rfl

/-- From one disk to the other only files come, go or change, each at a place for it. Something is
seen of each of them, and what is seen to have vanished is gone. -/
structure Differs (d d' : Disk) (seen : List Sighting) : Prop where
  file : ∀ p, d'.lookup p ≠ d.lookup p →
    d.IsFilePlace p ∧ d'.lookup p ≠ some .folder ∧
      ∃ s ∈ seen, s.path = p
  place : ∀ s ∈ seen, d.IsFilePlace s.path
  vanished : ∀ s ∈ seen, s.happening = .vanished → d'.lookup s.path = none

namespace Differs

theorem refl {seen : List Sighting} (hplace : ∀ s ∈ seen, d.IsFilePlace s.path)
    (hseen : ∀ s ∈ seen, s.happening ≠ .vanished) : Differs d d seen where
  file _ hp := absurd rfl hp
  place := hplace
  vanished s hs hv := absurd hv (hseen s hs)

/-- Nothing is found differently but under one path. -/
theorem one (h : d.IsFilePlace path) {there : Option DiskItem} {happening : Happening}
    (hlookup : ∀ p, d'.lookup p = if p = path then there else d.lookup p)
    (hfolder : there ≠ some .folder) (hseen : happening = .vanished → there = none) :
    Differs d d' [⟨path, happening⟩] where
  file p hp := by
    rw [hlookup] at hp ⊢
    by_cases hsame : p = path
    · rw [hsame, if_pos rfl]
      exact ⟨h, hfolder, _, List.mem_singleton.mpr rfl, rfl⟩
    · rw [if_neg hsame] at hp
      exact absurd rfl hp
  place s hs := (List.mem_singleton.mp hs) ▸ h
  vanished s hs hv := by
    rw [List.mem_singleton.mp hs] at hv ⊢
    rw [hlookup, if_pos rfl]
    exact hseen hv

theorem move (hd : d.WellFormed) (hold : d.IsFilePlace old) (hnew : d.IsFilePlace new)
    (hitem : d.lookup old = some item) (hne : old ≠ new) :
    Differs d (d.move old new) [⟨old, .vanished⟩, ⟨new, .appeared⟩] where
  file p hp := by
    rw [lookup_move hd hold hnew hitem hne] at hp ⊢
    by_cases hp' : p = new
    · rw [hp', if_pos rfl, ← hitem]
      exact ⟨hnew, hold.lookup, ⟨new, .appeared⟩, by simp, rfl⟩
    · rw [if_neg hp'] at hp ⊢
      by_cases hsame : p = old
      · rw [hsame, if_pos rfl]
        exact ⟨hold, nofun, ⟨old, .vanished⟩, by simp, rfl⟩
      · rw [if_neg hsame] at hp
        exact absurd rfl hp
  place s hs := by
    rcases List.mem_cons.mp hs with rfl | hs
    · exact hold
    · exact (List.mem_singleton.mp hs) ▸ hnew
  vanished s hs hv := by
    rcases List.mem_cons.mp hs with rfl | hs
    · rw [lookup_move hd hold hnew hitem hne, if_neg hne, if_pos rfl]
    · rw [List.mem_singleton.mp hs] at hv
      cases hv

end Differs

theorem Edit.IsOfFiles.differs {e : Edit} (he : e.IsOfFiles d) (hd : d.WellFormed) :
    Differs d (e.apply d) (e.sightings d) := by
  unfold Edit.sightings Edit.notices
  dsimp only
  split
  next hsame =>
    -- Whatever is seen of an edit that changes nothing, no file has vanished.
    rw [hsame]
    cases e with
    | write path data =>
      dsimp only
      split
      next =>
        show Differs d d [⟨path, .changed⟩]
        exact .refl (fun s hs => (List.mem_singleton.mp hs) ▸ he) (by simp)
      next => exact .refl nofun nofun
    | _ => exact .refl nofun nofun
  next hchanged =>
    cases e with
    | makeFolder path => exact absurd he id
    | write path data =>
      dsimp only
      split
      · exact Differs.one he (he.lookup_write data) nofun nofun
      · exact Differs.one he (he.lookup_write data) nofun nofun
    | clear path =>
      dsimp only
      rw [he.below_eq_nil hd]
      exact Differs.one he (he.lookup_clear hd) nofun fun _ => rfl
    | move old new =>
      have hmove : ¬ ((d.lookup old).isNone || old == new || old == "" || new == "") = true := by
        intro hguard
        apply hchanged
        show d.move old new = d
        unfold Disk.move
        rw [he.1.resolve, he.2.resolve]
        exact if_pos hguard
      simp only [Bool.or_eq_true, not_or, Option.isNone_iff_eq_none, beq_iff_eq] at hmove
      rcases Option.ne_none_iff_exists'.mp hmove.1.1.1 with ⟨item, hitem⟩
      exact Differs.move hd he.1 he.2 hitem hmove.1.1.2

/-! ## 4. What an edit leaves -/

namespace Differs

variable {seen : List Sighting} (h : Differs d d' seen)

include h

theorem folder (hp : d.lookup p = some .folder) : d'.lookup p = some .folder := by
  by_contra hne
  exact (h.file p fun hsame => hne (hsame.trans hp)).1.lookup hp

theorem folder_iff : d'.lookup p = some .folder ↔ d.lookup p = some .folder := by
  refine ⟨fun hp => ?_, h.folder⟩
  by_contra hne
  exact (h.file p fun hsame => hne (hsame.symm.trans hp)).2.1 hp

theorem wellFormed (hd : d.WellFormed) : d'.WellFormed := by
  intro p hp
  rcases exists_lookup_of_mem (Std.ExtTreeMap.getElem?_eq_some_getElem hp) with ⟨item, hitem⟩
  have hplace : d.Place p := by
    by_cases hsame : d'.lookup p = d.lookup p
    · exact hd.place (hsame.symm.trans hitem)
    · exact place_of_resolve (h.file p hsame).1.resolve
  exact (hplace.mono fun q => h.folder).resolve_eq

theorem isOpen {dir folder : String} (hopen : d.IsOpen dir folder) : d'.IsOpen dir folder :=
  ⟨resolve_of_folders (fun _ => h.folder) hopen.resolve, h.folder hopen.lookup⟩

end Differs

end Kasten.Disk
