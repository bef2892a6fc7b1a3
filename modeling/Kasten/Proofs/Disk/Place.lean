import Kasten.Proofs.Disk.ReadWrite

/-!
# Places on the disk

The plain form of a path goes from folder to folder and never back, so it leads to where the path
itself leads. Whether a way is open depends on the disk, but not its end.
-/

namespace Kasten

theorem Text.mem_part_of_splitOn {separator : Char} {cs part : List Char}
    (h : part ∈ splitOn separator cs) : ∀ c ∈ part, c ≠ separator ∧ c ∈ cs := by
  induction cs generalizing part with
  | nil =>
    rw [List.mem_singleton.mp h]
    exact fun c hc => absurd hc List.not_mem_nil
  | cons d cs ih =>
    have hlater : ∀ more ∈ splitOn separator cs, ∀ c ∈ more, c ≠ separator ∧ c ∈ d :: cs :=
      fun more hmore c hc => ⟨(ih hmore c hc).1, List.mem_cons_of_mem d (ih hmore c hc).2⟩
    rw [splitOn] at h
    by_cases hd : d = separator
    · rw [if_pos hd] at h
      rcases List.mem_cons.mp h with rfl | h
      · exact fun c hc => absurd hc List.not_mem_nil
      · exact hlater part h
    · rw [if_neg hd] at h
      -- The character joins the first part of what comes after it.
      cases hrest : splitOn separator cs with
      | nil => exact absurd hrest (splitOn_ne_nil separator cs)
      | cons first rest =>
        rw [hrest] at h hlater
        rcases List.mem_cons.mp h with rfl | h
        · intro c hc
          rcases List.mem_cons.mp hc with rfl | hc
          · exact ⟨hd, List.mem_cons_self⟩
          · exact hlater first List.mem_cons_self c hc
        · exact hlater part (List.mem_cons_of_mem first h)

namespace Disk

variable {d d' : Disk} {dir path plain name : String}

/-! ## 1. Names behind a path -/

theorem mem_namesOf (h : name ∈ namesOf path) :
    IsPart name ∧ ∀ c ∈ name.toList, c ∈ path.toList := by
  rcases List.mem_map.mp h with ⟨cs, hcs, rfl⟩
  rw [List.mem_filter, Bool.and_eq_true, decide_eq_true_iff, decide_eq_true_iff] at hcs
  have hpart := Text.mem_part_of_splitOn hcs.1
  rw [String.toList_ofList]
  refine ⟨⟨?_, ?_, ?_⟩, fun c hc => (hpart c hc).2⟩
  · intro hempty
    have hlist := congrArg String.toList hempty
    rw [String.toList_ofList] at hlist
    exact hcs.2.1 hlist
  · rw [String.toList_ofList]
    exact fun hslash => (hpart '/' hslash).1 rfl
  · intro hhere
    have hlist := congrArg String.toList hhere
    rw [String.toList_ofList] at hlist
    exact hcs.2.2 hlist

theorem prefix_join (h : IsPart name) (dir : String) : dir.toList <+: (join dir name).toList := by
  rcases toList_join h dir with ⟨rfl, -⟩ | ⟨front, hdir, hjoin⟩ | ⟨-, hjoin⟩
  · exact List.nil_prefix
  · rw [hdir, hjoin]
    exact ⟨name.toList, by rw [List.append_assoc]; rfl⟩
  · rw [hjoin]
    exact List.prefix_append _ _

theorem IsPart.not_endsWith {front : List Char} (h : IsPart name)
    (hpath : path.toList = front ++ name.toList) : Text.endsWith path "/" = false := by
  apply eq_false_of_ne_true
  intro hends
  unfold Text.endsWith at hends
  rw [hpath] at hends
  rcases List.isSuffixOf_iff_suffix.mp hends with ⟨before, heq⟩
  -- The last character is one of the name, so it is no slash.
  have hne : name.toList ≠ [] := fun hnil => h.ne_empty (String.toList_eq_nil_iff.mp hnil)
  have hlast : '/' = name.toList.getLast hne := by
    have hlasts : (before ++ ['/']).getLast? = (front ++ name.toList).getLast? :=
      congrArg List.getLast? heq
    rw [List.getLast?_concat, List.getLast?_append, List.getLast?_eq_some_getLast hne,
      Option.some_or] at hlasts
    exact Option.some.inj hlasts
  exact h.slash (hlast ▸ List.getLast_mem hne)

theorem wantsFolder_join (h : IsPart name) (dir : String) : wantsFolder (join dir name) = false := by
  rcases toList_join h dir with ⟨-, hjoin⟩ | ⟨front, -, hjoin⟩ | ⟨-, hjoin⟩
  · exact h.not_endsWith (show _ = [] ++ name.toList from congrArg String.toList hjoin)
  · exact h.not_endsWith (hjoin.trans (List.append_cons front '/' name.toList))
  · exact h.not_endsWith (hjoin.trans (List.append_cons dir.toList '/' name.toList))

/-- A path in plain form, as far as its ends tell. -/
structure IsPlain (path : String) : Prop where
  starts : Text.startsWith path "/" = false
  ends : Text.endsWith path "/" = false

/-- What stands in front of the names of things inside a directory. -/
def front (dir : String) : List Char :=
  if dir = "" then [] else dir.toList ++ ['/']

theorem isPlain_empty : IsPlain "" := ⟨by decide, by decide⟩

namespace IsPlain

theorem toList_join (h : IsPlain dir) (hname : IsPart name) :
    (join dir name).toList = front dir ++ name.toList := by
  unfold front
  rcases Disk.toList_join hname dir with ⟨hempty, hjoin⟩ | ⟨before, hdir, -⟩ | ⟨hne, hjoin⟩
  · rw [hjoin, if_pos hempty, List.nil_append]
  · have hsuffix : ['/'] <:+ dir.toList := hdir ▸ List.suffix_append before ['/']
    exact Bool.noConfusion (h.ends.symm.trans (List.isSuffixOf_iff_suffix.mpr hsuffix))
  · rw [hjoin, if_neg hne, List.append_assoc]
    rfl

theorem join (h : IsPlain dir) (hname : IsPart name) : IsPlain (join dir name) where
  starts := by
    unfold Text.startsWith
    rw [h.toList_join hname]
    unfold front
    by_cases hempty : dir = ""
    · rw [if_pos hempty, List.nil_append]
      exact hname.not_startsWith
    · rw [if_neg hempty]
      -- A path that is not empty has its first character in front of anything else.
      cases hdir : dir.toList with
      | nil => exact absurd (String.toList_eq_nil_iff.mp hdir) hempty
      | cons c cs =>
        have hfirst := h.starts
        unfold Text.startsWith at hfirst
        rw [hdir] at hfirst
        exact hfirst
  ends := hname.not_endsWith (h.toList_join hname)

theorem join_ne (h : IsPlain dir) (hname : IsPart name) : Disk.join dir name ≠ dir := by
  intro heq
  have hlist := h.toList_join hname
  rw [heq] at hlist
  unfold front at hlist
  split at hlist
  next hempty =>
    rw [hempty] at hlist
    exact hname.ne_empty (String.toList_eq_nil_iff.mp hlist.symm)
  next =>
    have hlength := congrArg List.length hlist
    rw [List.length_append, List.length_append, List.length_singleton] at hlength
    omega

theorem parent_join (h : IsPlain dir) (hname : IsPart name) :
    parent (Disk.join dir name) = dir := by
  have hslash : ∀ c ∈ name.toList.reverse, decide (c ≠ '/') = true := by
    intro c hc
    rw [decide_eq_true_iff]
    rintro rfl
    exact hname.slash (List.mem_reverse.mp hc)
  unfold parent
  rw [h.toList_join hname, List.reverse_append, List.dropWhile_append_of_pos hslash]
  unfold front
  by_cases hempty : dir = ""
  · rw [if_pos hempty, hempty]
    rfl
  · rw [if_neg hempty, List.reverse_append]
    show String.ofList dir.toList.reverse.reverse = dir
    rw [List.reverse_reverse, String.ofList_toList]

end IsPlain

/-! ## 2. Ways through open folders -/

/-- The path goes from folder to folder, one name after another. -/
inductive Place (d : Disk) : String → Prop where
  | root : Place d ""
  | inside {path name : String} (h : Place d path) (hfolder : d.lookup path = some .folder)
      (hname : IsPart name) (hup : name ≠ "..") (hlength : ¬ maxName < name.utf8ByteSize)
      (hnul : '\x00' ∉ name.toList) : Place d (join path name)

namespace Place

theorem isPlain (h : Place d path) : IsPlain path := by
  induction h with
  | root => exact isPlain_empty
  | inside h hfolder hname hup hlength hnul ih => exact ih.join hname

theorem nul_not_mem (h : Place d path) : '\x00' ∉ path.toList := by
  induction h with
  | root => decide
  | @inside path name h hfolder hname hup hlength hnul ih =>
    rw [h.isPlain.toList_join hname, List.mem_append, not_or]
    refine ⟨?_, hnul⟩
    unfold front
    split
    · exact List.not_mem_nil
    · rw [List.mem_append, not_or]
      exact ⟨ih, by decide⟩

theorem parent (h : Place d path) : Place d (parent path) := by
  cases h with
  | root => exact root
  | inside h hfolder hname hup hlength hnul =>
    rw [h.isPlain.parent_join hname]
    exact h

theorem walk_eq (h : Place d path) : d.walk "" (namesOf path) = .ok path := by
  induction h with
  | root => rfl
  | @inside path name h hfolder hname hup hlength hnul ih =>
    rw [namesOf_join hname, walk_append, ih]
    show d.walk path [name] = .ok (join path name)
    rw [walk, hfolder]
    dsimp only
    rw [if_neg hlength, if_neg hup]
    rfl

theorem resolve_eq (h : Place d path) : d.resolve path = .ok path := by
  have hnul : ¬ path.toList.contains '\x00' = true :=
    fun hnul => h.nul_not_mem (List.contains_iff_mem.mp hnul)
  unfold resolve
  rw [if_neg hnul, if_neg (ne_true_of_eq_false h.isPlain.starts)]
  exact h.walk_eq

/-- Names lead from one place to another. -/
theorem walk {start : String} {names : List String} (h : Place d start)
    (hnames : ∀ n ∈ names, IsPart n ∧ '\x00' ∉ n.toList) (hwalk : d.walk start names = .ok plain) :
    Place d plain := by
  induction names generalizing start with
  | nil =>
    rw [← Except.ok.inj hwalk]
    exact h
  | cons name rest ih =>
    have hrest : ∀ n ∈ rest, IsPart n ∧ '\x00' ∉ n.toList :=
      fun n hn => hnames n (List.mem_cons_of_mem name hn)
    rcases hnames name List.mem_cons_self with ⟨hname, hnul⟩
    rw [Disk.walk] at hwalk
    split at hwalk
    next => cases hwalk
    next => cases hwalk
    next hfolder =>
      split at hwalk
      next => cases hwalk
      next hlength =>
        by_cases hup : name = ".."
        · rw [if_pos hup] at hwalk
          exact ih h.parent hrest hwalk
        · rw [if_neg hup] at hwalk
          exact ih (h.inside hfolder hname hup hlength hnul) hrest hwalk

end Place

theorem place_of_resolve (h : d.resolve path = .ok plain) : Place d plain := by
  have hnul : '\x00' ∉ path.toList := by
    intro hmem
    unfold resolve at h
    rw [if_pos (List.contains_iff_mem.mpr hmem)] at h
    cases h
  refine Place.root.walk ?_ (resolve_eq_walk h)
  intro n hn
  exact ⟨(mem_namesOf hn).1, fun hmem => hnul ((mem_namesOf hn).2 _ hmem)⟩

/-- On every disk that the way is open on, it has the same end. -/
theorem walk_unique {start plain' : String} {names : List String}
    (h : d.walk start names = .ok plain) (h' : d'.walk start names = .ok plain') :
    plain = plain' := by
  induction names generalizing start with
  | nil => exact Except.ok.inj (h.symm.trans h')
  | cons name rest ih =>
    rw [walk] at h h'
    split at h
    next => cases h
    next => cases h
    next =>
      split at h'
      next => cases h'
      next => cases h'
      next =>
        split at h
        next => cases h
        next hlength =>
          rw [if_neg hlength] at h'
          exact ih h h'

theorem resolve_unique {plain' : String} (h : d.resolve path = .ok plain)
    (h' : d'.resolve path = .ok plain') : plain = plain' :=
  walk_unique (resolve_eq_walk h) (resolve_eq_walk h')

/-- The way to something inside a directory leads through the directory. -/
theorem resolve_join (hname : IsPart name) (hup : name ≠ "..")
    (h : d.resolve (join dir name) = .ok plain) :
    ∃ folder, d.resolve dir = .ok folder ∧ d.lookup folder = some .folder ∧
      plain = join folder name := by
  have hwalk := resolve_eq_walk h
  rw [namesOf_join hname, walk_append] at hwalk
  rcases exists_of_bind_eq_ok hwalk with ⟨folder, hfolder, hlast⟩
  have hopen : d.lookup folder = some .folder := by
    rw [walk] at hlast
    split at hlast
    next => cases hlast
    next => cases hlast
    next hopen => exact hopen
  refine ⟨folder, ?_, hopen, walk_name hup hlast⟩
  -- What would close the way to the directory is in front of the longer path as well.
  unfold resolve at h ⊢
  split at h
  next => cases h
  next hnul =>
    split at h
    next => cases h
    next hroot =>
      have hfront := prefix_join hname dir
      have hnul' : ¬ dir.toList.contains '\x00' = true := fun hmem =>
        hnul (List.contains_iff_mem.mpr (hfront.subset (List.contains_iff_mem.mp hmem)))
      have hroot' : ¬ Text.startsWith dir "/" = true := by
        intro hstart
        have hslash := (List.isPrefixOf_iff_prefix.mp hstart).trans hfront
        exact hroot (List.isPrefixOf_iff_prefix.mpr hslash)
      rw [if_neg hnul', if_neg hroot']
      exact hfolder

end Disk

end Kasten
