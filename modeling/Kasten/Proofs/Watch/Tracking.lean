import Mathlib.Logic.Relation
import Kasten.Box.Feed
import Kasten.Proofs.Catalog.Files
import Kasten.Proofs.Disk.Edit
import Kasten.Proofs.Files.Listing
import Kasten.Proofs.Watch.Ascending
import Kasten.Proofs.Watch.Directory

/-!
# A watched directory

Files of a directory come and go while its watcher scans it, judges what was seen to happen to files
long before, and sends events to a service that handles them later still. In all that time each
file of which nothing remains to be judged is, or will be once all events are handled, in the
catalog just if it is in the directory. So the catalog is right whenever nothing is left to do.
-/

namespace Kasten.Watch

open Disk (join Sighting Happening Notice IsName)
open FileName (isZettelFile)

/-! ## 1. The system -/

/-- What notices tell of each path, if all paths of which they do not tell more are taken for new
ones. -/
def told (notices : List Notice) : List Sighting := notices.flatMap (·.sightings fun _ => true)

/-- Each path of which something is seen is heard of, and maybe others, but nothing is heard to have
vanished that did not, and the directory neither to have come nor to have gone. -/
structure Hears (root : String) (seen : List Sighting) (heard : List Notice) : Prop where
  each : ∀ x ∈ seen, ∃ y ∈ told heard, y.path = x.path
  vanished : ∀ x ∈ told heard, x.happening = .vanished → x ∈ seen
  root : ∀ x ∈ told heard, x.path = root → x.happening = .changed

/-- Under each path there is what one of the disks has there. -/
def Glimpses (disks : List Disk) (found : Disk) : Prop :=
  ∀ path, ∃ d ∈ disks, found.lookup path = d.lookup path

/-- What was heard of and is not judged yet is `raw`, and `sent` are the events that are not handled
yet. While a scan is under way, `scan` has the disks that it may have come upon by now. -/
structure System where
  disk : Disk
  raw : List Notice
  watcher : Watcher
  scan : Option (List Disk)
  sent : List Event
  service : Service

namespace System

/-- A watcher does one thing at a time, so nothing is judged during a scan. -/
inductive Step : System → System → Prop where
  | edit (s : System) (e : Disk.Edit) (heard : List Notice) : e.IsOfFiles s.disk →
      Hears s.watcher.root (e.sightings s.disk) heard →
      Step s { s with
        disk := e.apply s.disk
        raw := s.raw ++ heard
        scan := s.scan.map (· ++ [e.apply s.disk]) }
  | beginScan (s : System) : s.scan = none → Step s { s with scan := some [s.disk] }
  | endScan (s : System) (disks : List Disk) (found : Disk) : s.scan = some disks →
      Glimpses disks found →
      Step s { s with
        scan := none
        watcher := (s.watcher.scan found).1
        sent := s.sent ++ (s.watcher.scan found).2 }
  | judge (s : System) (n : Notice) (rest : List Notice) : s.scan = none → s.raw = n :: rest →
      Step s { s with
        raw := rest
        watcher := (s.watcher.hear s.disk n).1
        sent := s.sent ++ (s.watcher.hear s.disk n).2 }
  | handle (s : System) (event : Event) (rest : List Event) : s.sent = event :: rest →
      Step s { s with
        sent := rest
        service := (s.service.handle event).1 }

/-- The states that come up once a watcher was started on a directory, with a scan under way. -/
inductive Reachable (root : String) (d : Disk) (service : Service) : System → Prop where
  | start : Reachable root d service ⟨d, [], ⟨root, true⟩, some [d], [], service⟩
  | next {s t : System} : Reachable root d service s → Step s t → Reachable root d service t

end System

/-! ## 2. What was last seen of a file -/

/-- The last of the sightings under a path. -/
def lastSeen (xs : List Sighting) (path : String) : Option Sighting :=
  (xs.filter fun x => x.path = path).getLast?

section LastSeen

variable {xs ys : List Sighting} {x : Sighting} {path : String}

theorem lastSeen_append : lastSeen (xs ++ ys) path = (lastSeen ys path).or (lastSeen xs path) := by
  unfold lastSeen
  rw [List.filter_append, List.getLast?_append]

theorem lastSeen_cons_of_ne (h : x.path ≠ path) : lastSeen (x :: xs) path = lastSeen xs path := by
  unfold lastSeen
  rw [List.filter_cons_of_neg (by simpa using h)]

theorem lastSeen_cons (h : x.path = path) :
    lastSeen (x :: xs) path = some ((lastSeen xs path).getD x) := by
  unfold lastSeen
  rw [List.filter_cons_of_pos (by simpa using h), List.getLast?_cons]

theorem mem_of_lastSeen (h : lastSeen xs path = some x) : x ∈ xs ∧ x.path = path := by
  have hmem := List.mem_filter.mp (List.mem_of_getLast? h)
  exact ⟨hmem.1, of_decide_eq_true hmem.2⟩

theorem ne_of_lastSeen (h : lastSeen xs path = none) (hx : x ∈ xs) : x.path ≠ path := by
  intro heq
  rw [lastSeen, List.getLast?_eq_none_iff] at h
  exact List.ne_nil_of_mem (List.mem_filter.mpr ⟨hx, decide_eq_true heq⟩) h

end LastSeen

/-! ## 3. Judging -/

namespace Watcher

variable {w : Watcher} {d : Disk} {x : Sighting} {n : String}

/-- What does not concern a zettel file of the directory is not worth an event. -/
theorem see_of_other (hroot : x.path = w.root → x.happening = .changed)
    (hplain : Disk.IsPlain w.root)
    (hother : ∀ n, isZettelFile n = true → IsName n → x.path ≠ join w.root n) :
    (w.see d x).2 = [] := by
  unfold see
  split
  next heq => rw [hroot heq]
  next =>
    cases hchild : Disk.childName? w.root x.path with
    | none => rfl
    | some name =>
      dsimp only
      unfold seeFile
      split
      next => rfl
      next hzettel =>
        rw [Bool.not_eq_true', Bool.not_eq_false] at hzettel
        have hname := Disk.isName_of_isZettelFile hzettel (Disk.slash_not_mem_childName hchild)
        apply absurd _ (hother name hzettel hname)
        exact (Disk.childName?_eq_some_iff hplain hname.isPart).mp hchild

theorem item?_join (hd : d.WellFormed) {root : String} (hopen : d.IsOpen root root)
    (hname : IsName n) : d.item? (join root n) = d.lookup (join root n) := by
  unfold Disk.item?
  cases hresolve : d.resolve (join root n) with
  | ok plain =>
    rcases Disk.resolve_join hname.isPart hname.ne_up hresolve with ⟨folder, hfolder, -, hplain⟩
    rw [hplain, Except.ok.inj (hfolder.symm.trans hopen.resolve)]
  | error fault =>
    -- An item would be found where its path leads.
    cases hlookup : d.lookup (join root n) with
    | none => rfl
    | some item =>
      rw [(hd.place hlookup).resolve_eq] at hresolve
      cases hresolve

/-- A file that is said to have vanished is taken for deleted, any other for what it is by now. -/
theorem see_of_file (hd : d.WellFormed) (hopen : d.IsOpen w.root w.root)
    (hzettel : isZettelFile n = true) (hname : IsName n) (hx : x.path = join w.root n) :
    (w.see d x).2 =
      if x.happening = .vanished ∨ d.lookup (join w.root n) = none then [.delete n]
      else if d.lookup (join w.root n) = some .folder then [] else [.update n] := by
  have hplain : Disk.IsPlain w.root := (Disk.place_of_resolve hopen.resolve).isPlain
  have hchild : Disk.childName? w.root x.path = some n :=
    (Disk.childName?_eq_some_iff hplain hname.isPart).mpr hx
  have hroot : x.path ≠ w.root := hx ▸ hplain.join_ne hname.isPart
  have hitem := item?_join hd hopen hname
  unfold see
  rw [if_neg hroot, hchild]
  dsimp only
  unfold seeFile
  rw [hzettel, hx, hitem, Bool.not_true, if_neg Bool.false_ne_true]
  by_cases hvanished : x.happening = .vanished
  · rw [if_pos hvanished, if_pos (.inl hvanished)]
  · rw [if_neg hvanished]
    cases hlookup : d.lookup (join w.root n) with
    | none => simp
    | some item =>
      cases item with
      | folder => simp [hvanished]
      | file data => simp [hvanished]

/-- What may be the old path of a renaming is judged as the new one would be. -/
theorem see_renamed {path : String} (hroot : path ≠ w.root) :
    w.see d ⟨path, if d.isThere path then .appeared else .vanished⟩ =
      w.see d ⟨path, .appeared⟩ := by
  unfold Disk.isThere
  cases hitem : d.item? path with
  | some item => rfl
  | none =>
    show w.see d ⟨path, .vanished⟩ = w.see d ⟨path, .appeared⟩
    unfold see
    rw [if_neg hroot, if_neg hroot]
    dsimp only
    cases Disk.childName? w.root path with
    | none => rfl
    | some name =>
      unfold seeFile
      rw [hitem]
      rfl

theorem seeAll_append (w : Watcher) (d : Disk) (xs ys : List Sighting) :
    w.seeAll d (xs ++ ys) = (((w.seeAll d xs).1.seeAll d ys).1,
      (w.seeAll d xs).2 ++ ((w.seeAll d xs).1.seeAll d ys).2) := by
  induction xs generalizing w with
  | nil => rfl
  | cons x rest ih =>
    rw [List.cons_append, seeAll_cons, ih, seeAll_cons]
    dsimp only
    rw [List.append_assoc]

theorem seeAll_renamed {paths : List String} (hroot : ∀ path ∈ paths, path ≠ w.root) :
    w.seeAll d (paths.map fun path => ⟨path, if d.isThere path then .appeared else .vanished⟩) =
      w.seeAll d (paths.map (⟨·, .appeared⟩)) := by
  induction paths generalizing w with
  | nil => rfl
  | cons path rest ih =>
    have hfirst := see_renamed (d := d) (hroot path List.mem_cons_self)
    have hrest : ∀ path' ∈ rest, path' ≠ (w.see d ⟨path, .appeared⟩).1.root := by
      intro path' hpath'
      rw [root_see]
      exact hroot path' (List.mem_cons_of_mem path hpath')
    rw [List.map_cons, List.map_cons, seeAll_cons, seeAll_cons, hfirst, ih hrest]

/-- So it does not matter of what renaming it is told. -/
theorem hear_eq {n : Notice}
    (hroot : ∀ x ∈ n.sightings fun _ => true, x.path = w.root → x.happening = .changed) :
    w.hear d n = w.seeAll d (n.sightings fun _ => true) := by
  rcases n with ⟨kind, paths⟩
  cases kind with
  | renamed =>
    refine seeAll_renamed fun path hpath heq => ?_
    have hchanged := hroot ⟨path, .appeared⟩ (List.mem_map.mpr ⟨path, hpath, rfl⟩) heq
    cases hchanged
  | _ => rfl

end Watcher

/-! ## 4. What is always so -/

/-- The directory has a regular file of this name. -/
def HasFile (root : String) (d : Disk) (n : String) : Prop :=
  ∃ data, d.lookup (join root n) = some (.file data)

/-- The names are those of zettel files, none of them stands for a folder, and they are right for
each file of which nothing remains to be judged. -/
structure Agrees (root : String) (d : Disk) (raw : List Sighting) (names : Finset String) :
    Prop where
  zettel : ∀ n ∈ names, isZettelFile n = true ∧ IsName n
  file : ∀ n ∈ names, d.lookup (join root n) ≠ some .folder
  settled : ∀ n, isZettelFile n = true → IsName n → lastSeen raw (join root n) = none →
    (n ∈ names ↔ HasFile root d n)

/-- The disks had the folders of this one, and differ from it only where something remains to be
judged. -/
structure Spans (disks : List Disk) (raw : List Sighting) (d : Disk) : Prop where
  folder : ∀ d' ∈ disks, ∀ p, d'.lookup p = some .folder ↔ d.lookup p = some .folder
  same : ∀ d' ∈ disks, ∀ p, lastSeen raw p = none → d'.lookup p = d.lookup p

/-- What holds of a system whose service will know the names of `m` once it has handled all that was
sent, while `raw` remains to be judged. -/
structure System.Tracks (root : String) (s : System) (raw : List Sighting) (m : Sights) :
    Prop where
  wellFormed : s.disk.WellFormed
  isOpen : s.disk.IsOpen root root
  watches : s.watcher.root = root
  stays : ∀ x ∈ raw, x.path = root → x.happening = .changed
  renewed : ∀ n x, HasFile root s.disk n → lastSeen raw (join root n) = some x →
    x.happening ≠ .vanished
  spans : ∀ disks, s.scan = some disks → Spans disks raw s.disk
  shadow : m.shadow = none
  live : s.scan = none → ∃ names, m.live = some names ∧ Agrees root s.disk raw names

/-! ### Edits -/

variable {root : String} {d d' : Disk} {raw seen : List Sighting} {heard : List Notice}
  {names : Finset String}

section Edits

variable (hdiffers : Disk.Differs d d' seen) (hheard : Hears root seen heard)

include hdiffers hheard

/-- What nothing was heard of is as it was. -/
theorem Hears.lookup_eq {p : String} (hp : lastSeen (told heard) p = none) : d'.lookup p = d.lookup p := by
  by_contra hne
  rcases (hdiffers.file p hne).2.2 with ⟨x, hx, hpath⟩
  rcases hheard.each x hx with ⟨y, hy, hsame⟩
  exact ne_of_lastSeen hp hy (hsame.trans hpath)

/-- A file that is there was not said to have vanished after all else. -/
theorem Hears.renewed {n : String} {x : Sighting} (hfile : HasFile root d' n)
    (hold : ∀ x, HasFile root d n → lastSeen raw (join root n) = some x → x.happening ≠ .vanished)
    (hx : lastSeen (raw ++ told heard) (join root n) = some x) : x.happening ≠ .vanished := by
  rw [lastSeen_append] at hx
  cases hlast : lastSeen (told heard) (join root n) with
  | none =>
    rw [hlast, Option.none_or] at hx
    rcases hfile with ⟨data, hdata⟩
    exact hold x ⟨data, (hheard.lookup_eq hdiffers hlast).symm.trans hdata⟩ hx
  | some y =>
    rw [hlast] at hx
    cases hx
    intro hvanished
    rcases mem_of_lastSeen hlast with ⟨hmem, hpath⟩
    rcases hfile with ⟨data, hdata⟩
    have hgone := hdiffers.vanished x (hheard.vanished x hmem hvanished) hvanished
    rw [hpath, hdata] at hgone
    cases hgone

theorem Hears.agrees (h : Agrees root d raw names) : Agrees root d' (raw ++ told heard) names where
  zettel := h.zettel
  file n hn hfolder := h.file n hn (hdiffers.folder_iff.mp hfolder)
  settled n hzettel hname hlast := by
    rw [lastSeen_append, Option.or_eq_none_iff] at hlast
    rw [h.settled n hzettel hname hlast.2]
    unfold HasFile
    rw [hheard.lookup_eq hdiffers hlast.1]

theorem Hears.spans {disks : List Disk} (h : Spans disks raw d) :
    Spans (disks ++ [d']) (raw ++ told heard) d' where
  folder before hbefore p := by
    rcases List.mem_append.mp hbefore with hbefore | hbefore
    · exact (h.folder before hbefore p).trans hdiffers.folder_iff.symm
    · rw [List.mem_singleton.mp hbefore]
  same before hbefore p hlast := by
    rw [lastSeen_append, Option.or_eq_none_iff] at hlast
    rcases List.mem_append.mp hbefore with hbefore | hbefore
    · rw [h.same before hbefore p hlast.2, hheard.lookup_eq hdiffers hlast.1]
    · rw [List.mem_singleton.mp hbefore]

end Edits

/-! ### Scans -/

variable {w : Watcher}

theorem Spans.single (d : Disk) (raw : List Sighting) : Spans [d] raw d where
  folder d' hd' p := by
    rw [List.mem_singleton.mp hd']
  same d' hd' p _ := by
    rw [List.mem_singleton.mp hd']

/-- What a scan finds is right for each file of which nothing remains to be judged. -/
theorem Spans.exists_scan {disks : List Disk} {found : Disk} (h : Spans disks raw d)
    (hfound : Glimpses disks found) (hopen : d.IsOpen root root) (hroot : w.root = root) :
    ∃ names, (w.scan found).2 = Event.scan names ∧ "" ∉ names ∧
      Agrees root d raw names.toFinset := by
  have hfolder : ∀ p, found.lookup p = some .folder ↔ d.lookup p = some .folder := by
    intro p
    rcases hfound p with ⟨before, hbefore, hlookup⟩
    rw [hlookup]
    exact h.folder before hbefore p
  have hopen' : found.IsOpen root root :=
    ⟨Disk.resolve_of_folders (fun p => (hfolder p).mpr) hopen.resolve,
      (hfolder root).mpr hopen.lookup⟩
  rcases hopen'.exists_listing with ⟨names, hlist, hnames⟩
  refine ⟨names, Watcher.scan_snd (hroot ▸ hlist), ?_, ?_, ?_, ?_⟩
  · intro hempty
    exact ((hnames "").mp hempty).2.1.ne_empty rfl
  · intro n hn
    have hn := (hnames n).mp (List.mem_toFinset.mp hn)
    exact ⟨hn.1, hn.2.1⟩
  · intro n hn hnow
    rcases ((hnames n).mp (List.mem_toFinset.mp hn)).2.2 with ⟨data, hdata⟩
    rw [(hfolder _).mpr hnow] at hdata
    cases hdata
  · intro n hzettel hname hlast
    rcases hfound (join root n) with ⟨before, hbefore, hlookup⟩
    rw [List.mem_toFinset, hnames, hlookup, h.same before hbefore _ hlast]
    unfold HasFile
    simp [hzettel, hname]

/-! ### Judging -/

section Judging

variable {x : Sighting} {rest : List Sighting} {n : String}

theorem Agrees.judge_other (h : Agrees root d (x :: rest) names)
    (hother : ∀ n, isZettelFile n = true → IsName n → x.path ≠ join root n) :
    Agrees root d rest names where
  zettel := h.zettel
  file := h.file
  settled n hzettel hname hlast :=
    h.settled n hzettel hname ((lastSeen_cons_of_ne (hother n hzettel hname)).trans hlast)

/-- The names are set right for the file that is judged, and are as right as before for others. -/
theorem Agrees.judge_file {names' : Finset String} (h : Agrees root d (x :: rest) names)
    (hzettel : isZettelFile n = true) (hname : IsName n)
    (hx : x.path = join root n) (hothers : ∀ n', n' ≠ n → (n' ∈ names' ↔ n' ∈ names))
    (hin : n ∈ names' → d.lookup (join root n) ≠ some .folder)
    (hright : lastSeen rest (join root n) = none → (n ∈ names' ↔ HasFile root d n)) :
    Agrees root d rest names' where
  zettel n' hn' := by
    by_cases hsame : n' = n
    · exact hsame ▸ ⟨hzettel, hname⟩
    · exact h.zettel n' ((hothers n' hsame).mp hn')
  file n' hn' := by
    by_cases hsame : n' = n
    · rw [hsame] at hn' ⊢
      exact hin hn'
    · exact h.file n' ((hothers n' hsame).mp hn')
  settled n' hzettel' hname' hlast := by
    by_cases hsame : n' = n
    · rw [hsame] at hlast ⊢
      exact hright hlast
    · have hne : x.path ≠ join root n' := by
        intro heq
        exact hsame (Disk.join_injective hname'.isPart hname.isPart (heq.symm.trans hx))
      rw [hothers n' hsame]
      exact h.settled n' hzettel' hname' ((lastSeen_cons_of_ne hne).trans hlast)

/-- Judging brings the names one sighting further. -/
theorem Agrees.judge {m : Sights} (h : Agrees root d (x :: rest) names) (hd : d.WellFormed)
    (hopen : d.IsOpen root root) (hroot : w.root = root)
    (hstays : x.path = root → x.happening = .changed)
    (hrenewed : ∀ n y, HasFile root d n → lastSeen (x :: rest) (join root n) = some y →
      y.happening ≠ .vanished)
    (hshadow : m.shadow = none) (hlive : m.live = some names) :
    ∃ names', (m.seeAll (w.see d x).2).shadow = none ∧
      (m.seeAll (w.see d x).2).live = some names' ∧ Agrees root d rest names' := by
  subst hroot
  have hplain : Disk.IsPlain w.root := (Disk.place_of_resolve hopen.resolve).isPlain
  have hm : m = ⟨none, some names⟩ := by
    rw [← hshadow, ← hlive]
  by_cases hfile : ∃ n, isZettelFile n = true ∧ IsName n ∧ x.path = join w.root n
  · rcases hfile with ⟨n, hzettel, hname, hx⟩
    rw [Watcher.see_of_file hd hopen hzettel hname hx]
    split
    next hgone =>
      -- Had the file come back since, then this would not be the last that was seen of it.
      have hnot : lastSeen rest (join w.root n) = none → ¬ HasFile w.root d n := by
        rintro hlast ⟨data, hdata⟩
        have hseen : lastSeen (x :: rest) (join w.root n) = some x := by
          rw [lastSeen_cons hx, hlast]
          rfl
        rcases hgone with hvanished | hnone
        · exact hrenewed n x ⟨data, hdata⟩ hseen hvanished
        · rw [hdata] at hnone
          cases hnone
      refine ⟨names.erase n, by rw [hm]; rfl, by rw [hm]; rfl, ?_⟩
      refine h.judge_file hzettel hname hx (fun n' hne => ?_) (fun hin => ?_) (fun hlast => ?_)
      · simp [hne]
      · simp at hin
      · simp [hnot hlast]
    next hthere =>
      rw [not_or] at hthere
      split
      next hfolder =>
        have hout : n ∉ names := fun hin => h.file n hin hfolder
        refine ⟨names, hshadow, hlive, ?_⟩
        refine h.judge_file hzettel hname hx (fun n' hne => Iff.rfl) (h.file n) (fun hlast => ?_)
        unfold HasFile
        simp [hout, hfolder]
      next hnot =>
        have hfile : HasFile w.root d n := by
          rcases Option.ne_none_iff_exists'.mp hthere.2 with ⟨item, hitem⟩
          cases item with
          | folder => exact absurd hitem hnot
          | file data => exact ⟨data, hitem⟩
        refine ⟨insert n names, by rw [hm]; rfl, by rw [hm]; rfl, ?_⟩
        refine h.judge_file hzettel hname hx (fun n' hne => ?_) (fun _ => hnot) (fun hlast => ?_)
        · simp [hne]
        · simp [hfile]
  · rw [Watcher.see_of_other hstays hplain
      fun n hzettel hname hx => hfile ⟨n, hzettel, hname, hx⟩]
    exact ⟨names, hshadow, hlive, h.judge_other
      fun n hzettel hname hx => hfile ⟨n, hzettel, hname, hx⟩⟩

end Judging

/-! ## 5. Every step keeps it -/

namespace System

variable {s t : System} {m : Sights}

theorem Tracks.edit {e : Disk.Edit} (h : s.Tracks root raw m) (he : e.IsOfFiles s.disk)
    (hheard : Hears s.watcher.root (e.sightings s.disk) heard) :
    Tracks root { s with
      disk := e.apply s.disk
      raw := s.raw ++ heard
      scan := s.scan.map (· ++ [e.apply s.disk]) } (raw ++ told heard) m := by
  have hdiffers := he.differs h.wellFormed
  rw [h.watches] at hheard
  refine ⟨hdiffers.wellFormed h.wellFormed, hdiffers.isOpen h.isOpen, h.watches, ?_, ?_, ?_,
    h.shadow, ?_⟩
  · intro x hx
    rcases List.mem_append.mp hx with hx | hx
    · exact h.stays x hx
    · exact hheard.root x hx
  · intro n x hfile
    exact hheard.renewed hdiffers hfile fun x => h.renewed n x
  · intro disks hdisks
    rcases Option.map_eq_some_iff.mp hdisks with ⟨before, hbefore, rfl⟩
    exact hheard.spans hdiffers (h.spans before hbefore)
  · intro hscan
    rcases h.live (Option.map_eq_none_iff.mp hscan) with ⟨names, hlive, hagrees⟩
    exact ⟨names, hlive, hheard.agrees hdiffers hagrees⟩

theorem Tracks.beginScan (h : s.Tracks root raw m) :
    Tracks root { s with scan := some [s.disk] } raw m := by
  refine ⟨h.wellFormed, h.isOpen, h.watches, h.stays, h.renewed, ?_, h.shadow, nofun⟩
  intro disks hdisks
  cases hdisks
  exact .single s.disk raw

/-- What was known before the scan does not matter after it. -/
theorem Tracks.endScan {disks : List Disk} {found : Disk} (h : s.Tracks root raw m)
    (hscan : s.scan = some disks) (hfound : Glimpses disks found) :
    Tracks root { s with
      scan := none
      watcher := (s.watcher.scan found).1
      sent := s.sent ++ (s.watcher.scan found).2 } raw (m.seeAll (s.watcher.scan found).2) := by
  rcases (h.spans disks hscan).exists_scan hfound h.isOpen h.watches with
    ⟨names, hnames, hempty, hagrees⟩
  have hwatches := (s.watcher.root_scan found).trans h.watches
  have hsees : m.seeAll (s.watcher.scan found).2 = ⟨none, some names.toFinset⟩ := by
    rw [hnames, m.seeAll_scan hempty]
  rw [hsees]
  exact ⟨h.wellFormed, h.isOpen, hwatches, h.stays, h.renewed, nofun, rfl,
    fun _ => ⟨_, rfl, hagrees⟩⟩

theorem Tracks.see {x : Sighting} {rest : List Sighting} (h : s.Tracks root (x :: rest) m)
    (hscan : s.scan = none) :
    Tracks root { s with
      watcher := (s.watcher.see s.disk x).1
      sent := s.sent ++ (s.watcher.see s.disk x).2 } rest
      (m.seeAll (s.watcher.see s.disk x).2) := by
  rcases h.live hscan with ⟨names, hlive, hagrees⟩
  rcases hagrees.judge h.wellFormed h.isOpen h.watches (h.stays x List.mem_cons_self) h.renewed
    h.shadow hlive with ⟨names', hshadow', hlive', hagrees'⟩
  have hwatches := (s.watcher.root_see s.disk x).trans h.watches
  refine ⟨h.wellFormed, h.isOpen, hwatches, ?_, ?_, ?_, hshadow', fun _ => ⟨_, hlive', hagrees'⟩⟩
  · exact fun y hy => h.stays y (List.mem_cons_of_mem x hy)
  · -- What is last seen of a file is last seen of it in the rest, if that has something of it.
    intro n y hfile hy
    apply h.renewed n y hfile
    by_cases hx : x.path = join root n
    · rw [lastSeen_cons hx]
      exact congrArg (fun last => some (Option.getD last x)) hy
    · exact (lastSeen_cons_of_ne hx).trans hy
  · intro disks hdisks
    rw [hscan] at hdisks
    cases hdisks

theorem Tracks.seeAll {xs rest : List Sighting} (h : s.Tracks root (xs ++ rest) m)
    (hscan : s.scan = none) :
    Tracks root { s with
      watcher := (s.watcher.seeAll s.disk xs).1
      sent := s.sent ++ (s.watcher.seeAll s.disk xs).2 } rest
      (m.seeAll (s.watcher.seeAll s.disk xs).2) := by
  induction xs generalizing s m with
  | nil =>
    exact ⟨h.wellFormed, h.isOpen, h.watches, h.stays, h.renewed, h.spans, h.shadow, h.live⟩
  | cons x xs ih =>
    have hrest := ih (h.see hscan) hscan
    rw [Watcher.seeAll_cons]
    dsimp only
    rw [m.seeAll_append, ← List.append_assoc]
    exact hrest

theorem Tracks.judge {n : Notice} {rest : List Notice} (h : s.Tracks root (told (n :: rest)) m)
    (hscan : s.scan = none) :
    Tracks root { s with
      raw := rest
      watcher := (s.watcher.hear s.disk n).1
      sent := s.sent ++ (s.watcher.hear s.disk n).2 } (told rest)
      (m.seeAll (s.watcher.hear s.disk n).2) := by
  have htold : told (n :: rest) = (n.sightings fun _ => true) ++ told rest := List.flatMap_cons
  rw [htold] at h
  have hhear : s.watcher.hear s.disk n = _ := Watcher.hear_eq fun x hx hroot =>
    h.stays x (List.mem_append_left _ hx) (hroot.trans h.watches)
  rw [hhear]
  have hseen := h.seeAll hscan
  exact ⟨hseen.wellFormed, hseen.isOpen, hseen.watches, hseen.stays, hseen.renewed, hseen.spans,
    hseen.shadow, hseen.live⟩

/-- All that was sent will bring the service to track the directory. -/
def IsSound (root : String) (s : System) : Prop :=
  ∃ m : Sights, s.service.Follows m ∧ s.Tracks root (told s.raw) (m.seeAll s.sent)

theorem IsSound.step (h : s.IsSound root) (hstep : Step s t) : t.IsSound root := by
  rcases h with ⟨m, hservice, htracks⟩
  cases hstep with
  | edit e heard he hheard =>
    refine ⟨m, hservice, ?_⟩
    have htold : told (s.raw ++ heard) = told s.raw ++ told heard := List.flatMap_append
    rw [htold]
    exact htracks.edit he hheard
  | beginScan hscan => exact ⟨m, hservice, htracks.beginScan⟩
  | endScan disks found hscan hfound =>
    refine ⟨m, hservice, ?_⟩
    rw [m.seeAll_append]
    exact htracks.endScan hscan hfound
  | judge n rest hscan hraw =>
    refine ⟨m, hservice, ?_⟩
    rw [hraw] at htracks
    rw [m.seeAll_append]
    exact htracks.judge hscan
  | handle event rest hsent =>
    rw [hsent] at htracks
    refine ⟨m.see event, hservice.handle event, ?_⟩
    exact ⟨htracks.wellFormed, htracks.isOpen, htracks.watches, htracks.stays, htracks.renewed,
      htracks.spans, htracks.shadow, htracks.live⟩

theorem Reachable.isSound {service : Service} {origin : String} (hd : d.WellFormed)
    (hopen : d.IsOpen root root) (hservice : (Service.new origin).start = .ok service)
    (h : Reachable root d service s) : s.IsSound root := by
  induction h with
  | start =>
    -- The first scan is under way, so nothing has to be known yet.
    cases hservice
    refine ⟨.nothing, ⟨nofun, .none, .none⟩, hd, hopen, rfl, nofun, nofun, ?_, rfl, nofun⟩
    intro disks hdisks
    cases hdisks
    exact .single d []
  | next _ hstep ih => exact ih.step hstep

/-! ## 6. Many steps in one go -/

/-- All that was heard is judged in one go. -/
theorem steps_of_raw (disk : Disk) (raw : List Notice) (w : Watcher) (sent : List Event)
    (service : Service) :
    let seen := raw.flatMap (·.sightings disk.isThere)
    Relation.ReflTransGen Step ⟨disk, raw, w, none, sent, service⟩
      ⟨disk, [], (w.seeAll disk seen).1, none, sent ++ (w.seeAll disk seen).2, service⟩ := by
  induction raw generalizing w sent with
  | nil =>
    show Relation.ReflTransGen Step _ ⟨disk, [], w, none, sent ++ [], service⟩
    rw [List.append_nil]
  | cons n rest ih =>
    have hrest := ih (w.hear disk n).1 (sent ++ (w.hear disk n).2)
    dsimp only at hrest ⊢
    rw [List.append_assoc] at hrest
    rw [List.flatMap_cons, Watcher.seeAll_append]
    exact .head (Step.judge ⟨disk, n :: rest, w, none, sent, service⟩ n rest rfl rfl) hrest

/-- All that was sent is handled in one go. -/
theorem steps_of_sent (disk : Disk) (raw : List Notice) (w : Watcher)
    (scan : Option (List Disk)) (sent : List Event) (service : Service) :
    Relation.ReflTransGen Step ⟨disk, raw, w, scan, sent, service⟩
      ⟨disk, raw, w, scan, [], (service.handleAll sent).1⟩ := by
  rw [Service.handleAll_fst]
  induction sent generalizing service with
  | nil => exact .refl
  | cons event rest ih =>
    exact .head (Step.handle ⟨disk, raw, w, scan, event :: rest, service⟩ event rest rfl) (ih _)

theorem Reachable.steps {service : Service} (h : Reachable root d service s)
    (hsteps : Relation.ReflTransGen Step s t) : Reachable root d service t := by
  induction hsteps with
  | refl => exact h
  | tail _ hstep ih => exact ih.next hstep

/-- A feed that hears of an edit at once takes some of these steps. -/
theorem Reachable.feed {service : Service} {origin : String} {e : Disk.Edit} (hd : d.WellFormed)
    (hopen : d.IsOpen root root) (hservice : (Service.new origin).start = .ok service)
    (h : Reachable root d service s) (hscan : s.scan = none) (hraw : s.raw = [])
    (hsent : s.sent = []) (hlistens : s.service.isListening = true) (he : e.IsOfFiles s.disk) :
    ∃ w service',
      (Box.Feed.see ⟨s.service, some (.watching s.watcher)⟩ (e.apply s.disk)
        (e.sightings s.disk)).1 = ⟨service', some (.watching w)⟩ ∧
      Reachable root d service ⟨e.apply s.disk, [], w, none, [], service'⟩ := by
  rcases h.isSound hd hopen hservice with ⟨m, -, htracks⟩
  have hdiffers := he.differs htracks.wellFormed
  have hheard : Hears s.watcher.root (e.sightings s.disk) (e.notices s.disk) := by
    have htold : told (e.notices s.disk) = e.sightings s.disk := e.flatMap_notices s.disk _
    refine ⟨fun x hx => ⟨x, htold ▸ hx, rfl⟩, fun x hx _ => htold ▸ hx, fun x hx hpath => ?_⟩
    rw [htold] at hx
    rw [htracks.watches] at hpath
    exact absurd (hpath ▸ htracks.isOpen.lookup) (hdiffers.place x hx).lookup
  have hedited := h.next (Step.edit s e _ he hheard)
  rw [hscan, hraw, hsent, List.nil_append] at hedited
  have hjudged := hedited.steps (steps_of_raw _ _ _ _ _)
  refine ⟨_, _, ?_, hjudged.steps (steps_of_sent _ _ _ _ _ _)⟩
  have hsend : ∀ events, s.service.send events = s.service.handleAll events :=
    fun _ => if_pos hlistens
  unfold Box.Feed.see Notifier.see Box.Feed.hear
  dsimp only
  rw [hsend]
  rfl

/-- While the directory stays, whatever files come, go and change in it and whenever that is scanned,
judged and handled: once nothing is left to do, the files in the catalog are those that the
directory lists. -/
theorem catalog_tracks_directory {service : Service} (origin : String) (hd : d.WellFormed)
    (hopen : d.IsOpen root root) (hservice : (Service.new origin).start = .ok service)
    (h : Reachable root d service s) (hscan : s.scan = none) (hraw : s.raw = [])
    (hsent : s.sent = []) :
    ∃ cat names, s.service.catalog = some cat ∧ s.disk.listZettel root = .ok names ∧
      cat.files.Perm names := by
  rcases h.isSound hd hopen hservice with ⟨m, hfollows, htracks⟩
  rw [hsent] at htracks
  rcases htracks.live hscan with ⟨known, hlive, hagrees⟩
  rcases htracks.isOpen.exists_listing with ⟨names, hlist, hnames⟩
  have hcatalog : Option.Rel Catalog.Mirrors s.service.catalog (some known) := hlive ▸ hfollows.live
  cases hcat : s.service.catalog with
  | none =>
    rw [hcat] at hcatalog
    cases hcatalog
  | some cat =>
    rw [hcat] at hcatalog
    cases hcatalog with
    | some hmirrors =>
      refine ⟨cat, names, rfl, hlist, ?_⟩
      have hnodup : names.Nodup := (Disk.pairwise_listZettel hlist).imp ne_of_lt
      apply (List.perm_ext_iff_of_nodup hmirrors.nodup_files hnodup).mpr
      intro n
      -- Nothing remains to be judged, so what is known is right for every file.
      have hsettled := hagrees.settled n
      rw [hraw] at hsettled
      rw [hmirrors.mem_files, hnames]
      constructor
      · rintro ⟨hn, -⟩
        rcases hagrees.zettel n hn with ⟨hzettel, hname⟩
        exact ⟨hzettel, hname, (hsettled hzettel hname rfl).mp hn⟩
      · rintro ⟨hzettel, hname, hfile⟩
        exact ⟨(hsettled hzettel hname rfl).mpr hfile, (Bool.and_eq_true_iff.mp hzettel).1⟩

/-- Such as when the only file is removed, made anew and renamed during the first scan. Of the
renaming it is not told which of the names is the new one. -/
theorem catalog_tracks_directory_of_file_made_anew :
    let path := "box/20200310195100.md"
    let d : Disk := ⟨((∅ : Std.ExtTreeMap String DiskItem).insert "box" .folder).insert
      path (.file [])⟩
    ∃ service s, d.WellFormed ∧ d.IsOpen "box" "box" ∧
      (Service.new "box").start = .ok service ∧ Reachable "box" d service s ∧
      s.scan = none ∧ s.raw = [] ∧ s.sent = [] ∧
      ∃ cat, s.service.catalog = some cat ∧ cat.files = ["20200310195101.md"] := by
  intro path d
  let new := "box/20200310195101.md"
  let gone := (Disk.Edit.clear path).apply d
  let anew := (Disk.Edit.write path [65]).apply gone
  let renamed := (Disk.Edit.move path new).apply anew
  have hd : d.WellFormed := by
    have hkeys : ∀ p ∈ d.items.keys, d.resolve p = .ok p := by decide +kernel
    exact fun p hp => hkeys p (Std.ExtTreeMap.mem_keys.mpr hp)
  have hopen : d.IsOpen "box" "box" := ⟨by decide +kernel, by decide +kernel⟩
  have hcleared : Hears "box" ((Disk.Edit.clear path).sightings d) [⟨.removed, [path]⟩] := by
    have hseen : (Disk.Edit.clear path).sightings d = [⟨path, .vanished⟩] := by decide +kernel
    have htold : told [⟨.removed, [path]⟩] = [⟨path, .vanished⟩] := rfl
    rw [hseen]
    refine ⟨?_, ?_, ?_⟩ <;> rw [htold]
    · exact fun x hx => ⟨x, hx, rfl⟩
    · exact fun x hx _ => hx
    · decide +kernel
  have hwritten : Hears "box" ((Disk.Edit.write path [65]).sightings gone)
      [⟨.created, [path]⟩, ⟨.modified, [path]⟩] := by
    have hseen : (Disk.Edit.write path [65]).sightings gone = [⟨path, .appeared⟩] := by
      decide +kernel
    have htold : told [⟨.created, [path]⟩, ⟨.modified, [path]⟩] =
        [⟨path, .appeared⟩, ⟨path, .changed⟩] := rfl
    rw [hseen]
    refine ⟨?_, ?_, ?_⟩ <;> rw [htold]
    · simp
    · simp
    · decide +kernel
  have hmoved : Hears "box" ((Disk.Edit.move path new).sightings anew)
      [⟨.renamed, [path, new]⟩] := by
    have hseen : (Disk.Edit.move path new).sightings anew =
        [⟨path, .vanished⟩, ⟨new, .appeared⟩] := by
      decide +kernel
    have htold : told [⟨.renamed, [path, new]⟩] = [⟨path, .appeared⟩, ⟨new, .appeared⟩] := rfl
    rw [hseen]
    refine ⟨?_, ?_, ?_⟩ <;> rw [htold]
    · simp
    · simp
    · decide +kernel
  let service : Service :=
    { Service.new "box" with phase := .starting, isListening := true, hasNotifier := true }
  have hstart : (Service.new "box").start = .ok service := rfl
  have hstarted : Reachable "box" d service ⟨d, [], ⟨"box", true⟩, some [d], [], service⟩ := .start
  have hedited := ((hstarted.next
    (.edit _ (.clear path) _ ⟨by decide +kernel, by decide +kernel⟩ hcleared)).next
    (.edit _ (.write path [65]) _ ⟨by decide +kernel, by decide +kernel⟩ hwritten)).next
    (.edit _ (.move path new) _ ⟨⟨by decide +kernel, by decide +kernel⟩,
      ⟨by decide +kernel, by decide +kernel⟩⟩ hmoved)
  -- The scan has come upon the file before that was removed.
  have hscanned := hedited.next
    (.endScan _ [d, gone, anew, renamed] d rfl fun p => ⟨d, List.mem_cons_self, rfl⟩)
  have hhandled := (hscanned.steps (steps_of_raw _ _ _ _ _)).steps (steps_of_sent _ _ _ _ _ _)
  refine ⟨service, _, hd, hopen, hstart, hhandled, rfl, rfl, rfl, ?_⟩
  rcases catalog_tracks_directory "box" hd hopen hstart hhandled rfl rfl rfl with
    ⟨cat, names, hcat, hlist, hperm⟩
  have hnames : names = ["20200310195101.md"] := by
    have hrenamed : renamed.listZettel "box" = .ok ["20200310195101.md"] := by decide +kernel
    exact Except.ok.inj (hlist.symm.trans hrenamed)
  rw [hnames] at hperm
  exact ⟨cat, hcat, List.perm_singleton.mp hperm⟩

end System

end Kasten.Watch
