import Kasten.Proofs.Catalog.Rescan
import Kasten.Watch.Poller
import Mathlib.Data.List.Destutter

/-!
# What polls make of a catalog

A poller tells of each listing by itself, but for one flag: that the directory is missing is told
once. A service that takes in all the events has after each poll the catalog of the last listing
that succeeded, or none if the directory was found missing since.
-/

namespace Kasten

/-! ## 1. Frames -/

/-- Every file that is listed is listed within a scan: between a `make` and the end of scan that
closes it there are only files that are listed. -/
def Event.IsFramed (events : List Event) : Prop :=
  ∀ before name after, events = before ++ .list name :: after → name ≠ "" →
    ∃ earlier listed more later,
      before = earlier ++ .make :: List.map .list listed ∧ "" ∉ listed ∧
        after = List.map .list more ++ endOfScan :: later ∧ "" ∉ more

namespace Event

variable {events more : List Event} {names : List String}

theorem isFramed_of_no_list (h : ∀ name, .list name ∉ events) : IsFramed events := by
  intro before name after hsplit
  apply absurd _ (h name)
  rw [hsplit]
  exact List.mem_append_right before List.mem_cons_self

theorem IsFramed.append (h : IsFramed events) (hmore : IsFramed more) :
    IsFramed (events ++ more) := by
  intro before name after hsplit hname
  rcases List.append_eq_append_iff.mp hsplit with
    ⟨start, hbefore, hmiddle⟩ | ⟨rest, hfirst, hmiddle⟩
  · -- The file is listed in the second part.
    rcases hmore start name after hmiddle hname with
      ⟨earlier, listed, others, later, hstart, hlisted, hafter, hothers⟩
    refine ⟨events ++ earlier, listed, others, later, ?_, hlisted, hafter, hothers⟩
    rw [hbefore, hstart, List.append_assoc]
  · cases rest with
    | nil =>
      -- The first part ends just before the file.
      rw [List.nil_append] at hmiddle
      rcases hmore [] name after hmiddle.symm hname with ⟨earlier, _, _, _, hstart, _⟩
      exact absurd hstart.symm (List.append_ne_nil_of_right_ne_nil _ (List.cons_ne_nil _ _))
    | cons head rest =>
      rw [List.cons_append, List.cons.injEq] at hmiddle
      rw [← hmiddle.1] at hfirst
      rcases h before name rest hfirst hname with
        ⟨earlier, listed, others, later, hbefore, hlisted, hrest, hothers⟩
      refine ⟨earlier, listed, others, later ++ more, hbefore, hlisted, ?_, hothers⟩
      rw [hmiddle.2, hrest, List.append_assoc, List.cons_append]

theorem isFramed_scan (h : "" ∉ names) : IsFramed (scan names) := by
  intro before name after hsplit hname
  unfold scan at hsplit
  cases before with
  | nil => cases hsplit
  | cons head before =>
    rw [List.cons_append, List.cons_append, List.cons.injEq] at hsplit
    -- What is listed first is the names up to the file, and then the rest of them and the end.
    rcases List.append_eq_append_iff.mp hsplit.2 with ⟨start, hbefore, hend⟩ | ⟨rest, hlist, hend⟩
    · exfalso
      rcases List.singleton_eq_append_iff.mp hend with ⟨-, hlast⟩ | ⟨-, hlast⟩
      · exact hname (list.inj (List.cons.inj hlast).1)
      · cases hlast
    · cases rest with
      | nil =>
        exfalso
        exact hname (list.inj (List.cons.inj hend).1)
      | cons middle rest =>
        rw [List.cons_append, List.cons.injEq] at hend
        rcases List.map_eq_append_iff.mp hlist with ⟨listed, others, hnames, hlisted, hothers⟩
        rcases List.map_eq_cons_iff.mp hothers with ⟨this, others, hothers', -, hrest⟩
        rw [hnames, hothers', List.mem_append, List.mem_cons, not_or, not_or] at h
        refine ⟨[], listed, others, [], ?_, h.1, ?_, h.2.2⟩
        · rw [← hsplit.1, hlisted]
          rfl
        · rw [hend.2, hrest]

end Event

namespace Service

variable {s : Service}

theorem handle_running (h : s.phase ≠ .stopping) (event : Event) :
    (s.handle event).1.phase ≠ .stopping := by
  unfold handle
  rw [if_neg h]
  cases event with
  | list name =>
    dsimp only
    split
    · exact finishScan_phase h
    · exact h
  | ready => exact finishScan_phase h
  | delete name =>
    dsimp only
    rw [deleteFile_fst]
    exact h
  | destroy => exact nofun
  | make => exact h
  | update name => exact h
  | error _ => exact h

theorem handleAll_running (h : s.phase ≠ .stopping) (events : List Event) :
    (s.handleAll events).1.phase ≠ .stopping := by
  rw [handleAll_fst]
  induction events generalizing s with
  | nil => exact h
  | cons event rest ih => exact ih (handle_running h event)

theorem handleAll_append (s : Service) (events more : List Event) :
    (s.handleAll (events ++ more)).1 = ((s.handleAll events).1.handleAll more).1 := by
  simp only [handleAll_fst, List.foldl_append]

end Service

namespace Watch

/-! ## 2. What listings tell -/

/-- Whether a listing found the directory; a failure for another reason does not tell. -/
def presence : Listing → Option Bool
  | .ok _ => some true
  | .error error => if error.isMissingFile then some false else none

/-- The names listed last, unless the directory was found missing since. -/
def lastListed (listings : List Listing) : Option (List String) :=
  match (listings.filter fun l => (presence l).isSome).getLast? with
  | some (.ok names) => some names
  | _ => none

/-- The number of maximal stretches of listings in which the directory was missing. Listings that
do not tell are passed over, so they neither end a stretch nor make one. -/
def outages (listings : List Listing) : Nat :=
  ((listings.filterMap presence).destutter (· ≠ ·)).count false

/-- What is found first after the last stretch begins a stretch of its own or goes on with it. -/
theorem count_false_destutter'_cons (last found : Bool) (rest : List Bool) :
    ((found :: rest).destutter' (· ≠ ·) last).count false =
      (!last && found).toNat + (rest.destutter' (· ≠ ·) found).count false := by
  by_cases h : last = found
  · rw [List.destutter'_cons_neg _ (not_not_intro h), h, Bool.not_and_self, Bool.toNat_false,
      Nat.zero_add]
  · rw [List.destutter'_cons_pos _ h, List.count_cons]
    cases last <;> cases found <;> simp_all [Nat.add_comm]

/-- A stretch before which the directory was there is one from the start. -/
theorem outages_eq (listings : List Listing) :
    outages listings =
      ((listings.filterMap presence).destutter' (· ≠ ·) true).count false := by
  unfold outages
  cases listings.filterMap presence with
  | nil => rfl
  | cons found rest =>
    rw [List.destutter_cons', count_false_destutter'_cons, Bool.not_true, Bool.false_and,
      Bool.toNat_false, Nat.zero_add]

variable {listings : List Listing} {error : StoreError}

theorem presence_error (h : error.isMissingFile = true) : presence (.error error) = some false :=
  if_pos h

theorem presence_other (h : ¬ error.isMissingFile = true) : presence (.error error) = none :=
  if_neg h

theorem lastListed_ok (listings : List Listing) (names : List String) :
    lastListed (listings ++ [.ok names]) = some names := by
  unfold lastListed
  rw [List.filter_append, List.filter_singleton, presence]
  simp

theorem lastListed_missing (h : error.isMissingFile = true) (listings : List Listing) :
    lastListed (listings ++ [.error error]) = none := by
  unfold lastListed
  rw [List.filter_append, List.filter_singleton, presence_error h]
  simp

theorem lastListed_other (h : ¬ error.isMissingFile = true) (listings : List Listing) :
    lastListed (listings ++ [.error error]) = lastListed listings := by
  unfold lastListed
  rw [List.filter_append, List.filter_singleton, presence_other h]
  simp

namespace Poller

/-- The events of one poll after another. -/
def pollAll (p : Poller) : List Listing → List Event
  | [] => []
  | l :: rest => (p.poll l).2 ++ (p.poll l).1.pollAll rest

variable {p : Poller} {names : List String}

/-! ## 3. One poll -/

theorem poll_missing (h : error.isMissingFile = true) :
    p.poll (.error error) = (⟨true⟩, if p.sawMissing then [] else [.destroy]) :=
  if_pos h

theorem poll_other (h : ¬ error.isMissingFile = true) :
    p.poll (.error error) = (p, [.error error.message]) :=
  if_neg h

theorem isFramed_poll (p : Poller) {l : Listing} (h : ∀ names, l = .ok names → "" ∉ names) :
    Event.IsFramed (p.poll l).2 := by
  cases l with
  | ok names => exact Event.isFramed_scan (h names rfl)
  | error error =>
    apply Event.isFramed_of_no_list
    intro name
    by_cases hmissing : error.isMissingFile = true
    · rw [poll_missing hmissing]
      dsimp only
      split
      · exact List.not_mem_nil
      · exact fun hin => nomatch List.mem_singleton.mp hin
    · rw [poll_other hmissing]
      exact fun hin => nomatch List.mem_singleton.mp hin

theorem count_destroy_scan (names : List String) : (Event.scan names).count .destroy = 0 := by
  rw [List.count_eq_zero]
  unfold Event.scan
  simp [Event.endOfScan]

/-- A missing directory is told of if it was not before. -/
theorem poll_of_presence (p : Poller) {l : Listing} {found : Bool} (h : presence l = some found) :
    (p.poll l).1.sawMissing = !found ∧
      (p.poll l).2.count .destroy = (!p.sawMissing && !found).toNat := by
  cases l with
  | ok names =>
    cases h
    refine ⟨rfl, ?_⟩
    rw [Bool.not_true, Bool.and_false]
    exact count_destroy_scan names
  | error error =>
    by_cases hmissing : error.isMissingFile = true
    · rw [presence_error hmissing] at h
      cases h
      rw [poll_missing hmissing]
      refine ⟨rfl, ?_⟩
      cases p.sawMissing <;> rfl
    · rw [presence_other hmissing] at h
      cases h

theorem poll_of_no_presence (p : Poller) {l : Listing} (h : presence l = none) :
    (p.poll l).1 = p ∧ (p.poll l).2.count .destroy = 0 := by
  cases l with
  | ok names => cases h
  | error error =>
    have hother : ¬ error.isMissingFile = true := by
      intro hmissing
      rw [presence_error hmissing] at h
      cases h
    rw [poll_other hother]
    exact ⟨rfl, rfl⟩

/-- The poller's flag says whether the directory was missing when last heard of, and with it the
catalog of a service that has taken in all the events. -/
structure Tracks (listings : List Listing) (p : Poller) (s : Service) : Prop where
  running : s.phase ≠ .stopping
  missing : p.sawMissing = true → lastListed listings = none
  catalog : s.catalog = (lastListed listings).map (Catalog.addFiles ∅)

variable {s : Service}

theorem Tracks.poll {l : Listing} (h : Tracks listings p s)
    (hl : ∀ names, l = .ok names → "" ∉ names) :
    Tracks (listings ++ [l]) (p.poll l).1 (s.handleAll (p.poll l).2).1 := by
  have hrunning := Service.handleAll_running h.running (p.poll l).2
  cases l with
  | ok names =>
    refine ⟨hrunning, nofun, ?_⟩
    rw [lastListed_ok]
    exact Service.catalog_scan h.running (hl names rfl)
  | error error =>
    by_cases hmissing : error.isMissingFile = true
    · rw [poll_missing hmissing] at hrunning ⊢
      refine ⟨hrunning, fun _ => lastListed_missing hmissing listings, ?_⟩
      rw [lastListed_missing hmissing]
      dsimp only
      split
      next hsaw =>
        -- Nothing more is told, and the catalog is gone already.
        rw [Service.handleAll_fst, List.foldl_nil, h.catalog, h.missing hsaw]
      next =>
        rw [Service.handleAll_fst, List.foldl_cons, List.foldl_nil]
        unfold Service.handle
        rw [if_neg h.running]
        rfl
    · rw [poll_other hmissing] at hrunning ⊢
      refine ⟨hrunning, ?_, ?_⟩
      · rw [lastListed_other hmissing]
        exact h.missing
      · rw [lastListed_other hmissing, ← h.catalog, Service.handleAll_fst, List.foldl_cons,
          List.foldl_nil]
        unfold Service.handle
        rw [if_neg h.running]

/-! ## 4. All polls -/

theorem Tracks.pollAll (h : Tracks listings p s) (more : List Listing)
    (hmore : ∀ names, .ok names ∈ more → "" ∉ names) :
    ∃ q, Tracks (listings ++ more) q (s.handleAll (p.pollAll more)).1 := by
  induction more generalizing listings p s with
  | nil =>
    rw [List.append_nil]
    exact ⟨p, h⟩
  | cons l rest ih =>
    have hfirst := h.poll (l := l) fun names hl => hmore names (hl ▸ List.mem_cons_self)
    rcases ih hfirst fun names hin => hmore names (List.mem_cons_of_mem l hin) with ⟨q, hrest⟩
    rw [List.append_assoc, List.singleton_append] at hrest
    unfold pollAll
    rw [Service.handleAll_append]
    exact ⟨q, hrest⟩

theorem isFramed_pollAll (p : Poller) (h : ∀ names, .ok names ∈ listings → "" ∉ names) :
    Event.IsFramed (p.pollAll listings) := by
  induction listings generalizing p with
  | nil => exact Event.isFramed_of_no_list fun name => List.not_mem_nil
  | cons l rest ih =>
    apply Event.IsFramed.append
    · exact p.isFramed_poll fun names hl => h names (hl ▸ List.mem_cons_self)
    · exact ih (p.poll l).1 fun names hin => h names (List.mem_cons_of_mem l hin)

/-- A poller that has told of a missing directory is within a stretch already. -/
theorem count_destroy_pollAll (p : Poller) (listings : List Listing) :
    (p.pollAll listings).count .destroy + p.sawMissing.toNat =
      ((listings.filterMap presence).destutter' (· ≠ ·) (!p.sawMissing)).count false := by
  induction listings generalizing p with
  | nil =>
    rcases p with ⟨saw⟩
    cases saw <;> rfl
  | cons l rest ih =>
    have hrest := ih (p.poll l).1
    unfold pollAll
    rw [List.count_append]
    cases hl : presence l with
    | some found =>
      rcases p.poll_of_presence hl with ⟨hsaw, hcount⟩
      rw [List.filterMap_cons_some hl, count_false_destutter'_cons, hcount]
      rw [hsaw, Bool.not_not] at hrest
      rw [← hrest]
      cases p.sawMissing <;> cases found <;> simp <;> omega
    | none =>
      rcases p.poll_of_no_presence hl with ⟨hsame, hcount⟩
      rw [List.filterMap_cons_none hl, hcount, Nat.zero_add]
      rw [hsame] at hrest ⊢
      exact hrest

/-- A service that was started and is told all the events of a poller has after each poll the
catalog of the listing that succeeded last, or none if there was no such listing or the directory
was found missing since. No listing has an empty name, which would end the scan. -/
theorem pollAll_tracks_directory (origin : String) (listings : List Listing)
    (hnames : ∀ names, .ok names ∈ listings → "" ∉ names) :
    ∃ s, (Service.new origin).start = .ok s ∧
      Option.Rel (fun (cat : Catalog) names => ∀ z, cat[z]? = Catalog.entryOf names z)
        (s.send (new.pollAll listings)).1.catalog (lastListed listings) ∧
      Event.IsFramed (new.pollAll listings) ∧
      (new.pollAll listings).count .destroy = outages listings := by
  refine ⟨_, rfl, ?_, new.isFramed_pollAll hnames, ?_⟩
  · have hstart : Tracks [] new ⟨origin, .starting, none, none, true, true⟩ := ⟨nofun, nofun, rfl⟩
    rcases hstart.pollAll listings hnames with ⟨q, hend⟩
    rw [List.nil_append] at hend
    show Option.Rel _ (Service.handleAll ⟨origin, .starting, none, none, true, true⟩ _).1.catalog _
    rw [hend.catalog]
    cases lastListed listings with
    | none => exact .none
    | some names => exact .some (Catalog.getElem?_addFiles names)
  · rw [outages_eq]
    exact count_destroy_pollAll new listings

/-- The directory fails to list, holds a zettel, is missing twice with another failure in between,
and comes back. -/
theorem pollAll_tracks_directory_that_comes_back :
    let missing : Listing := .error (.file "list box" .missing)
    let failed : Listing := .error (.file "list box" .notDirectory)
    let listings := [failed, .ok ["20200310195100.md"], missing, failed, missing, .ok []]
    (∀ names, .ok names ∈ listings → "" ∉ names) ∧ lastListed listings = some [] ∧
      outages listings = 1 ∧
      ∃ s, (Service.new "box").start = .ok s ∧
        (∃ cat : Catalog, (s.send (new.pollAll listings)).1.catalog = some cat ∧
          ∀ z : Zid, cat[z]? = none) ∧
        Event.IsFramed (new.pollAll listings) ∧ (new.pollAll listings).count .destroy = 1 := by
  intro missing failed listings
  have hnames : ∀ names, .ok names ∈ listings → "" ∉ names := by
    intro names hin
    simp only [listings, missing, failed, List.mem_cons, Except.ok.injEq, reduceCtorEq, false_or,
      List.not_mem_nil, or_false] at hin
    rcases hin with rfl | rfl
    · decide
    · decide
  have hlast : lastListed listings = some [] := by decide
  have hcount : outages listings = 1 := by decide
  rcases pollAll_tracks_directory "box" listings hnames with ⟨s, hs, hcat, hframed, hdestroy⟩
  refine ⟨hnames, hlast, hcount, s, hs, ?_, hframed, hdestroy.trans hcount⟩
  rw [hlast] at hcat
  cases hc : (s.send (new.pollAll listings)).1.catalog with
  | none =>
    rw [hc] at hcat
    cases hcat
  | some cat =>
    rw [hc] at hcat
    cases hcat with
    | some hentries =>
      refine ⟨cat, rfl, fun z => (hentries z).trans ?_⟩
      exact if_neg fun hboth => hboth.2 rfl

end Poller

end Watch

end Kasten
