import Kasten.Proofs.Catalog.Lifecycle
import Kasten.Proofs.Zid.Calendar

/-!
# Identifiers for new zettel

A directory service looks for a fresh identifier second by second. What it tries follows the
calendar, so no identifier is tried twice, and a catalog that has all of them is a large one.
-/

namespace Kasten.Service

variable {s : Service} {cat : Catalog} {now : Time}

/-- A catalog that has many different identifiers has as many entries. -/
theorem length_le_size {zs : List Zid} (hnodup : zs.Nodup) (h : ∀ z ∈ zs, cat.contains z = true) :
    zs.length ≤ cat.size := by
  rw [← Std.ExtTreeMap.length_keys]
  refine hnodup.length_le_of_subset fun z hz => ?_
  exact Std.ExtTreeMap.mem_keys.mpr (Std.ExtTreeMap.contains_iff_mem.mp (h z hz))

/-- A free identifier is reserved, unless the catalog has all that are tried. -/
theorem reserve_cases (h : Zid.FollowsCalendar true now) (hcat : s.catalog = some cat) :
    (∃ z, s.reserve now = .ok (z, { s with catalog := some (cat.insert z (Entry.new z)) }) ∧
      cat[z]? = none) ∨
    s.reserve now = .error .exhaustedIds ∧ 10000 ≤ cat.size := by
  rw [reserve_of_some hcat]
  cases hfresh : Zid.fresh true now fun z => !cat.contains z with
  | ok z =>
    have hfree := ((h.fresh_eq_ok_iff z).mp hfresh).1
    rw [Bool.not_eq_true'] at hfree
    exact .inl ⟨z, rfl, Std.ExtTreeMap.getElem?_eq_none_of_contains_eq_false hfree⟩
  | error failure =>
    rcases (h.fresh_eq_error_iff failure).mp hfresh with ⟨rfl, htaken⟩
    simp only [Bool.not_eq_false'] at htaken
    have hnodup : (Zid.tried true now).Nodup := by
      refine h.ascending.imp ?_
      rintro a b hless rfl
      exact Nat.lt_irrefl a.val hless
    refine .inr ⟨rfl, ?_⟩
    rw [← h.length]
    exact length_le_size hnodup htaken

/-- From a start time in the years 1 to 9998 onward, what is tried are ascending identifiers that
spell times one step apart. The first one that is accepted is taken, and only when ten thousand
are rejected it is given up. So a catalog gets a new entry without files under an identifier that
it did not have, unless it has ten thousand already. -/
theorem fresh_follows_calendar (h : now.IsReal) (hyear : 1 ≤ now.year ∧ now.year ≤ 9998) :
    (∀ withSeconds, Zid.FollowsCalendar withSeconds now ∧ ∀ isFree : Zid → Bool,
      (∀ z, Zid.fresh withSeconds now isFree = .ok z ↔ isFree z = true ∧ ∃ before after,
        Zid.tried withSeconds now = before ++ z :: after ∧ ∀ y ∈ before, isFree y = false) ∧
      ∀ failure, Zid.fresh withSeconds now isFree = .error failure ↔
        failure = .exhausted 10000 ∧ ∀ z ∈ Zid.tried withSeconds now, isFree z = false) ∧
    ∀ (s : Service) (cat : Catalog), s.catalog = some cat →
      (∃ z, s.reserve now = .ok (z, { s with catalog := some (cat.insert z (Entry.new z)) }) ∧
        cat[z]? = none) ∨
      s.reserve now = .error .exhaustedIds ∧ 10000 ≤ cat.size := by
  have hcalendar := Zid.followsCalendar h hyear
  refine ⟨fun withSeconds => ⟨hcalendar withSeconds, fun isFree => ⟨?_, ?_⟩⟩, fun s cat hcat => ?_⟩
  · exact (hcalendar withSeconds).fresh_eq_ok_iff
  · exact (hcalendar withSeconds).fresh_eq_error_iff
  · exact reserve_cases (hcalendar true) hcat

/-- In a leap year the last second of February 28 is followed by the first one of February 29. -/
theorem fresh_follows_calendar_of_leap_day :
    let now : Time := ⟨2020, 2, 28, 23, 59, 59⟩
    let cat : Catalog := (∅ : Catalog).insert ⟨20200228235959⟩ (Entry.new ⟨20200228235959⟩)
    let s : Service := { new "" with catalog := some cat }
    now.IsReal ∧ (1 ≤ now.year ∧ now.year ≤ 9998) ∧ Zid.FollowsCalendar true now ∧
      Zid.fresh false now (fun z => z.val != 20200228235900) = .ok ⟨20200229000000⟩ ∧
      s.catalog = some cat ∧
      ∃ z, s.reserve now = .ok (z, { s with catalog := some (cat.insert z (Entry.new z)) }) ∧
        cat[z]? = none := by
  intro now cat s
  have hreal : now.IsReal :=
    ⟨by decide, by decide, by decide, by decide, by decide⟩
  have hyear : 1 ≤ now.year ∧ now.year ≤ 9998 := by decide
  rcases fresh_follows_calendar hreal hyear with ⟨htried, hreserve⟩
  have hstart : Zid.start false now = ⟨20200228235900⟩ := by decide
  have hnext : Zid.next false ⟨20200228235900⟩ = ⟨20200229000000⟩ := by decide
  have hsplit : Zid.tried false now = [⟨20200228235900⟩] ++
      ⟨20200229000000⟩ :: Zid.offers false 9998 (Zid.next false ⟨20200229000000⟩) := by
    unfold Zid.tried
    rw [hstart, show Zid.maxAttempts = 9998 + 1 + 1 from rfl, Zid.offers, Zid.offers, hnext]
    rfl
  refine ⟨hreal, hyear, (htried true).1, ?_, rfl, ?_⟩
  · exact (((htried false).2 _).1 _).mpr ⟨by decide, _, _, hsplit, by decide⟩
  · refine (hreserve s cat rfl).resolve_right fun hfull => ?_
    exact absurd hfull.2 (by decide)

end Kasten.Service
