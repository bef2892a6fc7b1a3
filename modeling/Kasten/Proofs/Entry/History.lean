import Kasten.Proofs.Entry.Arrangement

/-!
# Histories of an entry

Files of a zettel are seen and are gone again, in any order and as often as they like. What an
entry makes of them is told by the set of names that are left: which file has the content, which
one the metadata, and which ones are passed over.
-/

namespace Kasten.Entry

open FileName (Best isMetaFile nameRank extRank contentRank zettelExt metaExt)

inductive Sight where
  | seen (name : String)
  | gone (name : String)
deriving DecidableEq, Repr

namespace Sight

def name : Sight → String
  | seen name => name
  | gone name => name

/-- The names that are there after one sight more. -/
def update (names : Finset String) : Sight → Finset String
  | seen name => insert name names
  | gone name => names.erase name

/-- The names that were seen and not gone since. -/
def present (sights : List Sight) : Finset String := sights.foldl update ∅

end Sight

def notice (e : Entry) : Sight → Entry
  | .seen name => (e.add name).1
  | .gone name => (e.remove name).1

def noticeAll (e : Entry) (sights : List Sight) : Entry := sights.foldl notice e

/-- Tier, length and letters of the extension first, then length and letters of the name. -/
def plainRank (name : String) : (ℕ ×ₗ ℕ ×ₗ String) ×ₗ ℕ ×ₗ String :=
  toLex (extRank (FileName.ext name), nameRank name)

/-- The part that each of the named files plays, told from the names alone. -/
structure Sorts (e : Entry) (names : Finset String) : Prop where
  embedded : (∃ n ∈ names, FileName.ext n = zettelExt) →
    Best nameRank names (fun n => FileName.ext n = zettelExt) e.contentName ∧ e.metaName = ""
  apart : (¬ ∃ n ∈ names, FileName.ext n = zettelExt) →
    Best plainRank names (fun n => FileName.ext n ≠ "" ∧ FileName.ext n ≠ metaExt) e.contentName ∧
      Best nameRank names (fun n => FileName.ext n = "" ∨ FileName.ext n = metaExt) e.metaName
  contentExt : e.contentExt = FileName.ext e.contentName
  nodup : e.useless.Nodup
  mem_useless : ∀ n, n ∈ e.useless ↔ n ∈ names ∧ n ≠ e.contentName ∧ n ≠ e.metaName
  isLive_iff : e.isLive = true ↔ names.Nonempty

variable {e : Entry} {names : Finset String} {name : String}

/-! ## 1. From ranks of all files to ranks of some -/

theorem contentRank_le_of_ext_eq {a b : String} (h : FileName.ext a = FileName.ext b)
    (hle : contentRank a ≤ contentRank b) : nameRank a ≤ nameRank b := by
  rw [← not_lt] at hle ⊢
  intro hlt
  exact hle ((FileName.contentRank_lt_of_ext_eq h.symm).mpr hlt)

/-- Among files without metadata of their own the first part of the rank decides nothing. -/
theorem contentRank_le_of_plain {a b : String} (ha : FileName.ext a ≠ zettelExt)
    (hb : FileName.ext b ≠ zettelExt) (hle : contentRank a ≤ contentRank b) :
    plainRank a ≤ plainRank b := by
  have ha' : (FileName.ext a != zettelExt) = true := bne_iff_ne.mpr ha
  have hb' : (FileName.ext b != zettelExt) = true := bne_iff_ne.mpr hb
  unfold contentRank at hle
  rw [ha', hb', Prod.Lex.toLex_le_toLex] at hle
  rcases hle with hlt | ⟨_, hle⟩
  · exact absurd hlt (lt_irrefl true)
  · exact hle

namespace Arranges

/-- The content of an entry comes with its metadata as soon as one of the files does. -/
theorem contentExt_of_zettel (h : e.Arranges names) (hz : ∃ n ∈ names, FileName.ext n = zettelExt) :
    e.contentName ≠ "" ∧ FileName.ext e.contentName = zettelExt := by
  rcases hz with ⟨n, hn, hz⟩
  have hle := h.content.le n hn (FileName.not_isMetaFile_of_zettel hz)
  refine ⟨hle.1, ?_⟩
  by_contra hne
  -- Any other content would be worse than that file.
  have hlt : contentRank n < contentRank e.contentName :=
    FileName.contentRank_lt_of_zettel hz hne
  exact absurd hle.2 (not_le.mpr hlt)

theorem best_zettel (h : e.Arranges names) (hz : ∃ n ∈ names, FileName.ext n = zettelExt) :
    Best nameRank names (fun n => FileName.ext n = zettelExt) e.contentName where
  mem hne := ⟨(h.content.mem hne).1, (h.contentExt_of_zettel hz).2⟩
  le n hn hnz := by
    have hle := h.content.le n hn (FileName.not_isMetaFile_of_zettel hnz)
    have hext : FileName.ext e.contentName = FileName.ext n :=
      (h.contentExt_of_zettel hz).2.trans hnz.symm
    exact ⟨hle.1, contentRank_le_of_ext_eq hext hle.2⟩

theorem best_plain (h : e.Arranges names) (hz : ¬ ∃ n ∈ names, FileName.ext n = zettelExt) :
    Best plainRank names (fun n => FileName.ext n ≠ "" ∧ FileName.ext n ≠ metaExt)
      e.contentName where
  mem hne := by
    have hm := h.content.mem hne
    exact ⟨hm.1, FileName.isMetaFile_eq_false_iff.mp hm.2⟩
  le n hn hp := by
    have hle := h.content.le n hn (FileName.isMetaFile_eq_false_iff.mpr hp)
    have hne : FileName.ext n ≠ zettelExt := fun he => hz ⟨n, hn, he⟩
    have hce : FileName.ext e.contentName ≠ zettelExt := fun he =>
      hz ⟨e.contentName, h.contentName_mem hle.1, he⟩
    exact ⟨hle.1, contentRank_le_of_plain hce hne hle.2⟩

theorem best_meta (h : e.Arranges names) (hz : ¬ ∃ n ∈ names, FileName.ext n = zettelExt) :
    Best nameRank names (fun n => FileName.ext n = "" ∨ FileName.ext n = metaExt) e.metaName := by
  -- Files for metadata count, as the content has none of its own.
  have hfree : e.hasMetaInContent = false := by
    apply eq_false_of_ne_true
    intro ht
    rw [hasMetaInContent_iff, h.ext_eq] at ht
    by_cases hc : e.contentName = ""
    · rw [hc, FileName.ext_empty] at ht
      exact absurd ht (by decide)
    · exact hz ⟨e.contentName, h.contentName_mem hc, ht⟩
  apply h.metadata.congr
  intro n _
  rw [FileName.isMetaFile_iff]
  exact and_iff_left hfree

theorem sorts (h : e.Arranges names) : e.Sorts names where
  embedded hz := by
    have hin : e.hasMetaInContent = true := by
      rw [hasMetaInContent_iff, h.ext_eq]
      exact (h.contentExt_of_zettel hz).2
    exact ⟨h.best_zettel hz, h.metaName_eq_empty hin⟩
  apart hz := ⟨h.best_plain hz, h.best_meta hz⟩
  contentExt := h.ext_eq
  nodup := h.nodup
  mem_useless := h.mem_useless
  isLive_iff := h.isLive_iff

/-! ## 2. One sight after another -/

theorem notice {s : Sight} (h : e.Arranges names) (hs : s.name ≠ "") :
    (e.notice s).Arranges (s.update names) := by
  cases s with
  | seen name => exact h.add hs
  | gone name => exact h.remove hs

theorem noticeAll {sights : List Sight} (h : e.Arranges names)
    (hs : ∀ s ∈ sights, s.name ≠ "") :
    (e.noticeAll sights).Arranges (sights.foldl Sight.update names) := by
  induction sights generalizing e names with
  | nil => exact h
  | cons s rest ih =>
    have hstep := h.notice (hs s List.mem_cons_self)
    exact ih hstep fun t ht => hs t (List.mem_cons_of_mem s ht)

end Arranges

theorem zid_notice (e : Entry) (s : Sight) : (e.notice s).zid = e.zid := by
  cases s with
  | seen name => exact zid_add e name
  | gone name => exact zid_remove e name

theorem zid_noticeAll (e : Entry) (sights : List Sight) : (e.noticeAll sights).zid = e.zid := by
  induction sights generalizing e with
  | nil => rfl
  | cons s rest ih => exact (ih (e.notice s)).trans (zid_notice e s)

/-- Whatever came and went, the entry sorts the files that are left, and two histories that leave
the same files differ at most in the order of those passed over. -/
theorem noticeAll_sorts (z : Zid) (sights : List Sight) (h : ∀ s ∈ sights, s.name ≠ "") :
    ((Entry.new z).noticeAll sights).Sorts (Sight.present sights) ∧
      ∀ others : List Sight, (∀ s ∈ others, s.name ≠ "") →
        Sight.present others = Sight.present sights →
        ((Entry.new z).noticeAll others).Alike ((Entry.new z).noticeAll sights) := by
  have hall := (Arranges.new z).noticeAll h
  refine ⟨hall.sorts, ?_⟩
  intro others hothers hsame
  have hother := (Arranges.new z).noticeAll hothers
  -- Both entries arrange one set of names, and this leaves no choice but the order.
  have hset : others.foldl Sight.update ∅ = sights.foldl Sight.update ∅ := hsame
  rw [hset] at hother
  apply hother.alike hall
  rw [zid_noticeAll, zid_noticeAll]

/-- Content and metadata are found again after a file with both has come and gone. -/
theorem noticeAll_sorts_content_and_metadata :
    let z : Zid := ⟨20200310195100⟩
    let sights : List Sight :=
      [.seen "20200310195100.md", .seen "20200310195100.zettel", .seen "20200310195100",
        .gone "20200310195100.zettel"]
    let others : List Sight := [.seen "20200310195100", .seen "20200310195100.md"]
    (∀ s ∈ sights, s.name ≠ "") ∧ (∀ s ∈ others, s.name ≠ "") ∧
      ((Entry.new z).noticeAll sights).Sorts {"20200310195100", "20200310195100.md"} ∧
      ((Entry.new z).noticeAll others).Alike ((Entry.new z).noticeAll sights) := by
  intro z sights others
  have hsights : ∀ s ∈ sights, s.name ≠ "" := by decide
  have hothers : ∀ s ∈ others, s.name ≠ "" := by decide
  have hpresent : Sight.present sights = {"20200310195100", "20200310195100.md"} := by decide
  have hsame : Sight.present others = Sight.present sights := by decide
  have hsorts := noticeAll_sorts z sights hsights
  exact ⟨hsights, hothers, hpresent ▸ hsorts.1, hsorts.2 others hothers hsame⟩

end Kasten.Entry
