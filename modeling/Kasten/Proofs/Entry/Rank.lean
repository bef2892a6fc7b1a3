import Kasten.Entry.FileName
import Mathlib.Data.Finset.Basic
import Mathlib.Data.Prod.Lex
import Mathlib.Data.String.Basic
import Mathlib.Order.BooleanAlgebra.Defs

/-!
# Ranks of file names

Each file name has a rank, and of two files the one of lower rank is the better. Ranks are linearly
ordered and tell names apart, so there is one best file among many, in whatever order they come.
-/

namespace Kasten.FileName

/-- Files that can hold nothing but metadata. -/
def isMetaFile (name : String) : Bool :=
  ext name == "" || ext name == metaExt

def nameRank (name : String) : ℕ ×ₗ String :=
  toLex (name.utf8ByteSize, name)

def extRank (ext : String) : ℕ ×ₗ ℕ ×ₗ String :=
  toLex (tier ext, nameRank ext)

/-- Files that hold metadata and content come before all others. -/
def contentRank (name : String) : Bool ×ₗ (ℕ ×ₗ ℕ ×ₗ String) ×ₗ ℕ ×ₗ String :=
  -- The test is false for files with metadata, and false is below true.
  toLex (ext name != zettelExt, toLex (extRank (ext name), nameRank name))

/-! ## 1. Comparisons are those of ranks -/

theorem ext_empty : ext "" = "" := by
  have h : dropOctets Zid.width "".toList = [] := by
    rw [String.toList_empty, show Zid.width = 13 + 1 from rfl, dropOctets]
  unfold ext
  rw [h]
  rfl

theorem isMetaFile_iff {name : String} :
    isMetaFile name = true ↔ ext name = "" ∨ ext name = metaExt := by
  unfold isMetaFile
  rw [Bool.or_eq_true, beq_iff_eq, beq_iff_eq]

theorem isMetaFile_eq_false_iff {name : String} :
    isMetaFile name = false ↔ ext name ≠ "" ∧ ext name ≠ metaExt := by
  rw [← Bool.not_eq_true, isMetaFile_iff, not_or]

theorem not_isMetaFile_of_zettel {name : String} (h : ext name = zettelExt) :
    isMetaFile name = false := by
  unfold isMetaFile
  rw [h]
  decide

theorem nameRank_lt_iff (a b : String) :
    nameRank a < nameRank b ↔
      a.utf8ByteSize < b.utf8ByteSize ∨ a.utf8ByteSize = b.utf8ByteSize ∧ a < b :=
  Prod.Lex.toLex_lt_toLex

theorem nameRank_injective : Function.Injective nameRank := by
  intro a b h
  exact congrArg (fun r => (ofLex r).2) h

theorem extRank_lt_iff (a b : String) :
    extRank a < extRank b ↔ tier a < tier b ∨ tier a = tier b ∧ nameRank a < nameRank b :=
  Prod.Lex.toLex_lt_toLex

theorem isBetterName_iff (old new : String) :
    isBetterName old new = true ↔ nameRank new < nameRank old := by
  rw [nameRank_lt_iff]
  unfold isBetterName
  by_cases h : old.utf8ByteSize = new.utf8ByteSize
  · simp [h]
  · have h' : new.utf8ByteSize ≠ old.utf8ByteSize := fun e => h e.symm
    simp [h, h']

theorem isBetterExt_iff (old new : String) :
    isBetterExt old new = true ↔ extRank new < extRank old := by
  rw [extRank_lt_iff, ← isBetterName_iff]
  unfold isBetterExt
  by_cases h : tier old = tier new
  · simp [h, isBetterName]
  · have h' : tier new ≠ tier old := fun e => h e.symm
    simp [h, h']

theorem contentRank_injective : Function.Injective contentRank := by
  intro a b h
  have h' : nameRank a = nameRank b := congrArg (fun r => (ofLex (ofLex r).2).2) h
  exact nameRank_injective h'

theorem extRank_injective : Function.Injective extRank := by
  intro a b h
  have h' : nameRank a = nameRank b := congrArg (fun r => (ofLex r).2) h
  exact nameRank_injective h'

/-- A file that holds metadata and content is better than one that does not. -/
theorem contentRank_lt_of_zettel {a b : String} (ha : ext a = zettelExt) (hb : ext b ≠ zettelExt) :
    contentRank a < contentRank b := by
  have hb' : (ext b != zettelExt) = true := bne_iff_ne.mpr hb
  apply Prod.Lex.toLex_lt_toLex.mpr
  left
  rw [ha, hb', bne_self_eq_false]
  show false < true
  decide

theorem contentRank_lt_of_ext_eq {a b : String} (h : ext a = ext b) :
    contentRank a < contentRank b ↔ nameRank a < nameRank b := by
  unfold contentRank
  rw [h, Prod.Lex.toLex_lt_toLex, Prod.Lex.toLex_lt_toLex]
  simp

theorem contentRank_lt_of_ext_ne {a b : String} (h : ext a ≠ ext b) (ha : ext a ≠ zettelExt)
    (hb : ext b ≠ zettelExt) :
    contentRank a < contentRank b ↔ extRank (ext a) < extRank (ext b) := by
  have hr : extRank (ext a) ≠ extRank (ext b) := fun e => h (extRank_injective e)
  have ha' : (ext a != zettelExt) = true := bne_iff_ne.mpr ha
  have hb' : (ext b != zettelExt) = true := bne_iff_ne.mpr hb
  unfold contentRank
  rw [ha', hb', Prod.Lex.toLex_lt_toLex, Prod.Lex.toLex_lt_toLex]
  simp [hr]

/-! ## 2. The best of many -/

/-- The name is the best among those names that fulfil the predicate; it is empty if there is none
of them. -/
structure Best {α : Type} [LinearOrder α] (rank : String → α) (names : Finset String)
    (p : String → Prop) (name : String) : Prop where
  mem : name ≠ "" → name ∈ names ∧ p name
  le : ∀ n ∈ names, p n → name ≠ "" ∧ rank name ≤ rank n

namespace Best

variable {α : Type} [LinearOrder α] {rank : String → α} {names : Finset String}
variable {p q : String → Prop} {name new : String}

theorem of_empty (hp : ∀ n ∈ names, ¬ p n) : Best rank names p "" where
  mem h := absurd rfl h
  le n hn hpn := absurd hpn (hp n hn)

theorem congr (h : Best rank names p name) (hpq : ∀ n ∈ names, p n ↔ q n) :
    Best rank names q name where
  mem hne := ⟨(h.mem hne).1, (hpq name (h.mem hne).1).mp (h.mem hne).2⟩
  le n hn hq := h.le n hn ((hpq n hn).mpr hq)

theorem eq_empty (h : Best rank names p name) (hp : ∀ n ∈ names, ¬ p n) : name = "" := by
  by_contra hne
  have hm := h.mem hne
  exact hp name hm.1 hm.2

/-- None of the names is better. -/
theorem not_mem_of_lt (h : Best rank names p name) (hp : p new)
    (hlt : name = "" ∨ rank new < rank name) : new ∉ names := by
  intro hn
  have hle := h.le new hn hp
  rcases hlt with he | hlt
  · exact hle.1 he
  · exact absurd hlt (not_lt.mpr hle.2)

theorem unique (hrank : Function.Injective rank) {a b : String} (ha : Best rank names p a)
    (hb : Best rank names p b) : a = b := by
  by_cases hne : a = ""
  · by_cases hne' : b = ""
    · rw [hne, hne']
    · have hm := hb.mem hne'
      exact absurd hne (ha.le b hm.1 hm.2).1
  · have hma := ha.mem hne
    have hba := hb.le a hma.1 hma.2
    have hmb := hb.mem hba.1
    have hab := ha.le b hmb.1 hmb.2
    apply hrank
    exact le_antisymm hab.2 hba.2

/-- A better name takes the place of the best one. -/
theorem insert_better (h : Best rank names p name) (hnew : new ≠ "") (hp : p new)
    (hlt : name = "" ∨ rank new < rank name) : Best rank (insert new names) p new where
  mem _ := ⟨Finset.mem_insert_self new names, hp⟩
  le n hn hpn := by
    refine ⟨hnew, ?_⟩
    rcases Finset.mem_insert.mp hn with he | hn
    · rw [he]
    · have hle := h.le n hn hpn
      rcases hlt with he | hlt
      · exact absurd he hle.1
      · exact le_trans (le_of_lt hlt) hle.2

/-- The best name stays where the new one is no better or does not count. -/
theorem insert_worse (h : Best rank names p name)
    (hlt : p new → ¬ (name = "" ∨ rank new < rank name)) :
    Best rank (insert new names) p name where
  mem hne := ⟨Finset.mem_insert_of_mem (h.mem hne).1, (h.mem hne).2⟩
  le n hn hpn := by
    rcases Finset.mem_insert.mp hn with he | hn
    · rw [he] at hpn ⊢
      rcases not_or.mp (hlt hpn) with ⟨hne, hle⟩
      exact ⟨hne, not_lt.mp hle⟩
    · exact h.le n hn hpn

/-- The best name stays best when another is gone. -/
theorem erase (h : Best rank names p name) (hne : name ≠ new) :
    Best rank (names.erase new) p name where
  mem hn := ⟨Finset.mem_erase.mpr ⟨hne, (h.mem hn).1⟩, (h.mem hn).2⟩
  le n hn := h.le n (Finset.mem_of_mem_erase hn)

end Best

end Kasten.FileName
