import Kasten.Proofs.Entry.Outcome
import Mathlib.Data.Finset.Lattice.Lemmas

/-!
# The files of an entry

An entry arranges a set of files: the best for the content, the best for the metadata, and all
others passed over. Taking in a file and taking one out keep this, so an entry tells nothing of the
order in which its files came and went.
-/

namespace Kasten.Entry

open FileName (Best isMetaFile nameRank contentRank zettelExt)

/-- The entry has found a place for each of the files. -/
structure Arranges (e : Entry) (names : Finset String) : Prop where
  named : "" ∉ names
  ext_eq : e.contentExt = FileName.ext e.contentName
  content : Best contentRank names (fun n => isMetaFile n = false) e.contentName
  metadata : Best nameRank names
    (fun n => isMetaFile n = true ∧ e.hasMetaInContent = false) e.metaName
  nodup : e.useless.Nodup
  mem_useless : ∀ n, n ∈ e.useless ↔ n ∈ names ∧ n ≠ e.contentName ∧ n ≠ e.metaName

/-- The same files play the same parts; those passed over may be listed in another order. -/
structure Alike (e e' : Entry) : Prop where
  zid : e.zid = e'.zid
  metaName : e.metaName = e'.metaName
  contentName : e.contentName = e'.contentName
  contentExt : e.contentExt = e'.contentExt
  useless : e.useless.Perm e'.useless

variable {e e' : Entry} {names : Finset String} {name : String}

namespace Arranges

/-! ## 1. Readings -/

theorem new (z : Zid) : (Entry.new z).Arranges ∅ where
  named := Finset.notMem_empty ""
  ext_eq := FileName.ext_empty.symm
  content := .of_empty fun n hn => absurd hn (Finset.notMem_empty n)
  metadata := .of_empty fun n hn => absurd hn (Finset.notMem_empty n)
  nodup := List.nodup_nil
  mem_useless n := by simp [Entry.new]

theorem ne_empty (h : e.Arranges names) (hn : name ∈ names) : name ≠ "" := by
  intro he
  exact h.named (he ▸ hn)

theorem metaName_eq_empty (h : e.Arranges names) (hz : e.hasMetaInContent = true) :
    e.metaName = "" := by
  apply h.metadata.eq_empty
  intro n _ hp
  rw [hz] at hp
  exact Bool.noConfusion hp.2

/-- No file plays two parts. -/
theorem metaName_ne_contentName (h : e.Arranges names) (hm : e.metaName ≠ "") :
    e.metaName ≠ e.contentName := by
  intro he
  have hp := (h.metadata.mem hm).2.1
  have hc := (h.content.mem (he ▸ hm)).2
  rw [he, hc] at hp
  exact Bool.noConfusion hp

theorem contentName_mem (h : e.Arranges names) (hc : e.contentName ≠ "") :
    e.contentName ∈ names :=
  (h.content.mem hc).1

theorem metaName_mem (h : e.Arranges names) (hm : e.metaName ≠ "") : e.metaName ∈ names :=
  (h.metadata.mem hm).1

/-- An entry with files has one for the content or one for the metadata. -/
theorem isLive_iff (h : e.Arranges names) : e.isLive = true ↔ names.Nonempty := by
  have hl : e.isLive = true ↔ e.metaName ≠ "" ∨ e.contentName ≠ "" := by
    simp [isLive]
  rw [hl]
  constructor
  · intro hne
    rcases hne with hm | hc
    · exact ⟨_, h.metaName_mem hm⟩
    · exact ⟨_, h.contentName_mem hc⟩
  · intro hne
    rcases hne with ⟨n, hn⟩
    by_cases hm : isMetaFile n = true
    · by_cases hz : e.hasMetaInContent = true
      · -- The metadata is in the content, so there is a content file.
        right
        intro hc
        rw [hasMetaInContent_iff, h.ext_eq, hc, FileName.ext_empty] at hz
        exact absurd hz (by decide)
      · left
        exact (h.metadata.le n hn ⟨hm, eq_false_of_ne_true hz⟩).1
    · right
      exact (h.content.le n hn (eq_false_of_ne_true hm)).1

/-- Content that comes with its metadata is beaten only by more of the kind. -/
theorem zettel_of_lt (h : e.Arranges names) (hz : e.hasMetaInContent = true)
    (hlt : e.contentName = "" ∨ contentRank name < contentRank e.contentName) :
    FileName.ext name = zettelExt := by
  by_contra hne
  rw [hasMetaInContent_iff, h.ext_eq] at hz
  rcases hlt with hc | hlt
  · rw [hc, FileName.ext_empty] at hz
    exact absurd hz (by decide)
  · exact lt_asymm hlt (FileName.contentRank_lt_of_zettel hz hne)

/-- The set of files tells all but the order of those passed over. -/
theorem alike (h : e.Arranges names) (h' : e'.Arranges names) (hz : e.zid = e'.zid) :
    e.Alike e' := by
  have hc : e.contentName = e'.contentName :=
    h.content.unique FileName.contentRank_injective h'.content
  have hx : e.contentExt = e'.contentExt := by
    rw [h.ext_eq, h'.ext_eq, hc]
  have hm : e.metaName = e'.metaName := by
    apply h.metadata.unique FileName.nameRank_injective
    apply h'.metadata.congr
    intro n _
    unfold hasMetaInContent
    rw [hx]
  refine ⟨hz, hm, hc, hx, ?_⟩
  rw [List.perm_ext_iff_of_nodup h.nodup h'.nodup]
  intro n
  rw [h.mem_useless, h'.mem_useless, hc, hm]

/-! ## 2. A file appears -/

theorem leave (h : e.Arranges names) (hn : name ≠ "") (hc : name ≠ e.contentName)
    (hm : name ≠ e.metaName)
    (hbc : isMetaFile name = false →
      ¬ (e.contentName = "" ∨ contentRank name < contentRank e.contentName))
    (hbm : isMetaFile name = true ∧ e.hasMetaInContent = false →
      ¬ (e.metaName = "" ∨ nameRank name < nameRank e.metaName)) :
    (e.leave name).Arranges (insert name names) where
  named := by simp [h.named, hn.symm]
  ext_eq := h.ext_eq
  content := h.content.insert_worse hbc
  metadata := h.metadata.insert_worse hbm
  nodup := nodup_passed h.nodup
  mem_useless n := by
    show n ∈ passed e.useless name ↔ n ∈ insert name names ∧ n ≠ e.contentName ∧ n ≠ e.metaName
    rw [mem_passed, h.mem_useless, Finset.mem_insert]
    constructor
    · intro hor
      rcases hor with hu | he
      · exact ⟨Or.inr hu.1, hu.2⟩
      · rw [he.1]
        exact ⟨Or.inl rfl, hc, hm⟩
    · intro hand
      rcases hand with ⟨he | hu, hne⟩
      · exact Or.inr ⟨he, hn⟩
      · exact Or.inl ⟨hu, hne⟩

theorem withMeta (h : e.Arranges names) (hn : name ≠ "") (hm : isMetaFile name = true)
    (hz : e.hasMetaInContent = false)
    (hlt : e.metaName = "" ∨ nameRank name < nameRank e.metaName) :
    (e.withMeta name).Arranges (insert name names) where
  named := by simp [h.named, hn.symm]
  ext_eq := h.ext_eq
  content := by
    apply h.content.insert_worse
    intro hf
    rw [hm] at hf
    exact Bool.noConfusion hf
  metadata := h.metadata.insert_better hn ⟨hm, hz⟩ hlt
  nodup := nodup_passed h.nodup
  mem_useless n := by
    have hnew : name ∉ names := h.metadata.not_mem_of_lt ⟨hm, hz⟩ hlt
    show n ∈ passed e.useless e.metaName ↔ n ∈ insert name names ∧ n ≠ e.contentName ∧ n ≠ name
    rw [mem_passed, h.mem_useless, Finset.mem_insert]
    constructor
    · intro hor
      rcases hor with hu | he
      · exact ⟨Or.inr hu.1, hu.2.1, fun he => hnew (he ▸ hu.1)⟩
      · have hmem := h.metaName_mem he.2
        rw [he.1]
        exact ⟨Or.inr hmem, h.metaName_ne_contentName he.2, fun he => hnew (he ▸ hmem)⟩
    · intro hand
      have hin := hand.1.resolve_left hand.2.2
      by_cases he : n = e.metaName
      · exact Or.inr ⟨he, he ▸ h.ne_empty hin⟩
      · exact Or.inl ⟨hin, hand.2.1, he⟩

theorem withContent_of_zettel (h : e.Arranges names) (hn : name ≠ "")
    (hz : FileName.ext name = zettelExt)
    (hlt : e.contentName = "" ∨ contentRank name < contentRank e.contentName) :
    (e.withContent name).Arranges (insert name names) := by
  have hm : isMetaFile name = false := FileName.not_isMetaFile_of_zettel hz
  have hnew : name ∉ names := h.content.not_mem_of_lt hm hlt
  unfold Entry.withContent
  rw [if_pos hz]
  exact {
    named := by simp [h.named, hn.symm]
    ext_eq := rfl
    content := h.content.insert_better hn hm hlt
    metadata := by
      apply Best.of_empty
      intro n _ hp
      have ht : (FileName.ext name == zettelExt) = true := beq_iff_eq.mpr hz
      exact Bool.noConfusion (ht.symm.trans hp.2)
    nodup := nodup_passed (nodup_passed h.nodup)
    mem_useless := by
      intro n
      show n ∈ passed (passed e.useless e.contentName) e.metaName ↔
        n ∈ insert name names ∧ n ≠ name ∧ n ≠ ""
      rw [mem_passed, mem_passed, h.mem_useless, Finset.mem_insert]
      constructor
      · intro hor
        have hin : n ∈ names := by
          rcases hor with (hu | he) | he
          · exact hu.1
          · exact he.1 ▸ h.contentName_mem he.2
          · exact he.1 ▸ h.metaName_mem he.2
        exact ⟨Or.inr hin, fun he => hnew (he ▸ hin), h.ne_empty hin⟩
      · intro hand
        have hin := hand.1.resolve_left hand.2.1
        by_cases hc : n = e.contentName
        · exact Or.inl (Or.inr ⟨hc, hc ▸ hand.2.2⟩)
        · by_cases he : n = e.metaName
          · exact Or.inr ⟨he, he ▸ hand.2.2⟩
          · exact Or.inl (Or.inl ⟨hin, hc, he⟩) }

theorem withContent_of_plain (h : e.Arranges names) (hn : name ≠ "")
    (hm : isMetaFile name = false) (hz : FileName.ext name ≠ zettelExt)
    (hlt : e.contentName = "" ∨ contentRank name < contentRank e.contentName) :
    (e.withContent name).Arranges (insert name names) := by
  have hnew : name ∉ names := h.content.not_mem_of_lt hm hlt
  have hold : e.hasMetaInContent = false :=
    eq_false_of_ne_true fun ht => hz (h.zettel_of_lt ht hlt)
  -- As before, the content leaves a place for a metadata file.
  have hstill : (FileName.ext name == zettelExt) = false := beq_eq_false_iff_ne.mpr hz
  have hmeta : ∀ n ∈ names, (isMetaFile n = true ∧ e.hasMetaInContent = false) ↔
      (isMetaFile n = true ∧ (FileName.ext name == zettelExt) = false) := by
    intro n _
    rw [hold, hstill]
  unfold Entry.withContent
  rw [if_neg hz]
  exact {
    named := by simp [h.named, hn.symm]
    ext_eq := rfl
    content := h.content.insert_better hn hm hlt
    metadata := by
      apply (h.metadata.congr hmeta).insert_worse
      intro hp
      exact Bool.noConfusion (hm.symm.trans hp.1)
    nodup := nodup_passed h.nodup
    mem_useless := by
      intro n
      show n ∈ passed e.useless e.contentName ↔ n ∈ insert name names ∧ n ≠ name ∧ n ≠ e.metaName
      rw [mem_passed, h.mem_useless, Finset.mem_insert]
      constructor
      · intro hor
        rcases hor with hu | he
        · exact ⟨Or.inr hu.1, fun he => hnew (he ▸ hu.1), hu.2.2⟩
        · have hmem := h.contentName_mem he.2
          rw [he.1]
          refine ⟨Or.inr hmem, fun he => hnew (he ▸ hmem), ?_⟩
          intro hcm
          exact h.metaName_ne_contentName (hcm ▸ he.2) hcm.symm
      · intro hand
        have hin := hand.1.resolve_left hand.2.1
        by_cases hc : n = e.contentName
        · exact Or.inr ⟨hc, hc ▸ h.ne_empty hin⟩
        · exact Or.inl ⟨hin, hc, hand.2.2⟩ }

theorem add_meta (h : e.Arranges names) (hn : name ≠ "") (hm : isMetaFile name = true)
    (hz : e.hasMetaInContent = false) : (e.add name).1.Arranges (insert name names) := by
  rw [add_fst_of_meta hn hm hz]
  by_cases he : name = e.metaName
  · have hmem : name ∈ names := he ▸ h.metaName_mem (he ▸ hn)
    rw [if_pos he, Finset.insert_eq_of_mem hmem]
    exact h
  rw [if_neg he]
  by_cases hlt : e.metaName = "" ∨ nameRank name < nameRank e.metaName
  · rw [if_pos hlt]
    exact h.withMeta hn hm hz hlt
  · rw [if_neg hlt]
    apply h.leave hn _ he _ (fun _ => hlt)
    · intro hc
      have hf := (h.content.mem (hc ▸ hn)).2
      rw [← hc, hm] at hf
      exact Bool.noConfusion hf
    · intro hf
      exact Bool.noConfusion (hm.symm.trans hf)

theorem add_content (h : e.Arranges names) (hn : name ≠ "")
    (hm : ¬ (isMetaFile name = true ∧ e.hasMetaInContent = false)) :
    (e.add name).1.Arranges (insert name names) := by
  rw [add_fst_of_content h.ext_eq h.metaName_eq_empty hn hm]
  by_cases he : name = e.contentName
  · have hmem : name ∈ names := he ▸ h.contentName_mem (he ▸ hn)
    rw [if_pos he, Finset.insert_eq_of_mem hmem]
    exact h
  rw [if_neg he]
  by_cases hlt : e.contentName = "" ∨ contentRank name < contentRank e.contentName
  · rw [if_pos hlt]
    by_cases hz : FileName.ext name = zettelExt
    · exact h.withContent_of_zettel hn hz hlt
    · have hplain : isMetaFile name = false := by
        apply eq_false_of_ne_true
        intro ht
        -- A metadata file comes here only beside content that it cannot beat.
        have hold : e.hasMetaInContent = true := by
          by_contra hf
          exact hm ⟨ht, eq_false_of_ne_true hf⟩
        exact hz (h.zettel_of_lt hold hlt)
      exact h.withContent_of_plain hn hplain hz hlt
  · rw [if_neg hlt]
    apply h.leave hn he _ (fun _ => hlt) (fun hf => absurd hf hm)
    intro hmn
    have hp := (h.metadata.mem (hmn ▸ hn)).2
    rw [← hmn] at hp
    exact hm hp

/-- Taking in a file arranges one file more. -/
theorem add (h : e.Arranges names) (hn : name ≠ "") :
    (e.add name).1.Arranges (insert name names) := by
  by_cases hm : isMetaFile name = true ∧ e.hasMetaInContent = false
  · exact h.add_meta hn hm.1 hm.2
  · exact h.add_content hn hm

theorem addAll (h : e.Arranges names) (more : List String) (hn : "" ∉ more) :
    (e.addAll more).Arranges (names ∪ more.toFinset) := by
  induction more generalizing e names with
  | nil =>
    rw [List.toFinset_nil, Finset.union_empty]
    exact h
  | cons name more ih =>
    rcases not_or.mp (fun hor => hn (List.mem_cons.mpr hor)) with ⟨hne, hmore⟩
    rw [List.toFinset_cons, ← Finset.insert_union_comm]
    exact ih (h.add (Ne.symm hne)) hmore

/-! ## 3. A file vanishes -/

/-- Files that were passed over are as good as new ones. -/
theorem reconsider (h : { e with useless := [] }.Arranges names) (hn : "" ∉ e.useless) :
    e.reconsider.1.Arranges (names ∪ e.useless.toFinset) :=
  h.addAll e.useless hn

/-- Without its content and the files passed over an entry arranges its metadata file. -/
theorem alone_meta (h : e.Arranges names) :
    Arranges { e with contentName := "", contentExt := "", useless := [] }
      (({e.metaName} : Finset String).erase "") where
  named := Finset.notMem_erase "" _
  ext_eq := FileName.ext_empty.symm
  content := by
    apply Best.of_empty
    intro n hn hf
    rcases Finset.mem_erase.mp hn with ⟨hne, he⟩
    have hm := (h.metadata.mem (Finset.mem_singleton.mp he ▸ hne)).2.1
    rw [← Finset.mem_singleton.mp he, hf] at hm
    exact Bool.noConfusion hm
  metadata := {
    mem := by
      intro hne
      have hin : e.metaName ∈ ({e.metaName} : Finset String).erase "" :=
        Finset.mem_erase.mpr ⟨hne, Finset.mem_singleton_self _⟩
      exact ⟨hin, (h.metadata.mem hne).2.1, rfl⟩
    le := by
      intro n hn _
      rcases Finset.mem_erase.mp hn with ⟨hne, he⟩
      rw [Finset.mem_singleton.mp he] at hne ⊢
      exact ⟨hne, le_refl _⟩ }
  nodup := List.nodup_nil
  mem_useless n := by
    constructor
    · intro hn
      exact absurd hn List.not_mem_nil
    · intro hand
      exact absurd (Finset.mem_singleton.mp (Finset.mem_of_mem_erase hand.1)) hand.2.2

/-- Without its metadata file and those passed over an entry arranges its content. -/
theorem alone_content (h : e.Arranges names) :
    Arranges { e with metaName := "", useless := [] }
      (({e.contentName} : Finset String).erase "") where
  named := Finset.notMem_erase "" _
  ext_eq := h.ext_eq
  content := {
    mem := by
      intro hne
      have hin : e.contentName ∈ ({e.contentName} : Finset String).erase "" :=
        Finset.mem_erase.mpr ⟨hne, Finset.mem_singleton_self _⟩
      exact ⟨hin, (h.content.mem hne).2⟩
    le := by
      intro n hn _
      rcases Finset.mem_erase.mp hn with ⟨hne, he⟩
      rw [Finset.mem_singleton.mp he] at hne ⊢
      exact ⟨hne, le_refl _⟩ }
  metadata := by
    apply Best.of_empty
    intro n hn hp
    rcases Finset.mem_erase.mp hn with ⟨hne, he⟩
    have hf := (h.content.mem (Finset.mem_singleton.mp he ▸ hne)).2
    rw [← Finset.mem_singleton.mp he, hp.1] at hf
    exact Bool.noConfusion hf
  nodup := List.nodup_nil
  mem_useless n := by
    constructor
    · intro hn
      exact absurd hn List.not_mem_nil
    · intro hand
      exact absurd (Finset.mem_singleton.mp (Finset.mem_of_mem_erase hand.1)) hand.2.1

theorem notMem_useless (h : e.Arranges names) : "" ∉ e.useless := fun hn =>
  h.named ((h.mem_useless "").mp hn).1

theorem erase_useless (h : e.Arranges names) (hu : name ∈ e.useless) :
    Arranges { e with useless := e.useless.erase name } (names.erase name) where
  named hn := h.named (Finset.mem_of_mem_erase hn)
  ext_eq := h.ext_eq
  content := h.content.erase ((h.mem_useless name).mp hu).2.1.symm
  metadata := h.metadata.erase ((h.mem_useless name).mp hu).2.2.symm
  nodup := h.nodup.erase name
  mem_useless n := by
    show n ∈ e.useless.erase name ↔ n ∈ names.erase name ∧ n ≠ e.contentName ∧ n ≠ e.metaName
    rw [h.nodup.mem_erase_iff, h.mem_useless, Finset.mem_erase, and_assoc]

theorem erase_content (h : e.Arranges names) :
    Arranges { e with contentName := "", contentExt := "" }.reconsider.1
      (names.erase e.contentName) := by
  -- What stays in place and what is taken in anew are all files but the content.
  have hset : ({e.metaName} : Finset String).erase "" ∪ e.useless.toFinset =
      names.erase e.contentName := by
    ext n
    rw [Finset.mem_union, Finset.mem_erase, Finset.mem_singleton, List.mem_toFinset,
      h.mem_useless, Finset.mem_erase]
    constructor
    · intro hor
      rcases hor with ⟨hne, rfl⟩ | hu
      · exact ⟨h.metaName_ne_contentName hne, h.metaName_mem hne⟩
      · exact ⟨hu.2.1, hu.1⟩
    · intro hand
      by_cases he : n = e.metaName
      · exact Or.inl ⟨h.ne_empty hand.2, he⟩
      · exact Or.inr ⟨hand.2, hand.1, he⟩
  rw [← hset]
  exact h.alone_meta.reconsider h.notMem_useless

theorem erase_meta (h : e.Arranges names) (hm : e.metaName ≠ "") :
    Arranges { e with metaName := "" }.reconsider.1 (names.erase e.metaName) := by
  have hset : ({e.contentName} : Finset String).erase "" ∪ e.useless.toFinset =
      names.erase e.metaName := by
    ext n
    rw [Finset.mem_union, Finset.mem_erase, Finset.mem_singleton, List.mem_toFinset,
      h.mem_useless, Finset.mem_erase]
    constructor
    · intro hor
      rcases hor with ⟨hne, rfl⟩ | hu
      · exact ⟨(h.metaName_ne_contentName hm).symm, h.contentName_mem hne⟩
      · exact ⟨hu.2.2, hu.1⟩
    · intro hand
      by_cases he : n = e.contentName
      · exact Or.inl ⟨h.ne_empty hand.2, he⟩
      · exact Or.inr ⟨hand.2, he, hand.1⟩
  rw [← hset]
  exact h.alone_content.reconsider h.notMem_useless

/-- Taking out a file arranges one file less. -/
theorem remove (h : e.Arranges names) (hn : name ≠ "") :
    (e.remove name).1.Arranges (names.erase name) := by
  unfold Entry.remove
  by_cases hu : name ∈ e.useless
  · rw [if_pos (List.contains_iff_mem.mpr hu)]
    exact h.erase_useless hu
  rw [if_neg (fun hc => hu (List.contains_iff_mem.mp hc))]
  by_cases hc : name = e.contentName
  · rw [if_pos hc, hc]
    exact h.erase_content
  rw [if_neg hc]
  by_cases hm : name = e.metaName
  · rw [if_pos hm, hm]
    exact h.erase_meta (hm ▸ hn)
  rw [if_neg hm]
  -- A file without a place is none of the entry's.
  have hout : name ∉ names := fun hin => hu ((h.mem_useless name).mpr ⟨hin, hc, hm⟩)
  rw [Finset.erase_eq_of_notMem hout]
  exact h

end Arranges

/-! ## 4. The zettel stays the same -/

theorem zid_passOver (e : Entry) (name : String) : (e.passOver name).1.zid = e.zid := by
  unfold passOver
  split <;> rfl

theorem zid_dropMeta (e : Entry) : e.dropMeta.1.zid = e.zid := by
  unfold dropMeta
  split
  · rfl
  · rw [zid_passOver]

theorem zid_addMeta (e : Entry) (name : String) : (e.addMeta name).1.zid = e.zid := by
  unfold addMeta
  split_ifs <;> simp only [zid_passOver]

theorem zid_addContent (e : Entry) (name ext : String) : (e.addContent name ext).1.zid = e.zid := by
  unfold addContent
  split_ifs <;> simp only [zid_passOver, zid_dropMeta]

theorem zid_add (e : Entry) (name : String) : (e.add name).1.zid = e.zid := by
  unfold add
  dsimp only
  split
  · exact zid_addMeta e name
  · exact zid_addContent e name _

theorem zid_addAll (e : Entry) (more : List String) : (e.addAll more).zid = e.zid := by
  induction more generalizing e with
  | nil => rfl
  | cons name more ih => exact (ih (e.add name).1).trans (zid_add e name)

theorem zid_remove (e : Entry) (name : String) : (e.remove name).1.zid = e.zid := by
  unfold remove reconsider
  split_ifs <;> simp only [zid_addAll]

end Kasten.Entry
