import Kasten.Entry.Basic
import Kasten.Proofs.Entry.Rank

/-!
# What becomes of an entry with a new file

The many cases of taking in a file come down to three: the file takes the place of the content, it
takes the place of the metadata, or it is left among those passed over. Ranks tell which.
-/

namespace Kasten.Entry

open FileName (isMetaFile nameRank contentRank zettelExt)

variable {e : Entry} {name n : String}

/-! ## 1. The three outcomes -/

/-- The list with one more file passed over, if there is such a file. -/
def passed (useless : List String) (name : String) : List String :=
  if name = "" ∨ name ∈ useless then useless else useless ++ [name]

/-- The file is no better than those in place. -/
def leave (e : Entry) (name : String) : Entry :=
  { e with useless := passed e.useless name }

def withMeta (e : Entry) (name : String) : Entry :=
  { e with metaName := name, useless := passed e.useless e.metaName }

/-- Content that comes with its own metadata leaves no place for another file. -/
def withContent (e : Entry) (name : String) : Entry :=
  if FileName.ext name = zettelExt then
    { e with
      contentName := name
      contentExt := FileName.ext name
      metaName := ""
      useless := passed (passed e.useless e.contentName) e.metaName }
  else
    { e with
      contentName := name
      contentExt := FileName.ext name
      useless := passed e.useless e.contentName }

theorem mem_passed {useless : List String} :
    n ∈ passed useless name ↔ n ∈ useless ∨ n = name ∧ name ≠ "" := by
  unfold passed
  by_cases he : name = ""
  · simp [he]
  · by_cases hm : name ∈ useless
    · rw [if_pos (Or.inr hm)]
      constructor
      · exact Or.inl
      · intro hn
        rcases hn with hn | hn
        · exact hn
        · rw [hn.1]
          exact hm
    · rw [if_neg (not_or.mpr ⟨he, hm⟩)]
      simp [he]

theorem nodup_passed {useless : List String} (h : useless.Nodup) :
    (passed useless name).Nodup := by
  unfold passed
  by_cases hc : name = "" ∨ name ∈ useless
  · rw [if_pos hc]
    exact h
  · rw [if_neg hc, ← List.concat_eq_append]
    exact h.concat (not_or.mp hc).2

theorem passed_empty (useless : List String) : passed useless "" = useless := by
  unfold passed
  rw [if_pos (Or.inl rfl)]

/-! ## 2. Which of them it is -/

theorem passOver_fst (e : Entry) (hn : name ≠ "") : (e.passOver name).1 = e.leave name := by
  unfold passOver leave passed
  by_cases hm : name ∈ e.useless
  · rw [if_pos (List.contains_iff_mem.mpr hm), if_pos (Or.inr hm)]
  · rw [if_neg (fun hc => hm (List.contains_iff_mem.mp hc)), if_neg (not_or.mpr ⟨hn, hm⟩)]

theorem dropMeta_fst (e : Entry) : e.dropMeta.1 = e.withMeta "" := by
  unfold dropMeta withMeta
  by_cases hm : e.metaName = ""
  · rw [if_pos hm, hm, passed_empty]
    cases e
    cases hm
    rfl
  · rw [if_neg hm, passOver_fst _ hm]
    rfl

theorem addMeta_fst (e : Entry) (hn : name ≠ "") :
    (e.addMeta name).1 =
      if name = e.metaName then e
      else if e.metaName = "" ∨ nameRank name < nameRank e.metaName then e.withMeta name
      else e.leave name := by
  unfold addMeta
  by_cases hm : e.metaName = ""
  · have hne : name ≠ e.metaName := fun h => hn (h.trans hm)
    rw [if_pos hm, if_neg hne, if_pos (Or.inl hm)]
    unfold withMeta
    rw [hm, passed_empty]
  · rw [if_neg hm]
    by_cases he : e.metaName = name
    · rw [if_pos he, if_pos he.symm]
    · have hne : name ≠ e.metaName := fun h => he h.symm
      rw [if_neg he, if_neg hne]
      by_cases hb : FileName.isBetterName e.metaName name = true
      · have hlt := (FileName.isBetterName_iff _ _).mp hb
        rw [if_pos hb, if_pos (Or.inr hlt), passOver_fst _ hm]
        rfl
      · have hle := fun hlt => hb ((FileName.isBetterName_iff _ _).mpr hlt)
        rw [if_neg hb, if_neg (not_or.mpr ⟨hm, hle⟩), passOver_fst _ hn]

theorem hasMetaInContent_iff (e : Entry) :
    e.hasMetaInContent = true ↔ e.contentExt = zettelExt :=
  beq_iff_eq

/-- The first file for the content needs no comparison. -/
theorem addContent_fst_of_none (hc : e.contentName = "") (ext : String)
    (hx : FileName.ext name = ext) : (e.addContent name ext).1 = e.withContent name := by
  subst hx
  unfold addContent withContent
  rw [if_pos hc, hc, passed_empty]
  by_cases hz : FileName.ext name = zettelExt
  · rw [if_pos hz, if_pos hz, dropMeta_fst]
    rfl
  · rw [if_neg hz, if_neg hz]

theorem addContent_fst_of_ext_eq (hext : e.contentExt = FileName.ext e.contentName)
    (hmeta : e.hasMetaInContent = true → e.metaName = "") (hn : name ≠ "")
    (hc : e.contentName ≠ "") (he : e.contentName ≠ name) (hx : e.contentExt = FileName.ext name) :
    (e.addContent name (FileName.ext name)).1 =
      if contentRank name < contentRank e.contentName then e.withContent name
      else e.leave name := by
  -- Files of one extension differ in the rank of their names only.
  have hr : contentRank name < contentRank e.contentName ↔
      FileName.isBetterName e.contentName name = true := by
    rw [FileName.isBetterName_iff]
    exact FileName.contentRank_lt_of_ext_eq (hx.symm.trans hext)
  unfold addContent
  rw [if_neg hc, if_neg he, if_pos hx]
  by_cases hb : FileName.isBetterName e.contentName name = true
  · rw [if_pos hb, if_pos (hr.mpr hb), passOver_fst _ hc]
    unfold withContent
    by_cases hz : FileName.ext name = zettelExt
    · have hm := hmeta ((hasMetaInContent_iff e).mpr (hx.trans hz))
      rw [if_pos hz, hm, passed_empty, ← hx, ← hm]
      rfl
    · rw [if_neg hz, ← hx]
      rfl
  · rw [if_neg hb, if_neg (fun h => hb (hr.mp h)), passOver_fst _ hn]

theorem addContent_fst_of_ext_ne (hext : e.contentExt = FileName.ext e.contentName)
    (hn : name ≠ "") (hc : e.contentName ≠ "") (hx : e.contentExt ≠ FileName.ext name) :
    (e.addContent name (FileName.ext name)).1 =
      if contentRank name < contentRank e.contentName then e.withContent name
      else e.leave name := by
  have he : e.contentName ≠ name := fun h => hx (h ▸ hext)
  unfold addContent
  rw [if_neg hc, if_neg he, if_neg hx]
  by_cases hz : e.hasMetaInContent = true
  · -- Of the two, only the content that is there comes with its metadata.
    have hzx := (hasMetaInContent_iff e).mp hz
    have hlt := FileName.contentRank_lt_of_zettel (hext.symm.trans hzx)
      (fun h => hx (hzx.trans h.symm))
    rw [if_pos hz, if_neg (lt_asymm hlt), passOver_fst _ hn]
  have hzx : FileName.ext e.contentName ≠ zettelExt := fun h =>
    hz ((hasMetaInContent_iff e).mpr (hext.trans h))
  rw [if_neg hz]
  by_cases hzn : FileName.ext name = zettelExt
  · -- Of the two, only the new file comes with its metadata.
    have hlt := FileName.contentRank_lt_of_zettel hzn hzx
    rw [if_pos hzn, if_pos hlt]
    dsimp only
    rw [dropMeta_fst, passOver_fst _ hc]
    unfold withContent
    rw [if_pos hzn]
    rfl
  have hr : contentRank name < contentRank e.contentName ↔
      FileName.isBetterExt e.contentExt (FileName.ext name) = true := by
    rw [FileName.isBetterExt_iff, hext]
    exact FileName.contentRank_lt_of_ext_ne (fun h => hx (hext.trans h.symm)) hzn hzx
  rw [if_neg hzn]
  by_cases hb : FileName.isBetterExt e.contentExt (FileName.ext name) = true
  · rw [if_pos hb, if_pos (hr.mpr hb), passOver_fst _ hc]
    unfold withContent
    rw [if_neg hzn]
    rfl
  · rw [if_neg hb, if_neg (fun h => hb (hr.mp h)), passOver_fst _ hn]

/-- A file for the content is compared by its rank with the content there is. -/
theorem addContent_fst (hext : e.contentExt = FileName.ext e.contentName)
    (hmeta : e.hasMetaInContent = true → e.metaName = "") (hn : name ≠ "") :
    (e.addContent name (FileName.ext name)).1 =
      if name = e.contentName then e
      else if e.contentName = "" ∨ contentRank name < contentRank e.contentName then
        e.withContent name
      else e.leave name := by
  by_cases hc : e.contentName = ""
  · have hne : name ≠ e.contentName := fun h => hn (h.trans hc)
    rw [addContent_fst_of_none hc _ rfl, if_neg hne, if_pos (Or.inl hc)]
  by_cases he : name = e.contentName
  · unfold addContent
    rw [if_neg hc, if_pos he.symm, if_pos he]
  have hw : (e.contentName = "" ∨ contentRank name < contentRank e.contentName) =
      (contentRank name < contentRank e.contentName) := by
    simp [hc]
  rw [if_neg he]
  simp only [hw]
  by_cases hx : e.contentExt = FileName.ext name
  · exact addContent_fst_of_ext_eq hext hmeta hn hc (fun h => he h.symm) hx
  · exact addContent_fst_of_ext_ne hext hn hc hx

theorem add_fst_of_meta (hn : name ≠ "") (hm : isMetaFile name = true)
    (hz : e.hasMetaInContent = false) :
    (e.add name).1 =
      if name = e.metaName then e
      else if e.metaName = "" ∨ nameRank name < nameRank e.metaName then e.withMeta name
      else e.leave name := by
  have hc : (!e.hasMetaInContent && isMetaFile name) = true := by
    rw [hz, hm]
    rfl
  rw [← addMeta_fst e hn]
  exact congrArg Prod.fst (if_pos hc)

theorem add_fst_of_content (hext : e.contentExt = FileName.ext e.contentName)
    (hmeta : e.hasMetaInContent = true → e.metaName = "") (hn : name ≠ "")
    (hm : ¬ (isMetaFile name = true ∧ e.hasMetaInContent = false)) :
    (e.add name).1 =
      if name = e.contentName then e
      else if e.contentName = "" ∨ contentRank name < contentRank e.contentName then
        e.withContent name
      else e.leave name := by
  have hc : ¬ (!e.hasMetaInContent && isMetaFile name) = true := by
    intro h
    rw [Bool.and_eq_true, Bool.not_eq_true'] at h
    exact hm ⟨h.2, h.1⟩
  rw [← addContent_fst hext hmeta hn]
  exact congrArg Prod.fst (if_neg hc)

end Kasten.Entry
