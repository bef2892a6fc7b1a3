import Kasten.Proofs.Entry.Arrangement
import Kasten.Proofs.Entry.FileName

/-!
# The names in an entry

However an entry came about, its files are named by what was seen in the directory or by the entry
itself, so each stands in the directory, and the content file has the extension that is noted of it.
When a zettel is about to be written, there is a name for its content, and one for its metadata
unless both share a file.
-/

namespace Kasten

open Disk (IsName)
open FileName (EndsIn IsContent)

namespace Entry

/-! ## 1. How entries come about -/

inductive Arisen : Zid → Entry → Prop where
  | reserved (z : Zid) : Arisen z (new z)
  | appeared {z : Zid} {e : Entry} {name : String} (h : Arisen z e) (hz : Zid.ofFileName name = z)
      (hv : z.isValid = true) (hname : '/' ∉ name.toList) : Arisen z (e.add name).1
  | vanished {z : Zid} {e : Entry} (h : Arisen z e) (name : String) : Arisen z (e.remove name).1
  | prepared {z : Zid} {e : Entry} (h : Arisen z e) (m : Meta) (zettelSyntaxes : List String) :
      Arisen z (e.prepare m zettelSyntaxes)
  | renamed {z : Zid} {e : Entry} (h : Arisen z e) (new : Zid) : Arisen new (e.renamed new)

/-- Every name in the entry can stand in a directory, and the content file has its extension. -/
structure Named (e : Entry) : Prop where
  content : e.contentName ≠ "" → IsContent e.contentName e.contentExt
  contentExt : e.contentName = "" → e.contentExt = ""
  metadata : e.metaName ≠ "" → IsName e.metaName
  useless : ∀ n ∈ e.useless, IsName n

variable {e : Entry} {name ext : String} {z : Zid}

namespace Named

theorem new (z : Zid) : (Entry.new z).Named where
  content h := absurd rfl h
  contentExt _ := rfl
  metadata h := absurd rfl h
  useless _ hn := absurd hn List.not_mem_nil

theorem passOver (h : e.Named) (hname : IsName name) : (e.passOver name).1.Named := by
  unfold Entry.passOver
  split
  next => exact h
  next =>
    refine ⟨h.content, h.contentExt, h.metadata, ?_⟩
    intro n hn
    rcases List.mem_append.mp hn with hn | hn
    · exact h.useless n hn
    · exact List.mem_singleton.mp hn ▸ hname

theorem withMeta (h : e.Named) (hname : name ≠ "" → IsName name) :
    ({ e with metaName := name } : Entry).Named :=
  ⟨h.content, h.contentExt, hname, h.useless⟩

theorem withoutMeta (h : e.Named) : ({ e with metaName := "" } : Entry).Named :=
  h.withMeta fun hne => absurd rfl hne

theorem withContent (h : e.Named) (hname : IsContent name ext) :
    ({ e with contentName := name, contentExt := ext } : Entry).Named :=
  ⟨fun _ => hname, fun hempty => absurd hempty hname.isName.ne_empty, h.metadata, h.useless⟩

theorem withoutContent (h : e.Named) :
    ({ e with contentName := "", contentExt := "" } : Entry).Named :=
  ⟨fun hne => absurd rfl hne, fun _ => rfl, h.metadata, h.useless⟩

theorem dropMeta (h : e.Named) : e.dropMeta.1.Named := by
  unfold Entry.dropMeta
  split
  next => exact h
  next hm => exact h.withoutMeta.passOver (h.metadata hm)

theorem addMeta (h : e.Named) (hname : IsName name) : (e.addMeta name).1.Named := by
  unfold Entry.addMeta
  split
  next => exact h.withMeta fun _ => hname
  next hm =>
    split
    next => exact h
    next =>
      split
      next => exact (h.withMeta fun _ => hname).passOver (h.metadata hm)
      next => exact h.passOver hname

/-- Content without an extension comes only after content with metadata, and is passed over. -/
theorem addContent (h : e.Named) (hname : IsName name) (hends : ext ≠ "" → EndsIn name ext)
    (hext : e.hasMetaInContent = false → ext ≠ "") : (e.addContent name ext).1.Named := by
  have hcontent : ext ≠ "" → IsContent name ext := fun hne => ⟨hname, hends hne⟩
  have hnew : ext ≠ "" → ({ e with contentName := name, contentExt := ext } : Entry).Named :=
    fun hne => h.withContent (hcontent hne)
  unfold Entry.addContent
  split
  next hc =>
    have hfree : e.hasMetaInContent = false := by
      unfold hasMetaInContent
      rw [h.contentExt hc]
      decide
    dsimp only
    split
    · exact (hnew (hext hfree)).dropMeta
    · exact hnew (hext hfree)
  next hc =>
    have hold := h.content hc
    -- The file is the one there is, or has its extension, or another that is better or worse.
    split_ifs with hsame hexts _ hz hnewz
    · exact h
    · have hne : ext ≠ "" := hexts ▸ hold.endsIn.1
      exact (h.withContent (hexts ▸ hcontent hne)).passOver hold.isName
    · exact h.passOver hname
    · exact h.passOver hname
    · exact ((hnew (hext (eq_false_of_ne_true hz))).passOver hold.isName).dropMeta
    · exact (hnew (hext (eq_false_of_ne_true hz))).passOver hold.isName
    · exact h.passOver hname

theorem add (h : e.Named) (hname : IsName name) : (e.add name).1.Named := by
  unfold Entry.add
  dsimp only
  split
  next => exact h.addMeta hname
  next hrole =>
    refine h.addContent hname FileName.endsIn_ext ?_
    -- A file without extension holds metadata, unless the content comes with it.
    intro hfree hempty
    apply hrole
    rw [hfree, hempty]
    rfl

theorem addAll {names : List String} (h : e.Named) (hnames : ∀ n ∈ names, IsName n) :
    (e.addAll names).Named := by
  induction names generalizing e with
  | nil => exact h
  | cons name rest ih =>
    have hfirst := h.add (hnames name List.mem_cons_self)
    exact ih hfirst fun n hn => hnames n (List.mem_cons_of_mem name hn)

theorem reconsider (h : e.Named) : e.reconsider.1.Named := by
  have hbare : ({ e with useless := [] } : Entry).Named :=
    ⟨h.content, h.contentExt, h.metadata, fun n hn => absurd hn List.not_mem_nil⟩
  exact hbare.addAll h.useless

theorem remove (h : e.Named) (name : String) : (e.remove name).1.Named := by
  unfold Entry.remove
  split_ifs
  · exact ⟨h.content, h.contentExt, h.metadata,
      fun n hn => h.useless n (List.mem_of_mem_erase hn)⟩
  · exact h.withoutContent.reconsider
  · exact h.withoutMeta.reconsider
  · exact h

theorem renamed (h : e.Named) (new : Zid) : (e.renamed new).Named := by
  -- Renaming makes no name out of none.
  have hne : ∀ name : String, FileName.rename name e.zid new ≠ "" → name ≠ "" := by
    rintro name hname rfl
    exact hname (FileName.rename_empty e.zid new)
  refine ⟨?_, ?_, ?_, fun n hn => absurd hn List.not_mem_nil⟩
  · intro hc
    have hold := h.content (hne e.contentName hc)
    exact ⟨FileName.isName_rename hold.isName e.zid new, hold.endsIn.rename e.zid new⟩
  · intro hc
    apply h.contentExt
    by_contra hold
    exact (FileName.isName_rename (h.content hold).isName e.zid new).ne_empty hc
  · intro hm
    exact FileName.isName_rename (h.metadata (hne e.metaName hm)) e.zid new

theorem prepare (h : e.Named) (m : Meta) (zettelSyntaxes : List String) :
    (e.prepare m zettelSyntaxes).Named := by
  have hnew : ∀ z : Zid, _ := fun z => FileName.isContent_text_append z
    (m.getD Key.syntaxName Meta.defaultSyntax) m.yamlSep zettelSyntaxes
  unfold Entry.prepare
  split
  next hc =>
    split
    next => exact h.withMeta fun _ => FileName.isName_base (h.content hc).isName e.contentExt
    next => exact h
  next =>
    dsimp only
    split
    next => exact h.dropMeta.withContent (hnew _)
    next =>
      split
      next => exact (h.withMeta fun _ => FileName.isName_text e.zid).withContent (hnew _)
      next => exact h.withContent (hnew _)

end Named

theorem zid_prepare (e : Entry) (m : Meta) (zettelSyntaxes : List String) :
    (e.prepare m zettelSyntaxes).zid = e.zid := by
  unfold prepare
  dsimp only
  split_ifs <;> simp only [zid_dropMeta]

theorem Arisen.zid (h : Arisen z e) : e.zid = z := by
  induction h with
  | reserved z => rfl
  | appeared h hz hv hname ih => rw [zid_add, ih]
  | vanished h name ih => rw [zid_remove, ih]
  | prepared h m zettelSyntaxes ih => rw [zid_prepare, ih]
  | renamed h new ih => rfl

/-- The same, told of the entry's own zettel. -/
theorem Arisen.own (h : Arisen z e) : Arisen e.zid e :=
  h.zid.symm ▸ h

theorem Arisen.named (h : Arisen z e) : e.Named := by
  induction h with
  | reserved z => exact .new z
  | appeared h hz hv hname ih => exact ih.add (FileName.isName_of_isValid (hz ▸ hv) hname)
  | vanished h name ih => exact ih.remove name
  | prepared h m zettelSyntaxes ih => exact ih.prepare m zettelSyntaxes
  | renamed h new ih => exact ih.renamed new

/-! ## 2. Names to write to -/

/-- The entry has the names that its zettel is written to. -/
structure Ready (e : Entry) : Prop where
  content : IsName e.contentName
  metadata : e.hasMetaInContent = false → IsName e.metaName

/-- The entry names one file for the content and for metadata of its own. -/
structure SharesName (e : Entry) : Prop where
  apart : e.hasMetaInContent = false
  content : e.contentName ≠ ""
  same : e.metaName = e.contentName

variable (m : Meta) (zettelSyntaxes : List String)

theorem Named.ready_prepare (h : e.Named) : (e.prepare m zettelSyntaxes).Ready := by
  have hnew : ∀ z : Zid, _ := fun z => FileName.isContent_text_append z
    (m.getD Key.syntaxName Meta.defaultSyntax) m.yamlSep zettelSyntaxes
  unfold Entry.prepare
  split
  next hc =>
    -- A content file stays, and metadata that has no file gets one beside it.
    have hname := (h.content hc).isName
    split
    next => exact ⟨hname, fun _ => FileName.isName_base hname e.contentExt⟩
    next hfree =>
      refine ⟨hname, fun hz => h.metadata fun hm => hfree ?_⟩
      rw [hz, hm]
      rfl
  next =>
    dsimp only
    split
    next hz =>
      refine ⟨(hnew _).isName, ?_⟩
      intro hapart
      exact absurd (beq_iff_eq.mpr hz) (ne_true_of_eq_false hapart)
    next =>
      split
      next => exact ⟨(hnew _).isName, fun _ => FileName.isName_text e.zid⟩
      next hm => exact ⟨(hnew _).isName, fun _ => h.metadata hm⟩

/-- A name comes to be shared only if the new content is named like the metadata file there is. -/
theorem Named.sharesName_of_prepare (h : e.Named) (hs : (e.prepare m zettelSyntaxes).SharesName) :
    e.SharesName ∨
      e.contentName = "" ∧ e.metaName = (e.prepare m zettelSyntaxes).contentName := by
  -- Names that are made for metadata lack the extension, so they differ from those of content.
  unfold Entry.prepare at hs ⊢
  split at hs
  next hc =>
    rw [if_pos hc]
    split at hs
    next => exact absurd hs.same (h.content hc).endsIn.base_ne
    next => exact .inl hs
  next hc =>
    rw [if_neg hc]
    dsimp only at hs ⊢
    split at hs
    next hz => exact absurd (beq_iff_eq.mpr hz) (ne_true_of_eq_false hs.apart)
    next hz =>
      split at hs
      next => exact absurd hs.same (FileName.text_ne_text_append e.zid _)
      next hm =>
        rw [if_neg hz, if_neg hm]
        exact .inr ⟨Decidable.not_not.mp hc, hs.same⟩

theorem not_sharesName_prepare_new (z : Zid) :
    ¬ ((new z).prepare m zettelSyntaxes).SharesName := by
  intro hs
  rcases (Named.new z).sharesName_of_prepare m zettelSyntaxes hs with hold | hold
  · exact hold.content rfl
  · exact hs.content hold.2.symm

end Entry

end Kasten
