import Kasten.Proofs.Entry.Names

/-!
# The files of a new zettel

A new zettel gets a content file named after its syntax and, unless that has the metadata too, a
metadata file named by the identifier alone. The extension of the content tells whether the files
are seen when the directory is listed, and whether they play the same parts when they are sorted
again.
-/

namespace Kasten

/-! ## 1. Endings of names -/

namespace Text

variable {s part : String} {c : Char}

theorem mem_of_occurs {needle cs : List Char} (h : occurs needle cs = true) (hc : c ∈ needle) :
    c ∈ cs := by
  induction cs with
  | nil =>
    rw [List.isEmpty_iff.mp h] at hc
    exact hc
  | cons d cs ih =>
    rcases Bool.or_eq_true _ _ ▸ h with hstart | hlater
    · exact (List.isPrefixOf_iff_prefix.mp hstart).subset hc
    · exact List.mem_cons_of_mem d (ih hlater)

theorem endsWith_eq_false (hc : c ∈ part.toList) (hs : c ∉ s.toList) : endsWith s part = false := by
  apply eq_false_of_ne_true
  intro h
  exact hs ((List.isSuffixOf_iff_suffix.mp h).subset hc)

theorem holds_eq_false (hc : c ∈ part.toList) (hs : c ∉ s.toList) : holds s part = false := by
  apply eq_false_of_ne_true
  intro h
  exact hs (mem_of_occurs h hc)

end Text

namespace FileName

variable {z : Zid} {ext last part : String}

theorem afterLastStop_append (front : List Char) {last : List Char} (h : '.' ∉ last) :
    afterLastStop (front ++ '.' :: last) = some last := by
  have hstop : (front ++ '.' :: last).contains '.' = true :=
    List.contains_iff_mem.mpr (List.mem_append_right front List.mem_cons_self)
  have hlast : ∀ c ∈ last.reverse, decide (c ≠ '.') = true := by
    intro c hc
    rw [decide_eq_true_iff]
    rintro rfl
    exact h (List.mem_reverse.mp hc)
  unfold afterLastStop
  rw [if_pos hstop, List.reverse_append, List.reverse_cons, List.append_assoc,
    List.takeWhile_append_of_pos hlast, List.singleton_append,
    List.takeWhile_cons_of_neg (by decide), List.append_nil, List.reverse_reverse]

/-- Of what ends in a full stop and an extension, the extension is known. -/
theorem endsWith_text_append (hext : '.' ∉ ext.toList) (hlast : '.' ∉ last.toList)
    (hpart : part.toList = '.' :: last.toList) :
    Text.endsWith (z.text ++ "." ++ ext) part = true ↔ ext = last := by
  unfold Text.endsWith
  rw [List.isSuffixOf_iff_suffix, hpart, toList_text_append]
  constructor
  · rintro ⟨front, heq⟩
    -- What is behind the last full stop is the same on both sides.
    have hstop := congrArg afterLastStop heq
    rw [afterLastStop_append _ hlast, afterLastStop_append _ hext] at hstop
    exact (String.toList_inj.mp (Option.some.inj hstop)).symm
  · rintro rfl
    exact List.suffix_append _ _

/-! ## 2. What is seen of a name -/

/-- What is made from a syntax: lower-case letters, digits and hyphens. -/
structure IsExtension (ext : String) : Prop where
  ne_empty : ext ≠ ""
  not_mem : ∀ c, (Text.isAsciiLetter c || Text.isAsciiDigit c || c == '-') = false → c ∉ ext.toList
  lower : ext.toList.map Text.lowerAscii = ext.toList

theorem isExtension_extOfSyntax (name : String) (yamlSep : Bool) (zettelSyntaxes : List String) :
    IsExtension (extOfSyntax name yamlSep zettelSyntaxes) where
  ne_empty := extOfSyntax_ne_empty name yamlSep zettelSyntaxes
  not_mem _ hc := not_mem_extOfSyntax hc name yamlSep zettelSyntaxes
  lower := lowerAscii_extOfSyntax name yamlSep zettelSyntaxes

theorem IsExtension.stop (h : IsExtension ext) : '.' ∉ ext.toList := h.not_mem '.' (by decide)

theorem dropOctets_digits {digits : List Char} (h : ∀ c ∈ digits, Text.isAsciiDigit c = true)
    (rest : List Char) : dropOctets digits.length (digits ++ rest) = rest := by
  induction digits with
  | nil => rw [List.length_nil, List.nil_append, dropOctets]
  | cons c digits ih =>
    have hn := Text.isAsciiDigit_iff.mp (h c List.mem_cons_self)
    have hval : c.val.toNat ≤ 127 := Nat.le_trans hn.2 (by decide)
    have hsize : c.utf8Size = 1 := Char.utf8Size_eq_one_iff.mpr (UInt32.le_iff_toNat_le.mpr hval)
    rw [List.length_cons, List.cons_append, dropOctets, hsize, if_pos (by omega)]
    exact ih fun d hd => h d (List.mem_cons_of_mem c hd)

theorem dropOctets_width (hz : z.isValid = true) (rest : List Char) :
    dropOctets Zid.width (z.digits ++ rest) = rest := by
  rw [← Zid.length_digits hz]
  exact dropOctets_digits (fun c hc => Zid.isAsciiDigit_of_mem_digits hc) rest

theorem ext_text (hz : z.isValid = true) : FileName.ext z.text = "" := by
  have hdrop := dropOctets_width hz []
  rw [List.append_nil] at hdrop
  unfold FileName.ext Zid.text
  rw [String.toList_ofList, hdrop]
  rfl

theorem ext_text_append (hz : z.isValid = true) (hext : IsExtension ext) :
    FileName.ext (z.text ++ "." ++ ext) = ext := by
  have hlast : afterLastStop ('.' :: ext.toList) = some ext.toList :=
    afterLastStop_append [] hext.stop
  unfold FileName.ext
  rw [toList_text_append, dropOctets_width hz, hlast]
  dsimp only
  rw [hext.lower, String.ofList_toList]

theorem isLeftover_text (z : Zid) : isLeftover z.text = false := by
  have hdigits : ∀ c, Text.isAsciiDigit c = false → c ∉ z.text.toList := by
    intro c hc hmem
    rw [Zid.text, String.toList_ofList] at hmem
    exact Bool.false_ne_true (hc.symm.trans (Zid.isAsciiDigit_of_mem_digits hmem))
  have hstop := hdigits '.' (by decide)
  unfold isLeftover
  rw [Text.endsWith_eq_false (by decide) (hdigits '~' (by decide)),
    Text.endsWith_eq_false (by decide) hstop, Text.endsWith_eq_false (by decide) hstop,
    Text.holds_eq_false (by decide) hstop]
  rfl

theorem isLeftover_text_append (hext : IsExtension ext) :
    isLeftover (z.text ++ "." ++ ext) = true ↔ ext = "swp" ∨ ext = "swx" := by
  -- Of the marks of editors only the full stop can be in such a name.
  have hother : ∀ c, (Text.isAsciiLetter c || Text.isAsciiDigit c || c == '-') = false → c ≠ '.' →
      c ∉ (z.text ++ "." ++ ext).toList := by
    intro c hc hne hmem
    rw [toList_text_append, List.mem_append, List.mem_cons] at hmem
    rcases hmem with hmem | hmem | hmem
    · rw [Zid.isAsciiDigit_of_mem_digits hmem, Bool.or_true, Bool.true_or] at hc
      exact Bool.noConfusion hc
    · exact hne hmem
    · exact hext.not_mem c hc hmem
  have htilde : Text.endsWith (z.text ++ "." ++ ext) "~" = false :=
    Text.endsWith_eq_false (by decide) (hother '~' (by decide) (by decide))
  have hhash : Text.holds (z.text ++ "." ++ ext) ".#" = false :=
    Text.holds_eq_false (by decide) (hother '#' (by decide) (by decide))
  unfold isLeftover
  rw [htilde, hhash, Bool.or_false, Bool.false_or, Bool.or_eq_true]
  exact or_congr (endsWith_text_append hext.stop (by decide) (by decide))
    (endsWith_text_append hext.stop (by decide) (by decide))

theorem ofFileName_text (hz : z.isValid = true) : Zid.ofFileName z.text = z := by
  have hdigits := Zid.ofFileName_digits hz []
  rwa [List.append_nil] at hdigits

theorem ofFileName_text_append (hz : z.isValid = true) (ext : String) :
    Zid.ofFileName (z.text ++ "." ++ ext) = z := by
  have hdigits := Zid.ofFileName_digits hz ('.' :: ext.toList)
  rwa [← toList_text_append, String.ofList_toList] at hdigits

theorem isZettelFile_text (hz : z.isValid = true) : isZettelFile z.text = true := by
  unfold isZettelFile
  rw [ofFileName_text hz, hz, isLeftover_text]
  rfl

theorem isZettelFile_text_append (hz : z.isValid = true) (hext : IsExtension ext) :
    isZettelFile (z.text ++ "." ++ ext) = true ↔ ext ≠ "swp" ∧ ext ≠ "swx" := by
  unfold isZettelFile
  rw [ofFileName_text_append hz, hz, Bool.true_and, Bool.not_eq_true', ← Bool.not_eq_true,
    isLeftover_text_append hext, not_or]

end FileName

/-! ## 3. The files of a new zettel -/

namespace Entry

open FileName (IsExtension isZettelFile isMetaFile zettelExt metaExt)

/-- The entry of a new zettel whose content has the extension. -/
def layout (z : Zid) (ext : String) : Entry :=
  ⟨z, if ext = zettelExt then "" else z.text, z.text ++ "." ++ ext, ext, []⟩

variable {z : Zid} {e e' : Entry} {ext n : String} {files : List String}

theorem prepare_new (z : Zid) (m : Meta) (zettelSyntaxes : List String) :
    (new z).prepare m zettelSyntaxes =
      layout z (FileName.extOfSyntax (m.getD Key.syntaxName Meta.defaultSyntax) m.yamlSep
        zettelSyntaxes) := by
  have hnone : ¬ (new z).contentName ≠ "" := not_not_intro rfl
  unfold prepare layout
  rw [if_neg hnone]
  dsimp only
  split
  next => rfl
  next => rfl

theorem exists_layout (z : Zid) (m : Meta) (zettelSyntaxes : List String) :
    ∃ ext, IsExtension ext ∧ (new z).prepare m zettelSyntaxes = layout z ext :=
  ⟨_, FileName.isExtension_extOfSyntax _ _ _, prepare_new z m zettelSyntaxes⟩

theorem text_ne_empty (z : Zid) : z.text ≠ "" := (FileName.isName_text z).ne_empty

theorem content_ne_empty (z : Zid) (ext : String) : z.text ++ "." ++ ext ≠ "" := by
  intro hempty
  have hlist := congrArg String.toList hempty
  rw [FileName.toList_text_append] at hlist
  exact List.append_ne_nil_of_right_ne_nil _ (List.cons_ne_nil _ _) hlist

theorem metaName_layout (h : ext ≠ zettelExt) : (layout z ext).metaName = z.text := if_neg h

theorem mem_files_layout :
    n ∈ (layout z ext).files ↔ n = z.text ++ "." ++ ext ∨ ext ≠ zettelExt ∧ n = z.text := by
  unfold files layout
  rw [if_neg (content_ne_empty z ext), List.append_nil, List.singleton_append, List.mem_cons]
  by_cases hext : ext = zettelExt
  · rw [if_pos hext, if_pos rfl]
    simp [hext]
  · rw [if_neg hext, if_neg (text_ne_empty z), List.mem_singleton]
    simp [hext]

theorem mem_files_layout_iff :
    n ∈ (layout z ext).files ↔ n = (layout z ext).contentName ∨
      (layout z ext).hasMetaInContent = false ∧ n = (layout z ext).metaName := by
  have hapart : (layout z ext).hasMetaInContent = false ↔ ext ≠ zettelExt := beq_eq_false_iff_ne
  rw [mem_files_layout, hapart]
  refine or_congr_right (and_congr_right fun hne => ?_)
  rw [metaName_layout hne]

theorem empty_not_mem_files_layout : "" ∉ (layout z ext).files := by
  rw [mem_files_layout]
  rintro (hempty | ⟨-, hempty⟩)
  · exact content_ne_empty z ext hempty.symm
  · exact text_ne_empty z hempty.symm

theorem isZettelFile_files_layout (hz : z.isValid = true) (hext : IsExtension ext) :
    (∀ n ∈ (layout z ext).files, isZettelFile n = true) ↔ ext ≠ "swp" ∧ ext ≠ "swx" := by
  rw [← FileName.isZettelFile_text_append hz hext]
  constructor
  · intro hall
    exact hall _ (mem_files_layout.mpr (.inl rfl))
  · intro hcontent n hn
    rcases mem_files_layout.mp hn with rfl | ⟨-, rfl⟩
    · exact hcontent
    · exact FileName.isZettelFile_text hz

theorem ofFileName_of_mem_files_layout (hz : z.isValid = true) (hn : n ∈ (layout z ext).files) :
    Zid.ofFileName n = z := by
  rcases mem_files_layout.mp hn with rfl | ⟨-, rfl⟩
  · exact FileName.ofFileName_text_append hz ext
  · exact FileName.ofFileName_text hz

theorem isMetaFile_text (hz : z.isValid = true) : isMetaFile z.text = true :=
  FileName.isMetaFile_iff.mpr (.inl (FileName.ext_text hz))

theorem arranges_layout (hz : z.isValid = true) (hext : IsExtension ext) (hmeta : ext ≠ metaExt) :
    (layout z ext).Arranges (layout z ext).files.toFinset := by
  have hcontent : isMetaFile (z.text ++ "." ++ ext) = false := by
    rw [FileName.isMetaFile_eq_false_iff, FileName.ext_text_append hz hext]
    exact ⟨hext.ne_empty, hmeta⟩
  have hmem : z.text ++ "." ++ ext ∈ (layout z ext).files.toFinset :=
    List.mem_toFinset.mpr (mem_files_layout.mpr (.inl rfl))
  -- There are two files at most, and they have different parts, so neither is passed over.
  refine ⟨?_, (FileName.ext_text_append hz hext).symm, ⟨fun _ => ⟨hmem, hcontent⟩, ?_⟩, ⟨?_, ?_⟩,
    List.nodup_nil, ?_⟩
  · exact fun hempty => empty_not_mem_files_layout (List.mem_toFinset.mp hempty)
  · intro n hn hfree
    rcases mem_files_layout.mp (List.mem_toFinset.mp hn) with rfl | ⟨-, rfl⟩
    · exact ⟨content_ne_empty z ext, le_refl _⟩
    · exact Bool.noConfusion ((isMetaFile_text hz).symm.trans hfree)
  · intro hm
    have hapart : ext ≠ zettelExt := fun hz => hm (if_pos hz)
    rw [metaName_layout hapart]
    exact ⟨List.mem_toFinset.mpr (mem_files_layout.mpr (.inr ⟨hapart, rfl⟩)), isMetaFile_text hz,
      beq_eq_false_iff_ne.mpr hapart⟩
  · intro n hn hfree
    have hapart : ext ≠ zettelExt := beq_eq_false_iff_ne.mp hfree.2
    rw [metaName_layout hapart]
    rcases mem_files_layout.mp (List.mem_toFinset.mp hn) with rfl | ⟨-, rfl⟩
    · exact Bool.noConfusion (hcontent.symm.trans hfree.1)
    · exact ⟨text_ne_empty z, le_refl _⟩
  · intro n
    constructor
    · exact fun hn => absurd hn List.not_mem_nil
    · rintro ⟨hn, hc, hm⟩
      rcases mem_files_layout.mp (List.mem_toFinset.mp hn) with rfl | ⟨hapart, rfl⟩
      · exact absurd rfl hc
      · exact absurd (metaName_layout hapart).symm hm

/-- An entry that has passed over no file is known by the parts that its files play. -/
theorem Alike.eq (h : e.Alike e') (hu : e'.useless = []) : e = e' := by
  have huseless : e.useless = [] := List.Perm.eq_nil (hu ▸ h.useless)
  cases e
  cases e'
  cases h.zid
  cases h.metaName
  cases h.contentName
  cases h.contentExt
  cases hu
  cases huseless
  rfl

/-- Whoever sorts just these files, in whatever order, gets the entry they were made for. -/
theorem addAll_layout (hz : z.isValid = true) (hext : IsExtension ext) (hmeta : ext ≠ metaExt)
    (hfiles : ∀ n, n ∈ files ↔ n ∈ (layout z ext).files) :
    (new z).addAll files = layout z ext := by
  have hlayout := arranges_layout hz hext hmeta
  -- The files decide on the entry, whatever their order, and the layout is one that they allow.
  have hset : ∅ ∪ files.toFinset = (layout z ext).files.toFinset := by
    ext n
    rw [Finset.empty_union, List.mem_toFinset, List.mem_toFinset, hfiles]
  have hempty : "" ∉ files := fun hin => empty_not_mem_files_layout ((hfiles "").mp hin)
  have hfold := (Arranges.new z).addAll files hempty
  rw [hset] at hfold
  exact (hfold.alike hlayout (zid_addAll (new z) files)).eq rfl

/-- Content named like a metadata file is not found again. -/
theorem contentName_addAll_layout_meta (hz : z.isValid = true) (hext : IsExtension metaExt) :
    ((new z).addAll (layout z metaExt).files).contentName = "" := by
  have hfold := (Arranges.new z).addAll (layout z metaExt).files
    empty_not_mem_files_layout
  -- Both files count as metadata, so no content can have been found.
  apply hfold.content.eq_empty
  intro n hn hfree
  rw [Finset.empty_union, List.mem_toFinset, mem_files_layout] at hn
  have hall : isMetaFile n = true := by
    rcases hn with rfl | ⟨-, rfl⟩
    · exact FileName.isMetaFile_iff.mpr (.inr (FileName.ext_text_append hz hext))
    · exact isMetaFile_text hz
  exact Bool.noConfusion (hall.symm.trans hfree)

theorem addAll_layout_iff (hz : z.isValid = true) (hext : IsExtension ext) :
    (∀ files : List String, files.Perm (layout z ext).files → (new z).addAll files = layout z ext) ↔
      ext ≠ metaExt := by
  constructor
  · rintro hall rfl
    have hcontent := congrArg Entry.contentName (hall _ (.refl _))
    rw [contentName_addAll_layout_meta hz hext] at hcontent
    exact content_ne_empty z metaExt hcontent.symm
  · intro hmeta files hperm
    exact addAll_layout hz hext hmeta fun n => hperm.mem_iff

end Entry

end Kasten
