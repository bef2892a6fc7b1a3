import Kasten.Proofs.Entry.Layout

/-!
# The files of one zettel

A file belongs to the zettel whose digits are in front of its name. The names that an entry makes
up belong to its zettel again, and whether a file is seen in a listing does not depend on the digits
in front.
-/

namespace Kasten

/-! ## 1. Names that start with digits -/

namespace Text

variable {front back : List Char} {part : String} {c : Char} {rest : List Char}

theorem endsWith_append (hpart : part.toList = c :: rest) (hc : c ∉ front) :
    endsWith (String.ofList (front ++ back)) part = endsWith (String.ofList back) part := by
  unfold endsWith
  rw [Bool.eq_iff_iff, List.isSuffixOf_iff_suffix, List.isSuffixOf_iff_suffix,
    String.toList_ofList, String.toList_ofList]
  constructor
  · intro h
    by_cases hlength : part.toList.length ≤ back.length
    · exact List.suffix_of_suffix_length_le h (List.suffix_append front back) hlength
    · -- A longer text would start among what is in front.
      have hback : back <:+ part.toList :=
        List.suffix_of_suffix_length_le (List.suffix_append front back) h (by omega)
      rcases hback with ⟨more, hmore⟩
      rcases h with ⟨before, hbefore⟩
      rw [← hmore, ← List.append_assoc] at hbefore
      have hfront : before ++ more = front := List.append_cancel_right hbefore
      cases more with
      | nil =>
        rw [← hmore] at hlength
        exact absurd (Nat.le_refl _) hlength
      | cons d more =>
        rw [hpart] at hmore
        rw [(List.cons.inj hmore).1] at hfront
        exact absurd (hfront ▸ List.mem_append_right before List.mem_cons_self) hc
  · exact fun h => h.trans (List.suffix_append front back)

theorem holds_append (hpart : part.toList = c :: rest) (hc : c ∉ front) :
    holds (String.ofList (front ++ back)) part = holds (String.ofList back) part := by
  unfold holds
  rw [String.toList_ofList, String.toList_ofList, hpart]
  induction front with
  | nil => rfl
  | cons d front ih =>
    rw [List.mem_cons, not_or] at hc
    rw [List.cons_append, occurs, ih hc.2]
    show ((c == d && _) || _) = _
    rw [beq_false_of_ne hc.1, Bool.false_and, Bool.false_or]

end Text

/-- The text is the name of a file of the zettel. -/
structure Zid.Owns (z : Zid) (name : String) : Prop where
  slash : '/' ∉ name.toList
  front : z.digits <+: name.toList

namespace Zid

variable {z z' : Zid} {name : String}

theorem stop_not_mem_digits (z : Zid) : '.' ∉ z.digits := fun hmem =>
  absurd (isAsciiDigit_of_mem_digits hmem) (by decide)

theorem Owns.isName (h : z.Owns name) : Disk.IsName name := by
  rcases h.front with ⟨rest, hrest⟩
  have hslash : '/' ∉ rest := fun hmem => h.slash (hrest ▸ List.mem_append_right _ hmem)
  have hname := FileName.isName_digits z hslash
  rwa [hrest, String.ofList_toList] at hname

theorem owns_iff (hz : z.isValid = true) :
    z.Owns name ↔ '/' ∉ name.toList ∧ ofFileName name = z :=
  ⟨fun h => ⟨h.slash, ofFileName_of_front hz h.front⟩,
    fun h => ⟨h.1, front_of_ofFileName hz h.2⟩⟩

theorem Owns.ofFileName (h : z.Owns name) (hz : z.isValid = true) : Zid.ofFileName name = z :=
  ofFileName_of_front hz h.front

theorem Owns.unique (h : z.Owns name) (h' : z'.Owns name) (hz : z.isValid = true)
    (hz' : z'.isValid = true) : z = z' :=
  (h.ofFileName hz).symm.trans (h'.ofFileName hz')

theorem owns_text (z : Zid) : z.Owns z.text where
  slash := (FileName.isName_text z).slash
  front := by
    unfold text
    rw [String.toList_ofList]

theorem owns_text_append (z : Zid) {ext : String} (h : '/' ∉ ext.toList) :
    z.Owns (z.text ++ "." ++ ext) where
  slash := (FileName.isName_text_append z h).slash
  front := by
    rw [FileName.toList_text_append]
    exact List.prefix_append _ _

/-- The digits in front end before the full stop of an extension, so cutting it off leaves them. -/
theorem front_base {ext : String} (h : z.digits <+: name.toList)
    (hends : FileName.EndsIn name ext) : z.digits <+: (FileName.base name ext).toList := by
  rcases hends.base_eq with ⟨front, last, heq, hbase⟩
  rw [hbase, String.toList_ofList]
  rcases h with ⟨rest, hrest⟩
  rcases List.append_eq_append_iff.mp (hrest.trans heq) with ⟨more, hfront, -⟩ | ⟨more, hold, hmore⟩
  · rw [hfront]
    exact List.prefix_append _ _
  · cases more with
    | nil =>
      rw [hold, List.append_nil]
    | cons c more =>
      have hc : c = '.' := (List.cons.inj hmore).1.symm
      rw [hc] at hold
      exact absurd (hold ▸ List.mem_append_right front List.mem_cons_self) z.stop_not_mem_digits

theorem Owns.base {ext : String} (h : z.Owns name) (hends : FileName.EndsIn name ext) :
    z.Owns (FileName.base name ext) where
  slash := by
    rcases hends.base_eq with ⟨front, last, heq, hbase⟩
    rw [hbase, String.toList_ofList]
    exact fun hmem => h.slash (heq ▸ List.mem_append_left _ hmem)
  front := front_base h.front hends

end Zid

namespace FileName

variable {z new : Zid} {name : String}

theorem rename_eq {rest : List Char} (h : name.toList = z.digits ++ rest) (new : Zid) :
    rename name z new = String.ofList (new.digits ++ rest) := by
  unfold rename
  rw [if_pos (List.isPrefixOf_iff_prefix.mpr ⟨rest, h.symm⟩), h, List.drop_left]

theorem owns_rename (h : z.Owns name) (new : Zid) : new.Owns (rename name z new) where
  slash := (isName_rename h.isName z new).slash
  front := by
    rcases h.front with ⟨rest, hrest⟩
    rw [rename_eq hrest.symm, String.toList_ofList]
    exact List.prefix_append _ _

theorem isLeftover_digits (z : Zid) (rest : List Char) :
    isLeftover (String.ofList (z.digits ++ rest)) = isLeftover (String.ofList rest) := by
  have htilde : '~' ∉ z.digits := fun hmem =>
    absurd (Zid.isAsciiDigit_of_mem_digits hmem) (by decide)
  unfold isLeftover
  rw [Text.endsWith_append (show "~".toList = ['~'] from rfl) htilde,
    Text.endsWith_append (show ".swp".toList = '.' :: ['s', 'w', 'p'] from rfl)
      z.stop_not_mem_digits,
    Text.endsWith_append (show ".swx".toList = '.' :: ['s', 'w', 'x'] from rfl)
      z.stop_not_mem_digits,
    Text.holds_append (show ".#".toList = '.' :: ['#'] from rfl) z.stop_not_mem_digits]

theorem isExtension_zettelExt : IsExtension zettelExt :=
  isExtension_extOfSyntax Meta.defaultSyntax true []

/-- A file is seen under another identifier just as before. -/
theorem isZettelFile_rename (h : z.Owns name) (hz : z.isValid = true) (hnew : new.isValid = true) :
    isZettelFile (rename name z new) = isZettelFile name := by
  unfold isZettelFile
  rw [(owns_rename h new).ofFileName hnew, h.ofFileName hz, hz, hnew]
  rcases h.front with ⟨rest, hrest⟩
  rw [rename_eq hrest.symm, isLeftover_digits, ← String.ofList_toList (s := name), ← hrest,
    isLeftover_digits]

end FileName

/-! ## 2. The files of an entry -/

namespace Entry

open FileName (EndsIn IsExtension isZettelFile zettelExt)

variable {e e' : Entry} {z : Zid} {n : String} {names names' : List String}

theorem mem_of_name (name : String) :
    n ∈ (if name = "" then [] else [name]) ↔ n ≠ "" ∧ n = name := by
  split
  next hempty => simp [hempty]
  next hne =>
    rw [List.mem_singleton]
    exact ⟨fun hn => ⟨hn ▸ hne, hn⟩, And.right⟩

theorem mem_files :
    n ∈ e.files ↔ n ≠ "" ∧ (n = e.contentName ∨ n = e.metaName) ∨ n ∈ e.useless := by
  unfold files
  rw [List.mem_append, List.mem_append, mem_of_name, mem_of_name, and_or_left]

/-- The names that a zettel is written to. -/
def targets (e : Entry) : List String :=
  if e.hasMetaInContent then [e.contentName]
  else
    (if e.metaName = "" then [] else [e.metaName]) ++
      (if e.contentName = "" then [] else [e.contentName])

theorem targets_of_embedded (hz : e.hasMetaInContent = true) : e.targets = [e.contentName] :=
  if_pos hz

theorem mem_targets (hz : e.hasMetaInContent = false) :
    n ∈ e.targets ↔ n ≠ "" ∧ (n = e.metaName ∨ n = e.contentName) := by
  unfold targets
  rw [if_neg (ne_true_of_eq_false hz), List.mem_append, mem_of_name, mem_of_name, and_or_left]

theorem eq_of_mem_targets (hn : n ∈ e.targets) : n = e.metaName ∨ n = e.contentName := by
  cases hz : e.hasMetaInContent with
  | true =>
    rw [targets_of_embedded hz, List.mem_singleton] at hn
    exact .inr hn
  | false =>
    rw [mem_targets hz] at hn
    exact hn.2

theorem isLive_of_name (hne : n ≠ "") (hn : n = e.contentName ∨ n = e.metaName) :
    e.isLive = true := by
  unfold isLive
  rcases hn with rfl | rfl
  · rw [bne_iff_ne.mpr hne, Bool.or_true]
  · rw [bne_iff_ne.mpr hne, Bool.true_or]

namespace Ready

variable (h : e.Ready)

include h

theorem mem_targets :
    n ∈ e.targets ↔ n = e.contentName ∨ e.hasMetaInContent = false ∧ n = e.metaName := by
  cases hz : e.hasMetaInContent with
  | true =>
    rw [targets_of_embedded hz, List.mem_singleton]
    simp
  | false =>
    rw [Entry.mem_targets hz]
    constructor
    · rintro ⟨-, hn | hn⟩
      · exact .inr ⟨rfl, hn⟩
      · exact .inl hn
    · rintro (rfl | ⟨-, rfl⟩)
      · exact ⟨h.content.ne_empty, .inr rfl⟩
      · exact ⟨(h.metadata hz).ne_empty, .inl rfl⟩

theorem targets_ne_nil : e.targets ≠ [] :=
  List.ne_nil_of_mem (h.mem_targets.mpr (.inl rfl))

theorem isName_of_mem_targets (hn : n ∈ e.targets) : Disk.IsName n := by
  rcases h.mem_targets.mp hn with rfl | ⟨hz, rfl⟩
  · exact h.content
  · exact h.metadata hz

end Ready

/-- Content that holds the metadata has a name. -/
theorem Named.content_ne_empty (h : e.Named) (hz : e.hasMetaInContent = true) :
    e.contentName ≠ "" := by
  intro hc
  unfold hasMetaInContent at hz
  rw [h.contentExt hc] at hz
  exact absurd hz (by decide)

theorem Named.mem_files_of_mem_targets (h : e.Named) (hn : n ∈ e.targets) : n ∈ e.files := by
  rw [mem_files]
  cases hz : e.hasMetaInContent with
  | true =>
    rw [targets_of_embedded hz, List.mem_singleton] at hn
    exact .inl ⟨hn ▸ h.content_ne_empty hz, .inl hn⟩
  | false =>
    rw [mem_targets hz] at hn
    exact .inl ⟨hn.1, hn.2.symm⟩

/-! ## 3. Entries prepared for writing -/

/-- How an entry is prepared: nothing is missing, or a metadata file beside the content, or there
is no content yet and it holds the metadata too or leaves it apart. -/
inductive IsPrepared (e : Entry) : Entry → Prop where
  | complete (hc : e.contentName ≠ "") (hm : e.hasMetaInContent = true ∨ e.metaName ≠ "") :
      IsPrepared e e
  | besides (hc : e.contentName ≠ "") (hz : e.hasMetaInContent = false) (hm : e.metaName = "") :
      IsPrepared e { e with metaName := FileName.base e.contentName e.contentExt }
  | embedded (hc : e.contentName = "") :
      IsPrepared e { e.dropMeta.1 with
        contentName := e.zid.text ++ "." ++ zettelExt
        contentExt := zettelExt }
  | apart (hc : e.contentName = "") (ext : String) (hext : IsExtension ext) (hz : ext ≠ zettelExt) :
      IsPrepared e { e with
        metaName := if e.metaName = "" then e.zid.text else e.metaName
        contentName := e.zid.text ++ "." ++ ext
        contentExt := ext }

theorem isPrepared_prepare (e : Entry) (m : Meta) (zettelSyntaxes : List String) :
    e.IsPrepared (e.prepare m zettelSyntaxes) := by
  unfold prepare
  split
  next hc =>
    split
    next hfree =>
      rw [Bool.and_eq_true, Bool.not_eq_true', beq_iff_eq] at hfree
      exact .besides hc hfree.1 hfree.2
    next hfree =>
      refine .complete hc ?_
      by_contra hnone
      rw [not_or, Bool.not_eq_true, not_not] at hnone
      exact hfree (by simp [hnone])
  next hc =>
    rw [not_not] at hc
    dsimp only
    split
    next hz =>
      rw [hz, congrArg Zid.text e.zid_dropMeta]
      exact .embedded hc
    next hz =>
      have hapart := IsPrepared.apart hc _ (FileName.isExtension_extOfSyntax _ _ _) hz
      split
      next hm =>
        rw [if_pos hm] at hapart
        exact hapart
      next hm =>
        rw [if_neg hm] at hapart
        exact hapart

theorem mem_files_passOver (name : String) :
    n ∈ (e.passOver name).1.files ↔ n ∈ e.files ∨ n = name := by
  unfold passOver
  split
  next hin =>
    refine ⟨.inl, ?_⟩
    rintro (hn | rfl)
    · exact hn
    · exact mem_files.mpr (.inr (List.contains_iff_mem.mp hin))
  next =>
    rw [mem_files, mem_files, or_assoc, List.mem_append, List.mem_singleton]

/-- A metadata file that is passed over is a file of the entry still. -/
theorem mem_files_dropMeta : n ∈ e.dropMeta.1.files ↔ n ∈ e.files := by
  unfold dropMeta
  split
  next => rfl
  next hm =>
    rw [mem_files_passOver, mem_files, mem_files]
    constructor
    · rintro ((⟨hne, hn | hn⟩ | hn) | rfl)
      · exact .inl ⟨hne, .inl hn⟩
      · exact absurd hn hne
      · exact .inr hn
      · exact .inl ⟨hm, .inr rfl⟩
    · rintro (⟨hne, hn | hn⟩ | hn)
      · exact .inl (.inl ⟨hne, .inl hn⟩)
      · exact .inr hn
      · exact .inl (.inr hn)

theorem contentName_dropMeta (e : Entry) : e.dropMeta.1.contentName = e.contentName := by
  unfold dropMeta passOver
  split_ifs <;> rfl

namespace IsPrepared

variable (h : e.IsPrepared e')

include h

/-- No file is forgotten. -/
theorem mem_files_of_mem (hn : n ∈ e.files) : n ∈ e'.files := by
  cases h with
  | complete hc hm => exact hn
  | besides hc hz hm =>
    rw [mem_files] at hn ⊢
    rcases hn with ⟨hne, hn | hn⟩ | hn
    · exact .inl ⟨hne, .inl hn⟩
    · exact absurd (hn.trans hm) hne
    · exact .inr hn
  | embedded hc =>
    have hold := mem_files_dropMeta.mpr hn
    rw [mem_files] at hold ⊢
    rcases hold with ⟨hne, hold | hold⟩ | hold
    · rw [contentName_dropMeta, hc] at hold
      exact absurd hold hne
    · exact .inl ⟨hne, .inr hold⟩
    · exact .inr hold
  | apart hc ext hext hz =>
    rw [mem_files] at hn ⊢
    rcases hn with ⟨hne, hn | hn⟩ | hn
    · exact absurd (hn.trans hc) hne
    · refine .inl ⟨hne, .inr ?_⟩
      dsimp only
      rw [if_neg (hn ▸ hne), hn]
    · exact .inr hn

/-- Every name that is made up belongs to the zettel as well. -/
theorem owns (hnamed : e.Named) (hown : ∀ n ∈ e.files, e.zid.Owns n) :
    ∀ n ∈ e'.files, e.zid.Owns n := by
  intro n hn
  cases h with
  | complete hc hm => exact hown n hn
  | besides hc hz hm =>
    rcases mem_files.mp hn with ⟨hne, hn | hn⟩ | hn
    · exact hown n (mem_files.mpr (.inl ⟨hne, .inl hn⟩))
    · have hcontent := hown e.contentName (mem_files.mpr (.inl ⟨hc, .inl rfl⟩))
      rw [hn]
      exact hcontent.base (hnamed.content hc).endsIn
    · exact hown n (mem_files.mpr (.inr hn))
  | embedded hc =>
    rcases mem_files.mp hn with ⟨hne, hn | hn⟩ | hn
    · rw [hn]
      exact Zid.owns_text_append e.zid (by decide)
    · exact hown n (mem_files_dropMeta.mp (mem_files.mpr (.inl ⟨hne, .inr hn⟩)))
    · exact hown n (mem_files_dropMeta.mp (mem_files.mpr (.inr hn)))
  | apart hc ext hext hz =>
    rcases mem_files.mp hn with ⟨hne, hn | hn⟩ | hn
    · rw [hn]
      exact Zid.owns_text_append e.zid (hext.not_mem '/' (by decide))
    · dsimp only at hn
      split at hn
      next =>
        rw [hn]
        exact Zid.owns_text e.zid
      next hm => exact hown n (mem_files.mpr (.inl ⟨hne, .inr hn⟩))
    · exact hown n (mem_files.mpr (.inr hn))

theorem live : e'.isLive = true := by
  have hcontent : e'.contentName ≠ "" := by
    cases h with
    | complete hc hm => exact hc
    | besides hc hz hm => exact hc
    | embedded hc => exact content_ne_empty e.zid zettelExt
    | apart hc ext hext hz => exact content_ne_empty e.zid ext
  exact isLive_of_name hcontent (.inl rfl)

/-- One at least of the files written is seen, if it was so before. -/
theorem shown (hnamed : e.Named) (hz : e.zid.isValid = true)
    (hshown : e.isLive = true → ∃ n ∈ e.targets, isZettelFile n = true) :
    ∃ n ∈ e'.targets, isZettelFile n = true := by
  cases h with
  | complete hc hm => exact hshown (isLive_of_name hc (.inl rfl))
  | besides hc hapart hm =>
    rcases hshown (isLive_of_name hc (.inl rfl)) with ⟨n, hn, hseen⟩
    rw [mem_targets hapart, hm] at hn
    have hapart' : Entry.hasMetaInContent { e with
        metaName := FileName.base e.contentName e.contentExt } = false := hapart
    exact ⟨n, (mem_targets hapart').mpr ⟨hn.1, .inr (hn.2.resolve_left hn.1)⟩, hseen⟩
  | embedded hc =>
    refine ⟨e.zid.text ++ "." ++ zettelExt, List.mem_singleton.mpr rfl, ?_⟩
    exact (FileName.isZettelFile_text_append hz FileName.isExtension_zettelExt).mpr (by decide)
  | apart hc ext hext hne =>
    have hapart : Entry.hasMetaInContent { e with
        metaName := if e.metaName = "" then e.zid.text else e.metaName
        contentName := e.zid.text ++ "." ++ ext
        contentExt := ext } = false := beq_eq_false_iff_ne.mpr hne
    by_cases hm : e.metaName = ""
    · refine ⟨e.zid.text, (mem_targets hapart).mpr ⟨text_ne_empty e.zid, .inl ?_⟩,
        FileName.isZettelFile_text hz⟩
      exact (if_pos hm).symm
    · -- Without content, what was seen before is the metadata file.
      rcases hshown (isLive_of_name hm (.inr rfl)) with ⟨n, hn, hseen⟩
      have hapart' : e.hasMetaInContent = false := by
        apply eq_false_of_ne_true
        exact fun hz => hnamed.content_ne_empty hz hc
      rw [mem_targets hapart', hc] at hn
      refine ⟨n, (mem_targets hapart).mpr ⟨hn.1, .inl ?_⟩, hseen⟩
      exact (hn.2.resolve_right hn.1).trans (if_neg hm).symm

end IsPrepared

/-! ## 4. Entries under another identifier -/

section Renamed

variable (hown : ∀ n ∈ e.files, e.zid.Owns n) (new : Zid)

include hown

theorem owns_renamed : ∀ n ∈ (e.renamed new).files, new.Owns n := by
  intro n hn
  rcases mem_files.mp hn with ⟨hne, hn⟩ | hn
  · -- A name that is none stays none.
    have hold : ∀ name, n = FileName.rename name e.zid new → name ≠ "" := by
      rintro name heq rfl
      exact hne (heq.trans (FileName.rename_empty e.zid new))
    rcases hn with hn | hn
    · have hfile := mem_files.mpr (.inl ⟨hold _ hn, .inl rfl⟩)
      rw [hn]
      exact FileName.owns_rename (hown _ hfile) new
    · have hfile := mem_files.mpr (.inl ⟨hold _ hn, .inr rfl⟩)
      rw [hn]
      exact FileName.owns_rename (hown _ hfile) new
  · exact absurd hn List.not_mem_nil

theorem mem_targets_renamed (hnamed : e.Named) (hn : n ∈ e.targets) :
    FileName.rename n e.zid new ∈ (e.renamed new).targets := by
  have hne : FileName.rename n e.zid new ≠ "" :=
    (FileName.owns_rename (hown n (hnamed.mem_files_of_mem_targets hn)) new).isName.ne_empty
  -- The extension stays, so content and metadata share a file as before.
  have hsame : (e.renamed new).hasMetaInContent = e.hasMetaInContent := rfl
  cases hz : e.hasMetaInContent with
  | true =>
    rw [targets_of_embedded hz, List.mem_singleton] at hn
    rw [targets_of_embedded (hsame.trans hz), hn]
    exact List.mem_singleton.mpr rfl
  | false =>
    rw [mem_targets hz] at hn
    rw [mem_targets (hsame.trans hz)]
    rcases hn.2 with rfl | rfl
    · exact ⟨hne, .inl rfl⟩
    · exact ⟨hne, .inr rfl⟩

end Renamed

end Entry

end Kasten
