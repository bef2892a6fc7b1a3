import Mathlib.Tactic.Tauto
import Kasten.Index.Record
import Kasten.Proofs.Map
import Kasten.Proofs.Zid.Slice

/-!
# What a record is made of

A zettel mentions other zettel in its metadata and in its text. Which ones does not depend on what
exists; this only decides under which head the record keeps a reference. So a record stays right
as long as the zettel that it mentions come and go not.
-/

namespace Kasten.Index

/-! ## 1. Heads -/

/-- The head under which a record keeps a reference. -/
inductive Slot where
  | dead
  | forward
  | typed (key : String)
deriving DecidableEq

/-- Where a reference belongs. -/
def Slot.of (isThere : Zid → Bool) (inverse : Option String) (t : Zid) : Slot :=
  if isThere t then
    match inverse with
    | some key => .typed key
    | none => .forward
  else .dead

/-- A fold that only ever adds. -/
theorem foldl_mem_iff {σ α : Type} (mem : σ → Prop) {adds : α → Prop} {step : σ → α → σ}
    (h : ∀ s a, mem (step s a) ↔ mem s ∨ adds a) (l : List α) (s : σ) :
    mem (l.foldl step s) ↔ mem s ∨ ∃ a ∈ l, adds a := by
  induction l generalizing s with
  | nil => simp
  | cons a rest ih =>
    rw [List.foldl_cons, ih, h]
    simp only [List.mem_cons, exists_eq_or_imp]
    tauto

namespace Record

def slot (r : Record) : Slot → ZidSet
  | .dead => r.dead
  | .forward => r.forward
  | .typed key => r.typed.getD key ∅

/-- All but the references. -/
def rest (r : Record) : Zid × TextSet × TextSet × TextSet := (r.zid, r.words, r.urls, r.tags)

theorem mem_slot_addTarget (isThere : Zid → Bool) (inverse : Option String) (r : Record) (z t : Zid)
    (k : Slot) : t ∈ (addTarget isThere inverse r z).slot k ↔
      t ∈ r.slot k ∨ z = t ∧ Slot.of isThere inverse z = k := by
  have hinsert : ∀ s : ZidSet, t ∈ s.insert z ↔ z = t ∨ t ∈ s := by
    intro s
    rw [Std.ExtTreeSet.mem_insert, Std.compare_eq_iff_eq]
  unfold addTarget Slot.of
  cases isThere z with
  | false =>
    cases k with
    | dead => exact (hinsert r.dead).trans (by simp [slot]; tauto)
    | forward => simp [slot, addDead]
    | typed key => simp [slot, addDead]
  | true =>
    cases inverse with
    | none =>
      cases k with
      | dead => simp [slot, addForward]
      | forward => exact (hinsert r.forward).trans (by simp [slot]; tauto)
      | typed key => simp [slot, addForward]
    | some key' =>
      cases k with
      | dead => simp [slot, addTyped]
      | forward => simp [slot, addTyped]
      | typed key =>
        show t ∈ (r.typed.insert key' ((r.typed.getD key' ∅).insert z)).getD key ∅ ↔ _
        rw [getD_insert_eq]
        by_cases hkey : key = key'
        · subst hkey
          rw [if_pos rfl, hinsert]
          simp [slot]
          tauto
        · have hne : ¬ key' = key := fun h => hkey h.symm
          simp [slot, hkey, hne]

theorem rest_addTarget (isThere : Zid → Bool) (inverse : Option String) (r : Record) (z : Zid) :
    (addTarget isThere inverse r z).rest = r.rest := by
  unfold addTarget
  cases isThere z <;> cases inverse <;> rfl

theorem mem_slot_foldl_addTarget (isThere : Zid → Bool) (inverse : Option String) (zs : List Zid)
    (r : Record) (t : Zid) (k : Slot) :
    t ∈ (zs.foldl (addTarget isThere inverse) r).slot k ↔
      t ∈ r.slot k ∨ t ∈ zs ∧ Slot.of isThere inverse t = k := by
  rw [foldl_mem_iff (fun r : Record => t ∈ r.slot k)
    (fun r z => mem_slot_addTarget isThere inverse r z t k)]
  refine or_congr_right ⟨?_, ?_⟩
  · rintro ⟨z, hz, rfl, hk⟩
    exact ⟨hz, hk⟩
  · rintro ⟨ht, hk⟩
    exact ⟨t, ht, rfl, hk⟩

theorem rest_foldl_addTarget (isThere : Zid → Bool) (inverse : Option String) (zs : List Zid)
    (r : Record) : (zs.foldl (addTarget isThere inverse) r).rest = r.rest := by
  induction zs generalizing r with
  | nil => rfl
  | cons z zs ih => rw [List.foldl_cons, ih, rest_addTarget]

/-! ## 2. What a zettel mentions -/

/-- The values under such a key are identifiers. -/
def holdsZids (key : String) : Prop :=
  (Key.describe key).type = .id ∨ (Key.describe key).type = .idSet

/-- The metadata names a zettel, under a key with the given inverse. -/
def Names (z : Zettel) (inverse : Option String) (t : Zid) : Prop :=
  ∃ p ∈ z.metadata.userPairs,
    holdsZids p.1 ∧ (Key.describe p.1).inverse = inverse ∧ t ∈ z.metadata.getZids p.1

/-- The content is text that is meant to be read. -/
def IsRead (z : Zettel) : Prop :=
  z.metadata.getD Key.syntaxName Meta.defaultSyntax ≠ Meta.noSyntax ∧
    Content.isBinary z.content = false

/-- There is a link to a zettel in the metadata or in the content. -/
def Links (scan : Scanner) (z : Zettel) (t : Zid) : Prop :=
  (∃ p ∈ z.metadata.userPairs,
    (Key.describe p.1).type = .markup ∧ t ∈ (scan Meta.defaultSyntax p.2).links) ∨
  IsRead z ∧ t ∈ (scan (z.metadata.getD Key.syntaxName Meta.defaultSyntax)
    (String.ofList (Content.text z.content))).links

/-- A reference is kept by the inverse of the key that it stands under, if there is one. -/
def Mentions (scan : Scanner) (z : Zettel) (inverse : Option String) (t : Zid) : Prop :=
  Names z inverse t ∨ inverse = none ∧ Links scan z t

section Pairs

variable (scan : Scanner) (isThere : Zid → Bool) (m : Meta)

theorem mem_links_merge (a b : ScanResult) (t : Zid) :
    t ∈ (a.merge b).links ↔ t ∈ a.links ∨ t ∈ b.links := by
  show t ∈ a.links.addAll b.links.toList ↔ _
  rw [ZidSet.mem_addAll, Std.ExtTreeSet.mem_toList, or_comm]

theorem links_addWords (text : String) (found : ScanResult) :
    (found.addWords text).links = found.links := by
  unfold ScanResult.addWords
  rfl

theorem links_foldl_addWords (texts : List String) (found : ScanResult) :
    (texts.foldl ScanResult.addWords found).links = found.links := by
  induction texts generalizing found with
  | nil => rfl
  | cons text texts ih => rw [List.foldl_cons, ih, links_addWords]

theorem mem_slot_addPair (s : Record × ScanResult) (p : String × String) (t : Zid) (k : Slot) :
    t ∈ (addPair scan isThere m s p).1.slot k ↔
      t ∈ s.1.slot k ∨ holdsZids p.1 ∧ t ∈ m.getZids p.1 ∧
        Slot.of isThere (Key.describe p.1).inverse t = k := by
  rcases s with ⟨r, found⟩
  rcases p with ⟨key, value⟩
  unfold addPair holdsZids
  cases htype : (Key.describe key).type <;>
    simp only [htype, reduceCtorEq, or_self, false_and, or_false, or_true, true_and]
  · exact mem_slot_foldl_addTarget isThere _ _ r t k
  · exact mem_slot_foldl_addTarget isThere _ _ r t k
  · split <;> cases k <;> rfl

theorem mem_links_addPair (s : Record × ScanResult) (p : String × String) (t : Zid) :
    t ∈ (addPair scan isThere m s p).2.links ↔
      t ∈ s.2.links ∨ (Key.describe p.1).type = .markup ∧
        t ∈ (scan Meta.defaultSyntax p.2).links := by
  rcases s with ⟨r, found⟩
  rcases p with ⟨key, value⟩
  unfold addPair
  cases htype : (Key.describe key).type <;>
    simp only [htype, reduceCtorEq, false_and, or_false, true_and]
  case markup => exact mem_links_merge _ _ t
  case tagSet => rw [links_foldl_addWords]
  case wordSet => rw [links_foldl_addWords]
  case number => rw [links_addWords]
  case string => rw [links_addWords]
  case timestamp => rw [links_addWords]
  case word => rw [links_addWords]

theorem rest_addPair {s s' : Record × ScanResult} (isThere' : Zid → Bool)
    (hrest : s.1.rest = s'.1.rest) (hfound : s.2 = s'.2) (p : String × String) :
    (addPair scan isThere m s p).1.rest = (addPair scan isThere' m s' p).1.rest ∧
      (addPair scan isThere m s p).2 = (addPair scan isThere' m s' p).2 := by
  rcases s with ⟨r, found⟩
  rcases s' with ⟨r', found'⟩
  rcases p with ⟨key, value⟩
  change r.rest = r'.rest at hrest
  change found = found' at hfound
  subst hfound
  unfold addPair
  cases htype : (Key.describe key).type <;> simp only [htype, and_true]
  case id => rw [rest_foldl_addTarget, rest_foldl_addTarget, hrest]
  case idSet => rw [rest_foldl_addTarget, rest_foldl_addTarget, hrest]
  case url =>
    split
    · unfold rest at hrest ⊢
      simp only [Prod.mk.injEq] at hrest ⊢
      rcases hrest with ⟨hzid, hwords, hurls, htags⟩
      rw [hzid, hwords, hurls, htags]
      exact ⟨rfl, rfl, rfl, rfl⟩
    · exact hrest
  all_goals exact hrest

end Pairs

/-! ## 3. The record -/

section Zettel

variable (scan : Scanner) (isThere : Zid → Bool) (z : Zettel)

/-- What the metadata gives. -/
def ofPairs : Record × ScanResult :=
  z.metadata.userPairs.foldl (addPair scan isThere z.metadata) (new z.zid, ScanResult.empty)

theorem mem_slot_ofPairs (t : Zid) (k : Slot) :
    t ∈ (ofPairs scan isThere z).1.slot k ↔
      ∃ inverse, Names z inverse t ∧ Slot.of isThere inverse t = k := by
  have hnew : t ∉ (new z.zid).slot k := by
    cases k <;> simp [slot, new]
  unfold ofPairs
  rw [foldl_mem_iff (fun s : Record × ScanResult => t ∈ s.1.slot k)
    (fun s p => mem_slot_addPair scan isThere z.metadata s p t k), or_iff_right hnew]
  constructor
  · rintro ⟨p, hp, hzids, ht, hk⟩
    exact ⟨_, ⟨p, hp, hzids, rfl, ht⟩, hk⟩
  · rintro ⟨_, ⟨p, hp, hzids, rfl, ht⟩, hk⟩
    exact ⟨p, hp, hzids, ht, hk⟩

theorem mem_links_scanContent (found : ScanResult) (t : Zid) :
    t ∈ (scanContent scan z found).links ↔
      t ∈ found.links ∨ IsRead z ∧ t ∈ (scan (z.metadata.getD Key.syntaxName Meta.defaultSyntax)
        (String.ofList (Content.text z.content))).links := by
  unfold scanContent IsRead
  by_cases hskip : z.metadata.getD Key.syntaxName Meta.defaultSyntax = Meta.noSyntax ∨
      Content.isBinary z.content = true
  · rw [if_pos hskip]
    have hnot : ¬ (z.metadata.getD Key.syntaxName Meta.defaultSyntax ≠ Meta.noSyntax ∧
        Content.isBinary z.content = false) := by
      rw [not_and_or, ne_eq, not_not, Bool.not_eq_false]
      exact hskip
    exact (or_iff_left fun h => hnot h.1).symm
  · rw [if_neg hskip, mem_links_merge]
    rw [not_or, Bool.not_eq_true] at hskip
    exact or_congr_right (and_iff_right hskip).symm

theorem mem_links_ofPairs (t : Zid) :
    t ∈ (scanContent scan z (ofPairs scan isThere z).2).links ↔ Links scan z t := by
  have hempty : t ∉ ScanResult.empty.links := Std.ExtTreeSet.not_mem_empty
  rw [mem_links_scanContent, ofPairs, foldl_mem_iff (fun s : Record × ScanResult => t ∈ s.2.links)
    (fun s p => mem_links_addPair scan isThere z.metadata s p t), or_iff_right hempty]
  exact Iff.rfl

/-- Every reference stands under the head where it belongs, and nothing else does. -/
theorem mem_slot_ofZettel (t : Zid) (k : Slot) :
    t ∈ (ofZettel scan isThere z).slot k ↔
      ∃ inverse, Mentions scan z inverse t ∧ Slot.of isThere inverse t = k := by
  have hslot : t ∈ (ofZettel scan isThere z).slot k ↔
      t ∈ ((scanContent scan z (ofPairs scan isThere z).2).links.toList.foldl
        (addTarget isThere none) (ofPairs scan isThere z).1).slot k := by
    cases k <;> exact Iff.rfl
  rw [hslot, mem_slot_foldl_addTarget, mem_slot_ofPairs, Std.ExtTreeSet.mem_toList,
    mem_links_ofPairs]
  unfold Mentions
  constructor
  · rintro (⟨inverse, hnames, hk⟩ | ⟨hlinks, hk⟩)
    · exact ⟨inverse, Or.inl hnames, hk⟩
    · exact ⟨none, Or.inr ⟨rfl, hlinks⟩, hk⟩
  · rintro ⟨inverse, hnames | ⟨rfl, hlinks⟩, hk⟩
    · exact Or.inl ⟨inverse, hnames, hk⟩
    · exact Or.inr ⟨hlinks, hk⟩

theorem rest_ofPairs (isThere' : Zid → Bool) :
    (ofPairs scan isThere z).1.rest = (ofPairs scan isThere' z).1.rest ∧
      (ofPairs scan isThere z).2 = (ofPairs scan isThere' z).2 := by
  have hfold : ∀ (pairs : List (String × String)) (s s' : Record × ScanResult),
      s.1.rest = s'.1.rest → s.2 = s'.2 →
        (pairs.foldl (addPair scan isThere z.metadata) s).1.rest =
          (pairs.foldl (addPair scan isThere' z.metadata) s').1.rest ∧
        (pairs.foldl (addPair scan isThere z.metadata) s).2 =
          (pairs.foldl (addPair scan isThere' z.metadata) s').2 := by
    intro pairs
    induction pairs with
    | nil => exact fun s s' hrest hfound => ⟨hrest, hfound⟩
    | cons p pairs ih =>
      intro s s' hrest hfound
      rcases rest_addPair scan isThere z.metadata isThere' hrest hfound p with ⟨hrest, hfound⟩
      exact ih _ _ hrest hfound
  exact hfold z.metadata.userPairs _ _ rfl rfl

/-- The rest of a record with the findings in the text. -/
def addFound (rest : Zid × TextSet × TextSet × TextSet) (found : ScanResult) :
    Zid × TextSet × TextSet × TextSet :=
  (rest.1, addTexts rest.2.1 found.words.toList, addTexts rest.2.2.1 found.urls.toList,
    addTexts rest.2.2.2 found.tags.toList)

theorem rest_ofZettel_eq : (ofZettel scan isThere z).rest =
    addFound (ofPairs scan isThere z).1.rest (scanContent scan z (ofPairs scan isThere z).2) := by
  have hlinks := rest_foldl_addTarget isThere none
    (scanContent scan z (ofPairs scan isThere z).2).links.toList (ofPairs scan isThere z).1
  rw [← hlinks]
  rfl

/-- What exists has no bearing on the rest of a record. -/
theorem rest_ofZettel (isThere' : Zid → Bool) :
    (ofZettel scan isThere z).rest = (ofZettel scan isThere' z).rest := by
  rcases rest_ofPairs scan isThere z isThere' with ⟨hrest, hfound⟩
  rw [rest_ofZettel_eq, rest_ofZettel_eq, hrest, hfound]

theorem zid_addPair (m : Meta) (s : Record × ScanResult) (p : String × String) :
    (addPair scan isThere m s p).1.zid = s.1.zid := by
  rcases s with ⟨r, found⟩
  rcases p with ⟨key, value⟩
  unfold addPair
  cases htype : (Key.describe key).type <;> simp only [htype]
  case id => exact congrArg Prod.fst (rest_foldl_addTarget isThere _ _ r)
  case idSet => exact congrArg Prod.fst (rest_foldl_addTarget isThere _ _ r)
  case url => split <;> rfl

theorem zid_ofZettel : (ofZettel scan isThere z).zid = z.zid := by
  have hpairs : (ofPairs scan isThere z).1.zid = z.zid :=
    List.foldlRecOn (motive := fun s : Record × ScanResult => s.1.zid = z.zid) _ _ rfl
      fun s hs p _ => (zid_addPair scan isThere z.metadata s p).trans hs
  exact (congrArg Prod.fst (rest_ofZettel_eq scan isThere z)).trans hpairs

end Zettel

end Record

end Kasten.Index
