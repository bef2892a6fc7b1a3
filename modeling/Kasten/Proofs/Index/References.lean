import Kasten.Proofs.Index.Enrich

/-!
# Where references go

Every reference of a zettel is kept: as dead when what it refers to does not exist, and else under
the inverse of the key that it stands under, or with the plain references when there is none. A
zettel that comes or goes has no bearing on the references to any other.
-/

namespace Kasten

namespace Meta

/-- The identifier is never among the pairs that are written to a file. -/
theorem get?_of_mem_userPairs {m : Meta} {pair : String × String} (h : pair ∈ m.userPairs) :
    m.get? pair.1 = some pair.2 := by
  have hkey : pair.1 ≠ Key.id := by
    intro hid
    have hcomputed := isComputed_of_mem_userPairs h
    rw [hid] at hcomputed
    exact absurd hcomputed (by decide)
  unfold get?
  rw [if_neg hkey]
  exact Std.ExtTreeMap.mem_toList_iff_getElem?_eq_some.mp (List.mem_filter.mp h).1

end Meta

namespace Index

/-! ## 1. Heads -/

namespace Slot

variable {isThere : Zid → Bool} {inverse : Option String} {t : Zid}

theorem of_eq_dead : Slot.of isThere inverse t = .dead ↔ isThere t = false := by
  unfold Slot.of
  cases isThere t <;> cases inverse <;> simp

theorem of_eq_forward :
    Slot.of isThere inverse t = .forward ↔ inverse = none ∧ isThere t = true := by
  unfold Slot.of
  cases isThere t <;> cases inverse <;> simp

theorem of_eq_typed {key : String} :
    Slot.of isThere inverse t = .typed key ↔ inverse = some key ∧ isThere t = true := by
  unfold Slot.of
  cases isThere t <;> cases inverse <;> simp

end Slot

namespace Record

/-! ## 2. What metadata cites -/

/-- The identifier is a word of a value in the file, under a key for identifiers with the given
inverse. -/
def Cites (z : Zettel) (inverse : Option String) (t : Zid) : Prop :=
  ∃ p ∈ z.metadata.userPairs, holdsZids p.1 ∧ (Key.describe p.1).inverse = inverse ∧
    ∃ word ∈ Meta.elements p.2, Zid.parse? word = some t

theorem names_iff_cites {z : Zettel} {inverse : Option String} {t : Zid} :
    Names z inverse t ↔ Cites z inverse t := by
  refine exists_congr fun p => and_congr_right fun hp => and_congr_right fun _ =>
    and_congr_right fun _ => ?_
  unfold Meta.getZids Meta.getList
  rw [Meta.get?_of_mem_userPairs hp, List.mem_filterMap]

/-! ## 3. No head is empty -/

section Typed

variable {scan : Scanner} {isThere : Zid → Bool}

theorem omits_typed_addTarget {r : Record} (h : Omits r.typed ∅) (inverse : Option String)
    (z : Zid) : Omits (addTarget isThere inverse r z).typed ∅ := by
  unfold addTarget
  cases isThere z with
  | false => exact h
  | true =>
    cases inverse with
    | none => exact h
    | some key =>
      exact h.insert (Std.ExtTreeSet.ne_empty_of_mem Std.ExtTreeSet.mem_insert_self) key

theorem omits_typed_foldl_addTarget {r : Record} (h : Omits r.typed ∅) (inverse : Option String)
    (zs : List Zid) : Omits (zs.foldl (addTarget isThere inverse) r).typed ∅ :=
  List.foldlRecOn (motive := fun r : Record => Omits r.typed ∅) _ _ h
    fun _ hr z _ => omits_typed_addTarget hr inverse z

theorem omits_typed_addPair {m : Meta} {s : Record × ScanResult} (h : Omits s.1.typed ∅)
    (p : String × String) : Omits (addPair scan isThere m s p).1.typed ∅ := by
  rcases s with ⟨r, found⟩
  rcases p with ⟨key, value⟩
  unfold addPair
  cases htype : (Key.describe key).type <;> simp only [htype]
  case id => exact omits_typed_foldl_addTarget h _ _
  case idSet => exact omits_typed_foldl_addTarget h _ _
  case url => split <;> exact h
  all_goals exact h

theorem omits_typed_ofZettel (scan : Scanner) (isThere : Zid → Bool) (z : Zettel) :
    Omits (ofZettel scan isThere z).typed ∅ := by
  have hpairs : Omits (ofPairs scan isThere z).1.typed ∅ :=
    List.foldlRecOn (motive := fun s : Record × ScanResult => Omits s.1.typed ∅) _ _
      (omits_empty ∅) fun _ hs p _ => omits_typed_addPair hs p
  exact omits_typed_foldl_addTarget hpairs none _

end Typed

/-! ## 4. Every reference under its head -/

section Zettel

variable (scan : Scanner) (isThere : Zid → Bool) (z : Zettel)

theorem mem_forward_ofZettel (t : Zid) :
    t ∈ (ofZettel scan isThere z).forward ↔
      (Links scan z t ∨ Cites z none t) ∧ isThere t = true := by
  have hslot := mem_slot_ofZettel scan isThere z t .forward
  refine hslot.trans ?_
  simp only [Slot.of_eq_forward, Mentions, names_iff_cites]
  constructor
  · rintro ⟨inverse, hmentions, rfl, ht⟩
    exact ⟨hmentions.symm.imp_left And.right, ht⟩
  · rintro ⟨hlinks | hcites, ht⟩
    · exact ⟨none, .inr ⟨rfl, hlinks⟩, rfl, ht⟩
    · exact ⟨none, .inl hcites, rfl, ht⟩

theorem mem_dead_ofZettel (t : Zid) :
    t ∈ (ofZettel scan isThere z).dead ↔
      (Links scan z t ∨ ∃ inverse, Cites z inverse t) ∧ isThere t = false := by
  have hslot := mem_slot_ofZettel scan isThere z t .dead
  refine hslot.trans ?_
  simp only [Slot.of_eq_dead, Mentions, names_iff_cites]
  constructor
  · rintro ⟨inverse, hcites | ⟨-, hlinks⟩, ht⟩
    · exact ⟨.inr ⟨inverse, hcites⟩, ht⟩
    · exact ⟨.inl hlinks, ht⟩
  · rintro ⟨hlinks | ⟨inverse, hcites⟩, ht⟩
    · exact ⟨none, .inr ⟨rfl, hlinks⟩, ht⟩
    · exact ⟨inverse, .inl hcites, ht⟩

theorem mem_typed_ofZettel (key : String) (t : Zid) :
    t ∈ (ofZettel scan isThere z).typed.getD key ∅ ↔
      Cites z (some key) t ∧ isThere t = true := by
  have hslot := mem_slot_ofZettel scan isThere z t (.typed key)
  refine hslot.trans ?_
  simp only [Slot.of_eq_typed, Mentions, names_iff_cites]
  constructor
  · rintro ⟨inverse, hcites | ⟨hnone, -⟩, rfl, ht⟩
    · exact ⟨hcites, ht⟩
    · cases hnone
  · rintro ⟨hcites, ht⟩
    exact ⟨some key, .inl hcites, rfl, ht⟩

theorem mem_keys_ofZettel (key : String) :
    key ∈ (ofZettel scan isThere z).typed ↔ ∃ t, Cites z (some key) t ∧ isThere t = true := by
  constructor
  · intro hkey
    have hsome := Std.ExtTreeMap.getElem?_eq_some_getElem hkey
    by_contra hnone
    refine omits_typed_ofZettel scan isThere z key (hsome.trans (congrArg some ?_))
    rw [Std.ExtTreeSet.eq_empty_iff_forall_not_mem, ← getD_of_getElem? hsome ∅]
    exact fun t ht => hnone ⟨t, (mem_typed_ofZettel scan isThere z key t).mp ht⟩
  · rintro ⟨t, ht⟩
    have hin := (mem_typed_ofZettel scan isThere z key t).mpr ht
    by_contra hkey
    rw [getD_of_getElem?_none (Std.ExtTreeMap.getElem?_eq_none hkey)] at hin
    exact Std.ExtTreeSet.not_mem_empty hin

/-- The record has all references of the zettel, each under the head where it belongs. -/
structure Classifies (r : Record) : Prop where
  forward (t : Zid) : t ∈ r.forward ↔ (Links scan z t ∨ Cites z none t) ∧ isThere t = true
  typed (key : String) (refs : ZidSet) (h : r.typed[key]? = some refs) (t : Zid) :
    t ∈ refs ↔ Cites z (some key) t ∧ isThere t = true
  keys (key : String) : key ∈ r.typed ↔ ∃ t, Cites z (some key) t ∧ isThere t = true
  dead (t : Zid) :
    t ∈ r.dead ↔ (Links scan z t ∨ ∃ inverse, Cites z inverse t) ∧ isThere t = false

theorem classifies_ofZettel : Classifies scan isThere z (ofZettel scan isThere z) where
  forward := mem_forward_ofZettel scan isThere z
  typed key refs h t := by
    rw [← getD_of_getElem? h ∅]
    exact mem_typed_ofZettel scan isThere z key t
  keys := mem_keys_ofZettel scan isThere z
  dead := mem_dead_ofZettel scan isThere z

end Zettel

namespace Classifies

variable {scan : Scanner} {isThere : Zid → Bool} {z : Zettel} {r : Record}

theorem not_mem_of_mem_dead (h : Classifies scan isThere z r) {t : Zid} (ht : t ∈ r.dead) :
    t ∉ r.forward ∧ ∀ (key : String) (refs : ZidSet), r.typed[key]? = some refs → t ∉ refs := by
  have hgone : isThere t ≠ true := ne_of_eq_of_ne ((h.dead t).mp ht).2 Bool.false_ne_true
  refine ⟨fun hin => hgone ((h.forward t).mp hin).2, ?_⟩
  intro key refs hkey hin
  exact hgone ((h.typed key refs hkey t).mp hin).2

theorem mem_of_mentioned (h : Classifies scan isThere z r) {t : Zid}
    (ht : Links scan z t ∨ ∃ inverse, Cites z inverse t) :
    t ∈ r.dead ∨ t ∈ r.forward ∨
      ∃ (key : String) (refs : ZidSet), r.typed[key]? = some refs ∧ t ∈ refs := by
  cases hthere : isThere t with
  | false => exact .inl ((h.dead t).mpr ⟨ht, hthere⟩)
  | true =>
    apply Or.inr
    rcases ht with hlinks | ⟨_ | key, hcites⟩
    · exact .inl ((h.forward t).mpr ⟨.inl hlinks, hthere⟩)
    · exact .inl ((h.forward t).mpr ⟨.inr hcites, hthere⟩)
    · have hkey := (h.keys key).mpr ⟨t, hcites, hthere⟩
      have hsome := Std.ExtTreeMap.getElem?_eq_some_getElem hkey
      exact .inr ⟨key, _, hsome, (h.typed key _ hsome t).mpr ⟨hcites, hthere⟩⟩

theorem isComputed_of_mem (h : Classifies scan isThere z r) {key : String} (hkey : key ∈ r.typed) :
    Key.isComputed key = true := by
  rcases (h.keys key).mp hkey with ⟨-, ⟨p, -, -, hinverse, -⟩, -⟩
  exact (Key.IsInverse.isComputed ⟨p.1, hinverse⟩).1

end Classifies

/-- A reference stands where it stands, whatever becomes of other zettel. -/
theorem mem_slot_ofZettel_congr {scan : Scanner} {isThere isThere' : Zid → Bool} {z : Zettel}
    {u : Zid} (h : isThere' u = isThere u) (k : Slot) :
    u ∈ (ofZettel scan isThere' z).slot k ↔ u ∈ (ofZettel scan isThere z).slot k := by
  rw [mem_slot_ofZettel, mem_slot_ofZettel]
  unfold Slot.of
  rw [h]

/-- Records keep every reference of a zettel under its one right head: none is dropped, none is
dead and alive at once, and what is kept under a key is kept under a computed one. When one
zettel comes or goes, the references to it move and no others. -/
theorem ofZettel_sorts_references (scan : Scanner) (isThere : Zid → Bool) (z : Zettel) :
    Classifies scan isThere z (ofZettel scan isThere z) ∧
    (∀ t ∈ (ofZettel scan isThere z).dead, t ∉ (ofZettel scan isThere z).forward ∧
      ∀ (key : String) (refs : ZidSet),
        (ofZettel scan isThere z).typed[key]? = some refs → t ∉ refs) ∧
    (∀ t, (Links scan z t ∨ ∃ inverse, Cites z inverse t) →
      t ∈ (ofZettel scan isThere z).dead ∨ t ∈ (ofZettel scan isThere z).forward ∨
        ∃ (key : String) (refs : ZidSet),
          (ofZettel scan isThere z).typed[key]? = some refs ∧ t ∈ refs) ∧
    (∀ key ∈ (ofZettel scan isThere z).typed, Key.isComputed key = true) ∧
    ∀ (isThere' : Zid → Bool) (t : Zid), (∀ u, u ≠ t → isThere' u = isThere u) →
      (ofZettel scan isThere' z).rest = (ofZettel scan isThere z).rest ∧
      ∀ u, u ≠ t → ∀ k,
        (u ∈ (ofZettel scan isThere' z).slot k ↔ u ∈ (ofZettel scan isThere z).slot k) := by
  have h := classifies_ofZettel scan isThere z
  refine ⟨h, fun t ht => h.not_mem_of_mem_dead ht, fun t ht => h.mem_of_mentioned ht,
    fun key hkey => h.isComputed_of_mem hkey, ?_⟩
  intro isThere' t hother
  exact ⟨rest_ofZettel scan isThere' z isThere,
    fun u hu k => mem_slot_ofZettel_congr (hother u hu) k⟩

/-- Of two zettel that are mentioned one exists, and then the other one appears too. -/
theorem ofZettel_sorts_references_of_two :
    let live : Zid := ⟨20200101000000⟩
    let gone : Zid := ⟨20200101000009⟩
    let z : Zettel :=
      ⟨Meta.made ⟨20240101000000⟩ [.set Key.title "A [[20200101000000]] title",
          .set Key.precursor "20200101000000 nonsense 20200101000009",
          .set "source-zid" "20200101000000", .set Key.back "20200101000000"] false,
        Text.Utf8.encodeText "Body [[20200101000009]] #inline"⟩
    let r := ofZettel Scan.markup (fun t => t == live) z
    let r' := ofZettel Scan.markup (fun t => t == live || t == gone) z
    gone ∈ r.dead ∧ gone ∉ r.forward ∧ live ∈ r.slot (.typed Key.folge) ∧
      Key.isComputed Key.folge = true ∧ live ∈ r'.slot (.typed Key.folge) ∧
      r'.rest = r.rest ∧ gone ∉ r'.dead := by
  intro live gone z r r'
  rcases ofZettel_sorts_references Scan.markup (fun t => t == live) z with
    ⟨-, hapart, -, hcomputed, hmoves⟩
  have hgone : gone ∈ r.dead := by decide +kernel
  have hfolge : Key.folge ∈ r.typed ∧ live ∈ r.slot (.typed Key.folge) := by decide +kernel
  have hother : ∀ u, u ≠ gone → (u == live || u == gone) = (u == live) := by
    intro u hu
    rw [beq_eq_false_iff_ne.mpr hu, Bool.or_false]
  rcases hmoves _ gone hother with ⟨hrest, hstay⟩
  refine ⟨hgone, (hapart gone hgone).1, hfolge.2, hcomputed Key.folge hfolge.1,
    (hstay live (by decide) (.typed Key.folge)).mpr hfolge.2, hrest, ?_⟩
  rcases ofZettel_sorts_references Scan.markup (fun t => t == live || t == gone) z with
    ⟨hsorts', -⟩
  intro hdead
  exact absurd ((hsorts'.dead gone).mp hdead).2 (by decide)

end Record

end Index

end Kasten
