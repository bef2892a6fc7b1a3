import Kasten.Text.Blank

/-!
# Words with single spaces between them

Squeezing a text leaves its words, with one space between neighbours. A text of this form is not
changed by squeezing or trimming again, and the only blank in it is the space.
-/

namespace Kasten.Text

def IsWord (w : List Char) : Prop := w ≠ [] ∧ ∀ c ∈ w, isBlank c = false

variable {w cs : List Char} {ws : List (List Char)} {c : Char}

theorem IsWord.tail {d : Char} (h : IsWord (c :: d :: w)) : IsWord (d :: w) :=
  ⟨List.cons_ne_nil d w, fun e he => h.2 e (List.mem_cons_of_mem c he)⟩

/-! ## 1. Cutting into words -/

theorem words_blank (hc : isBlank c = true) (cs : List Char) : words (c :: cs) = words cs := by
  unfold words
  cases cs with
  | nil => rw [runsWithout.eq_2, if_pos hc]
  | cons d cs => rw [runsWithout.eq_3, if_pos hc]

theorem words_singleton (hc : isBlank c = false) : words [c] = [[c]] := by
  unfold words
  rw [runsWithout.eq_2, if_neg (ne_true_of_eq_false hc)]

/-- Before a blank a character is a word of its own. -/
theorem words_cons_blank {d : Char} (hc : isBlank c = false) (hd : isBlank d = true)
    (cs : List Char) : words (c :: d :: cs) = [c] :: words cs := by
  rw [← words_blank hd cs]
  unfold words
  rw [runsWithout.eq_3, if_neg (ne_true_of_eq_false hc), hd]

/-- Before any other character it joins that one's word. -/
theorem words_cons_word {d : Char} {run : List Char} {rest : List (List Char)}
    (hc : isBlank c = false) (hd : isBlank d = false) (hrest : words (d :: cs) = run :: rest) :
    words (c :: d :: cs) = (c :: run) :: rest := by
  unfold words at hrest ⊢
  rw [runsWithout.eq_3, if_neg (ne_true_of_eq_false hc), hd, hrest]

theorem exists_words_cons (hc : isBlank c = false) (cs : List Char) :
    ∃ run rest, words (c :: cs) = run :: rest := by
  induction cs generalizing c with
  | nil => exact ⟨[c], [], words_singleton hc⟩
  | cons d cs ih =>
    by_cases hd : isBlank d = true
    · exact ⟨[c], words cs, words_cons_blank hc hd cs⟩
    · have hfree := eq_false_of_ne_true hd
      rcases ih hfree with ⟨run, rest, hrest⟩
      exact ⟨c :: run, rest, words_cons_word hc hfree hrest⟩

theorem isWord_singleton (hc : isBlank c = false) : IsWord [c] :=
  ⟨List.cons_ne_nil c [], List.forall_mem_singleton.mpr hc⟩

theorem isWord_of_mem_words (hw : w ∈ words cs) : IsWord w := by
  induction cs generalizing w with
  | nil => exact absurd hw List.not_mem_nil
  | cons c cs ih =>
    by_cases hc : isBlank c = true
    · rw [words_blank hc] at hw
      exact ih hw
    -- Any other character begins a word, whether that ends here or goes on.
    have hfree := eq_false_of_ne_true hc
    cases cs with
    | nil =>
      rw [words_singleton hfree, List.mem_singleton] at hw
      exact hw ▸ isWord_singleton hfree
    | cons d cs =>
      by_cases hd : isBlank d = true
      · rw [words_cons_blank hfree hd] at hw
        rcases List.mem_cons.mp hw with rfl | hw
        · exact isWord_singleton hfree
        · exact ih (words_blank hd cs ▸ hw)
      · have hfree' := eq_false_of_ne_true hd
        rcases exists_words_cons hfree' cs with ⟨run, rest, hrest⟩
        rw [words_cons_word hfree hfree' hrest] at hw
        rcases List.mem_cons.mp hw with rfl | hw
        · have hrun : IsWord run := ih (hrest ▸ List.mem_cons_self)
          exact ⟨List.cons_ne_nil c run, List.forall_mem_cons.mpr ⟨hfree, hrun.2⟩⟩
        · exact ih (hrest ▸ List.mem_cons_of_mem run hw)

theorem words_of_isWord (hw : IsWord w) : words w = [w] := by
  induction w with
  | nil => exact absurd rfl hw.1
  | cons c w ih =>
    have hc : isBlank c = false := hw.2 c List.mem_cons_self
    cases w with
    | nil => exact words_singleton hc
    | cons d w =>
      have hd : isBlank d = false := hw.tail.2 d List.mem_cons_self
      exact words_cons_word hc hd (ih hw.tail)

/-- A word ends at the next space. -/
theorem words_append_space (hw : IsWord w) (cs : List Char) :
    words (w ++ ' ' :: cs) = w :: words cs := by
  induction w with
  | nil => exact absurd rfl hw.1
  | cons c w ih =>
    have hc : isBlank c = false := hw.2 c List.mem_cons_self
    -- Only the last character of the word has the space behind it.
    cases w with
    | nil => exact words_cons_blank hc (by decide) cs
    | cons d w =>
      have hd : isBlank d = false := hw.tail.2 d List.mem_cons_self
      exact words_cons_word hc hd (ih hw.tail)

/-- Behind a blank words begin anew. -/
theorem words_append (cs : List Char) {ds : List Char} (hds : ∀ d ∈ ds.head?, isBlank d = true) :
    words (cs ++ ds) = words cs ++ words ds := by
  induction cs with
  | nil => rfl
  | cons c cs ih =>
    by_cases hc : isBlank c = true
    · rw [List.cons_append, words_blank hc, words_blank hc, ih]
    have hfree := eq_false_of_ne_true hc
    -- The word of the first character ends with the text, before a blank or further behind.
    cases cs with
    | nil =>
      rw [words_singleton hfree]
      cases ds with
      | nil => exact words_singleton hfree
      | cons d ds =>
        have hd := hds d rfl
        rw [words_blank hd]
        exact words_cons_blank hfree hd ds
    | cons e cs =>
      by_cases he : isBlank e = true
      · rw [List.cons_append, words_blank he, words_blank he] at ih
        rw [words_cons_blank hfree he]
        show words (c :: e :: (cs ++ ds)) = [c] :: (words cs ++ words ds)
        rw [← ih]
        exact words_cons_blank hfree he (cs ++ ds)
      · have hfree' := eq_false_of_ne_true he
        rcases exists_words_cons hfree' cs with ⟨run, rest, hrest⟩
        rw [hrest] at ih
        rw [words_cons_word hfree hfree' hrest]
        exact words_cons_word hfree hfree' ih

theorem words_joinSpaces (hws : ∀ w ∈ ws, IsWord w) : words (joinSpaces ws) = ws := by
  induction ws with
  | nil => rfl
  | cons w ws ih =>
    have hw : IsWord w := hws w List.mem_cons_self
    cases ws with
    | nil => exact words_of_isWord hw
    | cons v ws =>
      rw [joinSpaces, words_append_space hw, ih fun u hu => hws u (List.mem_cons_of_mem w hu)]
      exact List.cons_ne_nil v ws

theorem words_squeeze (cs : List Char) : words (squeeze cs) = words cs :=
  words_joinSpaces fun _ hw => isWord_of_mem_words hw

theorem squeeze_squeeze (cs : List Char) : squeeze (squeeze cs) = squeeze cs := by
  unfold squeeze
  rw [words_joinSpaces fun _ hw => isWord_of_mem_words hw]

theorem squeeze_of_isWord (hw : IsWord w) : squeeze w = w := by
  unfold squeeze
  rw [words_of_isWord hw]
  rfl

/-! ## 2. Texts that are squeezed already -/

theorem eq_space_of_mem_joinSpaces (hws : ∀ w ∈ ws, IsWord w) (hc : c ∈ joinSpaces ws)
    (hb : isBlank c = true) : c = ' ' := by
  induction ws with
  | nil => exact absurd hc List.not_mem_nil
  | cons w ws ih =>
    have hout : c ∉ w := fun hin =>
      absurd hb (ne_true_of_eq_false ((hws w List.mem_cons_self).2 c hin))
    -- Words have no blank, so it stands between two of them.
    cases ws with
    | nil => exact absurd hc hout
    | cons v ws =>
      rw [joinSpaces, List.mem_append, List.mem_cons] at hc
      · rcases hc with hc | hc | hc
        · exact absurd hc hout
        · exact hc
        · exact ih (fun u hu => hws u (List.mem_cons_of_mem w hu)) hc
      · exact List.cons_ne_nil v ws

theorem exists_last_of_joinSpaces (hws : ∀ w ∈ ws, IsWord w) (hne : ws ≠ []) :
    ∃ front last, joinSpaces ws = front ++ [last] ∧ isBlank last = false := by
  induction ws with
  | nil => exact absurd rfl hne
  | cons w ws ih =>
    cases ws with
    | nil =>
      have hw : IsWord w := hws w List.mem_cons_self
      refine ⟨w.dropLast, w.getLast hw.1, ?_, hw.2 _ (List.getLast_mem hw.1)⟩
      exact (List.dropLast_concat_getLast hw.1).symm
    | cons v ws =>
      -- What is joined in front of the last word does not change how the text ends.
      have hlast := ih (fun u hu => hws u (List.mem_cons_of_mem w hu)) (List.cons_ne_nil v ws)
      rcases hlast with ⟨front, last, heq, hb⟩
      refine ⟨w ++ ' ' :: front, last, ?_, hb⟩
      rw [joinSpaces, heq, List.append_assoc, List.cons_append]
      exact List.cons_ne_nil v ws

theorem exists_first_of_joinSpaces (hws : ∀ w ∈ ws, IsWord w) (hne : ws ≠ []) :
    ∃ first rest, joinSpaces ws = first :: rest ∧ isBlank first = false := by
  cases ws with
  | nil => exact absurd rfl hne
  | cons w ws =>
    have hw : IsWord w := hws w List.mem_cons_self
    cases w with
    | nil => exact absurd rfl hw.1
    | cons c w =>
      have hc : isBlank c = false := hw.2 c List.mem_cons_self
      cases ws with
      | nil => exact ⟨c, w, rfl, hc⟩
      | cons v ws => exact ⟨c, w ++ ' ' :: joinSpaces (v :: ws), rfl, hc⟩

variable (hcs : squeeze cs = cs)

include hcs

theorem eq_space_of_mem_squeezed (hc : c ∈ cs) (hb : isBlank c = true) : c = ' ' := by
  rw [← hcs] at hc
  exact eq_space_of_mem_joinSpaces (fun _ hw => isWord_of_mem_words hw) hc hb

theorem words_ne_nil_of_squeezed (hne : cs ≠ []) : words cs ≠ [] := by
  intro hw
  unfold squeeze at hcs
  rw [hw] at hcs
  exact hne hcs.symm

theorem exists_last_of_squeezed (hne : cs ≠ []) :
    ∃ front last, cs = front ++ [last] ∧ isBlank last = false := by
  have hlast := exists_last_of_joinSpaces (fun _ hw => isWord_of_mem_words hw)
    (words_ne_nil_of_squeezed hcs hne)
  rcases hlast with ⟨front, last, heq, hb⟩
  exact ⟨front, last, hcs.symm.trans heq, hb⟩

theorem exists_first_of_squeezed (hne : cs ≠ []) :
    ∃ first rest, cs = first :: rest ∧ isBlank first = false := by
  have hfirst := exists_first_of_joinSpaces (fun _ hw => isWord_of_mem_words hw)
    (words_ne_nil_of_squeezed hcs hne)
  rcases hfirst with ⟨first, rest, heq, hb⟩
  exact ⟨first, rest, hcs.symm.trans heq, hb⟩

omit hcs

/-! ## 3. Trimming -/

theorem trimRight_concat (hc : isBlank c = false) (cs : List Char) :
    trimRight (cs ++ [c]) = cs ++ [c] := by
  induction cs with
  | nil =>
    show (if isBlank c = true then [] else [c]) = [c]
    rw [if_neg (ne_true_of_eq_false hc)]
  | cons d cs ih =>
    -- The text behind the first character is not empty, so that one stays too.
    rw [List.cons_append, trimRight, ih]
    cases cs with
    | nil => rfl
    | cons e cs => rfl

theorem trimRight_concat_blank (hc : isBlank c = true) (cs : List Char) :
    trimRight (cs ++ [c]) = trimRight cs := by
  induction cs with
  | nil =>
    show (if isBlank c = true then [] else [c]) = []
    rw [if_pos hc]
  | cons d cs ih => rw [List.cons_append, trimRight, ih, trimRight]

theorem trimLeft_cons (hc : isBlank c = false) (cs : List Char) : trimLeft (c :: cs) = c :: cs :=
  List.dropWhile_cons_of_neg (ne_true_of_eq_false hc)

theorem trimLeft_blank (hc : isBlank c = true) (cs : List Char) :
    trimLeft (c :: cs) = trimLeft cs :=
  List.dropWhile_cons_of_pos hc

theorem trim_of_squeezed (hcs : squeeze cs = cs) : trim cs = cs := by
  -- An empty text is trimmed; any other begins and ends with words.
  by_cases hne : cs = []
  · rw [hne]
    rfl
  rcases exists_first_of_squeezed hcs hne with ⟨first, rest, hfirst, hb⟩
  rcases exists_last_of_squeezed hcs hne with ⟨front, last, hlast, hb'⟩
  have hleft : trimLeft cs = cs := by
    rw [hfirst]
    exact trimLeft_cons hb rest
  have hright : trimRight cs = cs := by
    rw [hlast]
    exact trimRight_concat hb' front
  unfold trim
  rw [hleft, hright]

theorem exists_trim_cons (h : cs.all isBlank = false) :
    ∃ c rest, trim cs = c :: rest ∧ isBlank c = false := by
  have hleft : ∃ c rest, trimLeft cs = c :: rest ∧ isBlank c = false := by
    induction cs with
    | nil => cases h
    | cons c cs ih =>
      cases hc : isBlank c with
      | true =>
        rw [List.all_cons, hc, Bool.true_and] at h
        rw [trimLeft_blank hc]
        exact ih h
      | false => exact ⟨c, cs, trimLeft_cons hc cs, hc⟩
  rcases hleft with ⟨c, rest, hleft, hc⟩
  unfold trim
  rw [hleft, trimRight]
  cases trimRight rest with
  | nil => exact ⟨c, [], if_neg (ne_true_of_eq_false hc), hc⟩
  | cons d ds => exact ⟨c, d :: ds, rfl, hc⟩

theorem words_trim_ne_nil (h : cs.all isBlank = false) : words (trim cs) ≠ [] := by
  rcases exists_trim_cons h with ⟨c, rest, htrim, hc⟩
  rcases exists_words_cons hc rest with ⟨run, more, hwords⟩
  rw [htrim, hwords]
  exact List.cons_ne_nil run more

end Kasten.Text
