import Kasten.Zid.Basic

/-!
# Ascending lists of identifiers

The references of the index are kept as strictly ascending lists. Every operation assumes that
its arguments ascend and gives lists that do.
-/

namespace Kasten

structure ZidSlice where
  ids : List Zid
deriving DecidableEq, Repr, Inhabited

namespace ZidSlice

def empty : ZidSlice := ⟨[]⟩

instance : EmptyCollection ZidSlice := ⟨empty⟩

def isEmpty (s : ZidSlice) : Bool := s.ids.isEmpty

def size (s : ZidSlice) : Nat := s.ids.length

def contains (s : ZidSlice) (z : Zid) : Bool := s.ids.contains z

instance : Membership Zid ZidSlice := ⟨fun s z => z ∈ s.ids⟩

/-- Every identifier is less than all that follow it. -/
def Ascending (s : ZidSlice) : Prop := s.ids.Pairwise (· < ·)

instance (s : ZidSlice) : Decidable s.Ascending := inferInstanceAs (Decidable (s.ids.Pairwise _))

/-! ## 1. Single identifiers -/

def insertIds (z : Zid) : List Zid → List Zid
  | [] => [z]
  | a :: rest => if a < z then a :: insertIds z rest else if a = z then a :: rest else z :: a :: rest

def insert (s : ZidSlice) (z : Zid) : ZidSlice := ⟨insertIds z s.ids⟩

def erase (s : ZidSlice) (z : Zid) : ZidSlice := ⟨s.ids.filter (· ≠ z)⟩

def ofList (zs : List Zid) : ZidSlice := zs.foldl insert empty

/-! ## 2. Places -/

/-- Binary search in a list whose first place is `start`: the place of the identifier, or else the
place where it belongs. -/
def searchIds (z : Zid) (start : Nat) (ids : List Zid) : Except Nat Nat :=
  match h : ids.drop (ids.length / 2) with
  | [] => .error start
  | middle :: upper =>
    if z < middle then searchIds z start (ids.take (ids.length / 2))
    else if middle < z then searchIds z (start + ids.length / 2 + 1) upper
    else .ok (start + ids.length / 2)
termination_by ids.length
decreasing_by
  all_goals
    have hlength := congrArg List.length h
    rw [List.length_drop, List.length_cons] at hlength
  · rw [List.length_take]
    omega
  · omega

def search (s : ZidSlice) (z : Zid) : Except Nat Nat := searchIds z 0 s.ids

/-- Whether the identifier is new, and the slice with it at its place. -/
def insertNew (s : ZidSlice) (z : Zid) : Bool × ZidSlice :=
  match s.search z with
  | .ok _ => (false, s)
  | .error i => (true, ⟨s.ids.insertIdx i z⟩)

/-- Whether the identifier was there, and the slice without what is at its place. -/
def eraseOld (s : ZidSlice) (z : Zid) : Bool × ZidSlice :=
  match s.search z with
  | .ok i => (true, ⟨s.ids.eraseIdx i⟩)
  | .error _ => (false, s)

/-! ## 3. Two slices -/

/-- Walks along two ascending lists: what only the first has, and what only the second has. -/
def diffIds : List Zid → List Zid → List Zid × List Zid
  | [], old => ([], old)
  | new, [] => (new, [])
  | n :: new, o :: old =>
    if n < o then
      let (added, removed) := diffIds new (o :: old)
      (n :: added, removed)
    else if o < n then
      let (added, removed) := diffIds (n :: new) old
      (added, o :: removed)
    else diffIds new old

/-- What was added and what was removed on the way from `old` to `new`. -/
def diff (new old : ZidSlice) : ZidSlice × ZidSlice :=
  let (added, removed) := diffIds new.ids old.ids
  (⟨added⟩, ⟨removed⟩)

/-- The identifiers that the other slice lacks. -/
def without (s other : ZidSlice) : ZidSlice := ⟨s.ids.filter fun z => !other.contains z⟩

/-! ## 4. Text -/

/-- The texts of the identifiers with single spaces between them. -/
def text (s : ZidSlice) : String :=
  " ".intercalate (s.ids.map Zid.text)

instance : ToString ZidSlice := ⟨text⟩

end ZidSlice

end Kasten
