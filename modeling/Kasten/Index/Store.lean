import Kasten.Index.Enrich
import Kasten.Index.Report
import Kasten.Index.Search

/-!
# The index store

The tables of the index together with counts of how often metadata was enriched.
-/

namespace Kasten.Index

/-- `updates` counts enrichments that added something, `enriched` holds the zettel concerned. -/
structure Store where
  tables : Tables
  updates : Nat
  enriched : ZidSet
deriving DecidableEq

structure StoreStats where
  zettel : Nat
  deadTargets : Nat
  words : Nat
  urls : Nat
  updates : Nat
  enriched : Nat
deriving DecidableEq, Repr

namespace Store

def new : Store := ⟨Tables.empty, 0, ∅⟩

/-- Takes in a record and answers the zettel to look at again. -/
def update (s : Store) (r : Record) : ZidSet × Store :=
  let (waiting, tables) := s.tables.update r
  (waiting, { s with tables })

/-- Forgets a zettel and answers the zettel to look at again. -/
def delete (s : Store) (z : Zid) : ZidSet × Store :=
  let (loose, tables) := s.tables.delete z
  (loose, { s with tables })

/-- Adds what the index knows to the metadata of a zettel. -/
def enrich (s : Store) (m : Meta) : Meta × Store :=
  match s.tables.nodes[m.zid]? with
  | none => (m, s)
  | some n =>
    let s :=
      if Tables.enriches m n then
        { s with updates := s.updates + 1, enriched := s.enriched.insert m.zid }
      else s
    (Tables.enrichWith m n, s)

def stats (s : Store) : StoreStats :=
  { zettel := s.tables.nodes.size
    deadTargets := s.tables.dead.size
    words := s.tables.words.size
    urls := s.tables.urls.size
    updates := s.updates
    enriched := s.enriched.size }

end Store

end Kasten.Index
