import Kasten.Text.Utf8

/-!
# Inflating

Members of an archive may be deflated: blocks of literal octets and of references back into what
was written so far, both coded by binary trees. A stream may end too early; then what was decoded
up to there still counts.
-/

namespace Kasten.Archive.Inflate

/-! ## 1. Bits -/

/-- The bits of a stream, the least significant ones of an octet first. -/
abbrev Bits := List Bool

def bitsOf (bytes : Bytes) : Bits :=
  bytes.flatMap fun b => (List.range 8).map b.toNat.testBit

/-- Why decoding cannot go on. -/
inductive Stop where
  | cut
  | corrupt
deriving DecidableEq, Repr

/-- A number of so many bits, the least significant first. -/
def number : Nat → Bits → Except Stop (Nat × Bits)
  | 0, bits => .ok (0, bits)
  | _ + 1, [] => .error .cut
  | n + 1, bit :: bits => do
    let (high, rest) ← number n bits
    return (bit.toNat + 2 * high, rest)

/-! ## 2. Code trees -/

inductive Tree where
  | empty
  | leaf (symbol : Nat)
  | node (zero one : Tree)
deriving DecidableEq, Repr

namespace Tree

/-- Puts a symbol at the end of a path. -/
def insert (symbol : Nat) : List Bool → Tree → Tree
  | [], _ => leaf symbol
  | false :: path, node zero one => node (insert symbol path zero) one
  | true :: path, node zero one => node zero (insert symbol path one)
  | false :: path, _ => node (insert symbol path empty) empty
  | true :: path, _ => node empty (insert symbol path empty)

/-- Follows the bits to a symbol. -/
def decode : Tree → Bits → Except Stop (Nat × Bits)
  | empty, _ => .error .corrupt
  | leaf symbol, bits => .ok (symbol, bits)
  | node _ _, [] => .error .cut
  | node zero one, bit :: bits => if bit then one.decode bits else zero.decode bits

end Tree

/-- No code is longer. -/
def maxLength : Nat := 15

/-- The bits of a code, the most significant first. -/
def path (length code : Nat) : List Bool :=
  (List.range length).map fun i => code.testBit (length - 1 - i)

/-- The part of all codes that a code of this length takes up, in units of the longest code. -/
def share (length : Nat) : Nat := 1 <<< (maxLength - length)

/-- Gives out codes in the order of their lengths; `start` is the next one at full length. -/
def assign : Nat → List (Nat × Nat) → Tree → Tree
  | _, [], tree => tree
  | start, (length, symbol) :: rest, tree =>
    let unit := share length
    assign (start + unit) rest (tree.insert symbol (path length (start / unit)))

/-- The lengths that are used, with their symbols. -/
def used (lengths : List Nat) : List (Nat × Nat) :=
  lengths.zipIdx.filter fun (length, _) => length ≠ 0

/-- The part of all codes that the lengths take up together. -/
def weight (lengths : List Nat) : Nat :=
  (used lengths).foldr (fun (length, _) total => share length + total) 0

/-- The tree of a list of code lengths, one per symbol, where 0 means that it has no code. The
codes have to be complete; a tree that may be sparse may also have only one of them, or none. -/
def treeOf (maySparse : Bool) (lengths : List Nat) : Except Stop Tree :=
  if weight lengths = share 0 || (maySparse && (used lengths).length ≤ 1) then
    .ok (assign 0 ((used lengths).mergeSort fun a b => a.1 ≤ b.1) .empty)
  else .error .corrupt

/-! ## 3. Blocks -/

/-- Least length and number of further bits for the symbols from 257 on. -/
def lengthCodes : List (Nat × Nat) :=
  [(3, 0), (4, 0), (5, 0), (6, 0), (7, 0), (8, 0), (9, 0), (10, 0), (11, 1), (13, 1), (15, 1),
    (17, 1), (19, 2), (23, 2), (27, 2), (31, 2), (35, 3), (43, 3), (51, 3), (59, 3), (67, 4),
    (83, 4), (99, 4), (115, 4), (131, 5), (163, 5), (195, 5), (227, 5), (258, 0)]

/-- Least distance and number of further bits. -/
def distanceCodes : List (Nat × Nat) :=
  [(1, 0), (2, 0), (3, 0), (4, 0), (5, 1), (7, 1), (9, 2), (13, 2), (17, 3), (25, 3), (33, 4),
    (49, 4), (65, 5), (97, 5), (129, 6), (193, 6), (257, 7), (385, 7), (513, 8), (769, 8),
    (1025, 9), (1537, 9), (2049, 10), (3073, 10), (4097, 11), (6145, 11), (8193, 12), (12289, 12),
    (16385, 13), (24577, 13)]

/-- A number that a table gives the least value and the width for. -/
def ranged (codes : List (Nat × Nat)) (index : Nat) (bits : Bits) : Except Stop (Nat × Bits) :=
  match codes[index]? with
  | none => .error .corrupt
  | some (least, width) => do
    let (more, rest) ← number width bits
    return (least + more, rest)

/-- Repeats what was written `distance` octets ago. Before the start there are zeros. -/
def copy (distance : Nat) : Nat → Array UInt8 → Array UInt8
  | 0, out => out
  | n + 1, out =>
    let octet := if distance ≤ out.size then out.getD (out.size - distance) 0 else 0
    copy distance n (out.push octet)

structure Trees where
  literals : Tree
  distances : Tree

/-- What one symbol stands for: `none` ends the block. -/
def symbol (trees : Trees) (out : Array UInt8) (bits : Bits) :
    Except Stop (Option (Array UInt8) × Bits) := do
  let (code, bits) ← trees.literals.decode bits
  if code < 256 then return (some (out.push (UInt8.ofNat code)), bits)
  if code = 256 then return (none, bits)
  let (length, bits) ← ranged lengthCodes (code - 257) bits
  let (index, bits) ← trees.distances.decode bits
  let (distance, bits) ← ranged distanceCodes index bits
  return (some (copy distance length out), bits)

/-- How far decoding came, and what is left; without `rest` it cannot go on. -/
structure Progress where
  out : Array UInt8
  rest : Except Stop Bits

/-- Each symbol takes at least one bit, so there are no more of them than bits. -/
def symbols (trees : Trees) : Nat → Array UInt8 → Bits → Progress
  | 0, out, _ => ⟨out, .error .cut⟩
  | fuel + 1, out, bits =>
    match symbol trees out bits with
    | .error stop => ⟨out, .error stop⟩
    | .ok (none, bits) => ⟨out, .ok bits⟩
    | .ok (some out, bits) => symbols trees fuel out bits

/-- Octets that stand for themselves. -/
def stored : Nat → Array UInt8 → Bits → Progress
  | 0, out, bits => ⟨out, .ok bits⟩
  | n + 1, out, bits =>
    match number 8 bits with
    | .error stop => ⟨out, .error stop⟩
    | .ok (octet, bits) => stored n (out.push (UInt8.ofNat octet)) bits

/-- The length of a stored block, which is given twice, the second time complemented. -/
def storedLength (bits : Bits) : Except Stop (Nat × Bits) := do
  let (length, bits) ← number 16 (bits.drop (bits.length % 8))
  let (check, bits) ← number 16 bits
  if length + check = 65535 then return (length, bits)
  throw .corrupt

def fixedTrees : Except Stop Trees := do
  let literals ← treeOf true
    (List.replicate 144 8 ++ List.replicate 112 9 ++ List.replicate 24 7 ++ List.replicate 8 8)
  let distances ← treeOf true (List.replicate 32 5)
  return ⟨literals, distances⟩

/-- The order in which the lengths of the codes for lengths are given. -/
def lengthOrder : List Nat := [16, 17, 18, 0, 8, 7, 9, 6, 10, 5, 11, 4, 12, 3, 13, 2, 14, 1, 15]

/-- So many numbers of three bits. -/
def triples : Nat → Bits → Except Stop (List Nat × Bits)
  | 0, bits => .ok ([], bits)
  | n + 1, bits => do
    let (first, bits) ← number 3 bits
    let (rest, bits) ← triples n bits
    return (first :: rest, bits)

/-- Code lengths, themselves coded; the lengths read so far are kept last first. Each one takes at
least one bit. -/
def lengths (tree : Tree) (total : Nat) : Nat → List Nat → Bits → Except Stop (List Nat × Bits)
  | 0, _, _ => .error .cut
  | fuel + 1, known, bits =>
    if total ≤ known.length then
      if total = known.length then .ok (known.reverse, bits) else .error .corrupt
    else do
      let (code, bits) ← tree.decode bits
      match code with
      | 16 =>
        match known with
        | [] => throw .corrupt
        | last :: _ =>
          let (more, bits) ← number 2 bits
          lengths tree total fuel (List.replicate (3 + more) last ++ known) bits
      | 17 =>
        let (more, bits) ← number 3 bits
        lengths tree total fuel (List.replicate (3 + more) 0 ++ known) bits
      | 18 =>
        let (more, bits) ← number 7 bits
        lengths tree total fuel (List.replicate (11 + more) 0 ++ known) bits
      | length => lengths tree total fuel (length :: known) bits

/-- Trees that a block brings with it. -/
def ownTrees (bits : Bits) : Except Stop (Trees × Bits) := do
  let (literalCount, bits) ← number 5 bits
  let (distanceCount, bits) ← number 5 bits
  let (orderCount, bits) ← number 4 bits
  if 29 < literalCount || 29 < distanceCount then throw .corrupt
  let (given, bits) ← triples (orderCount + 4) bits
  let tree ← treeOf false ((List.range 19).map fun s => (given[lengthOrder.idxOf s]?).getD 0)
  let total := literalCount + 257 + (distanceCount + 1)
  let (all, bits) ← lengths tree total (bits.length + 1) [] bits
  let literals ← treeOf true (all.take (literalCount + 257))
  let distances ← treeOf true (all.drop (literalCount + 257))
  return (⟨literals, distances⟩, bits)

/-- One block after its first bit. -/
def block (out : Array UInt8) (bits : Bits) : Progress :=
  match number 2 bits with
  | .error stop => ⟨out, .error stop⟩
  | .ok (kind, bits) =>
    match kind with
    | 0 =>
      match storedLength bits with
      | .error stop => ⟨out, .error stop⟩
      | .ok (length, bits) => stored length out bits
    | 1 =>
      match fixedTrees with
      | .error stop => ⟨out, .error stop⟩
      | .ok trees => symbols trees (bits.length + 1) out bits
    | 2 =>
      match ownTrees bits with
      | .error stop => ⟨out, .error stop⟩
      | .ok (trees, bits) => symbols trees (bits.length + 1) out bits
    | _ => ⟨out, .error .corrupt⟩

/-- Blocks up to the one that is marked as the last. Each one takes at least one bit. -/
def blocks : Nat → Array UInt8 → Bits → Progress
  | 0, out, _ => ⟨out, .error .cut⟩
  | _ + 1, out, [] => ⟨out, .error .cut⟩
  | fuel + 1, out, isLast :: bits =>
    let progress := block out bits
    match progress.rest with
    | .error _ => progress
    | .ok bits => if isLast then progress else blocks fuel progress.out bits

/-- What a stream holds, or held up to where it was cut off; nothing if it is corrupt. -/
def inflate? (bytes : Bytes) : Option Bytes :=
  let bits := bitsOf bytes
  let progress := blocks (bits.length + 1) #[] bits
  match progress.rest with
  | .error .corrupt => none
  | _ => some progress.out.toList

end Kasten.Archive.Inflate
