import Kasten.Archive.Checksum
import Kasten.Archive.CodePage

/-!
# Directories of archives

An archive ends with a directory of its members and an end record that tells where the directory
starts. Something may stand in front of the archive and behind it, so the end record is looked
for from the end, and the directory behind the place where it should start. An end record whose
directory cannot be read is passed over.
-/

namespace Kasten.Archive

/-! ## 1. Fields -/

/-- The number in `n` octets at a place, the least significant one first. -/
def field (bytes : Bytes) (place n : Nat) : Nat :=
  ((bytes.drop place).take n).foldr (fun b high => b.toNat + 256 * high) 0

/-- The marks of the records: two letters and two small octets. -/
def mark (a b : UInt8) : Bytes := [0x50, 0x4B, a, b]

def localMark : Bytes := mark 3 4

def memberMark : Bytes := mark 1 2

def endMark : Bytes := mark 5 6

def wideEndMark : Bytes := mark 6 6

def wideLocatorMark : Bytes := mark 6 7

/-- The places from `start` on where a mark stands, in ascending order. -/
def places (sign : Bytes) : Nat → Bytes → List Nat
  | _, [] => []
  | start, b :: bytes =>
    if sign.isPrefixOf (b :: bytes) then start :: places sign (start + 1) bytes
    else places sign (start + 1) bytes

/-! ## 2. Members -/

structure Member where
  name : String
  isEncrypted : Bool
  method : Nat
  checksum : UInt32
  size : Nat
  start : Nat
deriving DecidableEq, Repr

/-- A member as it is read from the directory: its name as octets, and its full size. -/
structure Member.Draft where
  rawName : Bytes
  isUtf8 : Bool
  size : Nat
  fullSize : Nat
  start : Nat
deriving DecidableEq, Repr

/-- The value that means that the number is found in an extra field. -/
def wide : Nat := 0xFFFFFFFF

/-- Takes the sizes and the start that do not fit into the record from an extra field. -/
def Member.Draft.widen (m : Member.Draft) (content : Bytes) : Option Member.Draft :=
  let all := 24 ≤ content.length
  let (fullSize, k) := if all || m.fullSize = wide then (field content 0 8, 8) else (m.fullSize, 0)
  let (size, k) := if all || m.size = wide then (field content k 8, k + 8) else (m.size, k)
  let (start, k) := if all || m.start = wide then (field content k 8, k + 8) else (m.start, k)
  if content.length < k then none else some { m with size, fullSize, start }

/-- Takes the name from an extra field, which knows the checksum of the name that it replaces. -/
def Member.Draft.rename (m : Member.Draft) (content : Bytes) : Option Member.Draft :=
  let name := content.drop 5
  if content.length < 5 || field content 1 4 ≠ (crc32 m.rawName).toNat then none
  else if (Text.Utf8.decode? name).isNone then none
  else some { m with rawName := name, isUtf8 := true }

/-- Goes through the extra fields; a field that is cut off ends them. -/
def Member.Draft.extend (m : Member.Draft) (extra : Bytes) : Option Member.Draft :=
  if extra.length < 2 then some m
  else if extra.length < 4 then none
  else
    let size := field extra 2 2
    let content := (extra.drop 4).take size
    if content.length < size then some m
    else
      let changed :=
        match field extra 0 2 with
        | 0x0001 => m.widen content
        | 0x7075 => m.rename content
        | _ => some m
      match changed with
      | none => none
      | some m => extend m (extra.drop (4 + size))
termination_by extra.length
decreasing_by simp; omega

/-- Reads the member record at the start of the octets and gives what follows it; `shift` is how
far the whole archive is moved. -/
def Member.read? (shift : Nat) (bytes : Bytes) : Option (Member × Bytes) :=
  let nameSize := field bytes 28 2
  let extraSize := field bytes 30 2
  let total := 46 + nameSize + extraSize + field bytes 32 2
  if bytes.length < 46 || bytes.length < total || !memberMark.isPrefixOf bytes then none
  else
    let flags := field bytes 8 2
    let rawName := (bytes.drop 46).take nameSize
    let extra := (bytes.drop (46 + nameSize)).take extraSize
    let draft : Draft :=
      ⟨rawName, flags.testBit 11, field bytes 20 4, field bytes 24 4, field bytes 42 4⟩
    match draft.extend extra with
    | none => none
    | some m =>
      let name :=
        if m.isUtf8 then String.ofList (Text.Utf8.decodeLossy m.rawName) else CodePage.decode m.rawName
      some (⟨name, flags.testBit 0, field bytes 10 2, UInt32.ofNat (field bytes 16 4), m.size,
        m.start + shift⟩, bytes.drop total)

/-- Reads so many member records, one behind the other. -/
def readMembers? (shift : Nat) : Nat → Bytes → Option (List Member)
  | 0, _ => some []
  | n + 1, bytes => do
    let (m, rest) ← Member.read? shift bytes
    let ms ← readMembers? shift n rest
    return m :: ms

/-! ## 3. End records -/

/-- Where the directory is and how many members it lists. An archive that is split over several
disks, or whose end record contradicts itself, is not usable. -/
structure Outline where
  shift : Nat
  start : Nat
  count : Nat
  isUsable : Bool
deriving DecidableEq, Repr

/-- The last record with wide numbers between a place and the locator, if it is consistent. -/
def readWideEnd (bytes : Bytes) (locator place : Nat) : Except String Outline :=
  let offset := field bytes (locator + 8) 8
  let record := bytes.drop place
  let size := field record 4 8
  if size < 44 then throw "Low EOCD64 record size"
  else if locator - place < size + 12 then throw "EOCD64 extends beyond EOCD64 locator"
  else if field record 20 4 ≠ field bytes (locator + 4) 4 then
    throw "Invalid EOCD64: inconsistency with Locator data"
  else if size + 12 ≠ locator - place then throw "Invalid EOCD64: inconsistent length"
  else if place < field record 32 8 * 46 + field record 48 8 then
    throw "Invalid EOCD64: inconsistent number of files"
  else
    let shift := place - offset
    return {
      shift
      start := field record 48 8 + shift
      count := field record 32 8
      isUsable := field record 16 4 = field record 20 4 && field record 24 8 ≤ field record 32 8 &&
        field record 14 2 ≤ field record 12 2 }

/-- Tries the wide end records one after another; the last failure counts. -/
def firstWideEnd (bytes : Bytes) (locator : Nat) (failure : String) :
    List Nat → Except String Outline
  | [] => throw failure
  | place :: rest =>
    match readWideEnd bytes locator place with
    | .ok outline => .ok outline
    | .error failure => firstWideEnd bytes locator failure rest

/-- The outline that a locator in front of the end record leads to. -/
def wideOutline (bytes : Bytes) (locator : Nat) : Except String Outline :=
  let offset := field bytes (locator + 8) 8
  if locator ≤ offset then throw "Invalid EOCD64 Locator CD offset"
  else if 1 < field bytes (locator + 16) 4 then throw "Multi-disk ZIP files are not supported"
  else
    firstWideEnd bytes locator "Could not find EOCD64"
      (places wideEndMark offset ((bytes.take locator).drop offset))

/-- The outline of an end record: the directory starts at the first member record behind the
place that is named. -/
def narrowOutline (bytes : Bytes) (place : Nat) : Except String Outline :=
  let record := bytes.drop place
  let offset := field record 16 4
  let outline (shift : Nat) : Outline :=
    ⟨shift, offset + shift, field record 8 2, field record 4 2 = field record 6 2⟩
  if field record 10 2 = 0 then return outline (place - offset)
  else if place ≤ offset then throw "Invalid CDFH offset in EOCD"
  else
    match places memberMark offset ((bytes.take place).drop offset) with
    | [] => throw "No CDFH found"
    | first :: _ => return outline (first - offset)

def outlineAt (bytes : Bytes) (place : Nat) : Except String Outline :=
  let record := bytes.drop place
  let mayBeWide := field record 10 2 = 0xFFFF || field record 16 4 = wide
  if mayBeWide && 20 ≤ place && wideLocatorMark.isPrefixOf (bytes.drop (place - 20)) then
    wideOutline bytes (place - 20)
  else narrowOutline bytes place

/-! ## 4. The directory -/

/-- Why no directory was found. -/
inductive DirectoryFault where
  | short
  | invalid (detail : String)
deriving DecidableEq, Repr

/-- Whether a whole end record with its comment stands at a place. -/
def checkEnd (bytes : Bytes) (place : Nat) : Except DirectoryFault Unit :=
  let size := bytes.length - place
  if size < 22 then throw .short
  else if size < 22 + field bytes (place + 20) 2 then
    throw (.invalid "EOCD comment exceeds file boundary")
  else return ()

/-- Tries end records one after another. A record that is not whole counts only if no other fault
is known; a directory that cannot be read makes the search start anew. -/
def directoryFrom (bytes : Bytes) (known : Option DirectoryFault) :
    List Nat → Except DirectoryFault (List Member)
  | [] => throw (known.getD (.invalid "Could not find EOCD"))
  | place :: rest =>
    match checkEnd bytes place with
    | .error fault => directoryFrom bytes (known <|> some fault) rest
    | .ok _ =>
      match outlineAt bytes place with
      | .error detail => directoryFrom bytes (some (.invalid detail)) rest
      | .ok outline =>
        let members :=
          if outline.isUsable then
            readMembers? outline.shift outline.count (bytes.drop outline.start)
          else none
        match members with
        | some members => .ok members
        | none => directoryFrom bytes none rest

/-- The members that an archive lists. -/
def directory (bytes : Bytes) : Except DirectoryFault (List Member) :=
  directoryFrom bytes none (places endMark 0 bytes).reverse

end Kasten.Archive
