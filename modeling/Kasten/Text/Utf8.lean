/-!
# UTF-8

Texts as octets. Reading goes through octets one by one: the first octet of a character tells
how many follow and between which bounds the next one lies. An invalid stretch is a maximal
part that could still have begun a character, or a single octet; it reads as `none`.
-/

namespace Kasten

/-- The contents of a file. -/
abbrev Bytes := List UInt8

namespace Text.Utf8

def encode (cs : List Char) : Bytes :=
  cs.flatMap String.utf8EncodeChar

def encodeText (s : String) : Bytes :=
  encode s.toList

/-- A character begun: octets still owed, the value so far, and the bounds of the next octet. -/
structure Begun where
  owed : Nat
  value : Nat
  low : Nat
  high : Nat
deriving Repr

/-- What the first octet of a character of several octets begins. -/
def begin? (n : Nat) : Option Begun :=
  if n < 0xc2 then none
  else if n < 0xe0 then some ⟨1, n - 0xc0, 0x80, 0xbf⟩
  else if n = 0xe0 then some ⟨2, 0, 0xa0, 0xbf⟩
  else if n = 0xed then some ⟨2, 13, 0x80, 0x9f⟩
  else if n < 0xf0 then some ⟨2, n - 0xe0, 0x80, 0xbf⟩
  else if n = 0xf0 then some ⟨3, 0, 0x90, 0xbf⟩
  else if n < 0xf4 then some ⟨3, n - 0xf0, 0x80, 0xbf⟩
  else if n = 0xf4 then some ⟨3, 4, 0x80, 0x8f⟩
  else none

/-- What an octet outside a begun character gives: what is read, and what is begun. -/
def start (n : Nat) : List (Option Char) × Option Begun :=
  if n < 0x80 then ([some (Char.ofNat n)], none)
  else
    match begin? n with
    | some begun => ([], some begun)
    | none => ([none], none)

def decodeFrom : Option Begun → Bytes → List (Option Char)
  | none, [] => []
  | some _, [] => [none]
  | none, b :: bs =>
    let (out, next) := start b.toNat
    out ++ decodeFrom next bs
  | some begun, b :: bs =>
    let n := b.toNat
    if begun.low ≤ n ∧ n ≤ begun.high then
      let value := begun.value * 64 + n % 64
      if begun.owed = 1 then some (Char.ofNat value) :: decodeFrom none bs
      else decodeFrom (some ⟨begun.owed - 1, value, 0x80, 0xbf⟩) bs
    else
      let (out, next) := start n
      none :: (out ++ decodeFrom next bs)

/-- The characters of a text; each maximal invalid part is one `none`. -/
def decode (bs : Bytes) : List (Option Char) :=
  decodeFrom none bs

/-- The characters, with the replacement character for each invalid part. -/
def decodeLossy (bs : Bytes) : List Char :=
  (decode bs).map fun c => c.getD '\ufffd'

/-- The characters of a valid text. -/
def decode? (bs : Bytes) : Option (List Char) :=
  (decode bs).mapM id

def isValid (bs : Bytes) : Bool :=
  (decode bs).all Option.isSome

end Text.Utf8

end Kasten
