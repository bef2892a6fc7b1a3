import Kasten.Text.Utf8
import Kasten.Text.Class

/-!
# Percent encoding

Octets that may not stand in a URL are written as a percent sign and two hexadecimal digits.
Reading undoes this wherever two such digits follow a percent sign.
-/

namespace Kasten.Url.Percent

def hexValue? (c : Char) : Option Nat :=
  if Text.isAsciiDigit c then some (c.toNat - '0'.toNat)
  else if 'a' ≤ c ∧ c ≤ 'f' then some (c.toNat - 'a'.toNat + 10)
  else if 'A' ≤ c ∧ c ≤ 'F' then some (c.toNat - 'A'.toNat + 10)
  else none

def isHex (c : Char) : Bool := (hexValue? c).isSome

def upperHex (n : Nat) : Char := (Nat.digitChar n).toUpper

def encodeOctet (b : UInt8) : List Char :=
  ['%', upperHex (b.toNat / 16), upperHex (b.toNat % 16)]

/-- Controls are escaped everywhere, as is everything outside ASCII. -/
def isControl (c : Char) : Bool :=
  c.toNat < 0x20 || 0x7f ≤ c.toNat

/-- What is escaped in the segments of a path. -/
def isPathEscaped (c : Char) : Bool :=
  isControl c || " \"#<>?`\x7b\x7d".toList.contains c

/-- Escapes the characters that the test picks. -/
def encode (isEscaped : Char → Bool) (cs : List Char) : List Char :=
  cs.flatMap fun c =>
    if isEscaped c then (String.utf8EncodeChar c).flatMap encodeOctet else [c]

/-- The octets of a text, with escapes undone. -/
def decode : List Char → Bytes
  | [] => []
  | c :: cs =>
    if c = '%' then
      match cs with
      | a :: b :: rest =>
        match hexValue? a, hexValue? b with
        | some high, some low => UInt8.ofNat (high * 16 + low) :: decode rest
        | _, _ => 0x25 :: decode (a :: b :: rest)
      | rest => 0x25 :: decode rest
    else String.utf8EncodeChar c ++ decode cs
termination_by cs => cs.length

end Kasten.Url.Percent
