import Kasten.Text.Table.Display
import Kasten.Text.Class

/-!
# Quoted text

How a text is shown inside a message: between double quotes, with escapes for quotes, control
characters, marks that would join the quote, and characters without a glyph.
-/

namespace Kasten.Text.Quoted

/-- Hexadecimal digits without leading zeros. -/
def hexDigits (n : Nat) : List Char :=
  Nat.toDigits 16 n

def isShown (c : Char) : Bool :=
  if isAscii c then 0x20 ≤ c.toNat && c.toNat < 0x7f
  else !Table.graphemeExtenders.contains c && !Table.unprintable.contains c

def escape (c : Char) : List Char :=
  if c = '\x00' then ['\\', '0']
  else if c = '\t' then ['\\', 't']
  else if c = '\r' then ['\\', 'r']
  else if c = '\n' then ['\\', 'n']
  else if c = '"' then ['\\', '"']
  else if c = '\\' then ['\\', '\\']
  else if isShown c then [c]
  else ['\\', 'u', '\x7b'] ++ hexDigits c.toNat ++ ['\x7d']

/-- A text between double quotes. -/
def encode (s : String) : String :=
  String.ofList ('"' :: s.toList.flatMap escape ++ ['"'])

end Kasten.Text.Quoted
