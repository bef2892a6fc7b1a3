import Kasten.Text.Utf8

/-!
# Names in the old code page

Names in archives are written in code page 437 unless they are marked as UTF-8.
-/

namespace Kasten.Archive.CodePage

/-- The characters of the upper half. -/
def upper : Array Char :=
  ("ÇüéâäàåçêëèïîìÄÅÉæÆôöòûùÿÖÜ¢£¥₧ƒáíóúñÑªº¿⌐¬½¼¡«»░▒▓│┤╡╢╖╕╣║╗╝╜╛┐" ++
    "└┴┬├─┼╞╟╚╔╩╦╠═╬╧╨╤╥╙╘╒╓╫╪┘┌█▄▌▐▀αßΓπΣσµτΦΘΩδ∞φε∩≡±≥≤⌠⌡÷≈°∙·√ⁿ²■\u00a0").toList.toArray

def charOf (b : UInt8) : Char :=
  if b < 128 then Char.ofNat b.toNat else upper.getD (b.toNat - 128) ' '

def decode (bytes : Bytes) : String := String.ofList (bytes.map charOf)

end Kasten.Archive.CodePage
