import Std.Data.ExtTreeSet
import Kasten.Text.Blank
import Kasten.Text.Decompose
import Kasten.Text.Lower

/-!
# Words of a text

Words are compared without regard to case, marks and compatibility forms.
-/

namespace Kasten.Index

abbrev TextSet := Std.ExtTreeSet String

def addTexts (s : TextSet) (texts : List String) : TextSet := texts.foldl (·.insert ·) s

/-- Taken apart, without marks, in lower case character by character. -/
def foldText (cs : List Char) : List Char :=
  ((Text.decompose cs).filter fun c => !Text.isMark c).flatMap Text.lowerChar

/-- The runs of letters and numbers in the folded text, in their order. -/
def wordsOf (text : String) : List String :=
  (Text.runsWithout (fun c => !Text.isWordCharacter c) (foldText text.toList)).map String.ofList

end Kasten.Index
