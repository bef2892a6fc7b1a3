import Kasten.Meta.Basic
import Kasten.Text.Find

/-!
# File names of zettel

A zettel's files start with its identifier. The extension behind it tells whether a file holds
metadata, content, or both, and in which syntax the content is.
-/

namespace Kasten.FileName

/-- The extension of a file that holds metadata and content. -/
def zettelExt : String := "zettel"

/-- The extension of a file that holds metadata only. -/
def metaExt : String := "meta"

def binaryExt : String := "bin"

def plainExt : String := "txt"

/-- Files of editors and of the system are no zettel, whatever else is in their names. -/
def isLeftover (name : String) : Bool :=
  Text.endsWith name "~" || Text.endsWith name ".swp" || Text.endsWith name ".swx" ||
    Text.holds name ".#"

/-- The name starts with a valid identifier and is no leftover of an editor. -/
def isZettelFile (name : String) : Bool :=
  (Zid.ofFileName name).isValid && !isLeftover name

/-- What follows the first `n` octets of a text, unless a character spans that border. -/
def dropOctets : Nat → List Char → List Char
  | 0, cs => cs
  | _ + 1, [] => []
  | n + 1, c :: cs => if c.utf8Size ≤ n + 1 then dropOctets (n + 1 - c.utf8Size) cs else []
termination_by _ cs => cs.length

/-- What follows the last full stop. -/
def afterLastStop (cs : List Char) : Option (List Char) :=
  if cs.contains '.' then some (cs.reverse.takeWhile (· ≠ '.')).reverse else none

/-- The extension behind the identifier, in lower case; empty if there is none. -/
def ext (name : String) : String :=
  match afterLastStop (dropOctets Zid.width name.toList) with
  | some cs => String.ofList (cs.map Text.lowerAscii)
  | none => ""

/-- The syntax that a content file's extension stands for. -/
def syntaxOfExt (ext : String) : String :=
  if ext = "" ∨ ext = zettelExt then Meta.defaultSyntax
  else if ext = plainExt then "plain"
  else if ext = "jpeg" then "jpg"
  else if ext = binaryExt then Meta.noSyntax
  else ext

/-- The name without the extension, whichever way its letters are written. -/
def base (name ext : String) : String :=
  if ext = "" then name
  else
    let cs := name.toList
    let ending := '.' :: ext.toList
    let cut := cs.length - ending.length
    if ending.length ≤ cs.length ∧
        (cs.drop cut).map Text.lowerAscii = ending.map Text.lowerAscii then
      String.ofList (cs.take cut)
    else name

/-- The name with one identifier in front replaced by another. -/
def rename (name : String) (old new : Zid) : String :=
  if old.digits.isPrefixOf name.toList then
    String.ofList (new.digits ++ name.toList.drop old.digits.length)
  else name

/-- The extension of the content file for a syntax. Syntaxes that carry metadata in front of the
content share one extension; a syntax that makes no extension is kept as binary. -/
def extOfSyntax (name : String) (yamlSep : Bool) (zettelSyntaxes : List String) : String :=
  if yamlSep || name == Meta.defaultSyntax || name == Meta.noSyntax ||
      zettelSyntaxes.contains name then zettelExt
  else if name = "" ∨
      ¬ name.toList.all fun c => Text.isAsciiLetter c || Text.isAsciiDigit c || c == '-' then binaryExt
  else String.ofList (name.toList.map Text.lowerAscii)

/-! ## Which of two files is better -/

/-- How much the store can do with the content of a known syntax. -/
inductive Ability where
  | markup
  | plain
  | image
  | stored
deriving DecidableEq, Repr

def abilities : List (String × Ability) :=
  [ ("zmk", .markup), ("md", .markup), ("markdown", .markup), ("draw", .markup), ("sxn", .markup),
    ("txt", .plain), ("plain", .plain), ("text", .plain), ("html", .plain), ("css", .plain),
    ("svg", .plain), ("gif", .image), ("jpeg", .image), ("jpg", .image), ("png", .image),
    ("webp", .image), ("none", .stored), ("bin", .stored) ]

/-- Content of a lower tier is preferred. The default syntax, which has a file form of its own,
comes after all other known ones. -/
def tier (ext : String) : Nat :=
  if ext = Meta.defaultSyntax then 4
  else
    match abilities.lookup ext with
    | some .markup => 0
    | some .plain => 1
    | some .image => 2
    | some .stored => 3
    | none => 5

/-- Lower tier, then shorter, then first in the alphabet. -/
def isBetterExt (old new : String) : Bool :=
  if tier old ≠ tier new then tier new < tier old
  else if old.utf8ByteSize ≠ new.utf8ByteSize then new.utf8ByteSize < old.utf8ByteSize
  else new < old

/-- Shorter, then first in the alphabet. -/
def isBetterName (old new : String) : Bool :=
  if old.utf8ByteSize ≠ new.utf8ByteSize then new.utf8ByteSize < old.utf8ByteSize
  else new < old

end Kasten.FileName
