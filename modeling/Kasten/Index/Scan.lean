import Kasten.Index.Words
import Kasten.Url.Basic
import Kasten.Zid.Set

/-!
# Scanning text for references

A scanner reports what a text refers to: zettel, URLs, tags and words. The one here knows links
and embeddings in double brackets and braces, links in parentheses, bare URLs and tags behind a
number sign. Each kind is looked for from left to right, going on behind what was found.
-/

namespace Kasten.Index

structure ScanResult where
  links : ZidSet
  urls : TextSet
  words : TextSet
  tags : TextSet

namespace ScanResult

def empty : ScanResult := ⟨∅, ∅, ∅, ∅⟩

def merge (a b : ScanResult) : ScanResult :=
  { links := a.links.addAll b.links.toList
    urls := addTexts a.urls b.urls.toList
    words := addTexts a.words b.words.toList
    tags := addTexts a.tags b.tags.toList }

def addWords (a : ScanResult) (text : String) : ScanResult :=
  { a with words := addTexts a.words (wordsOf text) }

end ScanResult

/-- Reports on a text of a given syntax. -/
abbrev Scanner := String → String → ScanResult

namespace Scan

/-! ## 1. Looking for a pattern -/

/-- All that `find` gives, going on behind each find. A find has to take something. -/
def findAll {α : Type} (find : List Char → Option (α × List Char)) (cs : List Char) : List α :=
  match cs with
  | [] => []
  | c :: tail =>
    match find (c :: tail) with
    | some (a, rest) => if rest.length ≤ tail.length then a :: findAll find rest else findAll find tail
    | none => findAll find tail
termination_by cs.length

/-- The text behind the given start. -/
def dropStart (start cs : List Char) : Option (List Char) :=
  if start.isPrefixOf cs then some (cs.drop start.length) else none

/-- Fourteen decimal digits of any script, and what follows. -/
def takeDigits (cs : List Char) : Option (List Char × List Char) :=
  let ds := cs.take Zid.width
  if ds.length = Zid.width ∧ ds.all Text.isDecimal then some (ds, cs.drop Zid.width) else none

/-- The identifier with blanks around it and maybe a fragment behind it, up to `ending`. A
fragment goes on up to the first `close`. -/
def target (close : Char) (ending cs : List Char) : Option (List Char × List Char) := do
  let (ds, rest) ← takeDigits (Text.trimLeft cs)
  let rest :=
    match rest with
    | '#' :: fragment => fragment.dropWhile (· ≠ close)
    | _ => Text.trimLeft rest
  let rest ← dropStart ending rest
  return (ds, rest)

/-- A reference between doubled brackets, maybe with a text and a bar in front. -/
def bracketed (opening close : Char) (cs : List Char) : Option (List Char × List Char) := do
  let inner ← dropStart [opening, opening] cs
  let labelled :=
    match inner.dropWhile fun c => c ≠ close && c ≠ '|' with
    | '|' :: rest => target close [close, close] rest
    | _ => none
  labelled <|> target close [close, close] inner

/-- A reference in parentheses behind a closing bracket. -/
def parenthesised (cs : List Char) : Option (List Char × List Char) := do
  let (ds, rest) ← takeDigits (← dropStart [']', '('] cs)
  let rest :=
    match rest with
    | '#' :: fragment => fragment.dropWhile (· ≠ ')')
    | _ => rest
  let rest ← dropStart [')'] rest
  return (ds, rest)

def links (cs : List Char) : List Zid :=
  let found :=
    findAll (bracketed '[' ']') cs ++ findAll (bracketed '\x7b' '\x7d') cs ++ findAll parenthesised cs
  found.filterMap fun ds => Zid.parse? (String.ofList ds)

/-! ## 2. URLs and tags -/

def endsUrl (c : Char) : Bool :=
  Text.isBlank c || c == ']' || c == ')' || c == '>' || c == '"' || c == '|'

def bareUrl (cs : List Char) : Option (List Char × List Char) := do
  let rest ← dropStart "http".toList cs
  let rest := (dropStart ['s'] rest).getD rest
  let rest ← dropStart "://".toList rest
  let tail := rest.takeWhile fun c => !endsUrl c
  if tail = [] then none
  else return (cs.take (cs.length - rest.length + tail.length), rest.drop tail.length)

/-- Punctuation at the end belongs to the sentence. -/
def dropPunctuation (cs : List Char) : List Char :=
  (cs.reverse.dropWhile fun c => c == '.' || c == ',' || c == ';' || c == ':').reverse

def urls (cs : List Char) : List String :=
  ((findAll bareUrl cs).map fun found => String.ofList (dropPunctuation found)).filter Url.isValid

def isTagCharacter (c : Char) : Bool :=
  Text.isLetter c || Text.isNumber c || c == '_' || c == '-'

/-- The tag whose number sign comes first. -/
def tagHere (cs : List Char) : Option (List Char × List Char) := do
  let rest ← dropStart ['#'] cs
  let name := rest.takeWhile isTagCharacter
  if name = [] then none else return (name, rest.drop name.length)

/-- A tag behind a blank. -/
def tagAfterBlank : List Char → Option (List Char × List Char)
  | [] => none
  | c :: cs => if Text.isBlank c then tagHere cs else none

def tags (cs : List Char) : List String :=
  let found :=
    match tagHere cs with
    | some (name, rest) => name :: findAll tagAfterBlank rest
    | none => findAll tagAfterBlank cs
  found.map fun name => String.ofList ('#' :: Text.lower name)

/-- The scanner for text of any syntax. -/
def markup : Scanner := fun _ text =>
  let cs := text.toList
  { links := ZidSet.ofZids (links cs)
    urls := addTexts ∅ (urls cs)
    words := addTexts ∅ (wordsOf text)
    tags := addTexts ∅ (tags cs) }

end Scan

end Kasten.Index
