import Kasten.Meta.Basic
import Kasten.Text.Utf8

/-!
# Metadata in files

A header holds one `key: value` line per pair. It either stands between two separator lines or
ends at the first blank line, or at the end of the file. An indented line continues the value of
the last accepted line; a line that is no pair is passed over. Reading gives the metadata and
the octets that follow the header.
-/

namespace Kasten.Header

/-! ## 1. Lines -/

/-- The lines of a file without their line feeds, each with all that follows it. -/
def lines : Bytes → List (Bytes × Bytes)
  | [] => []
  | b :: bs =>
    if b = 10 then ([], bs) :: lines bs
    else
      match lines bs with
      | [] => [([b], [])]
      | (line, after) :: rest => (b :: line, after) :: rest

/-- A carriage return at the end of a line belongs to the line's end. -/
def dropReturn (line : Bytes) : Bytes :=
  if line.getLast? = some 13 then line.dropLast else line

def lineText (line : Bytes) : List Char :=
  Text.Utf8.decodeLossy (dropReturn line)

/-- The line around a header. -/
def separator : List Char := ['-', '-', '-']

def isSeparator (text : List Char) : Bool :=
  Text.trimRight text == separator

def isBlankLine (text : List Char) : Bool :=
  text.all Text.isBlank

def isIndented : List Char → Bool
  | c :: _ => c == ' ' || c == '\t'
  | [] => false

/-- The two sides of the first colon. -/
def splitColon : List Char → Option (List Char × List Char)
  | [] => none
  | c :: cs =>
    if c = ':' then some ([], cs)
    else (splitColon cs).map fun (left, right) => (c :: left, right)

/-- The pair that a line holds, if its key is well formed. Capital letters in keys become small. -/
def pairOf (text : List Char) : Option (String × String) :=
  match splitColon (Text.trimRight text) with
  | none => none
  | some (left, right) =>
    let key := String.ofList ((Text.trim left).map Text.lowerAscii)
    if Key.isValid key then some (key, String.ofList (Text.trim right)) else none

/-- Adds a continuation to the value of the last pair, if there is one. -/
def continueLast (text : List Char) : List (String × String) → List (String × String)
  | [] => []
  | (key, value) :: rest => (key, value ++ " " ++ String.ofList (Text.trim text)) :: rest

/-! ## 2. Reading -/

/-- Reads lines up to the end of the header. `pairs` holds the accepted pairs, the last first. -/
def readPairs (yamlSep : Bool) (pairs : List (String × String)) :
    List (Bytes × Bytes) → List (String × String) × Bytes
  | [] => (pairs, [])
  | (line, after) :: rest =>
    let text := lineText line
    if yamlSep && isSeparator text then (pairs, after)
    else if isBlankLine text then
      if yamlSep then readPairs yamlSep pairs rest else (pairs, after)
    else if isIndented text then readPairs yamlSep (continueLast text pairs) rest
    else
      match pairOf text with
      | some pair => readPairs yamlSep (pair :: pairs) rest
      | none => readPairs yamlSep pairs rest

/-- The metadata of a file and what follows its header. The caller's identifier counts, so a
line that gives one is passed over. -/
def parse (zid : Zid) (input : Bytes) : Meta × Bytes :=
  let all := lines input
  let yamlSep :=
    match all with
    | (line, _) :: _ => isSeparator (lineText line)
    | [] => false
  let (pairs, rest) := readPairs yamlSep [] (if yamlSep then all.tail else all)
  ({ Meta.new zid with yamlSep := yamlSep }.setAll pairs.reverse, rest)

/-- Number of octets that a header takes. -/
def length (zid : Zid) (input : Bytes) : Nat :=
  input.length - (parse zid input).2.length

/-! ## 3. Writing -/

def pairLine (key value : String) : Bytes :=
  Text.Utf8.encodeText (key ++ ": " ++ value ++ "\n")

/-- The identifier first, then every pair that is kept in files. -/
def write (m : Meta) : Bytes :=
  pairLine Key.id m.zid.text ++ m.userPairs.flatMap fun pair => pairLine pair.1 pair.2

def separatorLine : Bytes := Text.Utf8.encode (separator ++ ['\n'])

/-- A file with a header in front of its content. -/
def writeFile (m : Meta) (content : Bytes) : Bytes :=
  if m.yamlSep then separatorLine ++ write m ++ separatorLine ++ content
  else write m ++ [10] ++ content

end Kasten.Header
