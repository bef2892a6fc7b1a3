import Kasten.Text.Class
import Kasten.Text.Find

/-!
# Metadata keys

The names under which metadata is kept: which names are well formed, what kind of value each
holds, which ones the store computes itself, and under which name the other end of a reference
reports it.
-/

namespace Kasten

inductive KeyType where
  | id
  | idSet
  | number
  | string
  | tagSet
  | timestamp
  | url
  | word
  | wordSet
  | markup
deriving DecidableEq, Repr

/-- What is known of a key. Values of a computed key are never written to a file. The inverse is
the key under which the referenced zettel reports the reference. -/
structure KeyDescription where
  type : KeyType
  computed : Bool
  inverse : Option String
deriving DecidableEq, Repr

namespace Key

def id : String := "id"
def title : String := "title"
def role : String := "role"
def syntaxName : String := "syntax"
def tags : String := "tags"
def url : String := "url"
def created : String := "created"
def modified : String := "modified"
def precursor : String := "precursor"
def folge : String := "folge"
def superior : String := "superior"
def subordinates : String := "subordinates"
def predecessor : String := "predecessor"
def successors : String := "successors"
def back : String := "back"
def backward : String := "backward"
def dead : String := "dead"
def forward : String := "forward"
def contentTags : String := "content-tags"
def allTags : String := "all-tags"
def uselessFiles : String := "useless-files"

def user (type : KeyType) : KeyDescription := ⟨type, false, none⟩

def derived (type : KeyType) : KeyDescription := ⟨type, true, none⟩

def reference (type : KeyType) (inverse : String) : KeyDescription := ⟨type, false, some inverse⟩

/-- The keys with a meaning of their own. -/
def registered : List (String × KeyDescription) :=
  [ (id, derived .id),
    (title, user .markup),
    (role, user .word),
    (syntaxName, user .word),
    (tags, user .tagSet),
    (url, user .url),
    (created, user .timestamp),
    (modified, user .timestamp),
    (precursor, reference .idSet folge),
    (superior, reference .idSet subordinates),
    (predecessor, reference .id successors),
    (folge, derived .idSet),
    (subordinates, derived .idSet),
    (successors, derived .idSet),
    (back, derived .idSet),
    (backward, derived .idSet),
    (dead, derived .idSet),
    (forward, derived .idSet),
    (contentTags, derived .tagSet),
    (allTags, derived .tagSet),
    (uselessFiles, derived .string) ]

/-- The endings that give other keys their type; the first that fits counts. -/
def endings : List (String × KeyType) :=
  [ ("-zid", .id), ("-zids", .idSet), ("-url", .url), ("-date", .timestamp), ("-title", .markup),
    ("-role", .word), ("-set", .wordSet), ("-number", .number) ]

def isKeyCharacter (c : Char) : Bool :=
  Text.isAsciiLower c || Text.isAsciiDigit c || c == '-'

/-- A lower case letter, then lower case letters, digits and hyphens. -/
def isValid (key : String) : Bool :=
  match key.toList with
  | [] => false
  | c :: cs => Text.isAsciiLower c && cs.all isKeyCharacter

/-- The type that the ending of a key gives it. -/
def typeByEnding (key : String) : KeyType :=
  match endings.find? fun ending => Text.endsWith key ending.1 with
  | some ending => ending.2
  | none => .string

def describe (key : String) : KeyDescription :=
  match registered.lookup key with
  | some description => description
  | none => user (typeByEnding key)

def isComputed (key : String) : Bool :=
  (describe key).computed

end Key

end Kasten
