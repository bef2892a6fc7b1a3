import Kasten.Config.Value
import Kasten.Error
import Kasten.Files.Routing
import Kasten.Index.Anteroom
import Kasten.Url.Basic

/-!
# Configuration

How a directory box, an archive box and an indexer are set up, and how these settings are read
from URLs and structured values.
-/

namespace Kasten

/-- How changes in a directory are noticed: by notifications of the system, or by looking. -/
inductive NotifierKind where
  | watching
  | polling
deriving DecidableEq, Repr

namespace NotifierKind

def text : NotifierKind → String
  | watching => "notify"
  | polling => "simple"

def parse? (s : String) : Option NotifierKind :=
  [watching, polling].find? fun kind => kind.text == s

end NotifierKind

namespace Config

/-- Bounds of the numbers in configurations. -/
def wordBound : Nat := 0x10000000000000000

def halfWordBound : Nat := 0x100000000

/-- The path as it is shown. -/
def pathText (path : Bytes) : String := String.ofList (Text.Utf8.decodeLossy path)

/-- A number as it may stand in a query: decimal digits, maybe behind a plus sign. -/
def parseCount? (cs : List Char) : Option Nat :=
  let digits :=
    match cs with
    | '+' :: rest => rest
    | _ => cs
  let n := Text.digitsValue digits
  if digits ≠ [] ∧ digits.all Text.isAsciiDigit ∧ n < wordBound then some n else none

/-- Reads a URL with the scheme that is asked for. -/
def readUrl (scheme location : String) : Except StoreError Url :=
  match Url.parse location with
  | .error e => .error (.invalidConfig (location ++ ": " ++ e.message))
  | .ok url =>
    let found := String.ofList url.scheme
    if found = scheme then .ok url
    else .error (.invalidConfig s!"{location}: expected {scheme} scheme, got {found}")

end Config

/-! ## 1. Directory boxes -/

/-- Besides the usual ones, `zettelSyntaxes` are kept together with their metadata in one file. -/
structure DirBoxConfig where
  path : Bytes
  readonly : Bool
  notifier : NotifierKind
  workers : Nat
  serviceTimeoutMs : Nat
  pollIntervalMs : Nat
  zettelSyntaxes : List String
deriving DecidableEq, Repr

namespace DirBoxConfig

open Config

def new (path : Bytes) : DirBoxConfig :=
  { path
    readonly := false
    notifier := .watching
    workers := Files.defaultWorkers
    serviceTimeoutMs := 5000
    pollIntervalMs := 60000
    zettelSyntaxes := [] }

/-- Takes in one pair of the query. What cannot be read is passed over. -/
def applyPair (default : NotifierKind) (c : DirBoxConfig) :
    List Char × List Char → DirBoxConfig
  | (key, value) =>
    if key = "readonly".toList then { c with readonly := true }
    else if key = "type".toList then
      { c with notifier := (NotifierKind.parse? (String.ofList value)).getD default }
    else if key = "worker".toList then
      match parseCount? value with
      | some n => { c with workers := Files.clampWorkers n }
      | none => c
    else c

/-- Reads a URL such as `dir:///path?readonly&type=simple&worker=13`. -/
def ofUrl (location : String) (default : NotifierKind) : Except StoreError DirBoxConfig :=
  match readUrl "dir" location with
  | .error e => .error e
  | .ok url =>
    .ok (url.queryPairs.foldl (applyPair default) { new url.filePath with notifier := default })

/-- How many file workers are started. -/
def workerCount (c : DirBoxConfig) : Nat := Files.poolSize c.workers

/-- Time between two looks at the directory, in milliseconds. -/
def pollInterval (c : DirBoxConfig) : Nat := max c.pollIntervalMs 1

def location (c : DirBoxConfig) : String := "dir://" ++ pathText c.path

/-- The name of a notifier, or a record with this name and nothing in it. -/
def readKind : Value → Option NotifierKind
  | .text s => NotifierKind.parse? s
  | .record [(name, .null)] => NotifierKind.parse? name
  | _ => none

def ofValue? (v : Value) : Option DirBoxConfig := do
  let source ← Source.ofValue? v
  let base := new []
  if !source.fits 7 then none
  let path ← (source.field? "path" 0).elim (some base.path) fun v =>
    v.asText?.map Text.Utf8.encodeText
  return {
    path
    readonly := ← Value.optional Value.asBool? base.readonly (source.field? "readonly" 1)
    notifier := ← Value.optional readKind base.notifier (source.field? "notifier" 2)
    workers := ← Value.optional (Value.asBelow? wordBound) base.workers (source.field? "workers" 3)
    serviceTimeoutMs := ←
      Value.optional (Value.asBelow? wordBound) base.serviceTimeoutMs
        (source.field? "serviceTimeoutMs" 4)
    pollIntervalMs := ←
      Value.optional (Value.asBelow? wordBound) base.pollIntervalMs
        (source.field? "pollIntervalMs" 5)
    zettelSyntaxes := ←
      Value.optional Value.asTexts? base.zettelSyntaxes (source.field? "zettelFileSyntax" 6) }

def toValue (c : DirBoxConfig) : Value :=
  .record
    [ ("path", .text (pathText c.path)),
      ("readonly", .bool c.readonly),
      ("notifier", .text c.notifier.text),
      ("workers", .number c.workers),
      ("serviceTimeoutMs", .number c.serviceTimeoutMs),
      ("pollIntervalMs", .number c.pollIntervalMs),
      ("zettelFileSyntax", .list (c.zettelSyntaxes.map .text)) ]

end DirBoxConfig

/-! ## 2. Archive boxes -/

structure ZipBoxConfig where
  path : Bytes
deriving DecidableEq, Repr

namespace ZipBoxConfig

open Config

def ofUrl (location : String) : Except StoreError ZipBoxConfig :=
  match readUrl "zip" location with
  | .error e => .error e
  | .ok url => .ok ⟨url.filePath⟩

def location (c : ZipBoxConfig) : String := "zip://" ++ pathText c.path

/-- The path has to be there. -/
def ofValue? (v : Value) : Option ZipBoxConfig := do
  let source ← Source.ofValue? v
  if !source.fits 1 then none
  let path ← (← source.field? "path" 0).asText?
  return ⟨Text.Utf8.encodeText path⟩

def toValue (c : ZipBoxConfig) : Value := .record [("path", .text (pathText c.path))]

end ZipBoxConfig

/-! ## 3. Indexers -/

structure IndexerConfig where
  maxAnteroomLoad : Nat
  idleWaitMs : Nat
  maxRetries : Nat
  retryDelayMs : Nat
deriving DecidableEq, Repr

namespace IndexerConfig

open Config

def default : IndexerConfig :=
  { maxAnteroomLoad := Index.Anteroom.defaultMaxLoad
    idleWaitMs := 1000
    maxRetries := 3
    retryDelayMs := 250 }

/-- Time without work before a full scan, in milliseconds. -/
def idleWait (c : IndexerConfig) : Nat := max c.idleWaitMs 1

def ofValue? (v : Value) : Option IndexerConfig := do
  let source ← Source.ofValue? v
  if !source.fits 4 then none
  let base := default
  return {
    maxAnteroomLoad := ←
      Value.optional (Value.asBelow? wordBound) base.maxAnteroomLoad
        (source.field? "maxAnteroomLoad" 0)
    idleWaitMs := ←
      Value.optional (Value.asBelow? wordBound) base.idleWaitMs (source.field? "idleWaitMs" 1)
    maxRetries := ←
      Value.optional (Value.asBelow? halfWordBound) base.maxRetries (source.field? "maxRetries" 2)
    retryDelayMs := ←
      Value.optional (Value.asBelow? wordBound) base.retryDelayMs
        (source.field? "retryDelayMs" 3) }

def toValue (c : IndexerConfig) : Value :=
  .record
    [ ("maxAnteroomLoad", .number c.maxAnteroomLoad),
      ("idleWaitMs", .number c.idleWaitMs),
      ("maxRetries", .number c.maxRetries),
      ("retryDelayMs", .number c.retryDelayMs) ]

end IndexerConfig

end Kasten
