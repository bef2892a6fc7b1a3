import Kasten.Url.Host

/-!
# URLs

Reading a text as an absolute URL: its scheme, host, path and query. Blanks and controls around
it are passed over, as are line ends and tabs within. Steps up in a path are taken at once.
-/

namespace Kasten

structure Url where
  scheme : List Char
  host : Option Url.Host
  path : List Char
  query : Option (List Char)
deriving DecidableEq, Repr

namespace Url

/-! ## 1. The parts of a text -/

def isEdge (c : Char) : Bool := c.toNat ≤ 0x20

def isPassedOver (c : Char) : Bool := c == '\t' || c == '\n' || c == '\r'

/-- The text without what does not count. -/
def clean (cs : List Char) : List Char :=
  ((cs.dropWhile isEdge).reverse.dropWhile isEdge).reverse.filter fun c => !isPassedOver c

def isSchemeCharacter (c : Char) : Bool :=
  Text.isAsciiLetter c || Text.isAsciiDigit c || c == '+' || c == '-' || c == '.'

/-- The scheme in lower case, and what follows the colon. -/
def splitScheme? (cs : List Char) : Option (List Char × List Char) :=
  match cs.dropWhile isSchemeCharacter with
  | ':' :: rest =>
    let scheme := cs.takeWhile isSchemeCharacter
    match scheme with
    | c :: _ => if Text.isAsciiLetter c then some (scheme.map Text.lowerAscii, rest) else none
    | [] => none
  | _ => none

/-- Schemes whose hosts are domains and whose paths may be written with backslashes. -/
def isSpecial (scheme : List Char) : Bool :=
  ["http", "https", "ws", "wss", "ftp", "file"].any fun s => s.toList == scheme

def isSlash (special : Bool) (c : Char) : Bool :=
  c == '/' || (special && c == '\\')

def endsAuthority (special : Bool) (c : Char) : Bool :=
  isSlash special c || c == '?' || c == '#'

/-- The text behind the question mark and before the number sign. -/
def queryOf : List Char → Option (List Char)
  | '?' :: rest => some (rest.takeWhile (· ≠ '#'))
  | _ => none

/-! ## 2. Authority -/

/-- The user part in front of the last at sign, and the rest. -/
def splitUser (cs : List Char) : Option (List Char) × List Char :=
  if cs.contains '@' then
    let host := (cs.reverse.takeWhile (· ≠ '@')).reverse
    (some (cs.take (cs.length - host.length - 1)), host)
  else (none, cs)

/-- The host ends at the first colon outside brackets. -/
def splitHost (inside : Bool) : List Char → List Char × List Char
  | [] => ([], [])
  | c :: cs =>
    if c = ':' ∧ ¬ inside then ([], c :: cs)
    else
      let inside := if c = '[' then true else if c = ']' then false else inside
      let (host, rest) := splitHost inside cs
      (c :: host, rest)

/-- The number of a port: digits only, below 65536. -/
def isPort (cs : List Char) : Bool :=
  cs.all Text.isAsciiDigit && Text.digitsValue cs < 65536

/-- Reads the host between the slashes and the path; none stands for an empty one. Behind an at
sign with nothing in front a host may miss only where the URL ends, which `isLast` tells. -/
def readAuthority (special isLast : Bool) (cs : List Char) : Except UrlError (Option Host) := do
  let (user, rest) := splitUser cs
  if user = some [] ∧ rest = [] ∧ ¬ isLast then throw .emptyHost
  let (hostText, port) := splitHost false rest
  if special ∧ hostText = [] then throw .emptyHost
  let host ← if special then Host.ofDomain hostText else Host.ofText hostText
  if hostText = [] ∧ port ≠ [] then throw .emptyHost
  -- a backslash ends the digits of a port under every scheme
  if ¬ isPort ((port.drop 1).takeWhile (· ≠ '\\')) then throw .invalidPort
  let hasUser := user ≠ none ∧ user ≠ some [] ∧ user ≠ some [':']
  if hostText = [] ∧ hasUser then throw .emptyHost
  return if hostText = [] then none else some host

/-! ## 3. Path -/

/-- The written forms of a step up. -/
def isStepUp (segment : List Char) : Bool :=
  ["..", "%2e%2e", "%2e.", ".%2e"].any fun s => s.toList == segment.map Text.lowerAscii

/-- The written forms of a step that goes nowhere. -/
def isStay (segment : List Char) : Bool :=
  [".", "%2e"].any fun s => s.toList == segment.map Text.lowerAscii

/-- Takes the steps of a path. `done` holds the segments so far, the last one first; a path that
ends with a step ends with an empty segment. -/
def walk (done : List (List Char)) : List (List Char) → List (List Char)
  | [] => done.reverse
  | segment :: rest =>
    if isStepUp segment then walk (if rest = [] then [] :: done.tail else done.tail) rest
    else if isStay segment then walk (if rest = [] then [] :: done else done) rest
    else walk (segment :: done) rest

/-- The segments of a path between slashes. -/
def segmentsOf (special : Bool) (cs : List Char) : List (List Char) :=
  Text.splitOn '/' (if special then cs.map fun c => if c = '\\' then '/' else c else cs)

/-- The path from its first slash on, with what may not stand in a path escaped. -/
def readPath (special : Bool) (cs : List Char) : List Char :=
  let segments := walk [] (segmentsOf special cs)
  segments.flatMap fun segment => '/' :: Percent.encode Percent.isPathEscaped segment

def isPathEnd (c : Char) : Bool := c == '?' || c == '#'

/-- The path behind a host: it starts with a slash, written or not, unless nothing is there. -/
def readPathStart (special : Bool) (cs : List Char) : List Char :=
  match cs.takeWhile fun c => !isPathEnd c with
  | [] => if special then ['/'] else []
  | c :: rest => if isSlash special c then readPath special rest else readPath special (c :: rest)

/-! ## 4. URLs -/

/-- Reads what follows the two slashes of an authority. -/
def afterSlashes (scheme cs : List Char) : Except UrlError Url := do
  let special := isSpecial scheme
  let authority := cs.takeWhile fun c => !endsAuthority special c
  let rest := cs.drop authority.length
  let host ← readAuthority special rest.isEmpty authority
  -- the port of a scheme without domains may also end at a backslash
  let (_, port) := splitHost false (splitUser authority).2
  let rest := port.dropWhile (· ≠ '\\') ++ rest
  return {
    scheme
    host
    path := readPathStart special rest
    query := queryOf (rest.dropWhile fun c => !isPathEnd c) }

/-- Reads a URL of a file: its host may miss, and a drive letter in its place belongs to the path. -/
def readFile (scheme cs : List Char) : Except UrlError Url := do
  let query := queryOf (cs.dropWhile fun c => !isPathEnd c)
  let noHost : Url := { scheme, host := none, path := readPathStart true cs, query }
  match cs with
  | a :: b :: rest =>
    if isSlash true a && isSlash true b then
      let hostText := rest.takeWhile fun c => !endsAuthority true c
      let isDrive :=
        match hostText with
        | [letter, mark] => Text.isAsciiLetter letter && (mark == ':' || mark == '|')
        | _ => false
      if hostText = [] || isDrive then
        return { noHost with path := readPathStart true rest }
      let host ← Host.ofDomain hostText
      return { noHost with host := some host, path := readPathStart true (rest.drop hostText.length) }
    else return noHost
  | _ => return noHost

/-- Reads an absolute URL. -/
def parse (s : String) : Except UrlError Url :=
  match splitScheme? (clean s.toList) with
  | none => .error .noScheme
  | some (scheme, rest) =>
    if scheme = "file".toList then readFile scheme rest
    else if isSpecial scheme then afterSlashes scheme (rest.dropWhile (isSlash true))
    else
      match rest with
      | '/' :: '/' :: rest => afterSlashes scheme rest
      | _ =>
        let text := rest.takeWhile fun c => !isPathEnd c
        let path :=
          match text with
          | '/' :: text => readPath false text
          | text => Percent.encode Percent.isControl text
        .ok { scheme, host := none, path, query := queryOf (rest.dropWhile fun c => !isPathEnd c) }

/-- Whether the text is an absolute URL. -/
def isValid (s : String) : Bool :=
  (parse s).toOption.isSome

/-! ## 5. Uses of a URL -/

/-- The path on a computer's own disk. A URL that names another host keeps the path as written,
as does one whose path does not start with a slash. -/
def filePath (u : Url) : Bytes :=
  let isLocal := u.host = none ∨ u.host = some (.name "localhost".toList)
  match u.path with
  | '/' :: rest =>
    if isLocal then
      let bytes := (Text.splitOn '/' rest).flatMap fun segment => 0x2f :: Percent.decode segment
      -- a drive letter is followed by a slash
      match bytes.reverse with
      | mark :: letter :: _ :: _ =>
        let isLetter := Text.isAsciiLetter (Char.ofNat letter.toNat)
        if isLetter && (mark == 0x3a || mark == 0x7c) then bytes ++ [0x2f] else bytes
      | _ => bytes
    else Text.Utf8.encode u.path
  | _ => Text.Utf8.encode u.path

/-- One side of a pair in a query: plus signs stand for spaces, then escapes are undone. -/
def formText (cs : List Char) : List Char :=
  Text.Utf8.decodeLossy (Percent.decode (cs.map fun c => if c = '+' then ' ' else c))

/-- The pairs of the query, in their order. -/
def queryPairs (u : Url) : List (List Char × List Char) :=
  match u.query with
  | none => []
  | some query =>
    ((Text.splitOn '&' query).filter (· ≠ [])).map fun piece =>
      let key := piece.takeWhile (· ≠ '=')
      (formText key, formText (piece.drop (key.length + 1)))

end Url

end Kasten
