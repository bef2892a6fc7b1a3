import Kasten.Url.HostName

/-!
# Hosts

The part of a URL that names a computer: a domain name, a number of the old or of the new
Internet protocol, or, for schemes that know nothing of domains, any text.
-/

namespace Kasten.Url

/-- Why a text is no URL. -/
inductive UrlError where
  | emptyHost
  | invalidHostName
  | invalidPort
  | invalidIpv4
  | invalidIpv6
  | invalidHostCharacter
  | noScheme
deriving DecidableEq, Repr

namespace UrlError

def message : UrlError → String
  | emptyHost => "empty host"
  | invalidHostName => "invalid international domain name"
  | invalidPort => "invalid port number"
  | invalidIpv4 => "invalid IPv4 address"
  | invalidIpv6 => "invalid IPv6 address"
  | invalidHostCharacter => "invalid domain character"
  | noScheme => "relative URL without a base"

end UrlError

inductive Host where
  | name (text : List Char)
  | ipv4 (value : Nat)
  | ipv6 (text : List Char)
deriving DecidableEq, Repr

/-! ## 1. Four numbers with dots -/

/-- A number in hexadecimal with `0x`, in octal with `0` in front, or else in decimal. -/
def ipv4Number? (cs : List Char) : Option Nat :=
  let (radix, digits) :=
    match cs with
    | '0' :: 'x' :: rest => (16, rest)
    | '0' :: 'X' :: rest => (16, rest)
    | '0' :: c :: rest => (8, c :: rest)
    | _ => (10, cs)
  if cs = [] then none
  else
    (digits.mapM fun c => (Percent.hexValue? c).filter fun v => decide (v < radix)).map fun vs =>
      vs.foldl (fun n v => n * radix + v) 0

/-- The parts of a name; a full stop at the end does not count. -/
def nameParts (cs : List Char) : List (List Char) :=
  let parts := Text.splitOn '.' cs
  if 1 < parts.length ∧ parts.getLast? = some [] then parts.dropLast else parts

/-- Whether a name has to be read as a number: its last part is one. -/
def endsInNumber (cs : List Char) : Bool :=
  match (nameParts cs).getLast? with
  | some last => (last ≠ [] && last.all Text.isAsciiDigit) || (ipv4Number? last).isSome
  | none => false

/-- All numbers but the last take an octet each; the last one fills the octets that are left. -/
def ipv4? (cs : List Char) : Option Nat :=
  match (nameParts cs).mapM ipv4Number? with
  | none => none
  | some numbers =>
    let front := numbers.dropLast
    let last := numbers.getLast?.getD 0
    if numbers.length ≤ 4 ∧ front.all (· ≤ 255) ∧ last < Nat.pow 256 (4 - front.length) then
      some (front.foldr (fun n rest => n * 16777216 + rest / 256) 0 + last)
    else none

/-! ## 2. Eight numbers with colons -/

/-- Four decimal numbers without leading zeros. -/
def isDottedTail (cs : List Char) : Bool :=
  let parts := Text.splitOn '.' cs
  parts.length == 4 && parts.all fun part =>
    part ≠ [] && part.all Text.isAsciiDigit && (part.length == 1 || part.head? ≠ some '0') &&
      part.length ≤ 3 && Text.digitsValue part ≤ 255

/-- `count` numbers were read; `squeezed` tells that a double colon stood for some. -/
def ipv6From (count : Nat) (squeezed : Bool) (cs : List Char) : Bool :=
  let digits := (cs.take 4).takeWhile Percent.isHex
  match h : cs.drop digits.length with
  | [] =>
    if digits = [] then squeezed || count == 8
    else count < 8 && (squeezed || count + 1 == 8)
  | c :: rest =>
    if 8 ≤ count then false
    else if c = ':' then
      if digits = [] then !squeezed && ipv6From (count + 1) true rest
      else rest ≠ [] && ipv6From (count + 1) squeezed rest
    else if c = '.' then
      digits ≠ [] && count ≤ 6 && isDottedTail cs && (squeezed || count + 2 == 8)
    else false
termination_by cs.length
decreasing_by
  all_goals
    have := congrArg List.length h
    simp at this
    omega

/-- The text between the brackets is eight numbers; a double colon stands for those that miss. -/
def isIpv6 : List Char → Bool
  | ':' :: rest =>
    match rest with
    | ':' :: rest => ipv6From 1 true rest
    | _ => false
  | [] => false
  | [_] => false
  | cs => ipv6From 0 false cs

/-! ## 3. Hosts -/

/-- The text in brackets, if the host starts with one. -/
def bracketed? (cs : List Char) : Option (Except UrlError Host) :=
  match cs with
  | '[' :: rest =>
    if rest.getLast? = some ']' ∧ isIpv6 rest.dropLast then some (.ok (.ipv6 rest.dropLast))
    else some (.error .invalidIpv6)
  | _ => none

/-- A host of a scheme that knows domains. -/
def Host.ofDomain (cs : List Char) : Except UrlError Host :=
  match bracketed? cs with
  | some result => result
  | none =>
    match (Text.Utf8.decode? (Percent.decode cs)).bind HostName.normalize? with
    | none => .error .invalidHostName
    | some domain =>
      if domain = [] then .error .emptyHost
      else if endsInNumber domain then
        match ipv4? domain with
        | some value => .ok (.ipv4 value)
        | none => .error .invalidIpv4
      else .ok (.name domain)

/-- A host of any other scheme. -/
def Host.ofText (cs : List Char) : Except UrlError Host :=
  match bracketed? cs with
  | some result => result
  | none =>
    if cs.any fun c => "\x00\t\n\r #/:<>?@[\\]^|".toList.contains c then .error .invalidHostCharacter
    else .ok (.name (Percent.encode Percent.isControl cs))

end Kasten.Url
