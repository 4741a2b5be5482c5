import ModelDepot.Http.Domain

/-!
Hosts of addresses on the web: names, numbers of four and of eight parts, and foreign ones.
-/
namespace ModelDepot.Http

inductive UrlError where
  | relative
  | emptyHost
  | invalidPort
  | invalidIpv4
  | invalidIpv6
  | invalidDomain
  | invalidDomainCharacter
  deriving DecidableEq, Repr

def UrlError.message : UrlError → String
  | .relative => "relative URL without a base"
  | .emptyHost => "empty host"
  | .invalidPort => "invalid port number"
  | .invalidIpv4 => "invalid IPv4 address"
  | .invalidIpv6 => "invalid IPv6 address"
  | .invalidDomain => "invalid international domain name"
  | .invalidDomainCharacter => "invalid domain character"

/-! ### Numbers of four parts -/

def digitOf? (base : Nat) (c : Char) : Option Nat :=
  let value :=
    if c.isDigit then c.toNat - '0'.toNat
    else if c.isLower then c.toNat - 'a'.toNat + 10
    else if c.isUpper then c.toNat - 'A'.toNat + 10
    else base
  if value < base then some value else none

def numberOf? (base : Nat) (digits : List Char) : Option Nat :=
  digits.foldlM (fun n c => (digitOf? base c).map (n * base + ·)) 0

/-- A part of a number, in one of three bases. -/
def ipv4Part? : List Char → Option Nat
  | [] => none
  | '0' :: 'x' :: digits => numberOf? 16 digits
  | '0' :: 'X' :: digits => numberOf? 16 digits
  | '0' :: d :: digits => numberOf? 8 (d :: digits)
  | digits => numberOf? 10 digits

def withoutLastEmpty (parts : List (List Char)) : List (List Char) :=
  if 1 < parts.length && parts.getLast? = some [] then parts.dropLast else parts

/-- The last part of the name is a number, so that the whole must be one. -/
def endsInNumber (name : List Char) : Bool :=
  match (withoutLastEmpty (Text.splitChars '.' name)).getLast? with
  | none => false
  | some last =>
    !last.isEmpty && (last.all Char.isDigit ||
      ((last.take 2 = ['0', 'x'] || last.take 2 = ['0', 'X']) && (ipv4Part? last).isSome))

def isIpv4 (name : List Char) : Bool :=
  let parts := withoutLastEmpty (Text.splitChars '.' name)
  match parts.mapM ipv4Part? with
  | none => false
  | some numbers =>
    numbers.length ≤ 4 && numbers.dropLast.all (· ≤ 255) &&
      numbers.getLast?.any fun last => last < Nat.pow 256 (5 - numbers.length)

/-! ### Numbers of eight parts -/

def isIpv6Group (group : List Char) : Bool :=
  !group.isEmpty && group.length ≤ 4 && group.all fun c => (digitOf? 16 c).isSome

/-- A part of four plain decimal numbers. -/
def isPlainIpv4 (text : List Char) : Bool :=
  let parts := Text.splitChars '.' text
  parts.length = 4 && parts.all fun p =>
    !p.isEmpty && p.all Char.isDigit && (p.length = 1 || p.head? ≠ some '0') &&
      (numberOf? 10 p).any (· ≤ 255)

/-- How many sixteenths of an address the groups fill, of which the last may be a number of four
    parts. -/
def ipv6Width? (groups : List (List Char)) (isEnd : Bool) : Option Nat :=
  match groups.reverse with
  | [] => some 0
  | last :: before =>
    if !before.all isIpv6Group then none
    else if isIpv6Group last then some groups.length
    else if isEnd && isPlainIpv4 last then some (groups.length + 1)
    else none

/-- The text before and after the first double colon. -/
def splitDouble : List Char → Option (List Char × List Char)
  | ':' :: ':' :: rest => some ([], rest)
  | c :: rest => (splitDouble rest).map fun parts => (c :: parts.1, parts.2)
  | [] => none

def ipv6Groups (text : List Char) : List (List Char) :=
  if text.isEmpty then [] else Text.splitChars ':' text

def isIpv6 (text : List Char) : Bool :=
  match splitDouble text with
  | none => ipv6Width? (ipv6Groups text) true = some 8
  | some (front, back) =>
    match ipv6Width? (ipv6Groups front) false, ipv6Width? (ipv6Groups back) true with
    | some a, some b => a + b < 8
    | _, _ => false

/-! ### Hosts -/

/-- A number of eight parts in brackets, which is all that a host with a bracket in front can be. -/
def readBracketed (host : List Char) : Except UrlError (List Char) :=
  if host.getLast? = some ']' && isIpv6 (host.drop 1).dropLast then .ok host
  else .error .invalidIpv6

/-- The host of an address whose scheme knows hosts; bytes in it may be spelled. -/
def readHost (host : List Char) : Except UrlError (List Char) :=
  if host.head? = some '[' then readBracketed host
  else
    match Domain.read (percentDecode (Json.utf8 (String.ofList host))) with
    | none => .error .invalidDomain
    | some labels =>
      let name := Domain.join labels
      if name.isEmpty then .error .emptyHost
      else if endsInNumber name && !isIpv4 name then .error .invalidIpv4
      else .ok name

/-- Characters that are in no host of any other address. -/
def isForeignForbidden (c : Char) : Bool :=
  c = '\x00' || (Domain.isForbidden c && !isControl c && c != '%')

/-- The host of any other address. -/
def readForeignHost (host : List Char) : Except UrlError (List Char) :=
  if host.head? = some '[' then readBracketed host
  else if host.any isForeignForbidden then .error .invalidDomainCharacter
  else .ok (percentEncode isPlain (String.ofList host)).toList

end ModelDepot.Http
