import LootFilter.Url.Domain

/-!
# Hosts

The host of a URL is a domain, an IPv4 address, an IPv6 address between
brackets, or nothing at all. The schemes of the web read a host as a domain
name; one whose last label is a number has to be an IPv4 address, whose parts
may be decimal, octal or hexadecimal and of which the last one fills all the
bytes that are left. Other schemes take a host as it stands.

## Main definitions

* `UrlError`: Why a text is no URL.
* `Host`: The host of a URL.
* `Host.parse`, `Host.parseOther`: The host of a web scheme and of another.
* `Host.toChars`: The text of a host.
-/

namespace LootFilter

/-- Why a text is no URL. -/
inductive UrlError where
  | emptyHost
  | invalidDomainName
  | invalidDomainCharacter
  | invalidPort
  | invalidIpv4
  | invalidIpv6
  /-- A relative reference stands alone. -/
  | noBase
  /-- A relative reference meets a URL that is not hierarchical. -/
  | unsuitableBase
  deriving DecidableEq

namespace UrlError

/-- The wording of an error. -/
def message : UrlError → String
  | .emptyHost => "empty host"
  | .invalidDomainName => "invalid international domain name"
  | .invalidDomainCharacter => "invalid domain character"
  | .invalidPort => "invalid port number"
  | .invalidIpv4 => "invalid IPv4 address"
  | .invalidIpv6 => "invalid IPv6 address"
  | .noBase => "relative URL without a base"
  | .unsuitableBase => "relative URL with a cannot-be-a-base base"

end UrlError

/-- The host of a URL. -/
inductive Host where
  /-- A name; the empty one stands for no host. -/
  | domain (name : List Char)
  /-- Four bytes. -/
  | ipv4 (address : Nat)
  /-- Eight numbers of sixteen bits. -/
  | ipv6 (pieces : List Nat)
  deriving DecidableEq

namespace Host

/-! ## IPv4 -/

/-- The digits of a number in a base; `none` if one of them is no digit. -/
def digits? (base : Nat) (cs : List Char) : Option Nat :=
  cs.foldl (fun n c =>
    match n, Text.hexValue? c with
    | some n, some d => if d < base then some (base * n + d) else none
    | _, _ => none) (some 0)

/-- A part of an IPv4 address. A leading `0x` makes it hexadecimal and a leading
    zero octal. -/
def ipv4Number? : List Char → Option Nat
  | [] => none
  | '0' :: 'x' :: cs => digits? 16 cs
  | '0' :: 'X' :: cs => digits? 16 cs
  | ['0'] => some 0
  | '0' :: cs => digits? 8 cs
  | cs => digits? 10 cs

/-- The labels of a name without an empty one at the end. -/
def labels (name : List Char) : List (List Char) :=
  let parts := name.splitOn '.'
  if parts.getLast? = some [] then parts.dropLast else parts

/-- The name has to be an IPv4 address, since its last label is a number. -/
def endsInNumber (name : List Char) : Bool :=
  match (labels name).getLast? with
  | some last =>
    !last.isEmpty && last.all Char.isDigit || (ipv4Number? last).isSome
  | none => false

/-- The address of the numbers between points: all but the last one are bytes,
    and the last one fills what is left of four bytes. -/
def ipv4OfNumbers? : (bytes : Nat) → List Nat → Option Nat
  | bytes + 1, [n] => if n < Nat.pow 256 (bytes + 1) then some n else none
  | bytes + 1, n :: rest =>
    if n < 256 then (ipv4OfNumbers? bytes rest).map (n * Nat.pow 256 bytes + ·) else none
  | _, _ => none

/-- The IPv4 address that a name writes. -/
def ipv4? (name : List Char) : Option Nat :=
  ((labels name).mapM ipv4Number?).bind (ipv4OfNumbers? 4)

/-- The text of an IPv4 address. -/
def ipv4Chars (address : Nat) : List Char :=
  ['.'].intercalate <| [3, 2, 1, 0].map fun i =>
    Nat.toDigits 10 (address / Nat.pow 256 i % 256)

/-! ## IPv6 -/

/-- A group of an IPv6 address: up to four hexadecimal digits. -/
def ipv6Group? (cs : List Char) : Option Nat :=
  if cs.isEmpty || 4 < cs.length then none else digits? 16 cs

/-- A byte in decimal digits without leading zeros. -/
def ipv4Byte? (cs : List Char) : Option Nat :=
  match cs with
  | [] => none
  | ['0'] => some 0
  | '0' :: _ => none
  | cs => (digits? 10 cs).filter (· < 256)

/-- The last group of an IPv6 address, which may be an IPv4 address that stands
    for two of them. -/
def lastGroup? (cs : List Char) : Option (List Nat) :=
  match (cs.splitOn '.').mapM ipv4Byte? with
  | some [a, b, c, d] => some [256 * a + b, 256 * c + d]
  | _ => (ipv6Group? cs).map ([·])

/-- Groups between colons, of which the last one may be an IPv4 address. -/
def groups? : List (List Char) → Option (List Nat)
  | [] => some []
  | [cs] => lastGroup? cs
  | cs :: rest => do
    let group ← ipv6Group? cs
    let groups ← groups? rest
    return group :: groups

/-- Splits at the first two neighbouring colons. -/
def splitGap : List Char → Option (List Char × List Char)
  | [] => none
  | ':' :: ':' :: rest => some ([], rest)
  | c :: rest => (splitGap rest).map fun (before, after) => (c :: before, after)

/-- Groups between colons; no text at all is no group. -/
def side (cs : List Char) : List (List Char) :=
  if cs.isEmpty then [] else cs.splitOn ':'

/-- The IPv6 address that a text writes. Two neighbouring colons stand for as
    many zeros as are missing, at least one. -/
def ipv6? (cs : List Char) : Option (List Nat) :=
  match splitGap cs with
  | none => (groups? (side cs)).filter (·.length == 8)
  | some (before, after) => do
    let front ← (side before).mapM ipv6Group?
    let back ← groups? (side after)
    if front.length + back.length < 8 then
      return front ++ List.replicate (8 - front.length - back.length) 0 ++ back
    else none

/-- The length of the run of zeros at the start of a list. -/
def zeroRun (pieces : List Nat) : Nat :=
  (pieces.takeWhile (· == 0)).length

/-- The first of the longest runs of at least two zeros: where it starts and how
    long it is. -/
def longestZeroRun? (pieces : List Nat) : Option (Nat × Nat) :=
  (List.range pieces.length).foldl (fun best i =>
    let n := zeroRun (pieces.drop i)
    match best with
    | some (_, m) => if m < n then some (i, n) else best
    | none => if 2 ≤ n then some (i, n) else none) none

/-- Groups in hexadecimal digits, with colons between them. -/
def groupChars (pieces : List Nat) : List Char :=
  [':'].intercalate (pieces.map (Nat.toDigits 16))

/-- The text of an IPv6 address, with its longest run of zeros left out. -/
def ipv6Chars (pieces : List Nat) : List Char :=
  match longestZeroRun? pieces with
  | some (start, length) =>
    groupChars (pieces.take start) ++ [':', ':'] ++ groupChars (pieces.drop (start + length))
  | none => groupChars pieces

/-! ## Reading and writing -/

/-- The address between brackets, if a text starts with one. -/
def bracketed? : List Char → Option (Except UrlError Host)
  | '[' :: cs =>
    if cs.getLast? = some ']' then
      match ipv6? cs.dropLast with
      | some pieces => some (.ok (.ipv6 pieces))
      | none => some (.error .invalidIpv6)
    else some (.error .invalidIpv6)
  | _ => none

/-- The host that a text is for the schemes of the web. -/
def parse (cs : List Char) : Except UrlError Host :=
  match bracketed? cs with
  | some result => result
  | none =>
    match Domain.ofText? cs with
    | none => .error .invalidDomainName
    | some [] => .error .emptyHost
    | some name =>
      if endsInNumber name then
        match ipv4? name with
        | some address => .ok (.ipv4 address)
        | none => .error .invalidIpv4
      else .ok (.domain name)

/-- The character can stand in no host, whatever the scheme. -/
def isForbidden (c : Char) : Bool :=
  ['\x00', '\t', '\n', '\r', ' ', '#', '/', ':', '<', '>', '?', '@', '[', '\\', ']', '^',
    '|'].contains c

/-- The host that a text is for any other scheme. -/
def parseOther (cs : List Char) : Except UrlError Host :=
  match bracketed? cs with
  | some result => result
  | none =>
    if cs.any isForbidden then .error .invalidDomainCharacter
    else .ok (.domain (Url.encode Url.isControlOrWide cs))

/-- The text of a host. -/
def toChars : Host → List Char
  | .domain name => name
  | .ipv4 address => ipv4Chars address
  | .ipv6 pieces => ['['] ++ ipv6Chars pieces ++ [']']

end Host

end LootFilter
