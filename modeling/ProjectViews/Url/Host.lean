/-
Hosts: the names and numbers of machines in URLs.

The host of a URL is a domain name or an address.  A domain is percent-decoded and
brought to ASCII; when its last label is a number the whole of it must be an IPv4
address, whose parts may be decimal, octal or hexadecimal and of which the last one
fills all remaining bytes.  An IPv6 address stands in brackets and is written with its
longest run of zeros left out.  In a URL of an unknown scheme the host is kept as it is.
-/
import ProjectViews.Number.Digits
import ProjectViews.Text.Percent
import ProjectViews.Url.Domain
import ProjectViews.Url.Path

namespace ProjectViews

namespace Url

/-- A host. -/
inductive Host where
  | domain (name : String)
  | ipv4 (address : Nat)
  /-- The eight pieces of an address. -/
  | ipv6 (pieces : List Nat)
deriving DecidableEq, Repr, Inhabited

/-! ### IPv4 addresses -/

/-- Digits in a base, as a number. -/
def readBase (base : Nat) (cs : List Char) : Option Nat :=
  cs.foldlM (fun n c => do
    let d ← Percent.value? c
    if d < base then some (n * base + d) else none) 0

/-- A part of an IPv4 address. -/
def ipv4Part? (cs : List Char) : Option Nat :=
  match cs with
  | [] => none
  | '0' :: 'x' :: rest => readBase 16 rest
  | '0' :: 'X' :: rest => readBase 16 rest
  | ['0'] => some 0
  | '0' :: rest => readBase 8 rest
  | cs => readBase 10 cs

/-- The parts of a domain, without an empty one at the end. -/
def domainParts (cs : List Char) : List (List Char) :=
  let parts := Text.pieces ['.'] cs
  if parts.getLast? = some [] then parts.dropLast else parts

/-- Whether a domain must be an IPv4 address. -/
def endsInNumber (cs : List Char) : Bool :=
  match (domainParts cs).getLast? with
  | some last => (!last.isEmpty && last.all Number.isDigit) || (ipv4Part? last).isSome
  | none => false

/-- An IPv4 address. -/
def ipv4? (cs : List Char) : Except Problem Host :=
  match (domainParts cs).mapM ipv4Part? with
  | none => .error .invalidIpv4
  | some numbers =>
    let front := numbers.dropLast
    let last := numbers.getLast?.getD 0
    if 4 < numbers.length ∨ front.any (255 < ·) ∨ Nat.pow 256 (4 - front.length) ≤ last then
      .error .invalidIpv4
    else .ok (.ipv4 (front.zipIdx.foldl (fun n (p, i) => n + p * Nat.pow 256 (3 - i)) last))

/-! ### IPv6 addresses -/

/-- A piece of an IPv6 address. -/
def ipv6Piece? (cs : List Char) : Option Nat :=
  if cs.isEmpty ∨ 4 < cs.length then none else readBase 16 cs

/-- A byte of an IPv4 address inside an IPv6 address: no leading zeros. -/
def ipv4Byte? (cs : List Char) : Option Nat :=
  match cs with
  | [] => none
  | '0' :: _ :: _ => none
  | cs => do
    let n ← readBase 10 cs
    if n < 256 then some n else none

/-- The pieces between the colons of a part of an IPv6 address; the last one may be an
IPv4 address. -/
def ipv6Pieces? (allowsIpv4 : Bool) (cs : List Char) : Option (List Nat) :=
  if cs.isEmpty then some []
  else
    let parts := Text.pieces [':'] cs
    match parts.dropLast.mapM ipv6Piece?, parts.getLast? with
    | some front, some last =>
      if last.contains '.' then
        if allowsIpv4 then
          match (Text.pieces ['.'] last).mapM ipv4Byte? with
          | some [a, b, c, d] => some (front ++ [a * 256 + b, c * 256 + d])
          | _ => none
        else none
      else (ipv6Piece? last).map fun p => front ++ [p]
    | _, _ => none

/-- An IPv6 address. -/
def ipv6? (cs : List Char) : Option (List Nat) :=
  match Text.cut? [':', ':'] cs with
  | none => do
    let pieces ← ipv6Pieces? true cs
    if pieces.length = 8 then some pieces else none
  | some (front, back) => do
    let front ← ipv6Pieces? false front
    let back ← ipv6Pieces? true back
    if front.length + back.length < 8 then
      some (front ++ List.replicate (8 - front.length - back.length) 0 ++ back)
    else none

/-- How many zeros a list of pieces starts with. -/
def leadingZeros (pieces : List Nat) : Nat := (pieces.takeWhile (· == 0)).length

/-- The place and the length of the longest run of zeros, the first one of several. -/
def longestZeros : (pieces : List Nat) → (place : Nat) → Nat × Nat
  | [], place => (place, 0)
  | p :: rest, place =>
    let here := leadingZeros (p :: rest)
    let later := longestZeros rest (place + 1)
    if later.2 ≤ here then (place, here) else later

/-- A number in hexadecimal. -/
def hex (n : Nat) : List Char := Nat.toDigits 16 n

/-- Pieces with colons between them. -/
def writePieces (pieces : List Nat) : List Char :=
  ((pieces.map hex).intersperse [':']).flatten

/-- An IPv6 address, without the brackets. -/
def writeIpv6 (pieces : List Nat) : List Char :=
  let (place, length) := longestZeros pieces 0
  if 2 ≤ length then
    writePieces (pieces.take place) ++ [':', ':'] ++ writePieces (pieces.drop (place + length))
  else writePieces pieces

/-! ### Hosts -/

/-- A host as it stands in a URL. -/
def Host.write : Host → String
  | domain name => name
  | ipv4 a =>
    Text.join "." ([a / 16777216, a / 65536 % 256, a / 256 % 256, a % 256].map Number.write)
  | ipv6 pieces => "[" ++ String.ofList (writeIpv6 pieces) ++ "]"

/-- The host in brackets. -/
def bracketed? (cs : List Char) : Except Problem Host :=
  if cs.getLast? = some ']' then
    match ipv6? cs.dropLast with
    | some pieces => .ok (.ipv6 pieces)
    | none => .error .invalidIpv6
  else .error .invalidIpv6

/-- The host of a URL whose scheme is known. -/
def Host.parse (cs : List Char) : Except Problem Host :=
  match cs with
  | '[' :: rest => bracketed? rest
  | _ =>
    match Percent.decodeText? cs with
    | none => .error .invalidName
    | some cs => do
      let name ← domainToAscii cs
      if name.isEmpty then .error .emptyHost
      else if endsInNumber name then ipv4? name
      else .ok (.domain (String.ofList name))

/-- The host of a URL whose scheme is unknown. -/
def Host.parseOpaque (cs : List Char) : Except Problem Host :=
  match cs with
  | '[' :: rest => bracketed? rest
  | _ =>
    if cs.any fun c => c.toNat == 0 || " \t\n\r#/:<>?@[\\]^|".toList.contains c then
      .error .invalidHostCharacter
    else .ok (.domain (String.ofList (Percent.encode isControl cs)))

end Url

end ProjectViews
