import ForbiddenHosts.Text.Pieces
import ForbiddenHosts.Url.Fault
import ForbiddenHosts.Url.Percent

/-!
# Hosts of URLs

A host is a name, an IPv4 address or an IPv6 address.

The host of a **special** URL is a domain name: it is percent-decoded and lower-cased, and a name
whose last label is a number must be an IPv4 address.  An IPv4 address has one to four numbers, each
decimal, octal after `0` or hexadecimal after `0x`; the last number fills all the bytes that are
left.  The host of any other URL is kept as it is written, with control characters encoded.

A bracketed host is an IPv6 address: eight pieces of up to four hexadecimal digits, where `::`
stands once for one or more zero pieces and the last two pieces may be written as an IPv4 address.
It is printed with its first longest run of at least two zero pieces as `::`.

Domain names are ASCII here: a name that holds anything else is refused, and a label that encodes
such a name stays as it is and is not checked.
-/
namespace ForbiddenHosts.Url

/-- A host.  The pieces of an IPv6 address are its eight numbers of sixteen bits. -/
inductive Host where
  | name (text : String)
  | ipv4 (address : Nat)
  | ipv6 (pieces : List Nat)
  deriving DecidableEq, Repr

/-! ### IPv4 addresses -/

/-- The value of digits in a base, if all of them are digits of it. -/
def numberIn? (base : Nat) (digits : List Char) : Option Nat :=
  digits.foldlM
    (fun n c => (hexValue? c).bind fun d => if d < base then some (n * base + d) else none) 0

/-- The number that a label of an IPv4 address spells. -/
def ipv4Number? : List Char → Option Nat
  | [] => none
  | '0' :: 'x' :: digits => numberIn? 16 digits
  | '0' :: 'X' :: digits => numberIn? 16 digits
  | '0' :: c :: digits => numberIn? 8 (c :: digits)
  | digits => numberIn? 10 digits

/-- The labels of a domain name, without the empty one after a final point. -/
def labels (name : List Char) : List (List Char) :=
  let all := Text.pieces '.' name
  if all.getLast? = some [] then all.dropLast else all

/-- A name that must be an IPv4 address: its last label is a number. -/
def endsInNumber (name : List Char) : Bool :=
  match (labels name).getLast? with
  | none => false
  | some label => (!label.isEmpty && label.all Char.isDigit) || (ipv4Number? label).isSome

/-- The address that the numbers of an IPv4 address spell. -/
def ipv4Address? (numbers : List Nat) : Option Nat :=
  match numbers.getLast? with
  | none => none
  | some last =>
    let front := numbers.dropLast
    if front.length ≤ 3 ∧ front.all (· < 256) ∧ last < Nat.pow 256 (4 - front.length) then
      some (front.foldl (fun n byte => n * 256 + byte) 0 * Nat.pow 256 (4 - front.length) + last)
    else none

/-- Reads an IPv4 address. -/
def ipv4? (name : List Char) : Option Nat :=
  ((labels name).mapM ipv4Number?).bind ipv4Address?

/-- The four bytes of an IPv4 address, in decimal. -/
def ipv4Text (address : Nat) : List Char :=
  let byte := fun (i : Nat) => Nat.toDigits 10 (address / Nat.pow 256 i % 256)
  byte 3 ++ '.' :: byte 2 ++ '.' :: byte 1 ++ '.' :: byte 0

/-! ### IPv6 addresses -/

/-- The number that one to four hexadecimal digits spell. -/
def ipv6Piece? (digits : List Char) : Option Nat :=
  if digits.isEmpty || 4 < digits.length then none else numberIn? 16 digits

/-- A byte of an IPv4 address inside an IPv6 address: decimal, without leading zeros. -/
def ipv6Byte? (digits : List Char) : Option Nat :=
  if digits.isEmpty || (digits.head? == some '0' && digits != ['0']) then none
  else (numberIn? 10 digits).bind fun n => if n < 256 then some n else none

/-- The two pieces that an IPv4 address inside an IPv6 address stands for. -/
def embeddedIpv4? (text : List Char) : Option (List Nat) :=
  match (Text.pieces '.' text).mapM ipv6Byte? with
  | some [a, b, c, d] => some [a * 256 + b, c * 256 + d]
  | _ => none

/-- The pieces of a list separated by colons; the last may be an IPv4 address if that is allowed. -/
def ipv6Pieces? (embedded : Bool) : List (List Char) → Option (List Nat)
  | [] => some []
  | [piece] =>
    if embedded && piece.contains '.' then embeddedIpv4? piece
    else (ipv6Piece? piece).map ([·])
  | piece :: others => do
    let n ← ipv6Piece? piece
    let ns ← ipv6Pieces? embedded others
    return n :: ns

/-- The pieces of one side of `::`; a side may be empty. -/
def ipv6Side? (embedded : Bool) (text : List Char) : Option (List Nat) :=
  if text.isEmpty then some [] else ipv6Pieces? embedded (Text.pieces ':' text)

/-- Cuts a text at its first `::`. -/
def cutDoubleColon : List Char → Option (List Char × List Char)
  | [] => none
  | ':' :: ':' :: rest => some ([], rest)
  | c :: rest => (cutDoubleColon rest).map fun (front, back) => (c :: front, back)

/-- Reads an IPv6 address, without its brackets. -/
def ipv6? (text : List Char) : Option (List Nat) :=
  match cutDoubleColon text with
  | none =>
    (ipv6Pieces? true (Text.pieces ':' text)).bind fun ns => if ns.length = 8 then some ns else none
  | some (front, back) => do
    let before ← ipv6Side? false front
    let after ← ipv6Side? true back
    if before.length + after.length ≤ 7 then
      return before ++ List.replicate (8 - (before.length + after.length)) 0 ++ after
    else none

/-- The number of zeros at the head of a list. -/
def zerosAtHead (ns : List Nat) : Nat := (ns.takeWhile (· == 0)).length

/-- The place and length of the first longest run of zeros, looking from a place on. -/
def longestZeros (start : Nat) : List Nat → Nat × Nat
  | [] => (start, 0)
  | n :: ns =>
    let here := zerosAtHead (n :: ns)
    let later := longestZeros (start + 1) ns
    if later.2 ≤ here then (start, here) else later

/-- Pieces in lower-case hexadecimal, with colons between them. -/
def ipv6Join (ns : List Nat) : List Char :=
  List.intercalate [':'] (ns.map (Nat.toDigits 16))

/-- The text of an IPv6 address, without brackets. -/
def ipv6Text (ns : List Nat) : List Char :=
  let (start, length) := longestZeros 0 ns
  if length < 2 then ipv6Join ns
  else ipv6Join (ns.take start) ++ [':', ':'] ++ ipv6Join (ns.drop (start + length))

/-! ### Hosts -/

/-- A character that no domain name holds. -/
def isForbiddenInDomain (c : Char) : Bool :=
  c.toNat ≤ 0x20 || 0x7F ≤ c.toNat ||
    ['%', '#', '/', ':', '<', '>', '?', '@', '[', '\\', ']', '^', '|'].contains c

/-- A character that no host holds as it is. -/
def isForbiddenInHost (c : Char) : Bool :=
  ['\x00', '\t', '\n', '\r', ' ', '#', '/', ':', '<', '>', '?', '@', '[', '\\', ']', '^',
    '|'].contains c

/-- Reads a bracketed host. -/
def Host.bracketed (text : List Char) : Except Fault Host :=
  match text.getLast? with
  | some ']' =>
    match ipv6? text.dropLast with
    | some ns => .ok (.ipv6 ns)
    | none => .error .invalidIpv6
  | _ => .error .invalidIpv6

/-- Reads a domain name that has been decoded, as a name or an IPv4 address. -/
def Host.ofDomain (domain : List Char) : Except Fault Host :=
  if domain.any isForbiddenInDomain then .error .invalidDomain
  else
    let name := domain.map Char.toLower
    if name.isEmpty then .error .emptyHost
    else if endsInNumber name then
      match ipv4? name with
      | some address => .ok (.ipv4 address)
      | none => .error .invalidIpv4
    else .ok (.name (String.ofList name))

/-- Reads the host of a special URL. -/
def Host.special : List Char → Except Fault Host
  | '[' :: text => Host.bracketed text
  | text => Host.ofDomain (Utf8.decode (percentDecode text))

/-- Reads the host of a URL that is not special. -/
def Host.other : List Char → Except Fault Host
  | '[' :: text => Host.bracketed text
  | text =>
    if text.any isForbiddenInHost then .error .invalidHostCharacter
    else .ok (.name (String.ofList (percentEncode isControl text)))

/-- There is no host. -/
def Host.isEmpty : Host → Bool
  | .name text => text.isEmpty
  | _ => false

/-- The text of a host. -/
def Host.text : Host → List Char
  | .name text => text.toList
  | .ipv4 address => ipv4Text address
  | .ipv6 ns => '[' :: ipv6Text ns ++ [']']

end ForbiddenHosts.Url
