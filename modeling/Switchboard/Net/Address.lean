import Switchboard.Text.Characters

/-!
# Internet addresses

IPv4 and IPv6 addresses and their text forms. IPv4 is four decimal numbers between points. IPv6 is
eight hexadecimal groups between colons; two colons stand for the longest run of zero groups, and an
IPv4 address may stand for the last two groups.

* `Address.text` — the standard form, and `Address.parse?` the address that a text writes.
* `Endpoint.text` — an address with a port, and `Endpoint.parse?` its reading.
-/

namespace Switchboard

structure Ipv4 where
  a : UInt8
  b : UInt8
  c : UInt8
  d : UInt8
  deriving DecidableEq, Repr

/-- An IPv6 address: eight groups of sixteen bits. -/
structure Ipv6 where
  groups : List UInt16
  length_groups : groups.length = 8
  deriving DecidableEq, Repr

inductive Address
  | v4 (address : Ipv4)
  | v6 (address : Ipv6)
  deriving DecidableEq, Repr

structure Endpoint where
  address : Address
  port : UInt16
  deriving DecidableEq, Repr

/-! ## Text forms -/

def decimalText (n : Nat) : List Char := Nat.toDigits 10 n

namespace Ipv4

def text (ip : Ipv4) : List Char :=
  decimalText ip.a.toNat ++ '.' :: decimalText ip.b.toNat ++ '.' :: decimalText ip.c.toNat ++
    '.' :: decimalText ip.d.toNat

/-- The two IPv6 groups that hold the address. -/
def groups (ip : Ipv4) : List UInt16 :=
  [UInt16.ofNat (256 * ip.a.toNat + ip.b.toNat), UInt16.ofNat (256 * ip.c.toNat + ip.d.toNat)]

/-- The address that two IPv6 groups hold. -/
def ofGroups (high low : UInt16) : Ipv4 :=
  ⟨UInt8.ofNat (high.toNat / 256), UInt8.ofNat (high.toNat % 256), UInt8.ofNat (low.toNat / 256),
    UInt8.ofNat (low.toNat % 256)⟩

end Ipv4

namespace Ipv6

/-- Groups in hexadecimal between colons. -/
def joined : List UInt16 → List Char
  | [] => []
  | [g] => Nat.toDigits 16 g.toNat
  | g :: rest => Nat.toDigits 16 g.toNat ++ ':' :: joined rest

/-- How many zero groups stand at the head. -/
def zeroRun (groups : List UInt16) : Nat := (groups.takeWhile (· = 0)).length

/-- The first of the longest runs of zero groups: where it begins and how long it is. The groups at
hand are those from `start` on. -/
def longestRun (start : Nat) : List UInt16 → Nat × Nat
  | [] => (start, 0)
  | g :: rest =>
    let here := zeroRun (g :: rest)
    let later := longestRun (start + 1) rest
    if later.2 ≤ here then (start, here) else later

/-- The standard form. An IPv4 address that is mapped into IPv6 is shown as such, and a run of zero
groups is left out if it is longer than one group. -/
def text (ip : Ipv6) : List Char :=
  match ip.groups with
  | [0, 0, 0, 0, 0, 0xffff, high, low] =>
    [':', ':', 'f', 'f', 'f', 'f', ':'] ++ (Ipv4.ofGroups high low).text
  | groups =>
    let (start, length) := longestRun 0 groups
    if length < 2 then joined groups
    else joined (groups.take start) ++ [':', ':'] ++ joined (groups.drop (start + length))

end Ipv6

namespace Address

def text : Address → List Char
  | v4 ip => ip.text
  | v6 ip => ip.text

end Address

/-- An address with its port; brackets keep the colons of an IPv6 address apart from the port's. -/
def Endpoint.text (endpoint : Endpoint) : List Char :=
  match endpoint.address with
  | .v4 ip => ip.text ++ ':' :: decimalText endpoint.port.toNat
  | .v6 ip => '[' :: ip.text ++ ']' :: ':' :: decimalText endpoint.port.toNat

/-! ## Reading -/

def isDecimalDigit (c : Char) : Bool := (Text.digit? c).isSome

def isHexDigit (c : Char) : Bool := (Text.hexDigit? c).isSome

namespace Ipv4

/-- A number of at most three digits without needless zeros, and what follows it. -/
def octet? (text : List Char) : Option (UInt8 × List Char) :=
  let digits := text.takeWhile isDecimalDigit
  if digits.length ≤ 3 ∧ ¬ (digits.head? = some '0' ∧ 1 < digits.length) then
    match (Text.digits? digits).filter (· < UInt8.size) with
    | some n => some (UInt8.ofNat n, text.dropWhile isDecimalDigit)
    | none => none
  else none

def pointOctet? : List Char → Option (UInt8 × List Char)
  | '.' :: text => octet? text
  | _ => none

def read? (text : List Char) : Option (Ipv4 × List Char) := do
  let (a, rest) ← octet? text
  let (b, rest) ← pointOctet? rest
  let (c, rest) ← pointOctet? rest
  let (d, rest) ← pointOctet? rest
  return (⟨a, b, c, d⟩, rest)

end Ipv4

namespace Ipv6

/-- A group of at most four hexadecimal digits, and what follows it. -/
def group? (text : List Char) : Option (UInt16 × List Char) :=
  let digits := text.takeWhile isHexDigit
  if digits.isEmpty ∨ 4 < digits.length then none
  else
    (Text.positional? Text.hexDigit? 16 digits).map fun n =>
      (UInt16.ofNat n, text.dropWhile isHexDigit)

/-- What follows the colon that separates a group from the one before; the first group has none. -/
def pastColon? (first : Bool) (text : List Char) : Option (List Char) :=
  if first then some text
  else match text with
    | ':' :: rest => some rest
    | _ => none

/-- As many groups as there are, up to `limit`; whether the last two were given as an IPv4 address;
and what follows. -/
def readGroups : (limit : Nat) → (first : Bool) → List Char → List UInt16 × Bool × List Char
  | 0, _, text => ([], false, text)
  | limit + 1, first, text =>
    match pastColon? first text with
    | none => ([], false, text)
    | some here =>
      -- The last two groups may be written as an IPv4 address.
      match if 0 < limit then Ipv4.read? here else none with
      | some (ip, rest) => (ip.groups, true, rest)
      | none =>
        match group? here with
        | none => ([], false, text)
        | some (g, rest) =>
          let (more, mixed, rest) := readGroups limit false rest
          (g :: more, mixed, rest)

def ofGroups? (groups : List UInt16) : Option Ipv6 :=
  if h : groups.length = 8 then some ⟨groups, h⟩ else none

/-- An address at the head of a text, and what follows it. -/
def read? (text : List Char) : Option (Ipv6 × List Char) :=
  let (head, mixed, rest) := readGroups 8 true text
  if head.length = 8 then (ofGroups? head).map (·, rest)
  else if mixed then none
  else
    match rest with
    | ':' :: ':' :: rest =>
      let (tail, _, rest) := readGroups (7 - head.length) true rest
      (ofGroups? (head ++ List.replicate (8 - head.length - tail.length) 0 ++ tail)).map (·, rest)
    | _ => none

end Ipv6

namespace Address

def parse? (text : List Char) : Option Address :=
  match Ipv4.read? text with
  | some (ip, []) => some (v4 ip)
  | _ =>
    match Ipv6.read? text with
    | some (ip, []) => some (v6 ip)
    | _ => none

end Address

namespace Endpoint

/-- The port that ends a text, behind its colon. -/
def portSuffix? : List Char → Option UInt16
  | ':' :: digits => ((Text.digits? digits).filter (· < UInt16.size)).map UInt16.ofNat
  | _ => none

/-- The endpoint that a whole text writes. -/
def parse? (text : List Char) : Option Endpoint :=
  match text with
  | '[' :: rest =>
    match Ipv6.read? rest with
    | some (ip, ']' :: rest) => (portSuffix? rest).map (⟨.v6 ip, ·⟩)
    | _ => none
  | _ =>
    match Ipv4.read? text with
    | some (ip, rest) => (portSuffix? rest).map (⟨.v4 ip, ·⟩)
    | none => none

end Endpoint

end Switchboard
