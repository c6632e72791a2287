/-!
# Characters and numerals

Properties of characters, and the numbers that characters write.

* `Ranges` — a property given by the ranges of code points that have it.
* `isBlank` — the Unicode property `White_Space`, not only its ASCII members.
* `natural?` — how numbers are read from settings and addresses: an optional plus sign and then
  decimal digits, any number of them, as long as the value stays within its limit.
-/

namespace Switchboard.Text

/-- Ranges of numbers, each with its first and its last member. -/
abbrev Ranges := List (Nat × Nat)

def Ranges.holds (ranges : Ranges) (n : Nat) : Bool :=
  ranges.any fun (first, last) => decide (first ≤ n ∧ n ≤ last)

def isBlank (c : Char) : Bool :=
  let n := c.toNat
  (0x09 ≤ n && n ≤ 0x0d) || n == 0x20 || n == 0x85 || n == 0xa0 || n == 0x1680 ||
    (0x2000 ≤ n && n ≤ 0x200a) || n == 0x2028 || n == 0x2029 || n == 0x202f || n == 0x205f ||
    n == 0x3000

/-! ## Numerals -/

def digit? (c : Char) : Option Nat :=
  if '0' ≤ c ∧ c ≤ '9' then some (c.toNat - '0'.toNat) else none

def hexDigit? (c : Char) : Option Nat :=
  if '0' ≤ c ∧ c ≤ '9' then some (c.toNat - '0'.toNat)
  else if 'a' ≤ c ∧ c ≤ 'f' then some (c.toNat - 'a'.toNat + 10)
  else if 'A' ≤ c ∧ c ≤ 'F' then some (c.toNat - 'A'.toNat + 10)
  else none

/-- The number that a text of digits spells in a base, none if another character occurs. -/
def positional? (digitValue : Char → Option Nat) (base : Nat) (digits : List Char) : Option Nat :=
  digits.foldlM (fun n c => (digitValue c).map (base * n + ·)) 0

def digits? : List Char → Option Nat
  | [] => none
  | c :: rest => positional? digit? 10 (c :: rest)

/-- A natural number up to `limit`: decimal digits behind an optional plus sign. -/
def natural? (limit : Nat) (text : List Char) : Option Nat :=
  let unsigned := match text with
    | '+' :: rest => rest
    | _ => text
  (digits? unsigned).filter (· ≤ limit)

end Switchboard.Text
