/-!
# Bytes

A stream is the list of its bytes, oldest first, and every question the library asks of a client
is a question about such a list.

* `Bytes.includes` — does a token occur anywhere in the stream?
* `Bytes.bigEndian` — the number that a length field spells.
* `hexPair` — the two hexadecimal digits of a byte.
-/

namespace Switchboard

/-- What a peer has sent, oldest byte first. -/
abbrev Bytes := List UInt8

/-- The lower-case hexadecimal digit of a number below sixteen. -/
def hexDigit (n : Nat) : Char :=
  if n < 10 then Char.ofNat ('0'.toNat + n) else Char.ofNat ('a'.toNat + (n - 10))

def hexPair (b : UInt8) : List Char :=
  [hexDigit (b.toNat / 16), hexDigit (b.toNat % 16)]

namespace Bytes

def ofWord (word : List Char) : Bytes :=
  word.map fun c => UInt8.ofNat c.toNat

/-- `token` occurs somewhere in the stream. -/
def includes : (data token : Bytes) → Bool
  | [], token => token.isEmpty
  | b :: rest, token => token.isPrefixOf (b :: rest) || includes rest token

theorem includes_nil (token : Bytes) : includes [] token = token.isEmpty := rfl

theorem includes_cons (b : UInt8) (rest token : Bytes) :
    includes (b :: rest) token = (token.isPrefixOf (b :: rest) || includes rest token) := rfl

/-- The number whose base-256 digits are these bytes, most significant first. -/
def bigEndian (digits : Bytes) : Nat :=
  digits.foldl (fun n b => 256 * n + b.toNat) 0

def toHex (data : Bytes) : String :=
  String.ofList (data.flatMap hexPair)

end Bytes

end Switchboard
