import Switchboard.Bytes

/-!
# UTF-8

A stream is cut into segments: encoded characters, and longest beginnings of encoded characters
that break off. Every other reading of bytes as text is a reading of the segments.

* `Utf8.segments` — the cut; the segments' sizes add up to the stream's length.
* `Utf8.decode?` — the text of a stream in which no segment is broken.
* `Utf8.decodeLossy` — the text with a replacement character for each broken segment.
-/

namespace Switchboard.Utf8

/-- A piece of a stream read as UTF-8. -/
inductive Segment
  /-- A character and the number of bytes that encode it. -/
  | char (c : Char) (size : Nat)
  /-- That many bytes which begin no character, or only its beginning. -/
  | broken (size : Nat)
  deriving DecidableEq, Repr

def Segment.size : Segment → Nat
  | .char _ size => size
  | .broken size => size

/-- The second and later bytes of an encoded character. -/
def isContinuation (b : UInt8) : Bool := 0x80 ≤ b && b ≤ 0xbf

/-- `second` may follow `first` at the head of a three-byte character: no overlong form and no
surrogate. -/
def opensThree (first second : UInt8) : Bool :=
  (first == 0xe0 && 0xa0 ≤ second && second ≤ 0xbf) ||
    (0xe1 ≤ first && first ≤ 0xec && isContinuation second) ||
    (first == 0xed && 0x80 ≤ second && second ≤ 0x9f) ||
    (0xee ≤ first && first ≤ 0xef && isContinuation second)

/-- `second` may follow `first` at the head of a four-byte character: no overlong form and nothing
above U+10FFFF. -/
def opensFour (first second : UInt8) : Bool :=
  (first == 0xf0 && 0x90 ≤ second && second ≤ 0xbf) ||
    (0xf1 ≤ first && first ≤ 0xf3 && isContinuation second) ||
    (first == 0xf4 && 0x80 ≤ second && second ≤ 0x8f)

/-- The six bits that a continuation byte carries. -/
def payload (b : UInt8) : Nat := b.toNat % 64

/-- The stream cut into characters and broken pieces. -/
def segments : Bytes → List Segment
  | [] => []
  | a :: rest₁ =>
    if a < 0x80 then .char (Char.ofNat a.toNat) 1 :: segments rest₁
    else if 0xc2 ≤ a && a ≤ 0xdf then
      match rest₁ with
      | [] => [.broken 1]
      | b :: rest₂ =>
        if isContinuation b then
          .char (Char.ofNat (a.toNat % 32 * 64 + payload b)) 2 :: segments rest₂
        else .broken 1 :: segments (b :: rest₂)
    else
      match rest₁ with
      | [] => [.broken 1]
      -- A broken piece ends where no character can go on; the byte that stopped it is read again.
      | b :: rest₂ =>
        if opensThree a b then
          match rest₂ with
          | [] => [.broken 2]
          | c :: rest₃ =>
            if isContinuation c then
              .char (Char.ofNat (a.toNat % 16 * 4096 + payload b * 64 + payload c)) 3 ::
                segments rest₃
            else .broken 2 :: segments (c :: rest₃)
        else if opensFour a b then
          match rest₂ with
          | [] => [.broken 2]
          | c :: rest₃ =>
            if isContinuation c then
              match rest₃ with
              | [] => [.broken 3]
              | d :: rest₄ =>
                if isContinuation d then
                  .char (Char.ofNat (a.toNat % 8 * 262144 + payload b * 4096 + payload c * 64 +
                    payload d)) 4 :: segments rest₄
                else .broken 3 :: segments (d :: rest₄)
            else .broken 2 :: segments (c :: rest₃)
        else .broken 1 :: segments (b :: rest₂)

def whole? : List Segment → Option (List Char)
  | [] => some []
  | .char c _ :: rest => (whole? rest).map (c :: ·)
  | .broken _ :: _ => none

def decode? (data : Bytes) : Option String :=
  (whole? (segments data)).map String.ofList

/-- The text of a stream, U+FFFD standing for each broken piece. -/
def decodeLossy (data : Bytes) : String :=
  String.ofList ((segments data).map fun
    | .char c _ => c
    | .broken _ => Char.ofNat 0xfffd)

def encode (text : String) : Bytes :=
  text.toList.flatMap String.utf8EncodeChar

end Switchboard.Utf8
