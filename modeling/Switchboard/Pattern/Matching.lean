import Switchboard.Pattern.Expr
import Switchboard.Text.Utf8

/-!
# Finding patterns

A pattern is searched for by carrying a set of places of the stream through it: from the places
where a part may begin to those where it may end. The sets are numbers, place `i` being bit `i`, so
a part moves all places at once. A repetition is followed until no new place turns up, so the work
is bounded by the pattern and the stream, whatever they are.

* `Expr.scan` — the pattern laid over a stream: what each of its parts does to places.
* `Scan.advance` — from where a part may begin to where it may end.
* `Expr.foundIn` — does the pattern describe some piece of the stream?
-/

namespace Switchboard.Pattern

/-! ## The stream -/

/-- For each byte of a segment, the character that begins there and its size. -/
def starts : Utf8.Segment → List (Option (Char × Nat))
  | .char c size => some (c, size) :: List.replicate (size - 1) none
  | .broken size => List.replicate size none

/-- The characters of a stream, each at the place of its first byte. -/
def charsOf (data : Bytes) : List (Option (Char × Nat)) := (Utf8.segments data).flatMap starts

/-- A stream prepared for searching: its bytes, and the character that begins at each of them with
the number of bytes that encode it. -/
structure Subject where
  bytes : Array UInt8
  chars : Array (Option (Char × Nat))

namespace Subject

def ofBytes (data : Bytes) : Subject :=
  ⟨data.toArray, (charsOf data).toArray⟩

def size (s : Subject) : Nat := s.bytes.size

def charAfter (s : Subject) (place : Nat) : Option Char :=
  (s.chars[place]?).join.map (·.1)

/-- The nearest place where a character could begin, from a place on backwards, so many bytes at
most. -/
def leadBefore (s : Subject) : (steps place : Nat) → Nat
  | 0, place => place
  | steps + 1, place =>
    if (s.bytes[place]?).any Utf8.isContinuation then s.leadBefore steps (place - 1) else place

/-- The last character that begins before a place and is complete there. -/
def charBefore (s : Subject) (place : Nat) : Option Char :=
  if place = 0 then none
  else
    let lead := s.leadBefore (min 3 (place - 1)) (place - 1)
    match (s.chars[lead]?).join with
    | some (c, size) => if lead + size ≤ place then some c else none
    | none => none

end Subject

/-! ## Assertions -/

def isWordCharacter (c : Char) : Bool := wordCharacters.holds c.toNat

def isWordByte (b : UInt8) : Bool :=
  (0x30 ≤ b && b ≤ 0x39) || (0x41 ≤ b && b ≤ 0x5a) || b == 0x5f || (0x61 ≤ b && b ≤ 0x7a)

/-- What lies on one side of a place, with regard to words. -/
inductive Side
  | word
  | other
  /-- Bytes that are no character. -/
  | broken
  deriving DecidableEq

namespace Subject

def before (s : Subject) (alphabet : Alphabet) (place : Nat) : Side :=
  if place = 0 then .other
  else
    match alphabet with
    | .bytes => if (s.bytes[place - 1]?).any isWordByte then .word else .other
    | .characters =>
      match s.charBefore place with
      | some c => if isWordCharacter c then .word else .other
      | none => .broken

def after (s : Subject) (alphabet : Alphabet) (place : Nat) : Side :=
  if s.size ≤ place then .other
  else
    match alphabet with
    | .bytes => if (s.bytes[place]?).any isWordByte then .word else .other
    | .characters =>
      match s.charAfter place with
      | some c => if isWordCharacter c then .word else .other
      | none => .broken

/-- An assertion about words. Those that ask for something other than a word do not hold beside
bytes that are no character. -/
def atEdge (s : Subject) (alphabet : Alphabet) (place : Nat) (edge : WordEdge) : Bool :=
  let left := s.before alphabet place
  let right := s.after alphabet place
  match edge with
  | .boundary => (left == .word) != (right == .word)
  | .interior => left != .broken && right != .broken && (left == .word) == (right == .word)
  | .start => left != .word && right == .word
  | .finish => left == .word && right != .word
  | .startHalf => left == .other
  | .finishHalf => right == .other

def meets (s : Subject) (place : Nat) : Assertion → Bool
  | .textStart => place == 0
  | .textEnd => place == s.size
  | .lineStart false => place == 0 || s.bytes[place - 1]? == some 0x0a
  | .lineStart true =>
    place == 0 || s.bytes[place - 1]? == some 0x0a ||
      (s.bytes[place - 1]? == some 0x0d && s.bytes[place]? != some 0x0a)
  | .lineEnd false => place == s.size || s.bytes[place]? == some 0x0a
  | .lineEnd true =>
    place == s.size || s.bytes[place]? == some 0x0d ||
      (s.bytes[place]? == some 0x0a && (place == 0 || s.bytes[place - 1]? != some 0x0d))
  | .word edge alphabet => s.atEdge alphabet place edge

end Subject

/-! ## Sets of places -/

/-- The set of those places among `count` ones from `first` on that satisfy a test; bit 0 stands for
`first`. -/
def placesFrom (test : Nat → Bool) : (count first : Nat) → Nat
  | 0, _ => 0
  | count + 1, first => (if test first then 1 else 0) + 2 * placesFrom test count (first + 1)

def Subject.places (s : Subject) (test : Nat → Bool) : Nat :=
  placesFrom test (s.size + 1) 0

/-- A pattern laid over a stream. -/
inductive Scan
  /-- Stay at the places of a set. -/
  | stay (places : Nat)
  /-- From the places of each set on by a number of bytes. -/
  | move (steps : List (Nat × Nat))
  | seq (first second : Scan)
  | alt (left right : Scan)
  /-- Rounds, at least so many; `bound` rounds beyond these reach all that can be reached. -/
  | repeated (body : Scan) (least bound : Nat)

namespace Expr

def scan (s : Subject) : Expr → Scan
  | empty => .stay (s.places fun _ => true)
  | one .bytes set => .move [(1, s.places fun i => (s.bytes[i]?).any fun b => set.holds b.toNat)]
  | one .characters set =>
    .move ([1, 2, 3, 4].map fun size =>
      (size, s.places fun i =>
        (s.chars[i]?).join.any fun (c, n) => n == size && set.holds c.toNat))
  | look assertion => .stay (s.places fun i => s.meets i assertion)
  | seq a b => .seq (a.scan s) (b.scan s)
  | alt a b => .alt (a.scan s) (b.scan s)
  | repeated body least none => .repeated (body.scan s) least (s.size + 1)
  | repeated body least (some most) => .repeated (body.scan s) least (most - least)

end Expr

/-- So many rounds, or fewer if a round changes nothing. -/
def rounds (step : Nat → Nat) : Nat → Nat → Nat
  | 0, places => places
  | n + 1, places =>
    let next := step places
    if next = places then places else rounds step n next

/-- All that up to so many rounds reach, or fewer if a round reaches nothing new. -/
def reached (step : Nat → Nat) : Nat → Nat → Nat
  | 0, places => places
  | n + 1, places =>
    let next := places ||| step places
    if next = places then places else reached step n next

namespace Scan

/-- The places where the pattern may end, if it begins at one of the given places. -/
def advance : Scan → Nat → Nat
  | stay set, places => places &&& set
  | move steps, places =>
    steps.foldl (fun found (size, set) => found ||| ((places &&& set) <<< size)) 0
  | seq a b, places => b.advance (a.advance places)
  | alt a b, places => a.advance places ||| b.advance places
  | repeated body least bound, places =>
    reached body.advance bound (rounds body.advance least places)

end Scan

namespace Expr

/-- The pattern describes a piece of the stream, wherever it may begin and end. -/
def foundIn (e : Expr) (s : Subject) : Bool :=
  (e.scan s).advance (s.places fun _ => true) != 0

end Expr

end Switchboard.Pattern
