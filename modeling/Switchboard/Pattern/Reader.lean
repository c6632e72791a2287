import Switchboard.Detector.Basic
import Switchboard.Pattern.Matching
import Switchboard.Text.Characters

/-!
# Reading patterns

The written form of patterns: characters that stand for themselves, sets in brackets, groups,
alternatives, repetitions, assertions, and flags that change how the rest of a group is read. A
pattern that is not well formed is refused as a whole; so is one whose parts nest too deeply, or
whose automaton would be too large. Classes named by a property of characters are not known here.

* `read?` — the pattern that a text writes.
* `Engine.standard` — the library of patterns that the program comes with.
-/

namespace Switchboard.Pattern

/-! ## State -/

/-- The flags in force at a place of a written pattern. -/
structure Flags where
  ignoreCase : Bool
  multiLine : Bool
  dotAll : Bool
  /-- Repetitions prefer few rounds unless marked; this changes no answer. -/
  swapGreed : Bool
  unicode : Bool
  crlf : Bool
  /-- Blanks and comments between parts are skipped. -/
  extended : Bool
  deriving DecidableEq, Repr

def Flags.initial : Flags := ⟨false, false, false, false, true, false, false⟩

/-- Turns the flag with a letter on or off. -/
def Flags.set? (flags : Flags) (on : Bool) : Char → Option Flags
  | 'i' => some { flags with ignoreCase := on }
  | 'm' => some { flags with multiLine := on }
  | 's' => some { flags with dotAll := on }
  | 'U' => some { flags with swapGreed := on }
  | 'u' => some { flags with unicode := on }
  | 'R' => some { flags with crlf := on }
  | 'x' => some { flags with extended := on }
  | _ => none

def Flags.alphabet (flags : Flags) : Alphabet :=
  if flags.unicode then .characters else .bytes

/-- What is left to read, the flags in force and the group names given so far. -/
structure ReadState where
  rest : List Char
  flags : Flags
  names : List (List Char)

/-- A step of reading: it fails on a pattern that is not well formed. -/
abbrev Read (α : Type) := StateT ReadState Option α

namespace Read

/-- What follows blanks and comments; a comment runs from `#` to the end of its line. -/
def dropBlank (inComment : Bool) : List Char → List Char
  | [] => []
  | c :: rest =>
    if inComment then dropBlank (c != '\n') rest
    else if Text.isBlank c then dropBlank false rest
    else if c = '#' then dropBlank true rest
    else c :: rest

def pastBlank (flags : Flags) (text : List Char) : List Char :=
  if flags.extended then dropBlank false text else text

def setRest (rest : List Char) : Read Unit := modify ({ · with rest := rest })

def setFlags (flags : Flags) : Read Unit := modify ({ · with flags := flags })

def skipBlank : Read Unit := modify fun s => { s with rest := pastBlank s.flags s.rest }

def peek : Read Char := do
  match (← get).rest with
  | c :: _ => return c
  | [] => failure

def advance : Read Unit := modify fun s => { s with rest := s.rest.tail }

def advancePastBlank : Read Unit := do advance; skipBlank

/-! ## Single characters -/

/-- A part of a pattern that is no larger than one character. -/
inductive Atom
  /-- A character; `isByte` says that it was given as a byte, by two hexadecimal digits. -/
  | char (c : Char) (isByte : Bool)
  | set (members : CharSet)
  | look (assertion : Assertion)

/-- The characters that mean something when they stand alone. -/
def metaCharacters : List Char :=
  ['\\', '.', '+', '*', '?', '(', ')', '|', '[', ']', '\x7b', '\x7d', '^', '$', '#', '&', '-', '~']

/-- A backslash takes away the meaning of a character, if the two have none together. -/
def isEscapable (c : Char) : Bool :=
  metaCharacters.contains c || (c.toNat < 0x80 && !c.isAlphanum && c != '<' && c != '>')

def digitSet : Alphabet → CharSet
  | .characters => .ranges decimalDigits
  | .bytes => .ranges [(0x30, 0x39)]

def spaceSet : Alphabet → CharSet
  | .characters => .ranges [(0x09, 0x0d), (0x20, 0x20), (0x85, 0x85), (0xa0, 0xa0),
      (0x1680, 0x1680), (0x2000, 0x200a), (0x2028, 0x2029), (0x202f, 0x202f), (0x205f, 0x205f),
      (0x3000, 0x3000)]
  | .bytes => .ranges [(0x09, 0x0d), (0x20, 0x20)]

def wordSet : Alphabet → CharSet
  | .characters => .ranges wordCharacters
  | .bytes => .ranges [(0x30, 0x39), (0x41, 0x5a), (0x5f, 0x5f), (0x61, 0x7a)]

/-- The set that a letter behind a backslash stands for; a capital stands for the complement. -/
def classSet? (alphabet : Alphabet) : Char → Option CharSet
  | 'd' => some (digitSet alphabet)
  | 'D' => some (.complement (digitSet alphabet))
  | 's' => some (spaceSet alphabet)
  | 'S' => some (.complement (spaceSet alphabet))
  | 'w' => some (wordSet alphabet)
  | 'W' => some (.complement (wordSet alphabet))
  | _ => none

def numbered (digits : List Char) (isByte : Bool) : Read Atom :=
  match Text.positional? Text.hexDigit? 16 digits with
  | some n => if n.isValidChar then return .char (Char.ofNat n) isByte else failure
  | none => failure

/-- So many hexadecimal digits, blanks between them passed. -/
def hexDigits : Nat → Read (List Char)
  | 0 => return []
  | n + 1 => do
    let c ← peek
    if (Text.hexDigit? c).isNone then failure
    advancePastBlank
    return c :: (← hexDigits n)

/-- Hexadecimal digits up to a closing brace, which is passed too. -/
def bracedDigits : Nat → Read (List Char)
  | 0 => failure
  | fuel + 1 => do
    let c ← peek
    advancePastBlank
    if c = '\x7d' then return []
    if (Text.hexDigit? c).isNone then failure
    return c :: (← bracedDigits fuel)

/-- A character given by a fixed number of hexadecimal digits, or by any number of them in braces;
the letter that asks for it is next. -/
def hexCharacter : Read Atom := do
  let letter ← peek
  advancePastBlank
  if (← peek) = '\x7b' then
    advancePastBlank
    let digits ← bracedDigits (← get).rest.length
    if digits.isEmpty then failure
    numbered digits false
  else
    let width := if letter = 'x' then 2 else if letter = 'u' then 4 else 8
    numbered (← hexDigits width) (letter == 'x')

def namedEdges : List (List Char × WordEdge) :=
  [(['s', 't', 'a', 'r', 't'], .start), (['e', 'n', 'd'], .finish),
    (['s', 't', 'a', 'r', 't', '-', 'h', 'a', 'l', 'f'], .startHalf),
    (['e', 'n', 'd', '-', 'h', 'a', 'l', 'f'], .finishHalf)]

/-- The letters of an edge's name, blanks between them passed. -/
def edgeName : Nat → Read (List Char)
  | 0 => return []
  | fuel + 1 => do
    let c ← peek
    if c.isAlpha || c = '-' then
      advancePastBlank
      return c :: (← edgeName fuel)
    else return []

/-- What a backslash and `b` stand for: a word boundary, or the edge named in braces. Braces that
begin with no letter are left for a repetition. -/
def wordEdge : Read WordEdge := do
  let before := (← get).rest
  match before with
  | '\x7b' :: _ =>
    advancePastBlank
    let c ← peek
    if c.isAlpha || c = '-' then
      let name ← edgeName (← get).rest.length
      if (← peek) ≠ '\x7d' then failure
      advance
      match namedEdges.lookup name with
      | some edge => return edge
      | none => failure
    else
      setRest before
      return .boundary
  | _ => return .boundary

/-- What a backslash and the characters behind it stand for; the backslash is next. -/
def escape : Read Atom := do
  advance
  let alphabet := (← get).flags.alphabet
  let c ← peek
  if c = 'x' || c = 'u' || c = 'U' then hexCharacter
  else
    advance
    match classSet? alphabet c with
    | some members => return .set members
    | none =>
      if isEscapable c then return .char c false
      else
        match c with
        | 'a' => return .char '\x07' false
        | 'f' => return .char '\x0c' false
        | 't' => return .char '\t' false
        | 'n' => return .char '\n' false
        | 'r' => return .char '\r' false
        | 'v' => return .char '\x0b' false
        -- Places rather than characters from here on.
        | 'A' => return .look .textStart
        | 'z' => return .look .textEnd
        | 'b' => return .look (.word (← wordEdge) alphabet)
        | 'B' => return .look (.word .interior alphabet)
        | '<' => return .look (.word .start alphabet)
        | '>' => return .look (.word .finish alphabet)
        | _ => failure

def withCase (flags : Flags) (set : CharSet) : CharSet :=
  if flags.ignoreCase then .anyCase flags.alphabet set else set

/-- The pattern of one character. A character beyond ASCII is a character even where the alphabet is
that of bytes, unless it was given as a byte. -/
def charExpr (flags : Flags) (c : Char) (isByte : Bool) : Expr :=
  if flags.unicode then .one .characters (withCase flags (.single c.toNat))
  else if c.toNat < 0x80 then .one .bytes (withCase flags (.single c.toNat))
  else if isByte then .one .bytes (.single c.toNat)
  else .one .characters (.single c.toNat)

def dotExpr (flags : Flags) : Expr :=
  let lineEnds : CharSet :=
    if flags.dotAll then .none
    else if flags.crlf then .ranges [(0x0a, 0x0a), (0x0d, 0x0d)]
    else .single 0x0a
  .one flags.alphabet (.complement lineEnds)

def atomExpr (flags : Flags) : Atom → Expr
  | .char c isByte => charExpr flags c isByte
  | .set members => .one flags.alphabet members
  | .look assertion => .look assertion

def single : Read Expr := do
  let flags := (← get).flags
  let c ← peek
  if c = '\\' then return atomExpr flags (← escape)
  advance
  if c = '.' then return dotExpr flags
  if c = '^' then
    return .look (if flags.multiLine then .lineStart flags.crlf else .textStart)
  if c = '$' then
    return .look (if flags.multiLine then .lineEnd flags.crlf else .textEnd)
  return charExpr flags c false

/-! ## Sets in brackets -/

/-- A set and how deeply its parts nest. -/
structure SetPart where
  set : CharSet
  depth : Nat

inductive SetOperator
  | meet
  | minus
  | differ

/-- The number that a character stands for in a set. Sets of bytes take ASCII characters and
bytes. -/
def memberNumber (flags : Flags) (c : Char) (isByte : Bool) : Read Nat :=
  if flags.unicode || isByte || c.toNat < 0x80 then return c.toNat else failure

/-- A member of a set, or the first or last of a range of members. -/
def setAtom : Read Atom := do
  let c ← peek
  if c = '\\' then escape
  else
    advance
    return .char c false

/-- A member of a set, a range of members, or a set that an escape stands for. -/
def setRange : Read SetPart := do
  let flags := (← get).flags
  let first ← setAtom
  skipBlank
  -- A dash before a bracket or another dash is a character of its own.
  let dash ← peek
  let behind := (pastBlank flags (← get).rest.tail).head?
  if dash ≠ '-' || behind = some ']' || behind = some '-' then
    match first with
    | .char c isByte => return ⟨.single (← memberNumber flags c isByte), 0⟩
    | .set members => return ⟨members, 0⟩
    | .look _ => failure
  else
    advancePastBlank
    match first, ← setAtom with
    | .char a aByte, .char b bByte =>
      let low ← memberNumber flags a aByte
      let high ← memberNumber flags b bByte
      if high < low then failure
      return ⟨.ranges [(low, high)], 0⟩
    | _, _ => failure

def namedSets : List (List Char × Text.Ranges) :=
  [(['a', 'l', 'n', 'u', 'm'], [(0x30, 0x39), (0x41, 0x5a), (0x61, 0x7a)]),
    (['a', 'l', 'p', 'h', 'a'], [(0x41, 0x5a), (0x61, 0x7a)]),
    (['a', 's', 'c', 'i', 'i'], [(0x00, 0x7f)]),
    (['b', 'l', 'a', 'n', 'k'], [(0x09, 0x09), (0x20, 0x20)]),
    (['c', 'n', 't', 'r', 'l'], [(0x00, 0x1f), (0x7f, 0x7f)]),
    (['d', 'i', 'g', 'i', 't'], [(0x30, 0x39)]),
    (['g', 'r', 'a', 'p', 'h'], [(0x21, 0x7e)]),
    (['l', 'o', 'w', 'e', 'r'], [(0x61, 0x7a)]),
    (['p', 'r', 'i', 'n', 't'], [(0x20, 0x7e)]),
    (['p', 'u', 'n', 'c', 't'], [(0x21, 0x2f), (0x3a, 0x40), (0x5b, 0x60), (0x7b, 0x7e)]),
    (['s', 'p', 'a', 'c', 'e'], [(0x09, 0x0d), (0x20, 0x20)]),
    (['u', 'p', 'p', 'e', 'r'], [(0x41, 0x5a)]),
    (['w', 'o', 'r', 'd'], [(0x30, 0x39), (0x41, 0x5a), (0x5f, 0x5f), (0x61, 0x7a)]),
    (['x', 'd', 'i', 'g', 'i', 't'], [(0x30, 0x39), (0x41, 0x46), (0x61, 0x66)])]

/-- A set by its name, between `[:` and `:]`, and what follows it. A caret before the name asks for
the complement. -/
def namedSet? (flags : Flags) : List Char → Option (SetPart × List Char)
  | '[' :: ':' :: text =>
    let (negated, text) := match text with
      | '^' :: more => (true, more)
      | _ => (false, text)
    match namedSets.lookup (text.takeWhile (· != ':')), text.dropWhile (· != ':') with
    | some members, ':' :: ']' :: rest =>
      let set := withCase flags (.ranges members)
      some (⟨if negated then .complement set else set, 0⟩, rest)
    | _, _ => none
  | _ => none

def unionPart : List SetPart → SetPart
  | [] => ⟨.none, 0⟩
  | [part] => part
  | parts => ⟨.unions (parts.map (·.set)), 1 + (parts.map (·.depth)).foldl max 0⟩

/-- Two sets combined. -/
def combine (flags : Flags) : Option (SetOperator × SetPart) → SetPart → SetPart
  | none, part => part
  | some (operator, left), right =>
    let a := withCase flags left.set
    let b := withCase flags right.set
    let set := match operator with
      | .meet => .meet a b
      | .minus => .minus a b
      | .differ => .differ a b
    ⟨set, 1 + max left.depth right.depth⟩

/-- Literal members at the beginning of a set: dashes, or else a closing bracket. -/
def leadingMembers : Nat → List SetPart → Read (List SetPart)
  | 0, parts => return parts
  | fuel + 1, parts => do
    let c ← peek
    if c = '-' then
      advancePastBlank
      leadingMembers fuel (⟨.single '-'.toNat, 0⟩ :: parts)
    else if c = ']' && parts.isEmpty then
      advancePastBlank
      return [⟨.single ']'.toNat, 0⟩]
    else return parts

/-- What a set begins with: whether a caret asks for its complement, and literal members. The
opening bracket is next. -/
def openSet : Read (Bool × List SetPart) := do
  advancePastBlank
  let negated := (← peek) == '^'
  if negated then advancePastBlank
  return (negated, ← leadingMembers (← get).rest.length [])

/-- The rest of a set, its closing bracket included: `pending` is what stands before the last
operator, `parts` are the parts since, the last one first. -/
def setParts : Nat → Option (SetOperator × SetPart) → List SetPart → Read SetPart
  | 0, _, _ => failure
  | fuel + 1, pending, parts => do
    skipBlank
    let s ← get
    -- An operator takes all that stands before it, so operators group to the left.
    let operator (op : SetOperator) : Read SetPart := do
      advance; advance
      setParts fuel (some (op, combine s.flags pending (unionPart parts))) []
    match s.rest with
    | '&' :: '&' :: _ => operator .meet
    | '-' :: '-' :: _ => operator .minus
    | '~' :: '~' :: _ => operator .differ
    | ']' :: _ =>
      advance
      return combine s.flags pending (unionPart parts)
    | '[' :: _ =>
      match namedSet? s.flags s.rest with
      | some (part, rest) =>
        setRest rest
        setParts fuel pending (part :: parts)
      | none =>
        let (negated, members) ← openSet
        let inner ← setParts fuel none members
        let set := withCase s.flags inner.set
        let part := ⟨if negated then .complement set else set, 1 + inner.depth⟩
        setParts fuel pending (part :: parts)
    | _ => setParts fuel pending ((← setRange) :: parts)

def bracketSet : Read SetPart := do
  let flags := (← get).flags
  let (negated, members) ← openSet
  let inner ← setParts ((← get).rest.length + 1) none members
  let set := withCase flags inner.set
  return ⟨if negated then .complement set else set, 1 + inner.depth⟩

/-! ## Repetitions -/

/-- A number in a counted repetition, blanks around it passed. -/
def count : Read Nat := do
  modify fun s => { s with rest := s.rest.dropWhile Text.isBlank }
  let rec digits : Nat → Read (List Char)
    | 0 => return []
    | fuel + 1 => do
      match (← get).rest with
      | c :: _ =>
        if (Text.digit? c).isSome then
          advancePastBlank
          return c :: (← digits fuel)
        else return []
      | [] => return []
  let text ← digits (← get).rest.length
  modify fun s => { s with rest := pastBlank s.flags (s.rest.dropWhile Text.isBlank) }
  match Text.digits? text with
  | some n => if n < UInt32.size then return n else failure
  | none => failure

def bounds : Read (Nat × Option Nat) := do
  advancePastBlank
  let least ← count
  if (← peek) = ',' then
    advancePastBlank
    if (← peek) = '\x7d' then
      advancePastBlank
      return (least, none)
    else
      let most ← count
      if (← peek) ≠ '\x7d' then failure
      advancePastBlank
      if most < least then failure
      return (least, some most)
  else
    if (← peek) ≠ '\x7d' then failure
    advancePastBlank
    return (least, some least)

/-- Passes the mark that changes a repetition's preference. -/
def skipPreference : Read Unit := do
  match (← get).rest with
  | '?' :: _ => advance
  | _ => return ()

/-! ## Groups and sequences -/

/-- The flags in a group's head, up to its colon or closing bracket, which stays. -/
def changeFlags (negated dangling : Bool) (seen : List Char) (flags : Flags) :
    List Char → Option (Flags × Bool × List Char)
  | [] => none
  | c :: rest =>
    if c = ':' || c = ')' then
      if dangling then none else some (flags, seen.isEmpty, c :: rest)
    else if c = '-' then
      if negated then none else changeFlags true true seen flags rest
    else if seen.contains c then none
    else
      match flags.set? (!negated) c with
      | some changed => changeFlags negated false (c :: seen) changed rest
      | none => none

def isNameChar (isFirst : Bool) (c : Char) : Bool :=
  let isDigit := decimalDigits.holds c.toNat
  let isWord := wordCharacters.holds c.toNat
  if isFirst then isWord && !isDigit
  else isWord || c = '.' || c = '[' || c = ']'

/-- A group's name, up to the bracket that closes it, and what follows. -/
def groupName? (text : List Char) : Option (List Char × List Char) :=
  match text.takeWhile (· != '>'), text.dropWhile (· != '>') with
  | first :: others, '>' :: rest =>
    if isNameChar true first && others.all (isNameChar false) then some (first :: others, rest)
    else none
  | _, _ => none

/-- How a group begins. -/
inductive GroupHead
  /-- The flags change up to the end of the group around; there is no group. -/
  | directive
  | opened
  deriving DecidableEq

/-- The name of a group, which no other group has. -/
def namedHead (text : List Char) : Read GroupHead := do
  match groupName? text with
  | some (name, rest) =>
    if (← get).names.contains name then failure
    modify fun s => { s with names := name :: s.names, rest := rest }
    return .opened
  | none => failure

/-- The head of a group; the opening bracket is next. Looking around is not supported. -/
def groupHead : Read GroupHead := do
  advancePastBlank
  let s ← get
  match s.rest with
  | '?' :: '=' :: _ | '?' :: '!' :: _ | '?' :: '<' :: '=' :: _ | '?' :: '<' :: '!' :: _ => failure
  | '?' :: 'P' :: '<' :: text | '?' :: '<' :: text => namedHead text
  -- Flags that end in a bracket are no group: they hold for what follows.
  | '?' :: text =>
    match changeFlags false false [] s.flags text with
    | some (flags, _, ':' :: rest) =>
      setFlags flags
      setRest rest
      return .opened
    | some (flags, unchanged, _ :: rest) =>
      if unchanged then failure
      setFlags flags
      setRest rest
      return .directive
    | _ => failure
  | _ => return .opened

structure Part where
  expr : Expr
  depth : Nat
  repeatable : Bool

/-- Parts in sequence, the last part first. -/
def sequencePart : List Part → Part
  | [] => ⟨.empty, 0, true⟩
  | [part] => part
  | parts =>
    ⟨.seqs (parts.reverse.map (·.expr)), 1 + (parts.map (·.depth)).foldl max 0, true⟩

/-- Alternatives, the last one first. -/
def alternativesPart : List Part → Part
  | [part] => part
  | parts => ⟨.alts (parts.reverse.map (·.expr)), 1 + (parts.map (·.depth)).foldl max 0, true⟩

def repeatLast (least : Nat) (most : Option Nat) : List Part → Read (List Part)
  | last :: others =>
    if last.repeatable then
      return ⟨.repeated last.expr least most, 1 + last.depth, true⟩ :: others
    else failure
  | [] => failure

/-- The rest of a group, or of the pattern, up to its end, which stays: `branches` are the
alternatives before, `parts` the parts of the one at hand, the last ones first. -/
def alternatives : Nat → List Part → List Part → Read Part
  | 0, _, _ => failure
  | fuel + 1, branches, parts => do
    skipBlank
    let s ← get
    match s.rest with
    | [] | ')' :: _ => return alternativesPart (sequencePart parts :: branches)
    | '|' :: _ =>
      advance
      alternatives fuel (sequencePart parts :: branches) []
    | '(' :: _ =>
      match ← groupHead with
      | .directive => alternatives fuel branches (⟨.empty, 0, false⟩ :: parts)
      | .opened =>
        let inner ← alternatives fuel [] []
        if (← peek) ≠ ')' then failure
        advance
        -- Flags set inside a group end with it.
        setFlags s.flags
        alternatives fuel branches (⟨inner.expr, 1 + inner.depth, true⟩ :: parts)
    | '[' :: _ =>
      let part ← bracketSet
      alternatives fuel branches (⟨.one s.flags.alphabet part.set, part.depth, true⟩ :: parts)
    | '?' :: _ =>
      advance
      skipPreference
      alternatives fuel branches (← repeatLast 0 (some 1) parts)
    | '*' :: _ =>
      advance
      skipPreference
      alternatives fuel branches (← repeatLast 0 none parts)
    | '+' :: _ =>
      advance
      skipPreference
      alternatives fuel branches (← repeatLast 1 none parts)
    | '\x7b' :: _ =>
      let (least, most) ← bounds
      skipPreference
      alternatives fuel branches (← repeatLast least most parts)
    | _ => alternatives fuel branches (⟨← single, 0, true⟩ :: parts)

end Read

/-- How deeply the parts of a pattern may nest. -/
def maxDepth : Nat := 250

/-- How large the automaton of a pattern may be, in bytes. -/
def maxWeight : Nat := 10 * 1024 * 1024

/-- The pattern that a text writes; none if it is not well formed, or too large. -/
def read? (text : String) : Option Expr := do
  let start : ReadState := ⟨text.toList, .initial, []⟩
  let (part, state) ← (Read.alternatives (text.length + 1) [] []).run start
  if state.rest.isEmpty && part.depth ≤ maxDepth && part.expr.weight ≤ maxWeight then
    return part.expr
  else none

/-- Patterns that are read by `read?` and looked for by `Expr.foundIn`. -/
def Engine.standard : Engine where
  compile? text := (read? text).map fun pattern data => pattern.foundIn (.ofBytes data)

end Switchboard.Pattern
