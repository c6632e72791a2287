import Switchboard.Json.Value
import Switchboard.Text.Characters

/-!
# Reading JSON

A document is one value with blanks around it. Texts hold no raw control characters and no halves of
surrogate pairs.

* `read?` — the value of a document; none if the text is no JSON.
-/

namespace Switchboard.Json

def isSpace (c : Char) : Bool := c == ' ' || c == '\t' || c == '\n' || c == '\r'

def skipSpace (text : List Char) : List Char := text.dropWhile isSpace

/-! ## Texts -/

/-- Four hexadecimal digits as a number. -/
def unit? (a b c d : Char) : Option Nat :=
  Text.positional? Text.hexDigit? 16 [a, b, c, d]

/-- The character that a one-letter escape stands for. -/
def escaped? : Char → Option Char
  | '"' => some '"'
  | '\\' => some '\\'
  | '/' => some '/'
  | 'b' => some '\x08'
  | 'f' => some '\x0c'
  | 'n' => some '\n'
  | 'r' => some '\r'
  | 't' => some '\t'
  | _ => none

def unitChar? (unit : Nat) : Option Char :=
  if unit.isValidChar then some (Char.ofNat unit) else none

def pairChar? (high low : Nat) : Option Char :=
  if 0xd800 ≤ high ∧ high < 0xdc00 ∧ 0xdc00 ≤ low ∧ low < 0xe000 then
    some (Char.ofNat (0x10000 + (high - 0xd800) * 0x400 + (low - 0xdc00)))
  else none

/-- The characters of a text up to its closing quote, and what follows it. -/
def textBody : List Char → Option (List Char × List Char)
  | [] => none
  | '"' :: rest => some ([], rest)
  | '\\' :: 'u' :: a :: b :: c :: d :: rest =>
    match unit? a b c d with
    | none => none
    | some unit =>
      match unitChar? unit with
      | some char => (textBody rest).map fun (text, more) => (char :: text, more)
      | none =>
        -- Half of a pair: the other half must follow at once.
        match rest with
        | '\\' :: 'u' :: e :: f :: g :: h :: rest =>
          match (unit? e f g h).bind (pairChar? unit) with
          | some char => (textBody rest).map fun (text, more) => (char :: text, more)
          | none => none
        | _ => none
  | '\\' :: c :: rest =>
    match escaped? c with
    | some char => (textBody rest).map fun (text, more) => (char :: text, more)
    | none => none
  | c :: rest =>
    if c.toNat < 0x20 || c = '\\' then none
    else (textBody rest).map fun (text, more) => (c :: text, more)

/-! ## Numbers -/

def isDigit (c : Char) : Bool := (Text.digit? c).isSome

/-- The digits at the head of a text, one at least, and what follows them. -/
def digitRun? (text : List Char) : Option (List Char × List Char) :=
  match text.takeWhile isDigit with
  | [] => none
  | digits => some (digits, text.dropWhile isDigit)

/-- The digits of a whole number: a zero stands alone. -/
def wholeDigits? : List Char → Option (List Char × List Char)
  | '0' :: rest => some (['0'], rest)
  | text => digitRun? text

/-- A fraction, if the text goes on with one. -/
def fraction? : List Char → Option (List Char × List Char)
  | '.' :: rest => (digitRun? rest).map fun (digits, more) => ('.' :: digits, more)
  | text => some ([], text)

/-- An exponent, if the text goes on with one. -/
def exponent? : List Char → Option (List Char × List Char)
  | e :: rest =>
    if e = 'e' || e = 'E' then
      match rest with
      | sign :: more =>
        if sign = '+' || sign = '-' then
          (digitRun? more).map fun (digits, more) => (e :: sign :: digits, more)
        else (digitRun? rest).map fun (digits, more) => (e :: digits, more)
      | [] => none
    else some ([], e :: rest)
  | [] => some ([], [])

/-- A number without its sign. -/
def unsigned? (negative : Bool) (text : List Char) : Option (Json × List Char) := do
  let (digits, rest) ← wholeDigits? text
  let (fraction, rest) ← fraction? rest
  let (exponent, rest) ← exponent? rest
  let sign := if negative then ['-'] else []
  let numeral := decimal (String.ofList (sign ++ digits ++ fraction ++ exponent))
  if fraction.isEmpty && exponent.isEmpty then
    let value ← Text.digits? digits
    if negative then
      return (if value = 0 then numeral else int (-value), rest)
    else return (int value, rest)
  else return (numeral, rest)

def number? : List Char → Option (Json × List Char)
  | '-' :: rest => unsigned? true rest
  | text => unsigned? false text

/-! ## Values -/

mutual

/-- A value at the head of a text, and what follows it. -/
def readValue : Nat → List Char → Option (Json × List Char)
  | 0, _ => none
  | fuel + 1, text =>
    match skipSpace text with
    | 'n' :: 'u' :: 'l' :: 'l' :: rest => some (null, rest)
    | 't' :: 'r' :: 'u' :: 'e' :: rest => some (bool true, rest)
    | 'f' :: 'a' :: 'l' :: 's' :: 'e' :: rest => some (bool false, rest)
    | '"' :: rest => (textBody rest).map fun (body, more) => (string (String.ofList body), more)
    | '[' :: rest =>
      match skipSpace rest with
      | ']' :: more => some (array [], more)
      | _ => (readItems fuel rest).map fun (items, more) => (array items, more)
    | '\x7b' :: rest =>
      match skipSpace rest with
      | '\x7d' :: more => some (object [], more)
      | _ => (readMembers fuel rest).map fun (members, more) => (object members, more)
    | c :: rest => if c = '-' || isDigit c then number? (c :: rest) else none
    | [] => none

/-- The items of an array, one at least, up to its closing bracket. -/
def readItems : Nat → List Char → Option (List Json × List Char)
  | 0, _ => none
  | fuel + 1, text =>
    match readValue fuel text with
    | none => none
    | some (item, rest) =>
      match skipSpace rest with
      | ',' :: rest => (readItems fuel rest).map fun (items, more) => (item :: items, more)
      | ']' :: rest => some ([item], rest)
      | _ => none

/-- The members of an object, one at least, up to its closing brace. -/
def readMembers : Nat → List Char → Option (List (String × Json) × List Char)
  | 0, _ => none
  | fuel + 1, text =>
    match skipSpace text with
    | '"' :: rest =>
      match textBody rest with
      | none => none
      | some (key, rest) =>
        match skipSpace rest with
        | ':' :: rest =>
          match readValue fuel rest with
          | none => none
          | some (value, rest) =>
            let member := (String.ofList key, value)
            match skipSpace rest with
            | ',' :: rest =>
              (readMembers fuel rest).map fun (members, more) => (member :: members, more)
            | '\x7d' :: rest => some ([member], rest)
            | _ => none
        | _ => none
    | _ => none

end

def read? (text : String) : Option Json :=
  match readValue (2 * text.length + 2) text.toList with
  | some (json, rest) => if (skipSpace rest).isEmpty then some json else none
  | none => none

end Switchboard.Json
