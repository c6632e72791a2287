import Switchboard.Bytes
import Switchboard.Json.Value

/-!
# Writing JSON

The compact written form: no blanks, members in order, and in texts an escape only where JSON asks
for one.
-/

namespace Switchboard.Json

def writtenChar (c : Char) : List Char :=
  if c = '"' then ['\\', '"']
  else if c = '\\' then ['\\', '\\']
  else if c = '\x08' then ['\\', 'b']
  else if c = '\x0c' then ['\\', 'f']
  else if c = '\n' then ['\\', 'n']
  else if c = '\r' then ['\\', 'r']
  else if c = '\t' then ['\\', 't']
  else if c.toNat < 0x20 then ['\\', 'u', '0', '0'] ++ hexPair (UInt8.ofNat c.toNat)
  else [c]

def writtenText (text : String) : List Char :=
  '"' :: text.toList.flatMap writtenChar ++ ['"']

mutual

def written : Json → List Char
  | null => ['n', 'u', 'l', 'l']
  | bool true => ['t', 'r', 'u', 'e']
  | bool false => ['f', 'a', 'l', 's', 'e']
  | int value => (toString value).toList
  | decimal numeral => numeral.toList
  | string text => writtenText text
  | array items => '[' :: writtenItems items ++ [']']
  | object members => '\x7b' :: writtenMembers members ++ ['\x7d']

/-- Items with commas between them. -/
def writtenItems : List Json → List Char
  | [] => []
  | [item] => item.written
  | item :: rest => item.written ++ ',' :: writtenItems rest

/-- Members with commas between them. -/
def writtenMembers : List (String × Json) → List Char
  | [] => []
  | [(key, value)] => writtenText key ++ ':' :: value.written
  | (key, value) :: rest => writtenText key ++ ':' :: value.written ++ ',' :: writtenMembers rest

end

def write (json : Json) : String := String.ofList json.written

end Switchboard.Json
