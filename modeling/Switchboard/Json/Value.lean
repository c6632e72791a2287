/-!
# JSON values

The values of JSON documents. An object keeps its members in order and may repeat a key: whether
that is an error is for the reader of the object to say. Whole numbers are told apart from all other
numerals, since settings admit only them.

A record is written as an object, whose members are its fields in any order, or as an array of its
fields in their declared order, of which the last ones may be left out. An object may hold no other
members and no field twice; a field may have a second name.

* `fields?` — the fields that are given of a record.
* `field?` — one field, or its default.
-/

namespace Switchboard

inductive Json
  | null
  | bool (value : Bool)
  | int (value : Int)
  /-- A numeral with a fraction or an exponent, or a negative zero. -/
  | decimal (numeral : String)
  | string (text : String)
  | array (items : List Json)
  | object (members : List (String × Json))
  deriving Repr

namespace Json

def nat (n : Nat) : Json := int n

def strings (texts : List String) : Json := array (texts.map string)

def orNull {α : Type} (toJson : α → Json) : Option α → Json
  | none => null
  | some x => toJson x

/-- The member of an object with a key, the last one if the key is repeated. -/
def member? (json : Json) (key : String) : Option Json :=
  match json with
  | object members => members.reverse.lookup key
  | _ => none

def text? : Json → Option String
  | string text => some text
  | _ => none

def items? : Json → Option (List Json)
  | array items => some items
  | _ => none

def bool? : Json → Option Bool
  | bool value => some value
  | _ => none

def natBelow? (bound : Nat) : Json → Option (Fin bound)
  | int (.ofNat n) => if h : n < bound then some ⟨n, h⟩ else none
  | _ => none

def uint8? (json : Json) : Option UInt8 :=
  (json.natBelow? UInt8.size).map fun n => UInt8.ofNatLT n.1 n.2

def uint16? (json : Json) : Option UInt16 :=
  (json.natBelow? UInt16.size).map fun n => UInt16.ofNatLT n.1 n.2

def uint64? (json : Json) : Option UInt64 :=
  (json.natBelow? UInt64.size).map fun n => UInt64.ofNatLT n.1 n.2

def texts? (json : Json) : Option (List String) :=
  json.items?.bind fun items => items.mapM text?

/-- A value that may be `null`. -/
def nullable? {α : Type} (read : Json → Option α) : Json → Option (Option α)
  | null => some none
  | json => (read json).map some

/-! ## Records -/

/-- The field that a key names. -/
def fieldName (aliases : List (String × String)) (key : String) : String :=
  (aliases.lookup key).getD key

/-- The fields that a value gives of a record with these field names; none if the value is no such
record. -/
def fields? (names : List String) (aliases : List (String × String)) :
    Json → Option (List (String × Json))
  | object members =>
    let fields := members.map fun (key, value) => (fieldName aliases key, value)
    if (fields.all fun (name, _) => names.contains name) ∧ (fields.map (·.1)).Nodup then
      some fields
    else none
  | array items => if items.length ≤ names.length then some (names.zip items) else none
  | _ => none

/-- A field by its name, or its default if it is not given; none if it does not read. -/
def field? {α : Type} (fields : List (String × Json)) (name : String) (read : Json → Option α)
    (default : α) : Option α :=
  match fields.lookup name with
  | none => some default
  | some value => read value

end Json

end Switchboard
