import ForbiddenHosts.Decimal.Layout

/-!
# JSON values

A `Json` value keeps the members of an object as a list in the order of the text, repeats
included: what a repeated name means is for its reader to say.  `canonical` gives the usual
reading: members sorted by name, the last of a repeated name standing for all.

`text` writes a value compactly, with no space between tokens.
-/
namespace ForbiddenHosts

/-- A JSON number: an integer of at most 64 bits, or a floating-point number. -/
inductive Json.Number where
  | integer (value : Int)
  | float (value : Float)

/-- A JSON value. -/
inductive Json where
  | null
  | boolean (value : Bool)
  | number (value : Json.Number)
  | string (value : String)
  | array (items : List Json)
  | object (members : List (String × Json))

namespace Json

instance : Inhabited Json := ⟨null⟩

/-! ### Writing -/

/-- The lower-case hexadecimal digit of a number below sixteen. -/
def hexDigit (n : Nat) : Char :=
  Char.ofNat (if n < 10 then 0x30 + n else 0x57 + n)

/-- One character between the quotes of a JSON string. -/
def escaped (c : Char) : List Char :=
  if c = '"' then ['\\', '"']
  else if c = '\\' then ['\\', '\\']
  else if c.toNat < 0x20 then
    if c.toNat = 0x08 then ['\\', 'b']
    else if c.toNat = 0x09 then ['\\', 't']
    else if c.toNat = 0x0A then ['\\', 'n']
    else if c.toNat = 0x0C then ['\\', 'f']
    else if c.toNat = 0x0D then ['\\', 'r']
    else ['\\', 'u', '0', '0', hexDigit (c.toNat / 16), hexDigit (c.toNat % 16)]
  else [c]

/-- A JSON string with its quotes. -/
def stringText (s : String) : List Char :=
  '"' :: s.toList.flatMap escaped ++ ['"']

/-- The text of a number. -/
def Number.text : Number → List Char
  | .integer value => (Decimal.integer value).toList
  | .float value => (Decimal.Layout.json.float value).toList

mutual

/-- The characters of a value's compact text. -/
def chars : Json → List Char
  | null => ['n', 'u', 'l', 'l']
  | boolean true => ['t', 'r', 'u', 'e']
  | boolean false => ['f', 'a', 'l', 's', 'e']
  | number value => value.text
  | string value => stringText value
  | array [] => ['[', ']']
  | array (item :: items) => '[' :: item.chars ++ itemChars items
  | object [] => ['\x7b', '\x7d']
  | object ((name, value) :: members) =>
    '\x7b' :: stringText name ++ ':' :: value.chars ++ memberChars members

/-- The characters after the first item of an array. -/
def itemChars : List Json → List Char
  | [] => [']']
  | item :: items => ',' :: item.chars ++ itemChars items

/-- The characters after the first member of an object. -/
def memberChars : List (String × Json) → List Char
  | [] => ['\x7d']
  | (name, value) :: members =>
    ',' :: stringText name ++ ':' :: value.chars ++ memberChars members

end

/-- The compact text of a value. -/
def text (value : Json) : String := String.ofList value.chars

/-! ### The usual reading of repeated names -/

/-- Puts a member among members that are sorted by name, in place of one of the same name. -/
def putMember (name : String) (value : Json) : List (String × Json) → List (String × Json)
  | [] => [(name, value)]
  | (other, old) :: members =>
    if name < other then (name, value) :: (other, old) :: members
    else if name = other then (name, value) :: members
    else (other, old) :: putMember name value members

mutual

/-- The value with its members sorted by name, the last of a repeated name standing for all. -/
def canonical : Json → Json
  | array items => array (canonicalItems items)
  | object members => object (canonicalMembers [] members)
  | value => value

/-- The canonical forms of the items of an array. -/
def canonicalItems : List Json → List Json
  | [] => []
  | item :: items => item.canonical :: canonicalItems items

/-- Puts the canonical forms of members, one after the other, among members sorted by name. -/
def canonicalMembers (done : List (String × Json)) : List (String × Json) → List (String × Json)
  | [] => done
  | (name, value) :: members => canonicalMembers (putMember name value.canonical done) members

end

/-- The value of the last member with a name, if the value is an object that has one. -/
def member? (value : Json) (name : String) : Option Json :=
  match value with
  | object members => (members.reverse.find? (·.1 == name)).map (·.2)
  | _ => none

end Json

end ForbiddenHosts
