import ForbiddenHosts.Json.Token

/-!
# Reading JSON values

`readItems` and `readMembers` read the inside of an array and of an object; what an item or a member
is, is up to the reader that they are given.  `readValue` reads any value, and `parse` a whole text
that holds one.  Arrays and objects may be nested to a depth of `deepest`.
-/
namespace ForbiddenHosts.Json

/-- Reads the items of an array, from the place after its bracket or after an item, up to and with
its closing bracket.  `fuel` bounds the number of items; no text has more than bytes. -/
def readItemsWith {α : Type} (readItem : Bytes → Read α) :
    Nat → Bool → Array α → Bytes → Read (Array α)
  | 0, _, _, text => .error ⟨.endInList, text⟩
  | fuel + 1, first, done, text =>
    match dropSpace text with
    | [] => .error ⟨.endInList, []⟩
    | byte :: rest =>
      if byte = 0x5D then .ok (done, rest)
      else if first then
        match readItem (byte :: rest) with
        | .error fault => .error fault
        | .ok (item, rest) => readItemsWith readItem fuel false (done.push item) rest
      else if byte = 0x2C then
        match dropSpace rest with
        | [] => .error ⟨.endInValue, []⟩
        | next :: after =>
          if next = 0x5D then .error ⟨.trailingComma, after⟩
          else match readItem (next :: after) with
            | .error fault => .error fault
            | .ok (item, rest) => readItemsWith readItem fuel false (done.push item) rest
      else .error ⟨.expectedCommaInList, rest⟩

/-- Reads the items of an array whose opening bracket has been read. -/
def readItems {α : Type} (readItem : Bytes → Read α) (text : Bytes) : Read (Array α) :=
  readItemsWith readItem (text.length + 1) true #[] text

/-- Reads the members of an object, from the place after its brace or after a member, up to its
closing brace, which is left.  The reader of a member is given what the members before it came to,
the name, and what is left after the name. -/
def readMembersWith {β : Type} (readMember : β → String → Bytes → Read β) :
    Nat → Bool → β → Bytes → Read β
  | 0, _, _, text => .error ⟨.endInObject, text⟩
  | fuel + 1, first, done, text =>
    match dropSpace text with
    | [] => .error ⟨.endInObject, []⟩
    | byte :: rest =>
      if byte = 0x7D then .ok (done, byte :: rest)
      else if first then
        if byte = 0x22 then
          match readString rest with
          | .error fault => .error fault
          | .ok (name, rest) =>
            match readMember done name rest with
            | .error fault => .error fault
            | .ok (done, rest) => readMembersWith readMember fuel false done rest
        else .error ⟨.nameNotString, rest⟩
      else if byte = 0x2C then
        match dropSpace rest with
        | [] => .error ⟨.endInValue, []⟩
        | next :: after =>
          if next = 0x22 then
            match readString after with
            | .error fault => .error fault
            | .ok (name, rest) =>
              match readMember done name rest with
              | .error fault => .error fault
              | .ok (done, rest) => readMembersWith readMember fuel false done rest
          else if next = 0x7D then .error ⟨.trailingComma, after⟩
          else .error ⟨.nameNotString, after⟩
      else .error ⟨.expectedCommaInObject, rest⟩

/-- Reads the members of an object whose opening brace has been read, up to its closing brace,
which is left. -/
def readMembers {β : Type} (readMember : β → String → Bytes → Read β) (start : β) (text : Bytes) :
    Read β :=
  readMembersWith readMember (text.length + 1) true start text

/-- Reads the colon after the name of a member. -/
def readColon (text : Bytes) : Except Fault Bytes :=
  match dropSpace text with
  | [] => .error ⟨.endInObject, []⟩
  | byte :: rest => if byte = 0x3A then .ok rest else .error ⟨.expectedColon, rest⟩

/-- The greatest depth of nested arrays and objects. -/
def deepest : Nat := 127

/-- Reads a value whose arrays and objects are nested to at most the given depth. -/
def readValueWithin : Nat → Bytes → Read Json
  | depth, text =>
    match dropSpace text with
    | [] => .error ⟨.endInValue, []⟩
    | byte :: rest =>
      if byte = 0x6E then (readWord restOfNull rest).map (null, ·)
      else if byte = 0x74 then (readWord restOfTrue rest).map (boolean true, ·)
      else if byte = 0x66 then (readWord restOfFalse rest).map (boolean false, ·)
      else if byte = 0x2D then (readNumber true rest).map fun (n, rest) => (number n, rest)
      else if isDigit byte then
        (readNumber false (byte :: rest)).map fun (n, rest) => (number n, rest)
      else if byte = 0x22 then (readString rest).map fun (s, rest) => (string s, rest)
      else if byte = 0x5B then
        match depth with
        | 0 => .error ⟨.nestedTooDeeply, rest⟩
        | depth + 1 =>
          (readItems (readValueWithin depth) rest).map fun (items, rest) =>
            (array items.toList, rest)
      else if byte = 0x7B then
        match depth with
        | 0 => .error ⟨.nestedTooDeeply, rest⟩
        | depth + 1 =>
          let readMember := fun (done : Array (String × Json)) name text =>
            match readColon text with
            | .error fault => .error fault
            | .ok rest =>
              (readValueWithin depth rest).map fun (value, rest) => (done.push (name, value), rest)
          (readMembers readMember #[] rest).map fun (members, rest) =>
            (object members.toList, rest.drop 1)
      else .error ⟨.expectedValue, rest⟩

/-- Reads a value. -/
def readValue (text : Bytes) : Read Json := readValueWithin deepest text

/-- Reads a whole text with a reader: nothing but blanks may follow what it reads. -/
def decode {α : Type} (read : Bytes → Read α) (text : Bytes) : Except Error α :=
  match read text with
  | .error fault => .error (Error.locate text fault)
  | .ok (value, rest) =>
    match dropSpace rest with
    | [] => .ok value
    | _ :: rest => .error (Error.locate text ⟨.trailingCharacters, rest⟩)

/-- The value that a whole text holds. -/
def parse (text : Bytes) : Except Error Json := decode readValue text

end ForbiddenHosts.Json
