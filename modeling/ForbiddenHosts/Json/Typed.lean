import ForbiddenHosts.Json.Read
import ForbiddenHosts.Json.Skip
import ForbiddenHosts.Hostname.List

/-!
# Reading and writing typed values

Readers of values of one type: strings, natural numbers of 64 bits, booleans, lists of strings, and
hostname records.  Each refuses a value of another kind and names what it found and what it wanted.

**Hostname records.**  A record is an object with exactly one member `hostname`, whose value is a
string, or an array that holds exactly one string.  The other members of the object are skipped.  A
list of records is read all or nothing: one element of another shape refuses the whole text.
-/
namespace ForbiddenHosts.Json

/-- Refuses the value at the head of a text as one of the wrong kind.  A scalar is read to its end
first; an array or an object is not read at all. -/
def refuse {α : Type} (wanted : String) (byte : UInt8) (rest : Bytes) : Read α :=
  let wrong := fun (found : Found) (rest : Bytes) => .error ⟨.wrongKind found wanted, rest⟩
  let wrongNumber := fun (r : Read Number) =>
    match r with
    | .error fault => .error fault
    | .ok (.integer value, rest) => wrong (.integer value) rest
    | .ok (.float value, rest) => wrong (.float value) rest
  if byte = 0x6E then (readWord restOfNull rest).bind (wrong .nothing)
  else if byte = 0x74 then (readWord restOfTrue rest).bind (wrong (.boolean true))
  else if byte = 0x66 then (readWord restOfFalse rest).bind (wrong (.boolean false))
  else if byte = 0x2D then wrongNumber (readNumber true rest)
  else if isDigit byte then wrongNumber (readNumber false (byte :: rest))
  else if byte = 0x22 then (readString rest).bind fun (s, rest) => wrong (.text s) rest
  else if byte = 0x5B then wrong .sequence (byte :: rest)
  else if byte = 0x7B then wrong .map (byte :: rest)
  else .error ⟨.expectedValue, rest⟩

/-- Reads a string. -/
def readText (text : Bytes) : Read String :=
  match dropSpace text with
  | [] => .error ⟨.endInValue, []⟩
  | byte :: rest => if byte = 0x22 then readString rest else refuse "a string" byte rest

/-- Reads a boolean. -/
def readBoolean (text : Bytes) : Read Bool :=
  match dropSpace text with
  | [] => .error ⟨.endInValue, []⟩
  | byte :: rest =>
    if byte = 0x74 then (readWord restOfTrue rest).map (true, ·)
    else if byte = 0x66 then (readWord restOfFalse rest).map (false, ·)
    else refuse "a boolean" byte rest

/-- Reads a natural number of 64 bits. -/
def readNatural (text : Bytes) : Read Nat :=
  let accept := fun (r : Read Number) =>
    match r with
    | .error fault => .error fault
    | .ok (.integer value, rest) =>
      if 0 ≤ value then .ok (value.toNat, rest) else .error ⟨.wrongValue value "u64", rest⟩
    | .ok (.float value, rest) => .error ⟨.wrongKind (.float value) "u64", rest⟩
  match dropSpace text with
  | [] => .error ⟨.endInValue, []⟩
  | byte :: rest =>
    if byte = 0x2D then accept (readNumber true rest)
    else if isDigit byte then accept (readNumber false (byte :: rest))
    else refuse "u64" byte rest

/-- Reads an array, item by item. -/
def readList {α : Type} (readItem : Bytes → Read α) (text : Bytes) : Read (List α) :=
  match dropSpace text with
  | [] => .error ⟨.endInValue, []⟩
  | byte :: rest =>
    if byte = 0x5B then
      (readItems readItem rest).map fun (items, rest) => (items.toList, rest)
    else refuse "a sequence" byte rest

/-! ### Hostname records -/

/-- What a place that wants a record says it wants. -/
def recordWanted : String := "struct HostnameRecord"

/-- What is left after the closing byte of an array or object, if it is next. -/
def dropClosing (closing : UInt8) (text : Bytes) : Bytes :=
  match dropSpace text with
  | [] => []
  | byte :: rest => if byte = closing then rest else byte :: rest

/-- Reads a member of a record: the string of `hostname`, which may come once; any other value is
skipped. -/
def readRecordMember (hostname : Option String) (name : String) (text : Bytes) :
    Read (Option String) :=
  if name = "hostname" then
    match hostname with
    | some _ => .error ⟨.duplicateField "hostname", dropClosing 0x7D text⟩
    | none =>
      match readColon text with
      | .error fault => .error fault
      | .ok rest => (readText rest).map fun (hostname, rest) => (some hostname, rest)
  else
    match readColon text with
    | .error fault => .error fault
    | .ok rest => (skipValue rest).map (hostname, ·)

/-- Reads a record that is an object, whose brace has been read. -/
def readRecordObject (text : Bytes) : Read HostnameRecord :=
  match readMembers readRecordMember none text with
  | .error fault => .error fault
  | .ok (some hostname, rest) => .ok (⟨hostname⟩, rest.drop 1)
  | .ok (none, rest) => .error ⟨.missingField "hostname", dropClosing 0x7D rest⟩

/-- Reads a record that is an array, whose bracket has been read. -/
def readRecordArray (text : Bytes) : Read HostnameRecord :=
  match dropSpace text with
  | [] => .error ⟨.endInList, []⟩
  | byte :: rest =>
    if byte = 0x5D then
      .error ⟨.wrongLength 0 (recordWanted ++ " with 1 element"), rest⟩
    else match readText (byte :: rest) with
      | .error fault => .error fault
      | .ok (hostname, rest) =>
        match dropSpace rest with
        | [] => .error ⟨.endInList, []⟩
        | byte :: rest =>
          if byte = 0x5D then .ok (⟨hostname⟩, rest)
          else if byte = 0x2C then
            match dropSpace rest with
            | [] => .error ⟨.trailingCharacters, []⟩
            | next :: after =>
              .error ⟨if next = 0x5D then .trailingComma else .trailingCharacters, after⟩
          else .error ⟨.trailingCharacters, rest⟩

/-- Reads a hostname record. -/
def readRecord (text : Bytes) : Read HostnameRecord :=
  match dropSpace text with
  | [] => .error ⟨.endInValue, []⟩
  | byte :: rest =>
    if byte = 0x7B then readRecordObject rest
    else if byte = 0x5B then readRecordArray rest
    else refuse recordWanted byte rest

/-- Reads a list of hostname records. -/
def readRecords (text : Bytes) : Read (List HostnameRecord) := readList readRecord text

end ForbiddenHosts.Json

namespace ForbiddenHosts

/-- The JSON value of a record: an object with its one field. -/
def HostnameRecord.toJson (record : HostnameRecord) : Json :=
  .object [("hostname", .string record.hostname)]

/-- The JSON value of a list: the array of its records. -/
def HostnameList.toJson (list : HostnameList) : Json :=
  .array (list.records.toList.map HostnameRecord.toJson)

end ForbiddenHosts
