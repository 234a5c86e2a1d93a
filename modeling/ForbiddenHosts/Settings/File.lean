import ForbiddenHosts.Json.Read
import ForbiddenHosts.Settings.Fault

/-!
# The settings file

The settings file holds a JSON object; no other format is read.  A byte-order mark at its start is
skipped, and ill-formed UTF-8 is read as replacement characters.  Of members with one name the last
stands for all.
-/
namespace ForbiddenHosts.Settings

mutual

/-- The setting that a JSON value of the settings file is. -/
def Setting.ofJson : Json → Setting
  | .null => .nothing .file
  | .boolean value => .boolean value
  | .number (.integer value) => .integer value
  | .number (.float value) => .float value
  | .string value => .text value
  | .array items => .list .file (Setting.listOfJson items)
  | .object members => .table .file (Setting.membersOfJson members)

/-- The settings that JSON values of the settings file are. -/
def Setting.listOfJson : List Json → List Setting
  | [] => []
  | item :: items => Setting.ofJson item :: Setting.listOfJson items

/-- The members of a table that the members of an object of the settings file are. -/
def Setting.membersOfJson : List (String × Json) → List (String × Setting)
  | [] => []
  | (name, value) :: members => (name, Setting.ofJson value) :: Setting.membersOfJson members

end

/-- The bytes of a text without the byte-order mark at its start. -/
def withoutMark : Bytes → Bytes
  | 0xEF :: 0xBB :: 0xBF :: rest => rest
  | bytes => bytes

/-- The settings that the settings file holds, under their keys. -/
def entriesOfFile (bytes : Bytes) : Except Fault (List (String × Setting)) :=
  match Json.parse (Utf8.encode (Utf8.decode (withoutMark bytes))) with
  | .error error => .error (.notJson error)
  | .ok value =>
    match Setting.ofJson value.canonical with
    | .table _ members => .ok members
    | setting => .error (.notTable setting.found)

end ForbiddenHosts.Settings
