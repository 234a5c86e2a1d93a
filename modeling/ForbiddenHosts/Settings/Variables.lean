import ForbiddenHosts.Environment.Basic
import ForbiddenHosts.Settings.Setting
import ForbiddenHosts.Text.Pieces

/-!
# Settings in the environment

The variables whose names start with `APP_`, in letters of either case, are settings: what follows
is the key in lower case, with a point for every two underscores.  A value that reads as a boolean
or a number is one.  The custom hostnames are the pieces between the commas of any other value;
every piece counts, as it is written.
-/
namespace ForbiddenHosts.Settings

/-- The key of the address of the CT log list. -/
def ctLogUrlKey : String := "ct_log.url"

/-- The key of the custom hostnames. -/
def customHostnamesKey : String := "blacklist.custom_hostnames"

/-- A letter in lower case.  Of the letters beyond ASCII only the Kelvin sign has a lower-case form
that is ASCII; the others stay what they are, since no key has them. -/
def lower (c : Char) : Char := if c = '\u212A' then 'k' else c.toLower

/-- Puts a point for every two underscores, from the left. -/
def dotted : List Char → List Char
  | '_' :: '_' :: rest => '.' :: dotted rest
  | c :: rest => c :: dotted rest
  | [] => []

/-- The key of the setting that a variable is, if it is one. -/
def keyOfVariable? (name : String) : Option String :=
  match name.toList.map lower with
  | 'a' :: 'p' :: 'p' :: '_' :: key => some (String.ofList (dotted key))
  | _ => none

/-- The scalar that a value reads as, if it is not just a text. -/
def readScalar? (value : String) : Option Setting :=
  match String.ofList (value.toList.map Char.toLower) with
  | "true" => some (.boolean true)
  | "false" => some (.boolean false)
  | _ =>
    match Decimal.readInteger? value.toList with
    | some n => some (.integer n)
    | none => (Decimal.readFloat? value.toList).map .float

/-- The setting that the value of a variable is under a key. -/
def ofVariable (key value : String) : Setting :=
  match readScalar? value with
  | some scalar => scalar
  | none =>
    if key = customHostnamesKey then
      .list .elsewhere ((Text.commaPieces value).map .text)
    else .text value

/-- The settings of an environment, under their keys. -/
def entriesOfEnvironment (environment : Environment) : List (String × Setting) :=
  environment.filterMap fun (name, value) =>
    (keyOfVariable? name).map fun key => (key, ofVariable key value)

end ForbiddenHosts.Settings
