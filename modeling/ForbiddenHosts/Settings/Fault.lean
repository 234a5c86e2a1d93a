import ForbiddenHosts.Json.Fault
import ForbiddenHosts.Settings.Setting

/-!
# Faults of settings

Why settings are refused.  A setting that is refused as a text names the settings file if it was
written there; a setting whose shape is wrong names its place only.
-/
namespace ForbiddenHosts.Settings

/-- The name of the settings file. -/
def fileName : String := "config/settings.json"

/-- Why settings are refused. -/
inductive Fault where
  /-- The settings file is no JSON text. -/
  | notJson (error : Json.Error)
  /-- The settings file holds something other than a table. -/
  | notTable (found : Found)
  /-- The key of an override is no path. -/
  | notPath
  /-- A setting that should be a text cannot be written as one. -/
  | notText (setting : Setting) (origin : Origin) (place : Path)
  /-- A setting has the wrong shape. -/
  | wrongShape (setting : Setting) (wanted : String) (place : Path)
  /-- A list that stands for a section is too short. -/
  | tooShort (length : Nat) (wanted : String) (place : Path)
  /-- A field that has no default is missing. -/
  | missing (place : Path)

/-- How settings are named in messages. -/
def wording : Found.Wording := ⟨"unit value", fun _ => "integer", Decimal.Layout.named⟩

/-- How the root of the settings file is named in messages. -/
def rootWording : Found.Wording :=
  ⟨"unit value", fun n => if n < Nat.pow 2 63 then "64-bit integer" else "64-bit unsigned integer",
    Decimal.Layout.plain⟩

/-- Names the settings file behind a message. -/
def inFile (message : String) : String := message ++ " in " ++ fileName

/-- Names a place behind a message. -/
def atPlace (message : String) (place : Path) : String :=
  message ++ " for key `" ++ place.text ++ "`"

/-- The message for a fault; a key that is no path has none. -/
def Fault.message : Fault → String
  | notJson error => inFile error.message
  | notTable found => inFile (inFile (found.mismatch rootWording "a map"))
  | notPath => ""
  | notText setting .file place =>
    inFile (atPlace (setting.found.mismatch wording "a string") place)
  | notText setting .elsewhere place =>
    atPlace (setting.found.mismatch wording "a string") place
  | wrongShape setting wanted place => atPlace (setting.found.mismatch wording wanted) place
  | tooShort length wanted place =>
    atPlace ("invalid length " ++ Decimal.integer length ++ ", expected " ++ wanted) place
  | missing place => "missing configuration field " ++ Text.quoted place.text

end ForbiddenHosts.Settings
