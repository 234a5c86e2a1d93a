import ForbiddenHosts.Settings.Configuration
import ForbiddenHosts.Settings.File
import ForbiddenHosts.Settings.Variables

/-!
# Loading the configuration

Settings come in layers: the defaults, the settings file, and on top either the environment or
explicit overrides, which stand in for the environment.  File and environment are first collected in
a tree of their own, which is then laid over the defaults key by key; overrides are put into the
result.  The configuration is read off the tree that comes of it.

A section is a table with its field, or a list that holds the field first.  Any scalar can be
written as a text.
-/
namespace ForbiddenHosts

namespace Settings

/-! ### Reading the configuration off the settings -/

/-- A setting as a text. -/
def readText (place : Path) : Setting → Except Fault String
  | .text value => .ok value
  | .boolean true => .ok "true"
  | .boolean false => .ok "false"
  | .integer value => .ok (Decimal.integer value)
  | .float value => .ok (Decimal.Layout.plain.float value)
  | .nothing origin => .error (.notText (.nothing origin) origin place)
  | .list origin items => .error (.notText (.list origin items) origin place)
  | .table origin members => .error (.notText (.table origin members) origin place)

/-- The items of a list as texts, numbered from `index`. -/
def readTextsFrom (place : Path) (index : Nat) : List Setting → Except Fault (List String)
  | [] => .ok []
  | item :: items => do
    let text ← readText (place.below (.item index)) item
    let texts ← readTextsFrom place (index + 1) items
    return text :: texts

/-- A setting as a list of texts. -/
def readTexts (place : Path) : Setting → Except Fault (List String)
  | .list _ items => readTextsFrom place 0 items
  | setting => .error (.wrongShape setting "a sequence" place)

/-- The section with the address of the CT log list. -/
def readCtLogUrl (place : Path) (setting : Setting) : Except Fault String :=
  let wanted := "struct CtLogConfig"
  match setting with
  | .table _ members =>
    match Table.find? "url" members with
    | some field => readText (place.below (.member "url")) field
    | none => .error (.missing (place.below (.member "url")))
  | .list _ (field :: _) => readText (place.below (.item 0)) field
  | .list _ [] => .error (.tooShort 0 (wanted ++ " with 1 element") place)
  | setting => .error (.wrongShape setting wanted place)

/-- The section with the custom hostnames, of which there are none unless it says so. -/
def readCustomHostnames (place : Path) (setting : Setting) : Except Fault (List String) :=
  match setting with
  | .table _ members =>
    match Table.find? "custom_hostnames" members with
    | some field => readTexts (place.below (.member "custom_hostnames")) field
    | none => .ok []
  | .list _ (field :: _) => readTexts (place.below (.item 0)) field
  | .list _ [] => .ok []
  | setting => .error (.wrongShape setting "struct BlacklistConfig" place)

/-- The section with a name, read by its reader. -/
def readSection {α : Type} (read : Path → Setting → Except Fault α) (name : String)
    (root : Setting) : Except Fault α :=
  match root.member? name with
  | some setting => read ⟨name, []⟩ setting
  | none => .error (.missing ⟨name, []⟩)

/-- The configuration that settings give. -/
def readConfiguration (root : Setting) : Except Fault Configuration := do
  let ctLogUrl ← readSection readCtLogUrl "ct_log" root
  let customHostnames ← readSection readCustomHostnames "blacklist" root
  return { ctLogUrl, customHostnames }

/-! ### Layers -/

/-- The tree without settings. -/
def noSettings : Setting := .table .elsewhere []

/-- The default settings. -/
def defaults : Setting :=
  noSettings.putAll
    [(ctLogUrlKey, .text Configuration.defaultCtLogUrl),
      (customHostnamesKey,
        .list .elsewhere (Configuration.defaultCustomHostnames.map .text))]

/-- The settings of a settings file that may be missing. -/
def entriesOfFile? (file : Option Bytes) : Except Fault (List (String × Setting)) :=
  match file with
  | some bytes => entriesOfFile bytes
  | none => .ok []

/-- The tree of the defaults with further settings over them, which are collected first. -/
def overDefaults (entries : List (String × Setting)) : Setting :=
  defaults.putAll (noSettings.putAll entries).members

/-- The value of an override: the custom hostnames are a comma list, and anything else is a text. -/
def override (key value : String) : Setting :=
  if key = customHostnamesKey then
    .list .elsewhere ((Text.commaList value).map .text)
  else .text value

/-- The places and values of overrides, whose keys must be paths. -/
def placeOverrides : List (String × String) → Except Fault (List (Path × Setting))
  | [] => .ok []
  | (key, value) :: overrides =>
    match Path.parse? key with
    | none => .error .notPath
    | some path => do
      let placed ← placeOverrides overrides
      return (path, override key value) :: placed

end Settings

namespace Configuration

open Settings

/-- The configuration that a settings file and an environment give. -/
def load (file : Option Bytes) (environment : Environment) : Except Fault Configuration := do
  let entries ← entriesOfFile? file
  readConfiguration (overDefaults (entries ++ entriesOfEnvironment environment))

/-- The configuration that a settings file and overrides give. -/
def loadWith (file : Option Bytes) (overrides : List (String × String)) :
    Except Fault Configuration := do
  let placed ← placeOverrides overrides
  let entries ← entriesOfFile? file
  readConfiguration
    (placed.foldl (fun root (path, value) => root.put path value) (overDefaults entries))

end Configuration

end ForbiddenHosts
