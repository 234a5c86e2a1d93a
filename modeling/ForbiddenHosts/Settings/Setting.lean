import ForbiddenHosts.Json.Value
import ForbiddenHosts.Mismatch
import ForbiddenHosts.Settings.Path
import ForbiddenHosts.Table

/-!
# Settings

A setting is a scalar, a list or a table; a table has at most one member of each name.  Lists,
tables and absent values know whether they were **written in the settings file**, since messages
about them say so; what is built or rebuilt here was not.

A place is reached by force (`change`): a step to a member makes a table of what is none, and a step
to an item a list, which grows at its end, or at its front for an index before its first item, until
the item exists.  A setting that is put into a place is laid over what stands there (`layOver`):
tables are merged member by member, and anything else is replaced.
-/
namespace ForbiddenHosts.Settings

/-- Where a setting was written. -/
inductive Origin where
  | file
  | elsewhere
  deriving DecidableEq, Repr

/-- A setting. -/
inductive Setting where
  /-- An absent value. -/
  | nothing (origin : Origin)
  | boolean (value : Bool)
  | integer (value : Int)
  | float (value : Float)
  | text (value : String)
  | list (origin : Origin) (items : List Setting)
  | table (origin : Origin) (members : List (String × Setting))

namespace Setting

/-- What fills the places of a list that grew. -/
def blank : Setting := nothing .elsewhere

instance : Inhabited Setting := ⟨blank⟩

/-- The setting as messages name it. -/
def found : Setting → Found
  | nothing _ => .nothing
  | boolean value => .boolean value
  | integer value => .integer value
  | float value => .float value
  | text value => .text value
  | list .. => .sequence
  | table .. => .map

/-- The members of a table; anything else has none. -/
def members : Setting → List (String × Setting)
  | table _ members => members
  | _ => []

/-- The items of a list; anything else has none. -/
def items : Setting → List Setting
  | list _ items => items
  | _ => []

/-- The origin of a table; a table that takes the place of something else has none. -/
def tableOrigin : Setting → Origin
  | table origin _ => origin
  | _ => .elsewhere

/-- The origin of a list; a list that takes the place of something else has none. -/
def listOrigin : Setting → Origin
  | list origin _ => origin
  | _ => .elsewhere

/-- The member with a name. -/
def member? (setting : Setting) (name : String) : Option Setting :=
  Table.find? name setting.members

/-- Changes one member of a table, which the setting becomes if it is none. -/
def changeMember (name : String) (f : Setting → Setting) (setting : Setting) : Setting :=
  table setting.tableOrigin (Table.change name (fun old => f (old.getD blank)) setting.members)

/-- Makes items grow until there is one at an index; also says at which place it is. -/
def reach (index : Int) (items : List Setting) : List Setting × Nat :=
  match index with
  | .ofNat n => (items ++ List.replicate (n + 1 - items.length) blank, n)
  | .negSucc n =>
    if n < items.length then (items, items.length - (n + 1))
    else (List.replicate (n + 1 - items.length) blank ++ items, 0)

/-- Changes one item of a list, which the setting becomes if it is none. -/
def changeItem (index : Int) (f : Setting → Setting) (setting : Setting) : Setting :=
  let (items, place) := reach index setting.items
  list setting.listOrigin (items.modify place f)

/-- Changes what stands at a place, which is built if it is missing. -/
def change (f : Setting → Setting) : List Step → Setting → Setting
  | [], setting => f setting
  | .member name :: steps, setting => setting.changeMember name (change f steps)
  | .item index :: steps, setting => setting.changeItem index (change f steps)

mutual

/-- Lays a setting over another: the members of a table are laid over those of the other, one after
the other, and anything else takes the place of the other. -/
def layOver : Setting → Setting → Setting
  | table _ members, under =>
    layMembersOver members (table under.tableOrigin under.members)
  | value, _ => value

/-- Lays members over those of a table. -/
def layMembersOver : List (String × Setting) → Setting → Setting
  | [], under => under
  | (name, value) :: members, under =>
    layMembersOver members (under.changeMember name (layOver value))

end

/-- Puts a setting into a place of a tree. -/
def put (root : Setting) (path : Path) (value : Setting) : Setting :=
  root.changeMember path.root (change (layOver value) path.steps)

/-- Puts settings into a tree, each under its key. -/
def putAll (root : Setting) (entries : List (String × Setting)) : Setting :=
  entries.foldl (fun root (key, value) => root.put (.ofKey key) value) root

@[simp] theorem member?_changeMember_self (name : String) (f : Setting → Setting)
    (setting : Setting) :
    (setting.changeMember name f).member? name =
      some (f ((setting.member? name).getD blank)) := by
  simp [member?, changeMember, members]

theorem member?_changeMember_of_ne {name other : String} (h : other ≠ name)
    (f : Setting → Setting) (setting : Setting) :
    (setting.changeMember name f).member? other = setting.member? other := by
  simp [member?, changeMember, members, Table.find?_change_of_ne h]

end Setting

end ForbiddenHosts.Settings
