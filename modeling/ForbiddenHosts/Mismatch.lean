import ForbiddenHosts.Decimal.Layout
import ForbiddenHosts.Text.Quoted

/-!
# Values of the wrong kind

When a value is not of the kind that its place demands, the message names what was found and what
was wanted.  What was found is a `Found`; the readers differ only in how they spell it, so the
spelling is a `Wording`.
-/
namespace ForbiddenHosts

/-- What stands where something else was wanted. -/
inductive Found where
  | nothing
  | boolean (value : Bool)
  | integer (value : Int)
  | float (value : Float)
  | text (value : String)
  | sequence
  | map

namespace Found

/-- How a reader spells what it found. -/
structure Wording where
  /-- The word for an absent value. -/
  nothing : String
  /-- The word for an integer. -/
  integer : Int → String
  /-- How floating-point numbers are written. -/
  float : Decimal.Layout

/-- Describes what was found. -/
def describe (wording : Wording) : Found → String
  | nothing => wording.nothing
  | boolean value => "boolean `" ++ (if value then "true" else "false") ++ "`"
  | integer value => wording.integer value ++ " `" ++ Decimal.integer value ++ "`"
  | float value => "floating point `" ++ wording.float.float value ++ "`"
  | text value => "string " ++ Text.quoted value
  | sequence => "sequence"
  | map => "map"

/-- The message for a value of the wrong kind. -/
def mismatch (wording : Wording) (found : Found) (wanted : String) : String :=
  "invalid type: " ++ found.describe wording ++ ", expected " ++ wanted

end Found

end ForbiddenHosts
