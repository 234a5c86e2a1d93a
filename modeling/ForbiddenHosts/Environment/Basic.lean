import ForbiddenHosts.Table
import ForbiddenHosts.Text.Pieces

/-!
# Environments

An environment gives values to variables.
-/
namespace ForbiddenHosts

/-- The variables of an environment with their values; each has one. -/
abbrev Environment := List (String × String)

namespace Environment

/-- The value of a variable. -/
def value? (environment : Environment) (name : String) : Option String :=
  Table.find? name environment

/-- Gives a value to a variable that has none. -/
def define (environment : Environment) (name value : String) : Environment :=
  Table.change name (fun old => old.getD value) environment

/-- The environment of a block of `NAME=value` texts, each ended by a NUL. -/
def ofBlock (block : List Char) : Environment :=
  (Text.pieces '\x00' block).filterMap fun piece =>
    match piece.dropWhile (· != '=') with
    | '=' :: value =>
      some (String.ofList (piece.takeWhile (· != '=')), String.ofList value)
    | _ => none

theorem value?_define_self (environment : Environment) (name value : String) :
    (environment.define name value).value? name =
      some ((environment.value? name).getD value) :=
  Table.find?_change_self ..

theorem value?_define_of_ne {name other : String} (h : other ≠ name)
    (environment : Environment) (value : String) :
    (environment.define name value).value? other = environment.value? other :=
  Table.find?_change_of_ne h ..

end Environment

end ForbiddenHosts
