/-!
# Tables

A table is a list of members, each a name with a value.  A name stands for its first member, and
`change` never adds a second one.
-/
namespace ForbiddenHosts

namespace Table

variable {α : Type}

/-- The member with a name. -/
def find? (name : String) : List (String × α) → Option α
  | [] => none
  | (other, value) :: members => if other = name then some value else find? name members

/-- Changes the member with a name, or adds one; the change is told what the member was. -/
def change (name : String) (f : Option α → α) : List (String × α) → List (String × α)
  | [] => [(name, f none)]
  | (other, value) :: members =>
    if other = name then (other, f (some value)) :: members
    else (other, value) :: change name f members

@[simp] theorem find?_change_self (name : String) (f : Option α → α)
    (members : List (String × α)) :
    find? name (change name f members) = some (f (find? name members)) := by
  induction members with
  | nil => simp [change, find?]
  | cons m members ih =>
    obtain ⟨other, value⟩ := m
    by_cases h : other = name <;> simp [change, find?, h, ih]

theorem find?_change_of_ne {name other : String} (h : other ≠ name) (f : Option α → α)
    (members : List (String × α)) : find? other (change name f members) = find? other members := by
  induction members with
  | nil => simp [change, find?, Ne.symm h]
  | cons m members ih =>
    obtain ⟨first, value⟩ := m
    by_cases h1 : first = name
    · subst h1
      simp [change, find?, Ne.symm h]
    · by_cases h2 : first = other
      · subst h2
        simp [change, find?, h1]
      · simp [change, find?, h1, h2, ih]

end Table

end ForbiddenHosts
