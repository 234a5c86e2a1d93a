import ForbiddenHosts.Json.Value
import ForbiddenHosts.Table
import Mathlib.Data.List.Nodup
import Mathlib.Data.String.Basic

/-!
# Members of canonical objects

The canonical form of an object has its members in the order of their names.  What these members
are does not depend on that order: each name stands for the canonical form of the last member that
has it (`find?_canonicalMembers`), and no name is repeated (`nodup_canonicalMembers`).
-/
namespace ForbiddenHosts.Json

open Table

variable {name other : String} {value : Json} {members done : List (String × Json)}

/-! ### Putting one member -/

@[simp] theorem find?_putMember_self (name : String) (value : Json)
    (members : List (String × Json)) : find? name (putMember name value members) = some value := by
  induction members with
  | nil => simp [putMember, find?]
  | cons m members ih =>
    obtain ⟨first, old⟩ := m
    rw [putMember]
    split
    · simp [find?]
    · split
      · simp [find?]
      · rename_i hne
        rw [find?, if_neg (Ne.symm hne), ih]

theorem find?_putMember_of_ne (h : other ≠ name) (value : Json) (members : List (String × Json)) :
    find? other (putMember name value members) = find? other members := by
  induction members with
  | nil => simp [putMember, find?, Ne.symm h]
  | cons m members ih =>
    obtain ⟨first, old⟩ := m
    rw [putMember]
    split
    · rw [find?, if_neg (Ne.symm h)]
    · split
      · rename_i heq
        rw [find?, find?, if_neg (Ne.symm h), ← heq, if_neg (Ne.symm h)]
      · rw [find?, find?, ih]

theorem fst_of_mem_putMember {entry : String × Json} (h : entry ∈ putMember name value members) :
    entry.1 = name ∨ entry ∈ members := by
  induction members with
  | nil => exact Or.inl (by rw [List.mem_singleton.mp h])
  | cons m members ih =>
    obtain ⟨first, old⟩ := m
    rw [putMember] at h
    split at h
    · rcases List.mem_cons.mp h with rfl | h
      · exact Or.inl rfl
      · exact Or.inr h
    · split at h
      · rcases List.mem_cons.mp h with rfl | h
        · exact Or.inl rfl
        · exact Or.inr (List.mem_cons_of_mem _ h)
      · rcases List.mem_cons.mp h with rfl | h
        · exact Or.inr List.mem_cons_self
        · rcases ih h with hname | hmem
          · exact Or.inl hname
          · exact Or.inr (List.mem_cons_of_mem _ hmem)

/-- The members stand in the order of their names, each of which is there once. -/
def Ascending (members : List (String × Json)) : Prop :=
  members.Pairwise fun first second => first.1 < second.1

theorem Ascending.putMember (h : Ascending members) (name : String) (value : Json) :
    Ascending (putMember name value members) := by
  induction members with
  | nil => exact List.pairwise_singleton _ _
  | cons m members ih =>
    obtain ⟨first, old⟩ := m
    obtain ⟨hfirst, hmembers⟩ := List.pairwise_cons.mp h
    rw [Json.putMember]
    split
    · rename_i hlt
      refine List.pairwise_cons.mpr ⟨?_, h⟩
      intro entry hentry
      rcases List.mem_cons.mp hentry with rfl | hentry
      · exact hlt
      · exact lt_trans hlt (hfirst entry hentry)
    · split
      · rename_i heq
        rw [← heq] at hfirst
        exact List.pairwise_cons.mpr ⟨hfirst, hmembers⟩
      · rename_i hnotlt hne
        refine List.pairwise_cons.mpr ⟨?_, ih hmembers⟩
        intro entry hentry
        rcases fst_of_mem_putMember hentry with hname | hentry
        · rw [hname]
          exact lt_of_le_of_ne (not_lt.mp hnotlt) (Ne.symm hne)
        · exact hfirst entry hentry

/-! ### Putting all members -/

theorem member?_cons (first : String) (value : Json) (members : List (String × Json))
    (name : String) :
    (object ((first, value) :: members)).member? name =
      ((object members).member? name).or (if first = name then some value else none) := by
  rw [member?, member?, List.reverse_cons, List.find?_append]
  cases members.reverse.find? (·.1 == name) with
  | some entry => rfl
  | none => by_cases h : first = name <;> simp [h]

/-- **A name stands for the last member that has it.** -/
theorem find?_canonicalMembers (name : String) (done members : List (String × Json)) :
    find? name (canonicalMembers done members) =
      (((object members).member? name).map canonical).or (find? name done) := by
  induction members generalizing done with
  | nil => rw [canonicalMembers]; rfl
  | cons m members ih =>
    obtain ⟨first, value⟩ := m
    rw [canonicalMembers, ih, member?_cons]
    cases (object members).member? name with
    | some found => rfl
    | none =>
      by_cases h : first = name
      · simp [h]
      · simp [h, find?_putMember_of_ne (Ne.symm h)]

theorem Ascending.canonicalMembers (h : Ascending done) (members : List (String × Json)) :
    Ascending (canonicalMembers done members) := by
  induction members generalizing done with
  | nil => rwa [Json.canonicalMembers]
  | cons m members ih =>
    rw [Json.canonicalMembers]
    exact ih (h.putMember m.1 m.2.canonical)

/-- **No name is repeated.** -/
theorem nodup_canonicalMembers (members : List (String × Json)) :
    ((canonicalMembers [] members).map Prod.fst).Nodup := by
  have hascending : Ascending (canonicalMembers [] members) :=
    Ascending.canonicalMembers List.Pairwise.nil members
  exact List.pairwise_map.mpr (hascending.imp ne_of_lt)

theorem mem_names_canonicalMembers (h : name ∈ (canonicalMembers done members).map Prod.fst) :
    name ∈ members.map Prod.fst ∨ name ∈ done.map Prod.fst := by
  induction members generalizing done with
  | nil =>
    rw [canonicalMembers] at h
    exact Or.inr h
  | cons m members ih =>
    rw [canonicalMembers] at h
    rcases ih h with hmem | hmem
    · exact Or.inl (List.mem_cons_of_mem _ hmem)
    · obtain ⟨entry, hentry, rfl⟩ := List.mem_map.mp hmem
      rcases fst_of_mem_putMember hentry with hname | hentry
      · rw [hname]
        exact Or.inl List.mem_cons_self
      · exact Or.inr (List.mem_map_of_mem hentry)

end ForbiddenHosts.Json
