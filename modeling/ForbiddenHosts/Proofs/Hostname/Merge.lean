import ForbiddenHosts.Hostname.List
import ForbiddenHosts.Proofs.Hostname.FirstPlaces
import Std.Data.HashSet.Lemmas

/-!
# What merging does to a list

A list is `Coherent` when its index holds exactly the hostnames of its records and no hostname is
recorded twice.  The empty list is coherent and adding a hostname keeps a list so, hence every list
that the operations build is.

Of a coherent list a merge is known by its hostnames alone: what was merged stands behind what was
there, each hostname at its first place (`Coherent.hostnames_merge`), and the number that a merge
gives back is the number of records that it appended (`merge_fst`).
-/
namespace ForbiddenHosts.HostnameList

open FirstPlaces

/-- The index and the records of a list agree, and no hostname is recorded twice. -/
structure Coherent (list : HostnameList) : Prop where
  /-- The index holds the hostnames of the records. -/
  contains_iff : ∀ hostname, list.contains hostname = true ↔ hostname ∈ list.hostnames
  /-- Each hostname has one record. -/
  nodup : list.hostnames.Nodup

theorem coherent_empty : empty.Coherent where
  contains_iff hostname := by simp [contains, empty, hostnames]
  nodup := List.nodup_nil

variable {list : HostnameList}

/-- Adding keeps first places. -/
theorem Coherent.hostnames_add (h : list.Coherent) (hostname : String) :
    (list.add hostname).2.hostnames = (list.hostnames ++ [hostname]).eraseDups := by
  rw [HostnameList.hostnames_add, List.eraseDups_append, eraseDups_eq_self h.nodup]
  split
  · rename_i hc
    have hmem := (h.contains_iff hostname).mp hc
    rw [removeAll_eq_nil (by simpa using hmem), List.eraseDups_nil, List.append_nil]
  · rename_i hc
    have hmem : hostname ∉ list.hostnames := fun hm => hc ((h.contains_iff hostname).mpr hm)
    have hkept : [hostname].removeAll list.hostnames = [hostname] := by
      simp [List.removeAll, hmem]
    rw [hkept]
    rfl

theorem contains_add (list : HostnameList) (hostname other : String) :
    (list.add hostname).2.contains other = (hostname == other || list.contains other) := by
  unfold add
  split
  · rename_i hc
    by_cases he : hostname = other
    · subst he
      simp [hc]
    · simp [he]
  · exact Std.HashSet.contains_insert

theorem Coherent.add (h : list.Coherent) (hostname : String) :
    (list.add hostname).2.Coherent where
  contains_iff other := by
    rw [contains_add, h.hostnames_add, List.mem_eraseDups, List.mem_append, List.mem_singleton,
      Bool.or_eq_true, beq_iff_eq, h.contains_iff, or_comm, eq_comm]
  nodup := by
    rw [h.hostnames_add]
    exact nodup_eraseDups _

@[simp] theorem merge_nil (list : HostnameList) : list.merge [] = (0, list) := rfl

/-- The count of a merge that goes on from a count is the sum of both. -/
theorem foldl_add_eq (xs : List String) (count : Nat) (list : HostnameList) :
    xs.foldl
        (fun (count, list) hostname =>
          let (isNew, list) := HostnameList.add list hostname
          (if isNew then count + 1 else count, list))
        (count, list) =
      (count + (list.merge xs).1, (list.merge xs).2) := by
  induction xs generalizing count list with
  | nil => rfl
  | cons x xs ih =>
    rw [merge, List.foldl_cons, List.foldl_cons, ih, ih]
    cases (list.add x).1 with
    | false => simp
    | true => simp [Nat.add_assoc]

theorem merge_cons (list : HostnameList) (x : String) (xs : List String) :
    list.merge (x :: xs) =
      ((list.add x).1.toNat + ((list.add x).2.merge xs).1, ((list.add x).2.merge xs).2) := by
  rw [merge, List.foldl_cons, foldl_add_eq]
  cases (list.add x).1 <;> rfl

theorem Coherent.merge (h : list.Coherent) (xs : List String) : (list.merge xs).2.Coherent := by
  induction xs generalizing list with
  | nil => exact h
  | cons x xs ih =>
    rw [merge_cons]
    exact ih (h.add x)

/-- **A merge puts what is new behind what is there.** -/
theorem Coherent.hostnames_merge (h : list.Coherent) (xs : List String) :
    (list.merge xs).2.hostnames = (list.hostnames ++ xs).eraseDups := by
  induction xs generalizing list with
  | nil => rw [merge_nil, List.append_nil, eraseDups_eq_self h.nodup]
  | cons x xs ih =>
    rw [merge_cons, ih (h.add x), h.hostnames_add, eraseDups_eraseDups_append, List.append_assoc]
    rfl

theorem size_add (list : HostnameList) (hostname : String) :
    (list.add hostname).2.size = (list.add hostname).1.toNat + list.size := by
  rw [size_eq_length, size_eq_length, hostnames_add, add_fst]
  by_cases hknown : list.contains hostname = true
  · simp [hknown]
  · simp [hknown, Nat.add_comm]

/-- **The number of a merge is the number of records that it appended.** -/
theorem merge_fst (list : HostnameList) (xs : List String) :
    (list.merge xs).2.size = (list.merge xs).1 + list.size := by
  induction xs generalizing list with
  | nil => rw [merge_nil, Nat.zero_add]
  | cons x xs ih =>
    rw [merge_cons, ih, size_add]
    omega

theorem coherent_ofList (xs : List String) : (ofList xs).Coherent := coherent_empty.merge xs

theorem hostnames_ofList (xs : List String) : (ofList xs).hostnames = xs.eraseDups := by
  rw [ofList, coherent_empty.hostnames_merge, hostnames_empty, List.nil_append]

/-- The records of a list are its hostnames. -/
theorem records_toList (list : HostnameList) :
    list.records.toList = list.hostnames.map HostnameRecord.mk := by
  rw [hostnames, List.map_map]
  exact (List.map_id _).symm

end ForbiddenHosts.HostnameList
