import ForbiddenHosts.Hostname.Record
import ForbiddenHosts.Text.Pieces
import Std.Data.HashSet

/-!
# The list of forbidden hostnames

A `HostnameList` holds hostname records in the order of their first appearance, each hostname once.
An **index** of the hostnames stands beside the records, so that a hostname is found without a
search; every operation appends to both or to neither.

All growth goes through `add`, which appends a hostname unless it is listed already and says
whether it did.  `merge` adds a sequence of hostnames one after the other and counts the new ones,
so what is listed first keeps its place.
-/
namespace ForbiddenHosts

/-- Hostname records in the order of their first appearance, with an index of their hostnames. -/
structure HostnameList where
  /-- The records, in order. -/
  records : Array HostnameRecord
  /-- The hostnames of the records. -/
  index : Std.HashSet String

namespace HostnameList

/-- The list without records. -/
def empty : HostnameList := ⟨#[], ∅⟩

instance : Inhabited HostnameList := ⟨empty⟩

instance : EmptyCollection HostnameList := ⟨empty⟩

/-- The hostnames, in order. -/
def hostnames (list : HostnameList) : List String :=
  list.records.toList.map HostnameRecord.hostname

/-- The number of records. -/
def size (list : HostnameList) : Nat := list.records.size

/-- There is no record. -/
def isEmpty (list : HostnameList) : Bool := list.records.isEmpty

/-- The hostname is listed. -/
def contains (list : HostnameList) (hostname : String) : Bool := list.index.contains hostname

/-- Appends a hostname unless it is listed already; the flag says whether it was appended. -/
def add (list : HostnameList) (hostname : String) : Bool × HostnameList :=
  if list.contains hostname then (false, list)
  else (true, ⟨list.records.push ⟨hostname⟩, list.index.insert hostname⟩)

/-- Adds hostnames one after the other; the number says how many were appended. -/
def merge (list : HostnameList) (hostnames : List String) : Nat × HostnameList :=
  hostnames.foldl
    (fun (count, list) hostname =>
      let (isNew, list) := list.add hostname
      (if isNew then count + 1 else count, list))
    (0, list)

/-- The list of the given hostnames: each at its first place. -/
def ofList (hostnames : List String) : HostnameList :=
  ((empty.merge hostnames).2)

/-- Adds the hostnames of records that were read elsewhere. -/
def mergeRecords (list : HostnameList) (records : List HostnameRecord) : Nat × HostnameList :=
  list.merge (records.map HostnameRecord.hostname)

/-- The list of the hostnames of a text with one hostname on each line: lines are trimmed and blank
ones left out, so a final line break yields no hostname. -/
def ofLines (text : String) : HostnameList :=
  ofList (Text.lines text)

/-- Two lists are equal when they hold the same records in the same order and the same index. -/
instance : BEq HostnameList where
  beq a b := a.records == b.records && a.index.size == b.index.size &&
    a.index.toList.all b.index.contains

@[simp] theorem hostnames_empty : hostnames empty = [] := rfl

theorem size_eq_length (list : HostnameList) : list.size = list.hostnames.length := by
  simp [size, hostnames]

theorem isEmpty_iff (list : HostnameList) : list.isEmpty = true ↔ list.hostnames = [] := by
  simp [isEmpty, hostnames]

/-- Adding appends exactly when the hostname was not listed. -/
theorem hostnames_add (list : HostnameList) (hostname : String) :
    (list.add hostname).2.hostnames =
      if list.contains hostname then list.hostnames else list.hostnames ++ [hostname] := by
  unfold add
  split <;> simp [hostnames]

theorem add_fst (list : HostnameList) (hostname : String) :
    (list.add hostname).1 = !list.contains hostname := by
  unfold add
  split <;> simp_all

end HostnameList

end ForbiddenHosts
