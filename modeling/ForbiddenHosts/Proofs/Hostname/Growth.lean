import ForbiddenHosts.Proofs.Hostname.Equality

/-!
# How a merge grows a list

A merge leaves the records of a list where they are and puts new ones behind them.  Which ones is
said by `NewIn`, without the steps of the merge: the hostnames among the candidates that were not
known, in the order in which each of them first stands among the candidates.  The candidates may
repeat each other and the list in any way.

`Grows` says this of one merge, and what follows for several: two merges come to the same as one
merge of all their candidates, and a merge of known hostnames, such as those of the list itself,
changes nothing.  Every list that the operations build grows so (`grows_of_built`).
-/
namespace ForbiddenHosts.HostnameList

open FirstPlaces

variable {list : HostnameList}

/-- The hostnames among the candidates that are not known, each at its first place. -/
structure NewIn (known candidates fresh : List String) : Prop where
  /-- They are the candidates that are not known. -/
  mem_iff : ∀ hostname, hostname ∈ fresh ↔ hostname ∈ candidates ∧ hostname ∉ known
  /-- Each stands behind those that appear before it, so none stands there twice. -/
  ordered : fresh.Pairwise fun a b => candidates.idxOf a < candidates.idxOf b

/-- **A merge of candidates grows a list by the new ones.** -/
structure Grows (list : HostnameList) (candidates : List String) : Prop where
  /-- The records stay, those of the new hostnames are put behind them, and the number that comes
  back counts these. -/
  appends : ∃ fresh, NewIn list.hostnames candidates fresh ∧
    (list.merge candidates).2.records =
      list.records ++ (fresh.map HostnameRecord.mk).toArray ∧
    (list.merge candidates).1 = fresh.length
  /-- So the number is by how many the list grows. -/
  size_eq : (list.merge candidates).2.size = list.size + (list.merge candidates).1
  /-- Merging further candidates comes to the same as merging all at once. -/
  merge_append : ∀ others, list.merge (candidates ++ others) =
    ((list.merge candidates).1 + ((list.merge candidates).2.merge others).1,
      ((list.merge candidates).2.merge others).2)
  /-- Merging known hostnames changes nothing. -/
  merge_known : (∀ hostname ∈ candidates, hostname ∈ list.hostnames) →
    list.merge candidates = (0, list)
  /-- Nor does merging the records of the list itself. -/
  merge_own : list.mergeRecords list.records.toList = (0, list)

/-! ### What is new -/

theorem newIn_removeAll (known candidates : List String) :
    NewIn known candidates (candidates.removeAll known).eraseDups where
  mem_iff hostname := by
    rw [List.mem_eraseDups, List.removeAll, List.mem_filter]
    simp
  ordered := by
    rw [← eraseDups_removeAll]
    exact (pairwise_idxOf_eraseDups candidates).filter _

/-! ### Merging in parts -/

theorem merge_append (list : HostnameList) (xs ys : List String) :
    list.merge (xs ++ ys) =
      ((list.merge xs).1 + ((list.merge xs).2.merge ys).1, ((list.merge xs).2.merge ys).2) := by
  induction xs generalizing list with
  | nil => rw [List.nil_append, merge_nil, Nat.zero_add]
  | cons x xs ih => rw [List.cons_append, merge_cons, ih, merge_cons, Nat.add_assoc]

theorem add_of_contains {hostname : String} (h : list.contains hostname = true) :
    list.add hostname = (false, list) := by
  rw [add, if_pos h]

theorem merge_of_contains {xs : List String} (h : ∀ x ∈ xs, list.contains x = true) :
    list.merge xs = (0, list) := by
  induction xs with
  | nil => exact merge_nil list
  | cons x xs ih =>
    obtain ⟨hx, hxs⟩ := List.forall_mem_cons.mp h
    rw [merge_cons, add_of_contains hx, ih hxs]
    rfl

/-! ### One merge -/

/-- A merge puts the new hostnames behind those that are there. -/
theorem Coherent.hostnames_merge_eq_append (h : list.Coherent) (xs : List String) :
    (list.merge xs).2.hostnames =
      list.hostnames ++ (xs.removeAll list.hostnames).eraseDups := by
  rw [h.hostnames_merge, List.eraseDups_append, eraseDups_eq_self h.nodup]

theorem records_eq_append {a : HostnameList} {fresh : List String}
    (h : a.hostnames = list.hostnames ++ fresh) :
    a.records = list.records ++ (fresh.map HostnameRecord.mk).toArray := by
  refine Array.toList_inj.mp ?_
  rw [records_toList, h, List.map_append, ← records_toList, Array.toList_append]

/-- **Every list that the operations build grows by what is new.** -/
theorem grows_of_built (list : HostnameList) (built : list.Built) (candidates : List String) :
    list.Grows candidates where
  appends := by
    have hmerged := built.coherent.hostnames_merge_eq_append candidates
    refine ⟨_, newIn_removeAll list.hostnames candidates, records_eq_append hmerged, ?_⟩
    have hsize := merge_fst list candidates
    rw [size_eq_length, size_eq_length, hmerged, List.length_append, Nat.add_comm] at hsize
    exact (Nat.add_right_cancel hsize).symm
  size_eq := by rw [merge_fst, Nat.add_comm]
  merge_append := merge_append list candidates
  merge_known := by
    intro hknown
    refine merge_of_contains ?_
    intro hostname hmem
    exact (built.coherent.contains_iff hostname).mpr (hknown hostname hmem)
  merge_own := by
    refine merge_of_contains ?_
    intro hostname hmem
    exact (built.coherent.contains_iff hostname).mpr hmem

/-! ### Candidates of every kind -/

/-- A list of two hostnames. -/
def knownPair : HostnameList := ofList ["b.example", "a.example", "b.example"]

/-- Candidates that repeat each other and the list, and one that differs in a letter's case. -/
def mixedCandidates : List String :=
  ["c.example", "a.example", "A.example", "c.example", "b.example", "A.example"]

/-- Of candidates that repeat each other and the list, the two new ones are appended. -/
theorem grows_mixedCandidates :
    knownPair.Built ∧ knownPair.Grows mixedCandidates ∧ (knownPair.merge mixedCandidates).1 = 2 ∧
      (knownPair.merge mixedCandidates).2.hostnames =
        ["b.example", "a.example", "c.example", "A.example"] := by
  have hbuilt : knownPair.Built := .ofList _
  have hgrows := grows_of_built knownPair hbuilt mixedCandidates
  have hknown : knownPair.hostnames = ["b.example", "a.example"] := by
    rw [knownPair, hostnames_ofList]
    decide
  have hmerged : (knownPair.merge mixedCandidates).2.hostnames =
      ["b.example", "a.example", "c.example", "A.example"] := by
    rw [hbuilt.coherent.hostnames_merge, hknown]
    decide
  have hsize := hgrows.size_eq
  rw [size_eq_length, size_eq_length, hmerged, hknown] at hsize
  simp only [List.length_cons, List.length_nil] at hsize
  exact ⟨hbuilt, hgrows, by omega, hmerged⟩

end ForbiddenHosts.HostnameList
