import ForbiddenHosts.Proofs.Hostname.Merge

/-!
# When two lists are equal

Lists are compared by their records and by their index.  A list that the operations have built
(`Built`) is coherent, and of coherent lists the index says nothing that the records do not say: two
of them are equal exactly when they hold the same hostnames in the same order
(`Coherent.beq_iff`).

The comparison of two indices counts their hostnames and looks up those of one in the other, so the
proof goes through the library's equivalence of hash sets, which preserves the size.
-/
namespace ForbiddenHosts.HostnameList

/-- The operations build this list. -/
inductive Built : HostnameList → Prop where
  | empty : Built empty
  | ofList (hostnames : List String) : Built (ofList hostnames)
  | add {list : HostnameList} (built : Built list) (hostname : String) :
      Built (list.add hostname).2
  | merge {list : HostnameList} (built : Built list) (hostnames : List String) :
      Built (list.merge hostnames).2
  | mergeRecords {list : HostnameList} (built : Built list) (records : List HostnameRecord) :
      Built (list.mergeRecords records).2

variable {list a b : HostnameList}

theorem Coherent.mergeRecords (h : list.Coherent) (records : List HostnameRecord) :
    (list.mergeRecords records).2.Coherent := h.merge _

/-- **What the operations build is coherent.** -/
theorem Built.coherent (h : list.Built) : list.Coherent := by
  induction h with
  | empty => exact coherent_empty
  | ofList hostnames => exact coherent_ofList hostnames
  | add _ hostname ih => exact ih.add hostname
  | merge _ hostnames ih => exact ih.merge hostnames
  | mergeRecords _ records ih => exact ih.mergeRecords records

theorem Coherent.mem_index_iff (h : list.Coherent) (hostname : String) :
    hostname ∈ list.index ↔ ⟨hostname⟩ ∈ list.records := by
  rw [Std.HashSet.mem_iff_contains, ← Array.mem_toList_iff, records_toList, List.mem_map]
  refine (h.contains_iff hostname).trans ⟨fun hmem => ⟨hostname, hmem, rfl⟩, ?_⟩
  rintro ⟨other, hmem, hother⟩
  cases hother
  exact hmem

theorem records_eq_iff : a.records = b.records ↔ a.hostnames = b.hostnames := by
  constructor
  · intro h
    rw [hostnames, h, hostnames]
  · intro h
    refine Array.toList_inj.mp ?_
    rw [records_toList, records_toList, h]

/-- Coherent lists with the same records have equivalent indices. -/
theorem Coherent.index_equiv (ha : a.Coherent) (hb : b.Coherent)
    (h : a.records = b.records) : a.index.Equiv b.index := by
  refine Std.HashSet.Equiv.of_forall_mem_iff fun hostname => ?_
  rw [ha.mem_index_iff, hb.mem_index_iff, h]

/-- **Two coherent lists are equal exactly when their hostnames are**, in their order. -/
theorem Coherent.beq_iff (ha : a.Coherent) (hb : b.Coherent) :
    (a == b) = true ↔ a.hostnames = b.hostnames := by
  have hbeq : (a == b) = (a.records == b.records && a.index.size == b.index.size &&
      a.index.toList.all b.index.contains) := rfl
  rw [hbeq, Bool.and_eq_true, Bool.and_eq_true, beq_iff_eq, beq_iff_eq, List.all_eq_true,
    ← records_eq_iff]
  constructor
  · rintro ⟨⟨hrecords, _⟩, _⟩
    exact hrecords
  · intro hrecords
    have hequiv := ha.index_equiv hb hrecords
    refine ⟨⟨hrecords, hequiv.size_eq⟩, ?_⟩
    intro hostname hmem
    exact hequiv.mem_iff.mp (Std.HashSet.mem_toList.mp hmem)

end ForbiddenHosts.HostnameList
