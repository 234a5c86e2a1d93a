import ForbiddenHosts.Proofs.Sync.Publication
import ForbiddenHosts.Proofs.Sync.Sending
import Mathlib.Data.Finset.Card
import Mathlib.Data.Finset.Dedup

/-!
# What the numbers of a report say

A report has four numbers, each taken at another moment of a list that keeps growing.  `Tallies`
says what they count, in terms of the sources alone: the distinct hostnames of the CT log list,
those custom hostnames that are not among them, the stored records with their repeats, and the
hostnames that were sent, which are the distinct hostnames of all three sources.

So the numbers bound each other.  The sum of the first three is an upper bound for the last, and it
is reached exactly when the stored records add what they count: when they do not repeat each other,
nor any of the other sources.

`tallies_of_report` is the main statement.  It is about every report, whatever came of the put.
-/
namespace ForbiddenHosts

namespace FirstPlaces

variable {α : Type} [DecidableEq α]

/-- Keeping first places leaves as many elements as there are distinct ones. -/
theorem length_eraseDups (xs : List α) : xs.eraseDups.length = xs.toFinset.card := by
  have hmembers : xs.eraseDups.toFinset = xs.toFinset := by
    ext x
    rw [List.mem_toFinset, List.mem_toFinset, List.mem_eraseDups]
  rw [← List.toFinset_card_of_nodup (nodup_eraseDups xs), hmembers]

/-- **A list adds all that it counts** exactly if nothing in it is met a second time. -/
theorem card_union_toFinset_eq_iff (front : Finset α) (xs : List α) :
    (front ∪ xs.toFinset).card = front.card + xs.length ↔
      xs.Nodup ∧ ∀ x ∈ xs, x ∉ front := by
  have hunion := Finset.card_union_le front xs.toFinset
  have hlength := xs.toFinset_card_le
  have hnodup : xs.toFinset.card = xs.length ↔ xs.Nodup :=
    Multiset.toFinset_card_eq_card_iff_nodup (m := (xs : Multiset α))
  have hdisjoint : (∀ x ∈ xs, x ∉ front) ↔ Disjoint front xs.toFinset := by
    rw [disjoint_comm, Finset.disjoint_left]
    simp only [List.mem_toFinset]
  rw [hdisjoint, ← hnodup, ← Finset.card_union_eq_card_add_card]
  omega

end FirstPlaces

open Http Errand FirstPlaces

namespace Sync

variable {σ : Type} {sync : Sync} {ctLog : Bytes} {stored : List HostnameRecord} {report : Report}

/-- **The numbers of a report agree with what was read and what was sent.** -/
structure Tallies (sync : Sync) (ctLog : Bytes) (stored : List HostnameRecord)
    (hostnames : List String) (report : Report) : Prop where
  /-- The distinct hostnames of the CT log list. -/
  fetched_eq : report.fetched = (ctLogHostnames ctLog).toFinset.card
  /-- The distinct custom hostnames that are not among these. -/
  customAdded_eq : report.customAdded =
    (sync.customHostnames.toFinset \ (ctLogHostnames ctLog).toFinset).card
  /-- The stored records, repeats included. -/
  existing_eq : report.existing = stored.length
  /-- The records that were sent. -/
  total_eq : report.total = hostnames.length
  /-- They are as many as there are distinct hostnames in the three sources. -/
  total_eq_card : report.total =
    ((ctLogHostnames ctLog).toFinset ∪ sync.customHostnames.toFinset ∪
      (stored.map HostnameRecord.hostname).toFinset).card
  le_total : report.fetched + report.customAdded ≤ report.total
  total_le : report.total ≤ report.fetched + report.customAdded + report.existing
  /-- The upper bound is reached exactly if the stored records repeat neither each other nor
  another source. -/
  total_eq_iff : report.total = report.fetched + report.customAdded + report.existing ↔
    stored.Nodup ∧ ∀ record ∈ stored,
      record.hostname ∉ ctLogHostnames ctLog ∧ record.hostname ∉ sync.customHostnames

/-! ### Counting the sources -/

/-- The distinct hostnames that a run has before it reads the stored list. -/
def frontHostnames (sync : Sync) (ctLog : Bytes) : Finset String :=
  (ctLogHostnames ctLog).toFinset ∪ sync.customHostnames.toFinset

theorem reportOf_fetched (sync : Sync) (ctLog : Bytes) (stored : List HostnameRecord)
    (outcome : Outcome) :
    (sync.reportOf ctLog stored outcome).fetched = (ctLogHostnames ctLog).toFinset.card :=
  length_eraseDups _

theorem reportOf_customAdded (sync : Sync) (ctLog : Bytes) (stored : List HostnameRecord)
    (outcome : Outcome) :
    (sync.reportOf ctLog stored outcome).customAdded =
      (sync.customHostnames.toFinset \ (ctLogHostnames ctLog).toFinset).card := by
  have hadded := Finset.card_sdiff_add_card sync.customHostnames.toFinset
    (ctLogHostnames ctLog).toFinset
  rw [Finset.union_comm] at hadded
  rw [reportOf, length_eraseDups, length_eraseDups, List.toFinset_append, ← hadded,
    Nat.add_sub_cancel]

theorem toFinset_sources (sync : Sync) (ctLog : Bytes) (stored : List HostnameRecord) :
    (sync.sources ctLog stored).toFinset =
      sync.frontHostnames ctLog ∪ (stored.map HostnameRecord.hostname).toFinset := by
  rw [sources, List.toFinset_append, List.toFinset_append, ← Finset.union_assoc, frontHostnames]

theorem reportOf_total (sync : Sync) (ctLog : Bytes) (stored : List HostnameRecord)
    (outcome : Outcome) :
    (sync.reportOf ctLog stored outcome).total =
      (sync.frontHostnames ctLog ∪ (stored.map HostnameRecord.hostname).toFinset).card := by
  rw [← toFinset_sources]
  exact length_eraseDups _

/-- What a run has by then is what was fetched and what was added to it. -/
theorem card_frontHostnames (sync : Sync) (ctLog : Bytes) (stored : List HostnameRecord)
    (outcome : Outcome) :
    (sync.frontHostnames ctLog).card =
      (sync.reportOf ctLog stored outcome).fetched +
        (sync.reportOf ctLog stored outcome).customAdded := by
  rw [fetched_add_customAdded, length_eraseDups, List.toFinset_append, frontHostnames]

theorem nodup_map_hostname_iff :
    (stored.map HostnameRecord.hostname).Nodup ↔ stored.Nodup := by
  refine List.nodup_map_iff ?_
  rintro ⟨hostname⟩ ⟨other⟩ heq
  exact congrArg HostnameRecord.mk heq

/-- **The report that sources call for tallies with them.** -/
theorem tallies_reportOf (sync : Sync) (ctLog : Bytes) (stored : List HostnameRecord)
    (outcome : Outcome) :
    sync.Tallies ctLog stored (sync.sources ctLog stored).eraseDups
      (sync.reportOf ctLog stored outcome) where
  fetched_eq := reportOf_fetched sync ctLog stored outcome
  customAdded_eq := reportOf_customAdded sync ctLog stored outcome
  existing_eq := rfl
  total_eq := rfl
  total_eq_card := reportOf_total sync ctLog stored outcome
  le_total := by
    rw [← card_frontHostnames, reportOf_total]
    exact Finset.card_le_card Finset.subset_union_left
  total_le := by
    have hlength := (stored.map HostnameRecord.hostname).toFinset_card_le
    rw [List.length_map] at hlength
    rw [← card_frontHostnames, reportOf_total]
    exact (Finset.card_union_le _ _).trans (Nat.add_le_add_left hlength _)
  total_eq_iff := by
    have hall := card_union_toFinset_eq_iff (sync.frontHostnames ctLog)
      (stored.map HostnameRecord.hostname)
    rw [List.length_map, nodup_map_hostname_iff, List.forall_mem_map] at hall
    rw [← card_frontHostnames, reportOf_total]
    refine hall.trans (and_congr_right fun _ => ?_)
    simp only [frontHostnames, Finset.mem_union, List.mem_toFinset, not_or]

/-- **Every report tallies with what its run has read and sent**, whether the list was accepted or
rejected. -/
theorem tallies_of_report (sync : Sync) (network : Network σ) (before : σ) (report : Report)
    (completed : (sync.run.over network before).result = .ok report) :
    ∃ ctLog stored put hostnames,
      sync.Sends network before ctLog stored put hostnames ∧
        sync.Tallies ctLog stored hostnames report := by
  obtain ⟨put, hmem, hput⟩ := exists_put_of_report completed
  obtain ⟨ctLog, stored, hostnames, hsends⟩ := exists_sends_of_put hmem hput
  refine ⟨ctLog, stored, put, hostnames, hsends, ?_⟩
  rw [hsends.report_eq completed, hsends.hostnames_eq]
  exact tallies_reportOf sync ctLog stored report.outcome

/-! ### A rejected list -/

/-- A network that serves the ragged CT log list and the loose records, and rejects what is put with
a body that breaks off. -/
def rejecting : Network Unit :=
  serving raggedCtLog looseRecords (.arrived ⟨409, by decide⟩ .brokenOff)

/-- The numbers of a run whose list was rejected: three hostnames were fetched, one of the two
custom ones was added, and of the two stored records one was new. -/
theorem tallies_rejected :
    (overlapping.run.over rejecting ()).result =
        .ok ⟨3, 1, 2, 5, .rejected ⟨409, by decide⟩ ""⟩ ∧
      ∃ ctLog stored put hostnames,
        overlapping.Sends rejecting () ctLog stored put hostnames ∧
          overlapping.Tallies ctLog stored hostnames
            ⟨3, 1, 2, 5, .rejected ⟨409, by decide⟩ ""⟩ := by
  have hsuccess : 200 ≤ Status.ok.code ∧ Status.ok.code ≤ 299 := by decide
  have hcourse : overlapping.Course rejecting () _ _ _ :=
    .answered ⟨rfl, .ok, hsuccess, rfl⟩ ⟨rfl, .ok, hsuccess, rfl⟩ rfl rfl
  have hresult : (overlapping.run.over rejecting ()).result =
      .ok ⟨3, 1, 2, 5, .rejected ⟨409, by decide⟩ ""⟩ := hcourse.settles.result_eq.trans rfl
  exact ⟨hresult, tallies_of_report overlapping rejecting () _ hresult⟩

end Sync

end ForbiddenHosts
