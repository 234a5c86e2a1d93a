import ForbiddenHosts.Proofs.Sync.Publication
import ForbiddenHosts.Proofs.Sync.Sending

/-!
# Runs that send the same hostnames

Two runs may read the same hostnames in another order, with other repeats, and from other sources:
a hostname that one finds in its CT log list may be a custom one of the other, or stored there.
`Agree` says that none of this can be seen in what they send, beyond its order.  It compares any two
runs that make a put, on networks that have nothing to do with each other, and whatever becomes of
the puts.

Where the CT log lists and the custom hostnames are the same, the order is the same too, as far as
they go: what is stored only decides what follows.

`agree_of_puts` is the main statement.
-/
namespace ForbiddenHosts

open Http Errand

namespace Sync

/-- **What two runs send**, of which one has read `ctLog` and `stored`, sends `hostnames` and ends
with `result`, and the other has read `ctLog'` and `stored'`, sends `hostnames'` and ends with
`result'`. -/
structure Agree (sync sync' : Sync) (ctLog ctLog' : Bytes) (stored stored' : List HostnameRecord)
    (hostnames hostnames' : List String) (result result' : Except SyncError Report) : Prop where
  /-- From the same set of hostnames they send the same hostnames, each once, in some order, and
  they report the same total. -/
  perm : (∀ hostname,
      hostname ∈ sync.sources ctLog stored ↔ hostname ∈ sync'.sources ctLog' stored') →
    hostnames.Perm hostnames' ∧
      ∀ report report', result = .ok report → result' = .ok report' → report.total = report'.total
  /-- From the same CT log list and custom hostnames, and whatever is stored, they send the same
  hostnames first, as many as were fetched and added. -/
  front : ctLogHostnames ctLog = ctLogHostnames ctLog' →
    sync.customHostnames = sync'.customHostnames →
      ∃ front, front <+: hostnames ∧ front <+: hostnames' ∧
        front = (ctLogHostnames ctLog ++ sync.customHostnames).eraseDups ∧
        ∀ report, result = .ok report ∨ result' = .ok report →
          front.length = report.fetched + report.customAdded

/-! ### One run -/

section OneRun

variable {σ : Type} {network : Network σ} {before : σ} {sync : Sync} {ctLog : Bytes}
  {stored : List HostnameRecord} {put : Request} {hostnames : List String} {report : Report}

theorem Sends.nodup (h : sync.Sends network before ctLog stored put hostnames) :
    hostnames.Nodup := by
  rw [h.hostnames_eq]
  exact FirstPlaces.nodup_eraseDups _

theorem Sends.mem_iff (h : sync.Sends network before ctLog stored put hostnames)
    (hostname : String) : hostname ∈ hostnames ↔ hostname ∈ sync.sources ctLog stored := by
  rw [h.hostnames_eq, List.mem_eraseDups]

theorem Sends.total_eq (h : sync.Sends network before ctLog stored put hostnames)
    (completed : (sync.run.over network before).result = .ok report) :
    report.total = hostnames.length := by
  rw [h.report_eq completed, h.hostnames_eq]
  rfl

/-- What a run has before it reads the stored list comes first in what it sends. -/
theorem Sends.front_prefix (h : sync.Sends network before ctLog stored put hostnames) :
    (ctLogHostnames ctLog ++ sync.customHostnames).eraseDups <+: hostnames := by
  have happend := @List.eraseDups_append _ _ _ (ctLogHostnames ctLog ++ sync.customHostnames)
    (stored.map HostnameRecord.hostname)
  rw [h.hostnames_eq, sources, ← List.append_assoc, happend]
  exact List.prefix_append _ _

theorem Sends.front_length (h : sync.Sends network before ctLog stored put hostnames)
    (completed : (sync.run.over network before).result = .ok report) :
    (ctLogHostnames ctLog ++ sync.customHostnames).eraseDups.length =
      report.fetched + report.customAdded := by
  rw [h.report_eq completed]
  exact (fetched_add_customAdded sync ctLog stored report.outcome).symm

end OneRun

/-! ### Two runs -/

section TwoRuns

variable {σ σ' : Type} {network : Network σ} {network' : Network σ'} {before : σ} {before' : σ'}
  {sync sync' : Sync} {ctLog ctLog' : Bytes} {stored stored' : List HostnameRecord}
  {put put' : Request} {hostnames hostnames' : List String}

/-- **Lists that hold the same hostnames, each once, differ by their order only.** -/
theorem Sends.perm (h : sync.Sends network before ctLog stored put hostnames)
    (h' : sync'.Sends network' before' ctLog' stored' put' hostnames')
    (same : ∀ hostname,
      hostname ∈ sync.sources ctLog stored ↔ hostname ∈ sync'.sources ctLog' stored') :
    hostnames.Perm hostnames' := by
  refine (List.perm_ext_iff_of_nodup h.nodup h'.nodup).mpr ?_
  intro hostname
  rw [h.mem_iff, h'.mem_iff]
  exact same hostname

theorem Sends.agree (h : sync.Sends network before ctLog stored put hostnames)
    (h' : sync'.Sends network' before' ctLog' stored' put' hostnames') :
    Agree sync sync' ctLog ctLog' stored stored' hostnames hostnames'
      (sync.run.over network before).result (sync'.run.over network' before').result where
  perm := by
    intro same
    have hperm := h.perm h' same
    refine ⟨hperm, ?_⟩
    intro report report' completed completed'
    rw [h.total_eq completed, h'.total_eq completed', hperm.length_eq]
  front := by
    intro hctLog hcustom
    have hfront : (ctLogHostnames ctLog ++ sync.customHostnames).eraseDups =
        (ctLogHostnames ctLog' ++ sync'.customHostnames).eraseDups := by rw [hctLog, hcustom]
    refine ⟨_, h.front_prefix, ?_, rfl, ?_⟩
    · rw [hfront]
      exact h'.front_prefix
    · rintro report (completed | completed)
      · exact h.front_length completed
      · rw [hfront]
        exact h'.front_length completed

end TwoRuns

/-- **What a run sends depends on the set of its hostnames only**, up to order: any two runs that
make a put agree. -/
theorem agree_of_puts {σ σ' : Type} (sync sync' : Sync) (network : Network σ)
    (network' : Network σ') (before : σ) (before' : σ') (put put' : Request)
    (sent : put ∈ (sync.run.over network before).requests ∧ put.method = .put)
    (sent' : put' ∈ (sync'.run.over network' before').requests ∧ put'.method = .put) :
    ∃ ctLog stored hostnames ctLog' stored' hostnames',
      sync.Sends network before ctLog stored put hostnames ∧
        sync'.Sends network' before' ctLog' stored' put' hostnames' ∧
          Agree sync sync' ctLog ctLog' stored stored' hostnames hostnames'
            (sync.run.over network before).result (sync'.run.over network' before').result := by
  obtain ⟨ctLog, stored, hostnames, hsends⟩ := exists_sends_of_put sent.1 sent.2
  obtain ⟨ctLog', stored', hostnames', hsends'⟩ := exists_sends_of_put sent'.1 sent'.2
  exact ⟨ctLog, stored, hostnames, ctLog', stored', hostnames', hsends, hsends',
    hsends.agree hsends'⟩

/-! ### A stored list in another order -/

/-- A network that serves the ragged CT log list and a stored list, and accepts what is put. -/
def storing (stored : List String) : Network Unit :=
  serving raggedCtLog (Json.published stored) (.arrived .ok (.complete []))

theorem exists_put_storing (stored : List String) :
    ∃ put, (put ∈ (overlapping.run.over (storing stored) ()).requests ∧ put.method = .put) ∧
      overlapping.Sends (storing stored) () raggedCtLog (stored.map HostnameRecord.mk) put
        (overlapping.sources raggedCtLog (stored.map HostnameRecord.mk)).eraseDups := by
  have hsuccess : 200 ≤ Status.ok.code ∧ Status.ok.code ≤ 299 := by decide
  obtain ⟨fetch, fetched⟩ : ∃ fetch, StageYields (storing stored) () overlapping.ctLogUrl
      CtLog.anyType fetch raggedCtLog () := ⟨_, rfl, .ok, hsuccess, rfl⟩
  obtain ⟨read, kept⟩ : ∃ read, StageYields (storing stored) () overlapping.storedAt
      ConfigApi.jsonType read (Json.published stored) () := ⟨_, rfl, .ok, hsuccess, rfl⟩
  have decoded := Json.decode_published stored
  have arrived : (storing stored).answer (overlapping.publication read.url raggedCtLog
      (stored.map HostnameRecord.mk)) () = (.arrived .ok (.complete []), ()) := rfl
  have hasked := (Course.answered fetched kept decoded arrived).settles.requests_eq
  refine ⟨_, ⟨?_, rfl⟩, sends_publication fetched kept decoded hasked⟩
  rw [hasked]
  exact List.mem_append_right [fetch, read] (List.mem_singleton_self _)

/-- Two stored hostnames that are new, and one that is not, in one order and in another with a
repeat: four hostnames stay in front, and the new ones change places behind them. -/
theorem agree_reordered :
    ∃ put put' : Request,
      (put ∈ (overlapping.run.over
          (storing ["d.example", "e.example", "c.example"]) ()).requests ∧ put.method = .put) ∧
      (put' ∈ (overlapping.run.over
          (storing ["e.example", "c.example", "e.example", "d.example"]) ()).requests ∧
        put'.method = .put) ∧
      ∃ hostnames hostnames',
        Json.decode Json.readRecords put.body = .ok (hostnames.map HostnameRecord.mk) ∧
        Json.decode Json.readRecords put'.body = .ok (hostnames'.map HostnameRecord.mk) ∧
        hostnames.Perm hostnames' ∧ hostnames ≠ hostnames' ∧
        ["a.example", "b.example", "a\uFFFD", "c.example"] <+: hostnames ∧
        ["a.example", "b.example", "a\uFFFD", "c.example"] <+: hostnames' := by
  obtain ⟨put, sent, hput⟩ := exists_put_storing ["d.example", "e.example", "c.example"]
  obtain ⟨put', sent', hput'⟩ :=
    exists_put_storing ["e.example", "c.example", "e.example", "d.example"]
  refine ⟨put, put', sent, sent', ?_⟩
  obtain ⟨ctLog, stored, hostnames, ctLog', stored', hostnames', hsends, hsends', hagree⟩ :=
    agree_of_puts overlapping overlapping _ _ () () put put' sent sent'
  obtain ⟨rfl, rfl, -, hhostnames⟩ := hput.unique hsends
  obtain ⟨rfl, rfl, -, hhostnames'⟩ := hput'.unique hsends'
  have hperm := (hagree.perm fun hostname => by
    rw [mem_sources_iff, mem_sources_iff]
    simp only [List.map_cons, List.map_nil, List.mem_cons, List.not_mem_nil, or_false]
    tauto).1
  obtain ⟨front, hfront, hfront', hfront_eq, -⟩ := hagree.front rfl rfl
  obtain rfl : front = ["a.example", "b.example", "a\uFFFD", "c.example"] := hfront_eq.trans rfl
  refine ⟨hostnames, hostnames', hsends.body_reads, hsends'.body_reads, hperm, ?_, hfront,
    hfront'⟩
  rw [← hhostnames, ← hhostnames']
  decide

end Sync

end ForbiddenHosts
