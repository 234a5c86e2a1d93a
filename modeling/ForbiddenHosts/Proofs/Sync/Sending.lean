import ForbiddenHosts.Proofs.Sync.Course

/-!
# Runs that come to send a list

A run that makes a put has come as far as a run can: its sources were read, and what they come to is
on its way.  `Sends` says what is then known, whatever becomes of the put: the bodies that were
read, the three requests, and the hostnames that the put carries.

Statements about what is sent need nothing else of a run.  Every run that makes a put sends
(`exists_sends_of_put`), every run that comes to a report makes one (`exists_put_of_report`), and
the report is the one that the sources call for (`Sends.report_eq`).
-/
namespace ForbiddenHosts

open Http Errand

namespace Sync

variable {σ : Type} {network : Network σ} {before middle late : σ} {sync : Sync}

/-- A run has read `ctLog` and `stored`, and sends `hostnames` with the request `put`. -/
structure Sends (sync : Sync) (network : Network σ) (before : σ) (ctLog : Bytes)
    (stored : List HostnameRecord) (put : Request) (hostnames : List String) : Prop where
  /-- The CT log list and the stored list arrived whole, one after the other, and no request was
  made besides those for the two and the put. -/
  asks : ∃ (fetch read : Request) (body : Bytes) (middle late : σ),
    StageYields network before sync.ctLogUrl CtLog.anyType fetch ctLog middle ∧
    StageYields network middle sync.storedAt ConfigApi.jsonType read body late ∧
    Json.decode Json.readRecords body = .ok stored ∧
    (sync.run.over network before).requests = [fetch, read, put]
  method_eq : put.method = .put
  /-- The body of the put is read as records of the hostnames. -/
  body_reads : Json.decode Json.readRecords put.body = .ok (hostnames.map HostnameRecord.mk)
  /-- The hostnames are those of the sources, each at its first place. -/
  hostnames_eq : hostnames = (sync.sources ctLog stored).eraseDups

section Inversion

variable {fetch read put : Request} {ctLog body : Bytes} {stored : List HostnameRecord}
  {report : Report}

theorem sends_publication
    (fetched : StageYields network before sync.ctLogUrl CtLog.anyType fetch ctLog middle)
    (kept : StageYields network middle sync.storedAt ConfigApi.jsonType read body late)
    (decoded : Json.decode Json.readRecords body = .ok stored)
    (requests_eq : (sync.run.over network before).requests =
      [fetch, read, sync.publication read.url ctLog stored]) :
    sync.Sends network before ctLog stored (sync.publication read.url ctLog stored)
      (sync.sources ctLog stored).eraseDups where
  asks := ⟨fetch, read, body, middle, late, fetched, kept, decoded, requests_eq⟩
  method_eq := rfl
  body_reads := Json.decode_published _
  hostnames_eq := rfl

/-- Of the three requests of a run that sends, the put is the last. -/
theorem eq_of_mem_of_put {last : Request}
    (fetched : StageYields network before sync.ctLogUrl CtLog.anyType fetch ctLog middle)
    (kept : StageYields network middle sync.storedAt ConfigApi.jsonType read body late)
    (mem : put ∈ [fetch, read, last]) (method_eq : put.method = .put) : put = last := by
  have hgets := fetched.gets (kept.gets (List.forall_mem_nil _))
  rcases List.mem_append.mp (show put ∈ [fetch, read] ++ [last] from mem) with hget | hlast
  · rw [hgets put hget] at method_eq
    cases method_eq
  · exact List.mem_singleton.mp hlast

/-- **A run that makes a put sends what its sources come to.** -/
theorem exists_sends_of_put (mem : put ∈ (sync.run.over network before).requests)
    (method_eq : put.method = .put) :
    ∃ ctLog stored hostnames, sync.Sends network before ctLog stored put hostnames := by
  obtain ⟨result, asked, after, course⟩ := exists_course sync network before
  have hasked := course.settles.requests_eq
  have hmem := mem
  rw [hasked] at hmem
  -- the courses that end before the publication ask for representations only
  have hgets_absurd (hgets : ∀ request ∈ asked, request.method = .get) : False := by
    rw [hgets put hmem] at method_eq
    cases method_eq
  cases course with
  | ctLogFails ctLog => exact (hgets_absurd ctLog.gets).elim
  | storedFails fetched kept => exact (hgets_absurd (fetched.gets kept.gets)).elim
  | storedUnread fetched kept unread =>
    exact (hgets_absurd (fetched.gets (kept.gets (List.forall_mem_nil _)))).elim
  | unanswered fetched kept decoded lost =>
    obtain rfl := eq_of_mem_of_put fetched kept hmem method_eq
    exact ⟨_, _, _, sends_publication fetched kept decoded hasked⟩
  | answered fetched kept decoded arrived =>
    obtain rfl := eq_of_mem_of_put fetched kept hmem method_eq
    exact ⟨_, _, _, sends_publication fetched kept decoded hasked⟩

/-- A run that comes to a report has made a put. -/
theorem exists_put_of_report (completed : (sync.run.over network before).result = .ok report) :
    ∃ put ∈ (sync.run.over network before).requests, put.method = .put := by
  obtain ⟨result, asked, after, course⟩ := exists_course sync network before
  have hresult := course.settles.result_eq.symm.trans completed
  have hasked := course.settles.requests_eq
  cases course with
  | ctLogFails ctLog => cases hresult
  | storedFails fetched kept => cases hresult
  | storedUnread fetched kept unread => cases hresult
  | unanswered fetched kept decoded lost => cases hresult
  | @answered fetch read ctLog _ _ _ _ stored _ _ fetched kept decoded arrived =>
    refine ⟨sync.publication read.url ctLog stored, ?_, rfl⟩
    rw [hasked]
    exact List.mem_append_right [fetch, read] (List.mem_singleton_self _)

variable {hostnames : List String}

/-- **The report of a run that sends is the one that its sources call for.** -/
theorem Sends.report_eq (h : sync.Sends network before ctLog stored put hostnames)
    (completed : (sync.run.over network before).result = .ok report) :
    report = sync.reportOf ctLog stored report.outcome := by
  obtain ⟨fetch, read, body, middle, late, fetched, kept, decoded, _⟩ := h.asks
  rcases answered : network.answer (sync.publication read.url ctLog stored) late with
    ⟨reply, after⟩
  cases reply with
  | lost failure =>
    have hresult := (Course.unanswered fetched kept decoded answered).settles.result_eq
    rw [completed] at hresult
    cases hresult
  | arrived status reply =>
    have hresult := (Course.answered fetched kept decoded answered).settles.result_eq
    rw [completed] at hresult
    cases hresult
    rfl

/-- What a run has read and sends is determined by the network. -/
theorem Sends.unique {ctLog' : Bytes} {stored' : List HostnameRecord} {put' : Request}
    {hostnames' : List String} (h : sync.Sends network before ctLog stored put hostnames)
    (h' : sync.Sends network before ctLog' stored' put' hostnames') :
    ctLog = ctLog' ∧ stored = stored' ∧ put = put' ∧ hostnames = hostnames' := by
  obtain ⟨fetch, read, body, middle, late, fetched, kept, decoded, hasked⟩ := h.asks
  obtain ⟨fetch', read', body', middle', late', fetched', kept', decoded', hasked'⟩ := h'.asks
  obtain ⟨rfl, rfl, rfl⟩ := fetched.unique fetched'
  obtain ⟨rfl, rfl, rfl⟩ := kept.unique kept'
  obtain rfl : stored = stored' := Except.ok.inj (decoded.symm.trans decoded')
  obtain rfl : put = put' := by simpa using hasked.symm.trans hasked'
  exact ⟨rfl, rfl, rfl, h.hostnames_eq.trans h'.hostnames_eq.symm⟩

end Inversion

/-! ### Networks that serve fixed lists -/

/-- A network that serves a CT log list and a stored list, and has one reply for every put. -/
def serving (ctLog stored : Bytes) (reply : Reply) : Network Unit where
  answer request _ :=
    match request.method with
    | .get => (.arrived .ok (.complete (if request.accept = "*/*" then ctLog else stored)), ())
    | .put => (reply, ())

end Sync

end ForbiddenHosts
