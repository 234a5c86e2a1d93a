import ForbiddenHosts.Proofs.Sync.Sources
import ForbiddenHosts.Proofs.Sync.Stage

/-!
# The course of a run

`Sync.Course` says how a run goes: the first stage that fails ends it with the error of that stage,
and nothing is asked after it; a run whose stages all succeed has made exactly three requests, of
which the last publishes what the sources come to.

`run_course` is the main statement: the transcripts of runs are exactly their courses, whatever
the network does.
-/
namespace ForbiddenHosts

open Http Errand

namespace Sync

variable {σ : Type} {network : Network σ} {before middle after : σ} {sync : Sync}

/-- How a run goes: its result, the requests that it makes, and the network's state at its end. -/
inductive Course (sync : Sync) (network : Network σ) (before : σ) :
    Except SyncError Report → List Request → σ → Prop where
  /-- The CT log list is not to be had: nothing is asked of the configuration API. -/
  | ctLogFails {e : SyncError} {asked : List Request} {after : σ}
      (ctLog : StageFails network before sync.ctLogUrl CtLog.anyType e asked after) :
      Course sync network before (.error e) asked after
  /-- The stored list is not to be had: nothing is published. -/
  | storedFails {fetch : Request} {ctLog : Bytes} {middle : σ} {e : SyncError}
      {asked : List Request} {after : σ}
      (fetched : StageYields network before sync.ctLogUrl CtLog.anyType fetch ctLog middle)
      (stored : StageFails network middle sync.storedAt ConfigApi.jsonType e asked after) :
      Course sync network before (.error e) (fetch :: asked) after
  /-- What is stored is no list of records: nothing is published. -/
  | storedUnread {fetch read : Request} {ctLog body : Bytes} {middle after : σ} {e : Json.Error}
      (fetched : StageYields network before sync.ctLogUrl CtLog.anyType fetch ctLog middle)
      (stored : StageYields network middle sync.storedAt ConfigApi.jsonType read body after)
      (unread : Json.decode Json.readRecords body = .error e) :
      Course sync network before (.error (.json e)) [fetch, read] after
  /-- The list is published, and no response arrives. -/
  | unanswered {fetch read : Request} {ctLog body : Bytes} {middle late after : σ}
      {records : List HostnameRecord} {failure : Failure}
      (fetched : StageYields network before sync.ctLogUrl CtLog.anyType fetch ctLog middle)
      (stored : StageYields network middle sync.storedAt ConfigApi.jsonType read body late)
      (decoded : Json.decode Json.readRecords body = .ok records)
      (lost : network.answer (sync.publication read.url ctLog records) late =
        (.lost failure, after)) :
      Course sync network before (.error (.http failure))
        [fetch, read, sync.publication read.url ctLog records] after
  /-- The list is published, and a response arrives, of whatever status and body. -/
  | answered {fetch read : Request} {ctLog body : Bytes} {middle late after : σ}
      {records : List HostnameRecord} {status : Status} {reply : Body}
      (fetched : StageYields network before sync.ctLogUrl CtLog.anyType fetch ctLog middle)
      (stored : StageYields network middle sync.storedAt ConfigApi.jsonType read body late)
      (decoded : Json.decode Json.readRecords body = .ok records)
      (arrived : network.answer (sync.publication read.url ctLog records) late =
        (.arrived status reply, after)) :
      Course sync network before (.ok (sync.reportOf ctLog records (outcomeOf status reply)))
        [fetch, read, sync.publication read.url ctLog records] after

/-! ### Runs -/

/-- The stages after the reading of the stored list. -/
def afterStored (sync : Sync) (fetched : HostnameList) (existing : List HostnameRecord) :
    Errand Report := do
  let merged := ((fetched.merge sync.customHostnames).2.mergeRecords existing).2
  Errand.note (.merged merged.size)
  let outcome ← sync.api.setForbiddenHostnames merged
  noteOutcome outcome
  return {
    fetched := fetched.size
    customAdded := (fetched.merge sync.customHostnames).1
    existing := existing.length
    total := merged.size
    outcome := outcome }

/-- The stages after the fetching of the CT log list. -/
def afterFetch (sync : Sync) (fetched : HostnameList) : Errand Report := do
  Errand.note (.customAdded (fetched.merge sync.customHostnames).1)
  let existing ← sync.api.forbiddenHostnames
  sync.afterStored fetched existing

theorem run_eq (sync : Sync) : sync.run = CtLog.fetch sync.ctLogUrl >>= sync.afterFetch := rfl

/-- **A course is what comes of a run.** -/
theorem Course.settles {result : Except SyncError Report} {asked : List Request}
    (h : sync.Course network before result asked after) :
    sync.run.Settles network before result asked after := by
  rw [run_eq]
  cases h with
  | ctLogFails ctLog => exact (settles_fetch_of_fails ctLog).bind_error
  | storedFails fetched stored =>
    refine (settles_fetch_of_yields fetched).bind (Settles.after_note ?_)
    exact (settles_stored_of_fails stored).bind_error
  | storedUnread fetched stored unread =>
    refine (settles_fetch_of_yields fetched).bind (Settles.after_note ?_)
    exact (settles_stored_unread stored unread).bind_error
  | @unanswered fetch read ctLog body _ _ _ records _ fetched stored decoded lost =>
    refine (settles_fetch_of_yields fetched).bind (Settles.after_note ?_)
    refine (settles_stored_decoded stored decoded).bind (Settles.after_note ?_)
    refine (settles_set_lost ?_ lost).bind_error
    -- The put goes to the URL that was read, so it can be made.
    rw [encode_merged]
    exact make_eq_of_make stored.made
  | @answered fetch read ctLog body _ _ _ records status reply fetched stored decoded arrived =>
    refine (settles_fetch_of_yields fetched).bind (Settles.after_note ?_)
    refine (settles_stored_decoded stored decoded).bind (Settles.after_note ?_)
    refine (settles_set_arrived ?_ arrived).bind_quiet (Settles.after_note ?_)
    · rw [encode_merged]
      exact make_eq_of_make stored.made
    · rw [report_eq]
      exact settles_pure _

/-- Every run takes a course. -/
theorem exists_course (sync : Sync) (network : Network σ) (before : σ) :
    ∃ result asked after, sync.Course network before result asked after := by
  rcases stage_fails_or_yields network before sync.ctLogUrl CtLog.anyType with
    ⟨e, asked, after, ctLog⟩ | ⟨fetch, ctLog, middle, fetched⟩
  · exact ⟨_, _, _, .ctLogFails ctLog⟩
  rcases stage_fails_or_yields network middle sync.storedAt ConfigApi.jsonType with
    ⟨e, asked, after, stored⟩ | ⟨read, body, late, stored⟩
  · exact ⟨_, _, _, .storedFails fetched stored⟩
  cases decoded : Json.decode Json.readRecords body with
  | error e => exact ⟨_, _, _, .storedUnread fetched stored decoded⟩
  | ok records =>
    rcases answered : network.answer (sync.publication read.url ctLog records) late with
      ⟨reply, after⟩
    cases reply with
    | lost failure => exact ⟨_, _, _, .unanswered fetched stored decoded answered⟩
    | arrived status reply => exact ⟨_, _, _, .answered fetched stored decoded answered⟩

/-- **How a run goes is determined by the first stage that fails**: the transcripts of runs are
exactly their courses. -/
theorem run_course (sync : Sync) (network : Network σ) (before : σ)
    (result : Except SyncError Report) (asked : List Request) (after : σ) :
    sync.Course network before result asked after ↔
      (sync.run.over network before).result = result ∧
        (sync.run.over network before).requests = asked ∧
        (sync.run.over network before).world = after := by
  constructor
  · intro h
    exact ⟨h.settles.result_eq, h.settles.requests_eq, h.settles.world_eq⟩
  · rintro ⟨rfl, rfl, rfl⟩
    obtain ⟨result, asked, after, h⟩ := exists_course sync network before
    obtain ⟨hresult, hasked, hafter⟩ := h.settles.unique (settles_over network sync.run before)
    rw [← hresult, ← hasked, ← hafter]
    exact h

end Sync

end ForbiddenHosts
