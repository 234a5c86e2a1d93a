import ForbiddenHosts.Proofs.Sync.Course
import ForbiddenHosts.Proofs.Sync.Publication

/-!
# Runs made again

A server **keeps** a list for a run (`Sync.KeptBy`): it serves the CT log list and the stored list
whenever they are asked for, and a list that is put takes the place of the stored one when the put
is accepted.  What becomes of a put that is rejected, or whose reply is lost, is left open: the
stored list is then the old one or the new one.

Once a run has been accepted, its list is **settled**: the hostnames of the CT log list and the
custom hostnames stand in front of it already, so stringing them together with it again and keeping
first places gives the same list.  Since the published bytes read back as the published records,
every later run publishes the same bytes, however many there are and whatever replies their puts
get.

`repeats_of_accepted` is the main statement.
-/
namespace ForbiddenHosts

open Http Errand

namespace Sync

variable {σ : Type} {network : Network σ} {stored : σ → Bytes} {ctLog : Bytes} {before after : σ}
  {sync first : Sync}

/-- A network serves `ctLog` as the CT log list of a run and `stored` as its stored list, which an
accepted put replaces. -/
structure KeptBy (sync : Sync) (network : Network σ) (stored : σ → Bytes) (ctLog : Bytes) :
    Prop where
  serves_ctLog : ∀ world, ∃ request after,
    StageYields network world sync.ctLogUrl CtLog.anyType request ctLog after ∧
      stored after = stored world
  serves_stored : ∀ world, ∃ request after,
    StageYields network world sync.storedAt ConfigApi.jsonType request (stored world) after ∧
      stored after = stored world
  /-- An accepted put replaces the stored list. -/
  accepts : ∀ {url : Url} {body : Bytes} {world after : σ} {status : Status} {reply : Body},
    Url.parse sync.storedAt = .ok url →
    network.answer ⟨.put, url, ConfigApi.jsonType, some ConfigApi.jsonType, body⟩ world =
      (.arrived status reply, after) →
    200 ≤ status.code ∧ status.code ≤ 299 → stored after = body
  /-- Any put replaces the stored list or leaves it as it is. -/
  replaces_or_leaves : ∀ {url : Url} {body : Bytes} {world after : σ} {reply : Reply},
    Url.parse sync.storedAt = .ok url →
    network.answer ⟨.put, url, ConfigApi.jsonType, some ConfigApi.jsonType, body⟩ world =
      (reply, after) →
    stored after = body ∨ stored after = stored world

/-! ### Settled lists -/

/-- The CT log list and the custom hostnames add nothing to a settled list, nor do they move any of
its hostnames. -/
def Settled (sync : Sync) (ctLog : Bytes) (hostnames : List String) : Prop :=
  (sync.sources ctLog (hostnames.map HostnameRecord.mk)).eraseDups = hostnames

theorem map_hostname_mk (hostnames : List String) :
    (hostnames.map HostnameRecord.mk).map HostnameRecord.hostname = hostnames := by
  rw [List.map_map]
  exact List.map_id _

/-- **What a run publishes is settled.** -/
theorem settled_sources (sync : Sync) (ctLog : Bytes) (records : List HostnameRecord) :
    sync.Settled ctLog (sync.sources ctLog records).eraseDups := by
  have hfront (others : List String) :
      ctLogHostnames ctLog ++ (sync.customHostnames ++ others) =
        ctLogHostnames ctLog ++ sync.customHostnames ++ others := (List.append_assoc _ _ _).symm
  rw [Settled, sources, map_hostname_mk, sources, hfront, hfront]
  calc
    _ = (ctLogHostnames ctLog ++ sync.customHostnames ++
          (ctLogHostnames ctLog ++ sync.customHostnames ++
            records.map HostnameRecord.hostname)).eraseDups :=
      FirstPlaces.eraseDups_append_eraseDups _ _
    _ = _ := FirstPlaces.eraseDups_append_self _ _

/-- Of a run, only the custom hostnames matter. -/
theorem Settled.congr {hostnames : List String} (h : first.Settled ctLog hostnames)
    (alike : sync.customHostnames = first.customHostnames) : sync.Settled ctLog hostnames := by
  rw [Settled, sources, alike]
  exact h

/-- A report that is made again: what was published is now what was stored. -/
theorem reportOf_again (alike : sync.customHostnames = first.customHostnames)
    (records : List HostnameRecord) (outcome outcome' : Outcome) :
    sync.reportOf ctLog ((first.sources ctLog records).eraseDups.map HostnameRecord.mk) outcome' =
      { first.reportOf ctLog records outcome with
        existing := (first.reportOf ctLog records outcome).total
        outcome := outcome' } := by
  have hsettled := (settled_sources first ctLog records).congr alike
  rw [Settled] at hsettled
  simp only [reportOf, hsettled, alike, List.length_map]

/-! ### One run -/

/-- A transcript repeats a publication: one put with the same body came last, and the report gives
the same numbers, with all that was published stored before; there is no report only if the reply to
the put was lost. -/
def Repeats (network : Network σ) (body : Bytes) (report : Report)
    (t : Transcript Event σ (Except SyncError Report)) : Prop :=
  ∃ fetch read put : Request,
    t.requests = [fetch, read, put] ∧ fetch.method = .get ∧ read.method = .get ∧
      put.method = .put ∧ put.body = body ∧
      ((∃ outcome,
          t.result = .ok { report with existing := report.total, outcome := outcome }) ∨
        ∃ failure late after, network.answer put late = (.lost failure, after) ∧
          t.result = .error (.http failure))

/-- The URL of the stored list is the one that was read. -/
theorem parse_of_stageYields {address accept : String} {request : Request} {body : Bytes}
    (h : StageYields network before address accept request body after) :
    Url.parse address = .ok request.url := by
  obtain ⟨url, parsed, _, rfl⟩ := make_eq_ok_iff.mp h.made
  exact parsed

/-- **One run over a settled list publishes it again and leaves it stored.** -/
theorem KeptBy.repeats (keeps : sync.KeptBy network stored ctLog)
    (alike : sync.customHostnames = first.customHostnames) (records : List HostnameRecord)
    (outcome : Outcome)
    (hstored : stored before = Json.published (first.sources ctLog records).eraseDups) :
    Repeats network (Json.published (first.sources ctLog records).eraseDups)
        (first.reportOf ctLog records outcome) (sync.run.over network before) ∧
      stored (sync.run.over network before).world =
        Json.published (first.sources ctLog records).eraseDups := by
  have hsettled := (settled_sources first ctLog records).congr alike
  rw [Settled] at hsettled
  obtain ⟨fetch, middle, fetched, hmiddle⟩ := keeps.serves_ctLog before
  obtain ⟨read, late, kept, hlate⟩ := keeps.serves_stored middle
  have hcurrent := hmiddle.trans hstored
  have decoded := Json.decode_published (first.sources ctLog records).eraseDups
  rw [← hcurrent] at decoded
  have hbody : (sync.publication read.url ctLog
      ((first.sources ctLog records).eraseDups.map HostnameRecord.mk)).body =
        Json.published (first.sources ctLog records).eraseDups :=
    congrArg Json.published hsettled
  rcases answered : network.answer (sync.publication read.url ctLog
    ((first.sources ctLog records).eraseDups.map HostnameRecord.mk)) late with ⟨reply, after⟩
  -- Whether the put was carried out or not, the same list is stored.
  have hafter : stored after = Json.published (first.sources ctLog records).eraseDups := by
    rcases keeps.replaces_or_leaves (parse_of_stageYields kept) answered with hnew | hold
    · exact hnew.trans hbody
    · exact hold.trans (hlate.trans hcurrent)
  cases reply with
  | lost failure =>
    have hcourse := (Course.unanswered fetched kept decoded answered).settles
    refine ⟨⟨fetch, read, _, hcourse.requests_eq, method_of_make fetched.made,
      method_of_make kept.made, rfl, hbody, Or.inr ⟨failure, late, after, answered, ?_⟩⟩, ?_⟩
    · exact hcourse.result_eq
    · rw [hcourse.world_eq]
      exact hafter
  | arrived status reply =>
    have hcourse := (Course.answered fetched kept decoded answered).settles
    refine ⟨⟨fetch, read, _, hcourse.requests_eq, method_of_make fetched.made,
      method_of_make kept.made, rfl, hbody, Or.inl ⟨outcomeOf status reply, ?_⟩⟩, ?_⟩
    · rw [hcourse.result_eq]
      exact congrArg Except.ok (reportOf_again alike records outcome _)
    · rw [hcourse.world_eq]
      exact hafter

/-! ### Many runs -/

/-- Runs made one after the other on one network. -/
def runAll (network : Network σ) :
    List Sync → σ → List (Transcript Event σ (Except SyncError Report))
  | [], _ => []
  | sync :: syncs, before =>
    sync.run.over network before ::
      runAll network syncs (sync.run.over network before).world

theorem KeptBy.repeats_all {others : List Sync}
    (keeps : ∀ sync ∈ others, sync.KeptBy network stored ctLog)
    (alike : ∀ sync ∈ others, sync.customHostnames = first.customHostnames)
    (records : List HostnameRecord) (outcome : Outcome)
    (hstored : stored before = Json.published (first.sources ctLog records).eraseDups) :
    ∀ t ∈ runAll network others before,
      Repeats network (Json.published (first.sources ctLog records).eraseDups)
        (first.reportOf ctLog records outcome) t := by
  induction others generalizing before with
  | nil => intro t ht; cases ht
  | cons sync others ih =>
    obtain ⟨hsync, hkeeps⟩ := List.forall_mem_cons.mp keeps
    obtain ⟨hcustom, halike⟩ := List.forall_mem_cons.mp alike
    obtain ⟨hrepeats, hafter⟩ := hsync.repeats hcustom records outcome hstored
    intro t ht
    rw [runAll] at ht
    rcases List.mem_cons.mp ht with rfl | ht
    · exact hrepeats
    · exact ih hkeeps halike hafter t ht

theorem success_of_isAccepted {status : Status} {reply : Body}
    (h : (outcomeOf status reply).isAccepted = true) :
    200 ≤ status.code ∧ status.code ≤ 299 := by
  by_cases hstatus : 200 ≤ status.code ∧ status.code ≤ 299
  · exact hstatus
  · rw [outcomeOf, if_neg hstatus] at h
    cases h

/-- **Once a run has been accepted, every later run publishes the same bytes**, and reports the same
numbers, with all that it publishes stored before. -/
theorem repeats_of_accepted (network : Network σ) (stored : σ → Bytes) (ctLog : Bytes)
    (first : Sync) (others : List Sync) (before : σ) (report : Report)
    (keeps : ∀ sync ∈ first :: others, sync.KeptBy network stored ctLog)
    (alike : ∀ sync ∈ others, sync.customHostnames = first.customHostnames)
    (completed : (first.run.over network before).result = .ok report)
    (accepted : report.outcome.isAccepted = true) :
    ∃ fetch read put : Request,
      (first.run.over network before).requests = [fetch, read, put] ∧ put.method = .put ∧
        ∀ t ∈ runAll network others (first.run.over network before).world,
          Repeats network put.body report t := by
  obtain ⟨hfirst, hothers⟩ := List.forall_mem_cons.mp keeps
  obtain ⟨result, asked, after, course⟩ := exists_course first network before
  have hresult := course.settles.result_eq.symm.trans completed
  have hasked := course.settles.requests_eq
  have hworld := course.settles.world_eq
  cases course with
  | ctLogFails ctLog => cases hresult
  | storedFails fetched kept => cases hresult
  | storedUnread fetched kept unread => cases hresult
  | unanswered fetched kept decoded lost => cases hresult
  | @answered fetch read fetchedLog body _ _ _ records status reply fetched kept decoded arrived =>
    cases hresult
    -- The CT log list that the first run fetched is the one that the server keeps.
    obtain ⟨request, middle, hserves, _⟩ := hfirst.serves_ctLog before
    obtain ⟨_, rfl, _⟩ := fetched.unique hserves
    have hafter := hfirst.accepts (parse_of_stageYields kept) arrived
      (success_of_isAccepted accepted)
    refine ⟨fetch, read, _, hasked, rfl, ?_⟩
    refine KeptBy.repeats_all hothers alike records _ ?_
    rw [hworld]
    exact hafter

/-! ### A server for one list -/

/-- A stored list, and the number of puts so far. -/
structure Shelf where
  list : Bytes
  puts : Nat

/-- A server that rejects the second put and loses the reply to the third. -/
def fickleShelf : Network Shelf where
  answer request shelf :=
    match request.method with
    | .get =>
      (.arrived .ok (.complete (if request.accept = "*/*" then raggedCtLog else shelf.list)), shelf)
    | .put =>
      match shelf.puts with
      | 1 => (.arrived ⟨503, by decide⟩ .brokenOff, ⟨shelf.list, 2⟩)
      | 2 => (.lost (.noReply request.url), ⟨request.body, 3⟩)
      | n => (.arrived .ok (.complete []), ⟨request.body, n + 1⟩)

theorem keptBy_fickleShelf : overlapping.KeptBy fickleShelf Shelf.list raggedCtLog where
  serves_ctLog shelf := ⟨_, shelf, ⟨rfl, .ok, by decide, rfl⟩, rfl⟩
  serves_stored shelf := ⟨_, shelf, ⟨rfl, .ok, by decide, rfl⟩, rfl⟩
  accepts := by
    rintro url body ⟨list, puts⟩ after status reply _ hanswer hsuccess
    match puts, hanswer with
    | 0, hanswer => cases hanswer; rfl
    | 1, hanswer => cases hanswer; exact absurd hsuccess (by decide)
    | 2, hanswer => cases hanswer
    | n + 3, hanswer => cases hanswer; rfl
  replaces_or_leaves := by
    rintro url body ⟨list, puts⟩ after reply _ hanswer
    match puts, hanswer with
    | 0, hanswer => cases hanswer; exact Or.inl rfl
    | 1, hanswer => cases hanswer; exact Or.inr rfl
    | 2, hanswer => cases hanswer; exact Or.inl rfl
    | n + 3, hanswer => cases hanswer; exact Or.inl rfl

/-- Three runs after an accepted one, of which one is rejected and one gets no reply. -/
theorem repeats_overlapping :
    (overlapping.run.over fickleShelf ⟨looseRecords, 0⟩).result =
        .ok ⟨3, 1, 2, 5, .accepted .ok⟩ ∧
      ∃ fetch read put : Request,
        (overlapping.run.over fickleShelf ⟨looseRecords, 0⟩).requests = [fetch, read, put] ∧
          put.method = .put ∧
          ∀ t ∈ runAll fickleShelf [overlapping, overlapping, overlapping]
              (overlapping.run.over fickleShelf ⟨looseRecords, 0⟩).world,
            Repeats fickleShelf put.body ⟨3, 1, 2, 5, .accepted .ok⟩ t := by
  have hsuccess : 200 ≤ Status.ok.code ∧ Status.ok.code ≤ 299 := by decide
  have hcourse : overlapping.Course fickleShelf ⟨looseRecords, 0⟩ _ _ _ :=
    .answered ⟨rfl, .ok, hsuccess, rfl⟩ ⟨rfl, .ok, hsuccess, rfl⟩ rfl rfl
  have hresult : (overlapping.run.over fickleShelf ⟨looseRecords, 0⟩).result =
      .ok ⟨3, 1, 2, 5, .accepted .ok⟩ := hcourse.settles.result_eq.trans rfl
  refine ⟨hresult, ?_⟩
  refine repeats_of_accepted fickleShelf Shelf.list raggedCtLog overlapping
    [overlapping, overlapping, overlapping] ⟨looseRecords, 0⟩ _ ?_ ?_ hresult rfl
  · intro sync hsync
    obtain rfl : sync = overlapping := by simpa using hsync
    exact keptBy_fickleShelf
  · intro sync hsync
    obtain rfl : sync = overlapping := by simpa using hsync
    rfl

end Sync

end ForbiddenHosts
