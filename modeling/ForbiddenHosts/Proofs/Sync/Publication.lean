import ForbiddenHosts.Proofs.Sync.Course

/-!
# What a completed run has published

A run that comes to a report has made three requests: it fetched the CT log list, read the stored
list, and put a list in the place of the latter.  `Sync.Publishes` says which list that is, from
the two bodies that were read and the custom hostnames, and what the sources are promised: nothing
of them is lost, nothing is invented, nothing is published twice, and the CT log list comes first,
then the custom hostnames, then what was stored.

`publishes_of_report` is the main statement.
-/
namespace ForbiddenHosts

open Http Errand

namespace Sync

variable {σ : Type}

/-- A run has fetched `ctLog` from `ctLogUrl`, read `records` in `stored` at `storedUrl`, and
published `hostnames` there, with these three requests and no other. -/
structure Publishes (sync : Sync) (network : Network σ) (before : σ) (ctLogUrl storedUrl : Url)
    (ctLog stored : Bytes) (records : List HostnameRecord) (hostnames : List String) : Prop where
  /-- The first address is the one given for the CT log list. -/
  ctLogUrl_eq : Url.parse sync.ctLogUrl = .ok ctLogUrl
  /-- The second and third address is the one of the stored list. -/
  storedUrl_eq : Url.parse (sync.api.endpoint "forbidden-hostnames") = .ok storedUrl
  /-- The two bodies arrived whole, under a status of success. -/
  answers : ∃ (fetched read : Status) (middle late : σ),
    (200 ≤ fetched.code ∧ fetched.code ≤ 299) ∧ (200 ≤ read.code ∧ read.code ≤ 299) ∧
    network.answer ⟨.get, ctLogUrl, "*/*", none, []⟩ before =
      (.arrived fetched (.complete ctLog), middle) ∧
    network.answer ⟨.get, storedUrl, "application/json", none, []⟩ middle =
      (.arrived read (.complete stored), late)
  /-- What was stored is a list of records. -/
  decoded : Json.decode Json.readRecords stored = .ok records
  /-- Three requests went out. -/
  requests_eq : (sync.run.over network before).requests =
    [⟨.get, ctLogUrl, "*/*", none, []⟩,
      ⟨.get, storedUrl, "application/json", none, []⟩,
      ⟨.put, storedUrl, "application/json", some "application/json", Json.published hostnames⟩]
  /-- The sources are strung together, and each hostname kept at its first place. -/
  hostnames_eq : hostnames = (Text.trimmedLines (Utf8.decode ctLog) ++
    (sync.customHostnames ++ records.map HostnameRecord.hostname)).eraseDups
  /-- Nothing is lost and nothing is invented. -/
  mem_iff : ∀ hostname, hostname ∈ hostnames ↔
    hostname ∈ Text.trimmedLines (Utf8.decode ctLog) ∨ hostname ∈ sync.customHostnames ∨
      ⟨hostname⟩ ∈ records
  /-- Nothing is published twice. -/
  nodup : hostnames.Nodup
  /-- Who reads what was published finds these hostnames. -/
  read_back : Json.decode Json.readRecords (Json.published hostnames) =
    .ok (hostnames.map HostnameRecord.mk)

theorem mem_sources_iff (sync : Sync) (ctLog : Bytes) (stored : List HostnameRecord)
    (hostname : String) :
    hostname ∈ sync.sources ctLog stored ↔
      hostname ∈ ctLogHostnames ctLog ∨ hostname ∈ sync.customHostnames ∨ ⟨hostname⟩ ∈ stored := by
  rw [sources, List.mem_append, List.mem_append, List.mem_map]
  refine or_congr_right (or_congr_right ?_)
  constructor
  · rintro ⟨record, hrecord, rfl⟩
    exact hrecord
  · intro hstored
    exact ⟨⟨hostname⟩, hstored, rfl⟩

/-- **A run that comes to a report has published what its sources come to.** -/
theorem publishes_of_report (sync : Sync) (network : Network σ) (before : σ) (report : Report)
    (completed : (sync.run.over network before).result = .ok report) :
    ∃ ctLogUrl storedUrl ctLog stored records hostnames,
      sync.Publishes network before ctLogUrl storedUrl ctLog stored records hostnames := by
  obtain ⟨result, asked, after, course⟩ := exists_course sync network before
  have hresult := course.settles.result_eq.symm.trans completed
  have hasked := course.settles.requests_eq
  -- Of the courses only the last comes to a report.
  cases course with
  | ctLogFails ctLog => cases hresult
  | storedFails fetched stored => cases hresult
  | storedUnread fetched stored unread => cases hresult
  | unanswered fetched stored decoded lost => cases hresult
  | @answered fetch read ctLog body middle late _ records status reply fetched stored decoded _ =>
    obtain ⟨ctLogUrl, hctLogUrl, _, rfl⟩ := make_eq_ok_iff.mp fetched.made
    obtain ⟨storedUrl, hstoredUrl, _, rfl⟩ := make_eq_ok_iff.mp stored.made
    obtain ⟨fetchStatus, hfetch, fetchArrived⟩ := fetched.arrived
    obtain ⟨readStatus, hread, readArrived⟩ := stored.arrived
    refine ⟨ctLogUrl, storedUrl, ctLog, body, records, (sync.sources ctLog records).eraseDups, ?_⟩
    exact {
      ctLogUrl_eq := hctLogUrl
      storedUrl_eq := hstoredUrl
      answers := ⟨fetchStatus, readStatus, middle, late, hfetch, hread, fetchArrived, readArrived⟩
      decoded := decoded
      requests_eq := hasked
      hostnames_eq := rfl
      mem_iff := fun hostname =>
        List.mem_eraseDups.trans (mem_sources_iff sync ctLog records hostname)
      nodup := FirstPlaces.nodup_eraseDups _
      read_back := Json.decode_published _ }

/-! ### Sources that overlap -/

/-- A run with a custom hostname that its CT log list has and one that is stored. -/
def overlapping : Sync where
  ctLogUrl := "http://ct.example/list"
  api := ⟨"http://config.example"⟩
  customHostnames := ["c.example", "a.example"]

/-- A CT log list with a blank line, a repeated line, and an ill-formed line without an end. -/
def raggedCtLog : Bytes := Utf8.encode "a.example\r\n \nb.example\na.example\na".toList ++ [0xFF]

/-- A stored list with blanks between its tokens and an escape in a hostname. -/
def looseRecords : Bytes :=
  Utf8.encode
    "[ \x7b\"hostname\": \"d.example\"\x7d, \x7b\"hostname\":\"\\u0063.example\"\x7d ]".toList

/-- A network that serves both lists and accepts what is put. -/
def overlappingNetwork : Network Unit where
  answer request _ :=
    (.arrived .ok (.complete (if request.accept = "*/*" then raggedCtLog else looseRecords)), ())

/-- Of sources that overlap, each hostname is published at its first place. -/
theorem publishes_overlapping :
    (overlapping.run.over overlappingNetwork ()).result = .ok ⟨3, 1, 2, 5, .accepted .ok⟩ ∧
      ∃ ctLogUrl storedUrl ctLog stored records hostnames,
        overlapping.Publishes overlappingNetwork () ctLogUrl storedUrl ctLog stored records
            hostnames ∧
          hostnames = ["a.example", "b.example", "a\uFFFD", "c.example", "d.example"] := by
  have hsuccess : 200 ≤ Status.ok.code ∧ Status.ok.code ≤ 299 := by decide
  have hcourse : overlapping.Course overlappingNetwork () _ _ _ :=
    .answered ⟨rfl, .ok, hsuccess, rfl⟩ ⟨rfl, .ok, hsuccess, rfl⟩ rfl rfl
  have hresult : (overlapping.run.over overlappingNetwork ()).result =
      .ok ⟨3, 1, 2, 5, .accepted .ok⟩ := hcourse.settles.result_eq.trans rfl
  obtain ⟨ctLogUrl, storedUrl, ctLog, stored, records, hostnames, h⟩ :=
    publishes_of_report overlapping overlappingNetwork () _ hresult
  refine ⟨hresult, ctLogUrl, storedUrl, ctLog, stored, records, hostnames, h, ?_⟩
  obtain ⟨_, _, _, _, _, _, hfetch, hread⟩ := h.answers
  cases hfetch
  cases hread
  cases h.decoded
  exact h.hostnames_eq.trans rfl

end Sync

end ForbiddenHosts
