import ForbiddenHosts.Proofs.Hostname.Merge
import ForbiddenHosts.Proofs.Json.Records
import ForbiddenHosts.Proofs.Text.Lines
import ForbiddenHosts.Sync.Run

/-!
# What the sources come to

A run has three sources: the CT log list, the custom hostnames, and the stored records.  Here is
said, without the steps of a run, what they come to: `sources` strings the hostnames together, the
list to publish keeps each at its first place, `publication` is the request that publishes it, and
`reportOf` the report.

The rest of the module shows that the list, the bytes and the numbers that a run builds by merging
one source after the other are these.
-/
namespace ForbiddenHosts

open Http

namespace Sync

/-- The address of the stored list. -/
def storedAt (sync : Sync) : String := sync.api.endpoint ConfigApi.forbiddenHostnamesKey

/-- The hostnames of a CT log list: its lines, trimmed, without the blank ones. -/
def ctLogHostnames (ctLog : Bytes) : List String := Text.trimmedLines (Utf8.decode ctLog)

/-- The hostnames of all sources: those of the CT log list, the custom ones, the stored ones. -/
def sources (sync : Sync) (ctLog : Bytes) (stored : List HostnameRecord) : List String :=
  ctLogHostnames ctLog ++
    (sync.customHostnames ++ stored.map HostnameRecord.hostname)

/-- The request that publishes what the sources come to, where the stored list was read. -/
def publication (sync : Sync) (url : Url) (ctLog : Bytes) (stored : List HostnameRecord) :
    Request where
  method := .put
  url := url
  accept := ConfigApi.jsonType
  contentType := some ConfigApi.jsonType
  body := Json.published (sync.sources ctLog stored).eraseDups

/-- The report of a run that read these sources. -/
def reportOf (sync : Sync) (ctLog : Bytes) (stored : List HostnameRecord) (outcome : Outcome) :
    Report where
  fetched := (ctLogHostnames ctLog).eraseDups.length
  customAdded :=
    (ctLogHostnames ctLog ++ sync.customHostnames).eraseDups.length -
      (ctLogHostnames ctLog).eraseDups.length
  existing := stored.length
  total := (sync.sources ctLog stored).eraseDups.length
  outcome := outcome

/-- What was fetched and what was added to it make up what a run has before it reads the stored
list. -/
theorem fetched_add_customAdded (sync : Sync) (ctLog : Bytes) (stored : List HostnameRecord)
    (outcome : Outcome) :
    (sync.reportOf ctLog stored outcome).fetched +
        (sync.reportOf ctLog stored outcome).customAdded =
      (ctLogHostnames ctLog ++ sync.customHostnames).eraseDups.length := by
  have hfetched : (ctLogHostnames ctLog).eraseDups.length ≤
      (ctLogHostnames ctLog ++ sync.customHostnames).eraseDups.length := by
    rw [List.eraseDups_append, List.length_append]
    exact Nat.le_add_right _ _
  exact Nat.add_sub_of_le hfetched

/-! ### What is published -/

theorem coherent_hostnamesOf (ctLog : Bytes) : (CtLog.hostnamesOf ctLog).Coherent :=
  HostnameList.coherent_ofList _

theorem hostnames_hostnamesOf (ctLog : Bytes) :
    (CtLog.hostnamesOf ctLog).hostnames = (ctLogHostnames ctLog).eraseDups := by
  rw [CtLog.hostnamesOf, HostnameList.ofLines, HostnameList.hostnames_ofList, Text.lines_eq,
    Utf8.decodeString, String.toList_ofList]
  rfl

theorem hostnames_extended (sync : Sync) (ctLog : Bytes) :
    ((CtLog.hostnamesOf ctLog).merge sync.customHostnames).2.hostnames =
      (ctLogHostnames ctLog ++ sync.customHostnames).eraseDups := by
  rw [(coherent_hostnamesOf ctLog).hostnames_merge, hostnames_hostnamesOf,
    FirstPlaces.eraseDups_eraseDups_append]

theorem hostnames_merged (sync : Sync) (ctLog : Bytes) (stored : List HostnameRecord) :
    (((CtLog.hostnamesOf ctLog).merge sync.customHostnames).2.mergeRecords stored).2.hostnames =
      (sync.sources ctLog stored).eraseDups := by
  rw [HostnameList.mergeRecords,
    ((coherent_hostnamesOf ctLog).merge sync.customHostnames).hostnames_merge, hostnames_extended,
    FirstPlaces.eraseDups_eraseDups_append, List.append_assoc]
  rfl

theorem encode_merged (sync : Sync) (ctLog : Bytes) (stored : List HostnameRecord) :
    Utf8.encode (((CtLog.hostnamesOf ctLog).merge
        sync.customHostnames).2.mergeRecords stored).2.toJson.chars =
      Json.published (sync.sources ctLog stored).eraseDups := by
  rw [Json.chars_toJson, hostnames_merged]
  rfl

/-- The report that the run builds is the one that its sources call for. -/
theorem report_eq (sync : Sync) (ctLog : Bytes) (stored : List HostnameRecord)
    (outcome : Outcome) :
    { fetched := (CtLog.hostnamesOf ctLog).size
      customAdded := ((CtLog.hostnamesOf ctLog).merge sync.customHostnames).1
      existing := stored.length
      total := (((CtLog.hostnamesOf ctLog).merge
        sync.customHostnames).2.mergeRecords stored).2.size
      outcome := outcome : Report } = sync.reportOf ctLog stored outcome := by
  have hcount := HostnameList.merge_fst (CtLog.hostnamesOf ctLog) sync.customHostnames
  rw [HostnameList.size_eq_length, HostnameList.size_eq_length, hostnames_extended,
    hostnames_hostnamesOf] at hcount
  rw [reportOf, HostnameList.size_eq_length, HostnameList.size_eq_length, hostnames_merged,
    hostnames_hostnamesOf, hcount, Nat.add_sub_cancel]

end Sync

end ForbiddenHosts
