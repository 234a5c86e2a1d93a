import ForbiddenHosts.Http.Message
import ForbiddenHosts.Settings.Fault
import ForbiddenHosts.Url.Fault

/-!
# Outcomes and errors

Whatever reply a publication gets, it has an `Outcome`: the list was accepted, or it was rejected
with a message.  A `Report` sums up a run that came that far.  `SyncError` holds everything that
keeps a run from coming that far, and the rejection, into which `Report.settle` turns the outcome of
a run that must succeed.
-/
namespace ForbiddenHosts

/-- What came of a publication. -/
inductive Outcome where
  | accepted (status : Http.Status)
  | rejected (status : Http.Status) (message : String)
  deriving DecidableEq, Repr

namespace Outcome

/-- The publication was accepted. -/
def isAccepted : Outcome → Bool
  | accepted _ => true
  | rejected .. => false

/-- The status of the reply. -/
def status : Outcome → Http.Status
  | accepted status => status
  | rejected status _ => status

/-- The outcome as messages show it. -/
def text : Outcome → String
  | accepted status => "accepted (" ++ status.text ++ ")"
  | rejected status message =>
    if message.isEmpty then "rejected (" ++ status.text ++ ")"
    else "rejected (" ++ status.text ++ "): " ++ message

end Outcome

/-- What keeps a run from succeeding. -/
inductive SyncError where
  /-- A request got no reply that can be used. -/
  | http (failure : Http.Failure)
  /-- A text that must be a URL is none. -/
  | invalidUrl (fault : Url.Fault)
  /-- A reply does not hold what it should. -/
  | json (error : Json.Error)
  /-- The settings give no configuration. -/
  | configuration (fault : Settings.Fault)
  /-- The published list was rejected. -/
  | publishRejected (status : Http.Status) (message : String)
  /-- A reply has a status other than success. -/
  | unexpectedStatus (url : String) (status : Http.Status)

/-- The message for an error. -/
def SyncError.message : SyncError → String
  | http failure => "HTTP request failed: " ++ failure.message
  | invalidUrl fault => "Invalid URL: " ++ fault.message
  | json error => "JSON error: " ++ error.message
  | configuration fault => "Configuration error: " ++ fault.message
  | publishRejected status message =>
    "Configuration API rejected the update (" ++ status.text ++ "): " ++ message
  | unexpectedStatus url status => url ++ " returned " ++ status.text

/-- The summary of a run that reached the publication. -/
structure Report where
  /-- The number of hostnames that the CT log list held. -/
  fetched : Nat
  /-- The number of custom hostnames that were not among them. -/
  customAdded : Nat
  /-- The number of records that were stored before. -/
  existing : Nat
  /-- The number of records that were published. -/
  total : Nat
  outcome : Outcome
  deriving DecidableEq, Repr

/-- The report of a run that must succeed: a rejection is an error. -/
def Report.settle (report : Report) : Except SyncError Report :=
  match report.outcome with
  | .accepted _ => .ok report
  | .rejected status message => .error (.publishRejected status message)

end ForbiddenHosts
