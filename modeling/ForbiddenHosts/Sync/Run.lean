import ForbiddenHosts.Sync.ConfigApi
import ForbiddenHosts.Sync.CtLog

/-!
# Sync runs

A run fetches the CT log list, adds the custom hostnames and the records that are stored already,
and publishes the merged list in place of the stored one.  Each stage needs the one before: a run
that cannot read one of its sources ends with an error before anything is published, since a
publication replaces the whole stored list.
-/
namespace ForbiddenHosts

/-- What a run needs to know. -/
structure Sync where
  ctLogUrl : String
  api : ConfigApi
  customHostnames : List String

namespace Sync

/-- Notes what came of the publication. -/
def noteOutcome (outcome : Outcome) : Errand Unit :=
  Errand.note (if outcome.isAccepted then .updated else .notUpdated outcome)

/-- Runs every stage in turn. -/
def run (sync : Sync) : Errand Report := do
  let fetched ← CtLog.fetch sync.ctLogUrl
  let (customAdded, extended) := fetched.merge sync.customHostnames
  Errand.note (.customAdded customAdded)
  let existing ← sync.api.forbiddenHostnames
  let (_, merged) := extended.mergeRecords existing
  Errand.note (.merged merged.size)
  let outcome ← sync.api.setForbiddenHostnames merged
  noteOutcome outcome
  return {
    fetched := fetched.size
    customAdded := customAdded
    existing := existing.length
    total := merged.size
    outcome := outcome }

end Sync

end ForbiddenHosts
