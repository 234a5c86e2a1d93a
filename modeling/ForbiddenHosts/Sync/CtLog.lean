import ForbiddenHosts.Hostname.List
import ForbiddenHosts.Sync.Event

/-!
# The CT log list

The hostnames seen in certificate transparency logs are published as a plain text with one hostname
on each line.
-/
namespace ForbiddenHosts.CtLog

/-- The media types that a reader of any text welcomes. -/
def anyType : String := "*/*"

/-- The hostnames that the bytes of a list hold; ill-formed UTF-8 spoils no line but its own. -/
def hostnamesOf (body : Bytes) : HostnameList := HostnameList.ofLines (Utf8.decodeString body)

/-- Fetches the list from an address. -/
def fetch (url : String) : Errand HostnameList := do
  Errand.note (.fetchingCtLog url)
  let (status, body) ← Errand.ask .get url anyType none []
  if !status.isSuccess then throw (.unexpectedStatus url status)
  let bytes ← Errand.wholeBody body
  let hostnames := hostnamesOf bytes
  Errand.note (.pulled hostnames.size url)
  return hostnames

end ForbiddenHosts.CtLog
