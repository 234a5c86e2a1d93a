import ForbiddenHosts.Json.Typed
import ForbiddenHosts.Sync.Event

/-!
# The configuration API

The configuration API keeps JSON values under keys; the forbidden hostnames are the value of one of
them.  A client knows the **base** of the API, the normal form of its URL without final slashes, and
puts `/config/` and the key behind it.

Reading a value demands a success and a body of the right shape.  Replacing a value counts as done
as soon as any status has arrived: a success accepts the value, whatever the body, and any other
status rejects it, with the trimmed text of the body as the message, or none if the body breaks off.
-/
namespace ForbiddenHosts

/-- A client of the configuration API. -/
structure ConfigApi where
  base : String
  deriving DecidableEq, Repr

namespace ConfigApi

/-- The key of the forbidden hostnames. -/
def forbiddenHostnamesKey : String := "forbidden-hostnames"

/-- The media type of JSON texts. -/
def jsonType : String := "application/json"

/-- The client for a base URL. -/
def ofUrl (url : Url) : ConfigApi :=
  ⟨String.ofList (Text.dropEndWhile (· == '/') url.chars)⟩

/-- The client for the base URL that a text spells. -/
def parse (text : String) : Except SyncError ConfigApi :=
  match Url.parse text with
  | .ok url => .ok (ofUrl url)
  | .error fault => .error (.invalidUrl fault)

/-- The address of a key. -/
def endpoint (api : ConfigApi) (key : String) : String := api.base ++ "/config/" ++ key

/-- Reads the value of a key. -/
def get {α : Type} (api : ConfigApi) (read : Bytes → Json.Read α) (key : String) : Errand α := do
  let url := api.endpoint key
  Errand.note (.reading url)
  let (status, body) ← Errand.ask .get url jsonType none []
  if !status.isSuccess then throw (.unexpectedStatus url status)
  let bytes ← Errand.wholeBody body
  match Json.decode read bytes with
  | .ok value => return value
  | .error error => throw (.json error)

/-- The trimmed text of a rejection; nothing if it breaks off, which is noted. -/
def rejectionText (url : String) (body : Http.Body) : Errand String :=
  match body with
  | .complete bytes => pure (Text.trimString (Utf8.decodeString bytes))
  | .brokenOff => do
    Errand.note (.rejectionUnread url)
    return ""

/-- Replaces the value of a key. -/
def set (api : ConfigApi) (key : String) (value : Json) : Errand Outcome := do
  let url := api.endpoint key
  let bytes := Utf8.encode value.chars
  Errand.note (.publishing url bytes.length)
  let (status, body) ← Errand.ask .put url jsonType (some jsonType) bytes
  if status.isSuccess then return .accepted status
  return .rejected status (← rejectionText url body)

/-- Reads the records of the forbidden hostnames. -/
def forbiddenHostnames (api : ConfigApi) : Errand (List HostnameRecord) := do
  let records ← api.get Json.readRecords forbiddenHostnamesKey
  Errand.note (.defined records.length)
  return records

/-- Replaces the forbidden hostnames. -/
def setForbiddenHostnames (api : ConfigApi) (hostnames : HostnameList) : Errand Outcome :=
  api.set forbiddenHostnamesKey hostnames.toJson

end ConfigApi

end ForbiddenHosts
