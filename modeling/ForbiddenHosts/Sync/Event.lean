import ForbiddenHosts.Http.Conversation
import ForbiddenHosts.Log.Level
import ForbiddenHosts.Settings.Configuration
import ForbiddenHosts.Sync.Outcome
import ForbiddenHosts.Text.Terminal

/-!
# Log events

What the program notes while it works.  An event has a **level**, and a **target**, the name of the
part of the program that notes it; a log filter chooses by both.
-/
namespace ForbiddenHosts

/-- What the program notes. -/
inductive Event where
  | configurationLoaded (configuration : Configuration)
  | fetchingCtLog (url : String)
  | pulled (count : Nat) (url : String)
  | customAdded (count : Nat)
  | reading (url : String)
  | defined (count : Nat)
  | merged (count : Nat)
  | publishing (url : String) (bytes : Nat)
  | rejectionUnread (url : String)
  | updated
  | notUpdated (outcome : Outcome)

namespace Event

/-- The level of an event. -/
def level : Event → Level
  | configurationLoaded _ => .debug
  | fetchingCtLog _ => .debug
  | pulled .. => .info
  | customAdded _ => .info
  | reading _ => .debug
  | defined _ => .info
  | merged _ => .info
  | publishing .. => .debug
  | rejectionUnread _ => .debug
  | updated => .info
  | notUpdated _ => .error

/-- The part of the program that notes an event. -/
def target : Event → String
  | configurationLoaded _ => "blacklist_hostnames"
  | fetchingCtLog _ => "onion_blacklist_sync::ct_log"
  | pulled .. => "onion_blacklist_sync::ct_log"
  | customAdded _ => "onion_blacklist_sync::sync"
  | reading _ => "onion_blacklist_sync::config_api"
  | defined _ => "onion_blacklist_sync::config_api"
  | merged _ => "onion_blacklist_sync::sync"
  | publishing .. => "onion_blacklist_sync::config_api"
  | rejectionUnread _ => "onion_blacklist_sync::config_api"
  | updated => "onion_blacklist_sync::sync"
  | notUpdated _ => "onion_blacklist_sync::sync"

/-- The message of an event. -/
def message : Event → String
  | configurationLoaded c => "Loaded configuration: " ++ c.describe
  | fetchingCtLog url => "Fetching CT log hostnames from " ++ url
  | pulled count url =>
    "pulled " ++ Decimal.integer count ++ " real world hostnames from " ++ url
  | customAdded count => "added " ++ Decimal.integer count ++ " custom hostnames"
  | reading url => "GET " ++ url
  | defined count =>
    "there is " ++ Decimal.integer count ++
      " forbidden hostnames defined in the configuration API"
  | merged count => "there is " ++ Decimal.integer count ++ " forbidden hostnames now"
  | publishing url bytes => "PUT " ++ url ++ " (" ++ Decimal.integer bytes ++ " bytes)"
  | rejectionUnread url =>
    "Failed to read rejection body from " ++ url ++ ": " ++ Http.Failure.bodyBreaksOff.message
  | updated => "successfully updated forbidden hostnames"
  | notUpdated outcome => "failed to update forbidden hostnames: " ++ outcome.text

/-- The line of an event in the log, in which commands to a terminal show. -/
def line (event : Event) : String := event.level.text ++ " " ++ Text.showControls event.message

end Event

/-- A conversation of the program: it notes events, and it may fail. -/
abbrev Errand (α : Type) := ExceptT SyncError (Http.Conversation Event) α

namespace Errand

/-- Notes an event. -/
def note (event : Event) : Errand Unit :=
  ExceptT.mk (Http.Conversation.note event (.done (.ok ())))

/-- Goes on with a result, or fails with its error. -/
def ofExcept {α : Type} (result : Except SyncError α) : Errand α :=
  ExceptT.mk (Http.Conversation.done result)

/-- Makes a request for the URL that a text spells: the status and the body of the reply. -/
def ask (method : Http.Method) (address accept : String) (contentType : Option String)
    (body : Bytes) : Errand (Http.Status × Http.Body) :=
  match Http.Request.make method address accept contentType body with
  | .error failure => throw (.http failure)
  | .ok request =>
    ExceptT.mk (Http.Conversation.ask request fun reply =>
      match reply with
      | .lost failure => .done (.error (.http failure))
      | .arrived status body => .done (.ok (status, body)))

/-- The bytes of a body that must have arrived whole. -/
def wholeBody (body : Http.Body) : Errand Bytes :=
  match body with
  | .complete bytes => pure bytes
  | .brokenOff => throw (.http .bodyBreaksOff)

end Errand

/-- Holds the conversation of an errand with a network. -/
def Errand.over {σ α : Type} (errand : Errand α) (network : Http.Network σ) (world : σ) :
    Http.Transcript Event σ (Except SyncError α) :=
  Http.Conversation.over network errand.run world

end ForbiddenHosts
