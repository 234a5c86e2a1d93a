import ForbiddenHosts.Http.Status
import ForbiddenHosts.Text.Utf8
import ForbiddenHosts.Url.Basic

/-!
# HTTP requests and replies

A `Request` is what goes out; its URL is one that can be requested at all (`Request.make`).  What
sending it comes to is a `Reply`: a failure, when there is no response to go on with, or a status
with a body that may break off.  A client that follows redirects makes several requests for one
sending, and the reply is the last one.
-/
namespace ForbiddenHosts.Http

/-- What a request asks for: a representation, or its replacement. -/
inductive Method where
  | get
  | put
  deriving DecidableEq, Repr

/-- The name of a method. -/
def Method.text : Method → String
  | get => "GET"
  | put => "PUT"

/-- The name by which every request introduces its sender. -/
def userAgent : String := "onion-blacklist-sync/0.1.0"

/-- A request. -/
structure Request where
  method : Method
  url : Url
  /-- The media types that are welcome in the reply. -/
  accept : String
  /-- The media type of the body. -/
  contentType : Option String
  body : Bytes
  deriving DecidableEq, Repr

/-- Why there is no reply that can be used. -/
inductive Failure where
  /-- The text is no URL. -/
  | noUrl
  /-- The URL cannot be requested over HTTP. -/
  | notRequestable (url : Url)
  /-- No status arrived. -/
  | noReply (url : Url)
  /-- There were more redirects than are followed. -/
  | tooManyRedirects (url : Url)
  /-- The body breaks off. -/
  | bodyBreaksOff
  deriving DecidableEq, Repr

/-- The message for a failure. -/
def Failure.message : Failure → String
  | noUrl => "builder error"
  | notRequestable url => "builder error for url (" ++ url.text ++ ")"
  | noReply url => "error sending request for url (" ++ url.text ++ ")"
  | tooManyRedirects url => "error following redirect for url (" ++ url.text ++ ")"
  | bodyBreaksOff => "error decoding response body"

/-- A character that a host may hold but that no request line carries. -/
def isUnsendable (c : Char) : Bool := ['"', '\x60', '\x7b', '\x7d'].contains c

/-- A URL that can be requested: a web address with a host that a request line carries. -/
def isRequestable (url : Url) : Bool :=
  (url.scheme == "http" || url.scheme == "https") &&
    match url.authority with
    | some authority => !authority.host.isEmpty && !authority.host.text.any isUnsendable
    | none => false

/-- Prepares a request for the URL that a text spells. -/
def Request.make (method : Method) (address accept : String) (contentType : Option String)
    (body : Bytes) : Except Failure Request :=
  match Url.parse address with
  | .error _ => .error .noUrl
  | .ok url =>
    if isRequestable url then .ok ⟨method, url, accept, contentType, body⟩
    else .error (.notRequestable url)

/-- The body of a reply. -/
inductive Body where
  | complete (bytes : Bytes)
  | brokenOff
  deriving DecidableEq, Repr

/-- What the sending of a request comes to. -/
inductive Reply where
  /-- There is no response. -/
  | lost (failure : Failure)
  /-- A status arrived, and a body after it. -/
  | arrived (status : Status) (body : Body)
  deriving DecidableEq, Repr

end ForbiddenHosts.Http
