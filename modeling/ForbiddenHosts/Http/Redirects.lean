import ForbiddenHosts.Http.Conversation
import ForbiddenHosts.Url.Join

/-!
# Redirects

A status may send the client on to another place, which the reply names as its **location**.  A
client that follows redirects makes the request that goes on from there, and so on until a reply
leads no further or it has followed as many as it will.

Going on, a request keeps its method and its body, or it becomes a plain get: after 303 always,
after 307 and 308 never, and after 301 and 302 clients differ about a put.  So a put that is sent
may end with the reply to a get.

What answers the requests are `Servers`.  To the program, a client that follows redirects makes a
`Network` of them (`Redirects.network`), whose replies are the last ones.
-/
namespace ForbiddenHosts.Http

/-- What one request gets: a reply, and the location that the reply names. -/
structure Answer where
  reply : Reply
  location : Option Bytes
  deriving DecidableEq, Repr

/-- Something that answers requests one by one, from one of its states to the next. -/
structure Servers (σ : Type) where
  answer : Request → σ → Answer × σ

/-- What goes back and forth between a client and servers. -/
abbrev Traffic := List (Request × Answer)

/-- A status that sends the client on to the location of the reply. -/
def Status.isRedirect (status : Status) : Bool := [301, 302, 303, 307, 308].contains status.code

/-- What a client does about redirects. -/
structure Redirects where
  /-- How many of them it follows for one request. -/
  limit : Nat
  /-- The URL to which a location leads from the URL of the request, if it leads to one. -/
  lead : Url → Bytes → Option Url
  /-- A put that is redirected by 301 or 302 goes on as a get. -/
  movedAsGet : Bool

namespace Redirects

/-- After a redirect with this status the request goes on as a get. -/
def turns (redirects : Redirects) (status : Status) : Bool :=
  status.code == 303 || (redirects.movedAsGet && (status.code == 301 || status.code == 302))

/-- The request that goes on at a URL. -/
def resume (redirects : Redirects) (request : Request) (status : Status) (url : Url) : Request :=
  if redirects.turns status then ⟨.get, url, request.accept, none, []⟩
  else { request with url := url }

/-- The request that goes on from an answer, if the answer leads further. -/
def onward? (redirects : Redirects) (request : Request) (answer : Answer) : Option Request :=
  match answer.reply, answer.location with
  | .arrived status _, some location =>
    if status.isRedirect then
      (redirects.lead request.url location).map (redirects.resume request status)
    else none
  | _, _ => none

/-- Makes a request and those that go on from it, of which so many are `left`. -/
def follow {m : Type → Type} [Monad m] (redirects : Redirects) (ask : Request → m Answer) :
    Nat → Request → m Reply
  | left, request => do
    let answer ← ask request
    match redirects.onward? request answer with
    | none => return answer.reply
    | some next =>
      match left with
      | 0 => return .lost (.tooManyRedirects request.url)
      | left + 1 =>
        if isRequestable next.url then follow redirects ask left next
        else return .lost (.notRequestable next.url)

/-- Ten redirects are followed, and a location may be any reference. -/
def standard : Redirects where
  limit := 10
  lead url location :=
    match Utf8.fault? location with
    | none => url.join? (Utf8.decodeString location)
    | some _ => none
  movedAsGet := false

end Redirects

/-- Asks a server, and keeps what was said. -/
def Servers.keeping {σ : Type} (servers : Servers σ) (request : Request) :
    StateM (σ × Traffic) Answer := fun (world, traffic) =>
  let (answer, world) := servers.answer request world
  (answer, world, traffic ++ [(request, answer)])

/-- The network that a client makes of servers.  It keeps the traffic with them. -/
def Redirects.network {σ : Type} (redirects : Redirects) (servers : Servers σ) :
    Network (σ × Traffic) where
  answer request world := redirects.follow servers.keeping redirects.limit request world

/-- What goes back and forth while a conversation is held over servers. -/
def Conversation.traffic {σ Note α : Type} (redirects : Redirects) (servers : Servers σ)
    (c : Conversation Note α) (before : σ) : Traffic :=
  (c.over (redirects.network servers) (before, [])).world.2

/-- The requests of the traffic, each with its reply. -/
def Traffic.replies (traffic : Traffic) : List (Request × Reply) :=
  traffic.map fun (request, answer) => (request, answer.reply)

end ForbiddenHosts.Http
