import ForbiddenHosts.Http.Redirects
import ForbiddenHosts.Table

/-!
# Servers given by tables of routes

A table of routes is a small world of servers: it says for each address what a request to it gets.
A replacement that is answered with a success, and whose reply arrives whole, is kept: from then on
it is what the address serves.  An address without a route is not known.
-/
namespace ForbiddenHosts.Http

/-- How the sending of a reply goes wrong. -/
inductive Mishap where
  /-- It does not. -/
  | none
  /-- The connection is closed before the status. -/
  | drop
  /-- The body breaks off. -/
  | truncate
  deriving DecidableEq, Repr

/-- What an address answers to one method. -/
structure Route.Response where
  status : Status
  location : Option Bytes
  body : Bytes
  mishap : Mishap

/-- What an address answers. -/
structure Route where
  get : Route.Response
  put : Route.Response

/-- A table of routes: the route that stands first for an address is the one it has. -/
abbrev Routes := List (String × Route)

/-- The answer to a request, given a response to it. -/
def Route.Response.answer (response : Route.Response) (request : Request) : Answer :=
  let body := if response.status.isBodiless then [] else response.body
  match response.mishap with
  | .none => ⟨.arrived response.status (.complete body), response.location⟩
  | .drop => ⟨.lost (.noReply request.url), none⟩
  | .truncate =>
    ⟨.arrived response.status (if response.status.isBodiless then .complete [] else .brokenOff),
      response.location⟩

namespace Routes

/-- The route of an address. -/
def route? (routes : Routes) (address : String) : Option Route := Table.find? address routes

/-- Gives an address a route, in place of the one it has. -/
def put (routes : Routes) (address : String) (route : Route) : Routes :=
  Table.change address (fun _ => route) routes

/-- The address of a request: its URL without the fragment. -/
def address (request : Request) : String := { request.url with fragment := none }.text

/-- The answer for an address without a route. -/
def unknown : Answer := ⟨.arrived .notFound (.complete (Utf8.encodeString "no route")), none⟩

/-- Answers a request. -/
def answer (request : Request) (routes : Routes) : Answer × Routes :=
  match routes.route? (address request) with
  | none => (unknown, routes)
  | some route =>
    match request.method with
    | .get => (route.get.answer request, routes)
    | .put =>
      if route.put.status.isSuccess ∧ route.put.mishap = .none then
        (route.put.answer request, routes.put (address request)
          { route with get := { route.get with body := request.body } })
      else (route.put.answer request, routes)

/-- The servers of a table. -/
def servers : Servers Routes := ⟨answer⟩

end Routes

end ForbiddenHosts.Http
