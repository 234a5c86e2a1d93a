import ForbiddenHosts.Http.Wire
import ForbiddenHosts.Program
import Std.Async.DNS
import Std.Async.TCP

/-!
# The command

Gives a run of the program its arguments, environment and files, holds its conversation over
connections of the machine, following redirects, and ends with its exit code.  Connections are plain
ones and go straight to the server: a request for a secure address gets no reply.
-/
namespace ForbiddenHosts.Command

open Std.Async

/-- The content of a file, if it can be read. -/
def content? (name : String) : IO (Option Bytes) := do
  try return some (← IO.FS.readBinFile name).toList
  catch _ => return none

/-- The variables of this process. -/
def inherited : IO Environment := do
  let block ← content? "/proc/self/environ"
  return .ofBlock (Utf8.decode (block.getD []))

/-- What this run is given. -/
def invocation (arguments : List String) : IO Invocation := do
  return {
    arguments := arguments
    «variables» := ← inherited
    assignments := ← content? ".env"
    settings := ← content? Settings.fileName }

/-- Everything that a connection still brings. -/
partial def receive (client : TCP.Socket.Client) (sofar : ByteArray) : Async ByteArray := do
  match ← client.recv? 65536 with
  | some bytes => receive client (sofar ++ bytes)
  | none => return sofar

/-- Sends a request to an address and takes what comes back. -/
def exchange (address : Std.Net.IPAddr) (port : UInt16) (request : Http.Request) :
    Async Http.Answer := do
  let client ← TCP.Socket.Client.mk
  client.connect (match address with
    | .v4 address => .v4 ⟨address, port⟩
    | .v6 address => .v6 ⟨address, port⟩)
  client.send ⟨request.wire.toArray⟩
  let bytes ← receive client ByteArray.empty
  return .ofWire request.url bytes.toList

/-- Makes one request over a connection of its own. -/
def ask (request : Http.Request) : IO Http.Answer := do
  let unanswered : Http.Answer := ⟨.lost (.noReply request.url), none⟩
  match request.url.scheme, request.url.authority with
  | "http", some authority =>
    try
      let port := authority.port.getD 80
      let host := String.ofList (authority.host.text.filter fun c => c != '[' && c != ']')
      Async.block do
        let addresses ← DNS.getAddrInfo host ""
        match addresses[0]? with
        | some address => exchange address (UInt16.ofNat port) request
        | none => return unanswered
    catch _ => return unanswered
  | _, _ => return unanswered

/-- Sends a request, and goes on where it is redirected. -/
def send (request : Http.Request) : IO Http.Reply :=
  Http.Redirects.standard.follow ask Http.Redirects.standard.limit request

/-- Writes an event that the log filter lets through. -/
def note (filter : Log.Filter) (event : Event) : IO Unit := do
  if filter.admits event.target event.level then IO.println event.line

/-- Runs the program: the lines it was asked for go to standard output, the message of a run that did
not succeed to standard error. -/
def run (arguments : List String) : IO UInt32 := do
  let invocation ← invocation arguments
  let ending ← (Program.start invocation).within (note invocation.filter) send
  for line in ending.answer do IO.println line
  if let some message := ending.message? then IO.eprintln message
  return UInt32.ofNat ending.exitCode

end ForbiddenHosts.Command

/-- The command. -/
def main (arguments : List String) : IO UInt32 := ForbiddenHosts.Command.run arguments
