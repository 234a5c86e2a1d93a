import ForbiddenHosts.Http.Redirects

/-!
# Requests and replies on the wire

How a request is written to a connection that serves nothing else, and how the bytes that came back
are read once the connection is closed.  A reply has a head, lines up to the first empty one, and a
body.  A body that is shorter than its head announces has broken off, and bytes beyond the announced
length are not part of it.  Bytes without a readable status are no reply.
-/
namespace ForbiddenHosts.Http

/-- The line break of a head. -/
def lineBreak : String := "\r\n"

namespace Request

/-- What a request asks its server for: the path and the query of its URL. -/
def target (r : Request) : String :=
  String.ofList r.url.path.text ++
    match r.url.query with
    | some query => "?" ++ query
    | none => ""

/-- The server of a request, with the port if its URL names one. -/
def server (r : Request) : String :=
  match r.url.authority with
  | some authority =>
    String.ofList authority.host.text ++
      match authority.port with
      | some port => ":" ++ Decimal.integer port
      | none => ""
  | none => ""

/-- The lines of the head of a request. -/
def headLines (r : Request) : List String :=
  [r.method.text ++ " " ++ r.target ++ " HTTP/1.0", "Host: " ++ r.server,
    "User-Agent: " ++ userAgent, "Accept: " ++ r.accept] ++
    match r.contentType with
    | some type =>
      ["Content-Type: " ++ type, "Content-Length: " ++ Decimal.integer r.body.length]
    | none => []

/-- The bytes of a request. -/
def wire (r : Request) : Bytes :=
  Utf8.encodeString (String.join (r.headLines.map (· ++ lineBreak)) ++ lineBreak) ++ r.body

end Request

/-- Cuts bytes at the first empty line. -/
def cutHead : Bytes → Option (Bytes × Bytes)
  | 0x0D :: 0x0A :: 0x0D :: 0x0A :: body => some ([], body)
  | byte :: rest => (cutHead rest).map fun (head, body) => (byte :: head, body)
  | [] => none

/-- The status that the first line of a head gives. -/
def readStatus? (line : List Char) : Option Status :=
  match (Text.pieces ' ' line)[1]? with
  | some [a, b, c] =>
    if [a, b, c].all Char.isDigit then
      Status.ofNat? ([a, b, c].foldl (fun n d => n * 10 + (d.toNat - 0x30)) 0)
    else none
  | _ => none

/-- The length of the body that a line of a head announces. -/
def readLength? (line : List Char) : Option Nat :=
  if (line.takeWhile (· != ':')).map Char.toLower = "content-length".toList then
    (String.ofList (Text.trim ((line.dropWhile (· != ':')).drop 1))).toNat?
  else none

/-- The location that a line of a head names. -/
def readLocation? (line : List Char) : Option Bytes :=
  if (line.takeWhile (· != ':')).map Char.toLower = "location".toList then
    some (Utf8.encode (Text.trim ((line.dropWhile (· != ':')).drop 1)))
  else none

/-- The answer that bytes spell, for a request to a URL. -/
def Answer.ofWire (url : Url) (bytes : Bytes) : Answer :=
  match cutHead bytes with
  | none => ⟨.lost (.noReply url), none⟩
  | some (head, body) =>
    let lines := Text.pieces '\n' (Utf8.decode head)
    match readStatus? (lines.headD []) with
    | none => ⟨.lost (.noReply url), none⟩
    | some status =>
      let arrived :=
        if status.isBodiless then .complete []
        else match lines.findSome? readLength? with
          | none => .complete body
          | some length =>
            if length ≤ body.length then .complete (body.take length) else .brokenOff
      ⟨.arrived status arrived, lines.findSome? readLocation?⟩

end ForbiddenHosts.Http
