import ForbiddenHosts.Url.Host
import ForbiddenHosts.Url.Path

/-!
# URLs

A `Url` is read from a text that stands on its own (`Url.parse`) and written in a normal form
(`Url.text`).

Reading first takes the blanks and control characters off the ends of the text.  Then the text is
cut at its delimiters: the scheme before the first colon, the fragment after the first `#`, the query
after the first `?`, and what is left is the authority and the path.  Tabs and line breaks do not
count, except in the path of a file.  Web and file schemes are **special**: their authority may be preceded by any number
of slashes, a backslash is a slash, and their path is never empty.  Any other scheme has an
authority only after two slashes, and a path that is not rooted is kept as it is.

The normal form has the scheme and a domain name in lower case, an IPv4 or IPv6 address in its one
spelling, no default port, no dot segments, and every character encoded that its place does not
admit.
-/
namespace ForbiddenHosts

/-- Who and where: user name, password, host and port. -/
structure Url.Authority where
  username : String
  password : Option String
  host : Url.Host
  port : Option Nat
  deriving DecidableEq, Repr

/-- A URL that stands on its own. -/
structure Url where
  scheme : String
  authority : Option Url.Authority
  path : Url.Path
  query : Option String
  fragment : Option String
  deriving DecidableEq, Repr

namespace Url

/-! ### Schemes -/

/-- The port that a special scheme implies. -/
def defaultPort? (scheme : String) : Option Nat :=
  if scheme = "http" ∨ scheme = "ws" then some 80
  else if scheme = "https" ∨ scheme = "wss" then some 443
  else if scheme = "ftp" then some 21
  else none

/-- The scheme of files. -/
def isFile (scheme : String) : Bool := scheme == "file"

/-- A scheme whose URLs always have an authority. -/
def isSpecial (scheme : String) : Bool := (defaultPort? scheme).isSome || isFile scheme

/-- A character that may stand in a scheme after its first letter. -/
def isSchemeChar (c : Char) : Bool := c.isAlphanum || c == '+' || c == '-' || c == '.'

/-- The scheme that a text spells, in lower case. -/
def readScheme? (text : List Char) : Option String :=
  match text with
  | first :: others =>
    if first.isAlpha && others.all isSchemeChar then
      some (String.ofList (text.map Char.toLower))
    else none
  | [] => none

/-! ### Writing -/

/-- The text of an authority. -/
def Authority.text (a : Authority) : List Char :=
  let user := match a.username.toList, a.password with
    | [], none => []
    | username, none => username ++ ['@']
    | username, some password => username ++ ':' :: password.toList ++ ['@']
  let port := match a.port with
    | none => []
    | some port => ':' :: Nat.toDigits 10 port
  user ++ a.host.text ++ port

/-- The characters of the normal form. -/
def chars (u : Url) : List Char :=
  let path := u.path.text
  let middle := match u.authority with
    | some authority => '/' :: '/' :: authority.text ++ path
    | none => match path with
      | '/' :: '/' :: _ => '/' :: '.' :: path
      | _ => path
  let query := match u.query with
    | none => []
    | some query => '?' :: query.toList
  let fragment := match u.fragment with
    | none => []
    | some fragment => '#' :: fragment.toList
  u.scheme.toList ++ ':' :: middle ++ query ++ fragment

/-- The normal form of a URL. -/
def text (u : Url) : String := String.ofList u.chars

/-! ### Reading -/

/-- What is left of a text that is read as a URL: no blanks or control characters at its ends. -/
def strip (text : List Char) : List Char :=
  Text.dropEndWhile (· ≤ ' ') (text.dropWhile (· ≤ ' '))

/-- Cuts a text at the first occurrence of a character, which belongs to neither part. -/
def cutAt (mark : Char) (text : List Char) : List Char × Option (List Char) :=
  match text.dropWhile (· != mark) with
  | [] => (text, none)
  | _ :: rest => (text.takeWhile (· != mark), some rest)

/-- Cuts an authority at its last `@`. -/
def cutUser (text : List Char) : Option (List Char) × List Char :=
  match cutAt '@' text.reverse with
  | (_, none) => (none, text)
  | (host, some user) => (some user.reverse, host.reverse)

/-- The length of the host at the head of an authority without user: up to the first colon outside
brackets. -/
def hostLength (bracketed : Bool) : List Char → Nat
  | [] => 0
  | c :: text =>
    if c = ':' ∧ bracketed = false then 0
    else hostLength (if c = '[' then true else if c = ']' then false else bracketed) text + 1

/-- Reads a port up to the end or to a backslash, which is left; no digits are no port. -/
def readPort (text : List Char) : Except Fault (Option Nat × List Char) :=
  let digits := text.takeWhile Char.isDigit
  let rest := text.dropWhile Char.isDigit
  let port := digits.foldl (fun n c => n * 10 + (c.toNat - 0x30)) 0
  if 65535 < port ∨ (rest ≠ [] ∧ rest.head? ≠ some '\\') then .error .invalidPort
  else .ok (if digits.isEmpty then none else some port, rest)

/-- Reads the user name and the password of an authority; an empty one is none. -/
def readUser (user : List Char) : String × Option String :=
  let (username, password) := cutAt ':' user
  let encoded := fun (text : List Char) => String.ofList (percentEncode inUserSet text)
  (encoded username,
    match password with
    | none => none
    | some [] => none
    | some password => some (encoded password))

/-- Reads an authority; `more` says that something follows it.  What is left after the port belongs
to the path. -/
def readAuthority (scheme : String) (text : List Char) (more : Bool) :
    Except Fault (Authority × List Char) := do
  let special := isSpecial scheme
  let (user, place) := cutUser text
  if user = some [] ∧ place = [] ∧ more then throw .emptyHost
  let (username, password) := readUser (user.getD [])
  let length := hostLength false place
  let hostText := place.take length
  let portText := place.drop length
  if special ∧ hostText = [] then throw .emptyHost
  let host ← if special then Host.special hostText else Host.other hostText
  if host.isEmpty ∧ portText ≠ [] then throw .emptyHost
  let (port, rest) ← readPort (portText.drop 1)
  if host.isEmpty ∧ (username ≠ "" ∨ password.isSome) then throw .emptyHost
  return (⟨username, password, host, if port = defaultPort? scheme then none else port⟩, rest)

/-- Cuts a file URL into the host, if it names one, and its path.  The slash after a host that is
empty or the machine itself stays with the path, whose first segment is then empty; any other first
slash is dropped. -/
def cutFile (text : List Char) : Except Fault (Option Host × List Char) := do
  let unrooted := fun (path : List Char) => (afterSlash? true path).getD path
  match (afterSlash? true text).bind (afterSlash? true) with
  | none => return (none, unrooted text)
  | some rest =>
    let hostText := dropBreaks (rest.takeWhile (!isSlash true ·))
    let path := rest.dropWhile (!isSlash true ·)
    if isDriveLetter hostText then return (none, rest)
    else if hostText = [] then return (none, path)
    else
      let host ← Host.special hostText
      if host = .name "localhost" then return (none, path) else return (some host, unrooted path)

/-- Reads the authority and the path of a file URL.  A path that starts with a drive letter has no
host, and no path has empty segments at its front. -/
def readFile (text : List Char) : Except Fault (Authority × List (List Char)) := do
  let (host, path) ← cutFile text
  let walk := Walk.start.addAll true (segmentTexts true path)
  let host := if walk.hasDrive then none else host
  return (⟨"", none, host.getD (.name ""), none⟩, dropEmptyFront walk.segments)

/-- Reads the authority and the path of a URL; `more` says that something follows them. -/
def readPlace (scheme : String) (place : List Char) (more : Bool) :
    Except Fault (Option Authority × Path) := do
  let rooted := fun (segments : List (List Char)) => Path.rooted (segments.map String.ofList)
  let text := dropBreaks place
  if isFile scheme then
    let (authority, segments) ← readFile place
    return (some authority, rooted segments)
  else if isSpecial scheme then
    let text := text.dropWhile (isSlash true)
    let pathText := text.dropWhile (!isSlash true ·)
    let (authority, rest) ← readAuthority scheme (text.takeWhile (!isSlash true ·)) more
    return (some authority, rooted (readSegments true (rest ++ pathText)))
  else match text with
    | '/' :: '/' :: text =>
      let pathText := text.dropWhile (· != '/')
      let (authority, rest) ←
        readAuthority scheme (text.takeWhile (· != '/')) (more || !pathText.isEmpty)
      let pathText := rest ++ pathText
      return (some authority,
        if pathText.isEmpty then .rooted [] else rooted (readSegments false pathText))
    | '/' :: text => return (none, rooted (readSegments false text))
    | text => return (none, .rootless (String.ofList (percentEncode isControl text)))

/-- Reads a URL that stands on its own. -/
def parse (text : String) : Except Fault Url := do
  let (schemeText, rest) := cutAt ':' (strip text.toList)
  match rest, readScheme? (dropBreaks schemeText) with
  | some rest, some scheme =>
    let (rest, fragment) := cutAt '#' rest
    let (place, query) := cutAt '?' rest
    let (authority, path) ← readPlace scheme place (query.isSome || fragment.isSome)
    return {
      scheme := scheme
      authority := authority
      path := path
      query := query.map fun q =>
        String.ofList (percentEncode (inQuerySet (isSpecial scheme)) (dropBreaks q))
      fragment := fragment.map fun f => String.ofList (percentEncode inFragmentSet (dropBreaks f)) }
  | _, _ => throw .noScheme

end Url

end ForbiddenHosts
