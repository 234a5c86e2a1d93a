import ForbiddenHosts.Text.Pieces
import ForbiddenHosts.Url.Percent

/-!
# Paths of URLs

A path is **rooted**, a list of segments with a slash before each, or **rootless**, a text without
structure.

The segments of a rooted path are read in turn (`Walk.add`).  A single dot, plain or encoded, adds
nothing and two dots take the segment before away, unless it is a drive letter; when either ends
the path, an empty segment ends it instead.

A file URL knows two rules more, and both are about a segment that is read while the path is still
empty.  A drive letter there is written with a colon.  And a line break after a drive letter and its
colon ends the segment as a slash would, although line breaks count nowhere else; what follows the
break is kept as it is, even if it is dots.
-/
namespace ForbiddenHosts.Url

/-- The path of a URL. -/
inductive Path where
  | rooted (segments : List String)
  | rootless (text : String)
  deriving DecidableEq, Repr

/-- A character that does not count: a tab or a line break. -/
def isBreak (c : Char) : Bool := c == '\t' || c == '\n' || c == '\r'

/-- The characters of a text that count. -/
def dropBreaks (text : List Char) : List Char := text.filter (!isBreak ·)

/-- A segment that stands for the place it is at. -/
def isSingleDot (segment : List Char) : Bool :=
  [['.'], ['%', '2', 'e']].contains (segment.map Char.toLower)

/-- A segment that stands for the place above. -/
def isDoubleDot (segment : List Char) : Bool :=
  [['.', '.'], ['.', '%', '2', 'e'], ['%', '2', 'e', '.'],
    ['%', '2', 'e', '%', '2', 'e']].contains (segment.map Char.toLower)

/-- A drive letter: a letter with a colon or a bar. -/
def isDriveLetter : List Char → Bool
  | [letter, mark] => letter.isAlpha && (mark == ':' || mark == '|')
  | _ => false

/-- The character that separates segments; in a special URL a backslash does so too. -/
def isSlash (special : Bool) (c : Char) : Bool := c == '/' || (special && c == '\\')

/-- What follows the slash at the head of a text, if there is one. -/
def afterSlash? (special : Bool) (text : List Char) : Option (List Char) :=
  match text.dropWhile isBreak with
  | c :: rest => if isSlash special c then some rest else none
  | [] => none

/-- The texts between the slashes of a path. -/
def segmentTexts (special : Bool) (text : List Char) : List (List Char) :=
  Text.pieces '/' (text.map fun c => if isSlash special c then '/' else c)

/-- Cuts the text of a segment after a drive letter and its colon, when a line break follows them
and something follows the break. -/
def cutDrive? (text : List Char) : Option (List Char × List Char) :=
  match text.dropWhile isBreak with
  | letter :: text =>
    match text.dropWhile isBreak with
    | ':' :: next :: text =>
      if letter.isAlpha && isBreak next && !(dropBreaks text).isEmpty then
        some ([letter, ':'], dropBreaks text)
      else none
    | _ => none
  | [] => none

/-- The segments above the last one, which are kept in reverse order; a drive letter is not left. -/
def climb : List (List Char) → List (List Char)
  | [] => []
  | last :: above => if isDriveLetter last then last :: above else above

/-- A path of which some segments have been read. -/
structure Walk where
  /-- The segments so far, the last one first. -/
  done : List (List Char)
  /-- A whole segment was a drive letter at the front of a file's path. -/
  hasDrive : Bool

namespace Walk

/-- The walk before any segment. -/
def start : Walk := ⟨[], false⟩

/-- Adds what the text of a segment stands for; `last` says that the text ends the path. -/
def add (w : Walk) (file last : Bool) (text : List Char) : Walk :=
  let first := file && w.done.isEmpty
  match if first then cutDrive? text else none with
  | some (drive, rest) => { w with done := [percentEncode inPathSet rest, drive] }
  | none =>
    let segment := percentEncode inPathSet (dropBreaks text)
    let close := fun (segments : List (List Char)) => if last then [] :: segments else segments
    if isDoubleDot segment then { w with done := close (climb w.done) }
    else if isSingleDot segment then { w with done := close w.done }
    else if first && isDriveLetter segment then ⟨[segment.take 1 ++ [':']], true⟩
    else { w with done := segment :: w.done }

/-- Adds the texts of segments in turn, up to the end of the path. -/
def addAll (w : Walk) (file : Bool) : List (List Char) → Walk
  | [] => w
  | text :: texts => (w.add file texts.isEmpty text).addAll file texts

/-- The segments in the order of the path. -/
def segments (w : Walk) : List (List Char) := w.done.reverse

end Walk

/-- Reads the segments of a path that is no file's; its first slash may be missing. -/
def readSegments (special : Bool) (text : List Char) : List (List Char) :=
  (Walk.start.addAll false (segmentTexts special ((afterSlash? special text).getD text))).segments

/-- Removes the empty segments at the front of a path, but not the last segment. -/
def dropEmptyFront : List (List Char) → List (List Char)
  | [] :: segment :: segments => dropEmptyFront (segment :: segments)
  | segments => segments

/-- The text of segments, with a slash before each. -/
def segmentsText (segments : List (List Char)) : List Char :=
  segments.flatMap fun segment => '/' :: segment

/-- The text of a path. -/
def Path.text : Path → List Char
  | .rooted segments => segmentsText (segments.map String.toList)
  | .rootless text => text.toList

end ForbiddenHosts.Url
