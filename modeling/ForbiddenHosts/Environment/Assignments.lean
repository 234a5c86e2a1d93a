import ForbiddenHosts.Environment.Basic
import ForbiddenHosts.Text.Alphanumeric
import ForbiddenHosts.Text.Pieces
import ForbiddenHosts.Text.Utf8

/-!
# Files of assignments

A file of assignments gives values to variables that have none, one `NAME=value` to a line, with
`export` before it or not.  Blank lines and comments, from a `#` at the start of a line or after a
blank, say nothing.

**Lines.**  A line break inside quotes belongs to the line (`Quotes`, `logicalLines`).

**Values.**  Single quotes take everything in them as it is.  Outside them a backslash escapes a
backslash, a quote, a dollar or a space and writes a line feed as `\n`, and `$NAME` or `${NAME}`
stands for the value of a variable, or for nothing.  A name without braces is a run of letters and
digits of any script, and the character that ends it stands for itself, whatever it is.  A blank outside quotes
ends the value, and only a comment may follow.

The assignments count one after the other, up to the first line that is none or that is not UTF-8.
-/
namespace ForbiddenHosts.Environment

/-! ### Lines -/

/-- Where a line stands in its quotes. -/
inductive Quotes where
  /-- Outside quotes. -/
  | outside
  /-- After a blank outside quotes. -/
  | blank
  /-- After a backslash outside quotes. -/
  | escape
  /-- Inside quotes of a kind. -/
  | inside (quote : Char)
  /-- After a backslash inside quotes of a kind. -/
  | insideEscape (quote : Char)
  deriving DecidableEq, Repr

namespace Quotes

/-- What a character outside quotes opens. -/
def opened (c : Char) : Quotes :=
  if c = '\\' then escape else if c = '"' ∨ c = '\'' then inside c else outside

/-- The place after one more character. -/
def step (state : Quotes) (c : Char) : Quotes :=
  match state with
  | outside => if Text.isBlank c && c != '\n' && c != '\r' then blank else opened c
  | blank => opened c
  | escape => outside
  | inside quote =>
    if c = '\\' then insideEscape quote else if c = quote then outside else inside quote
  | insideEscape quote => inside quote

/-- Reads one line: the place at its end, and what it says before a comment, if it has one. -/
def scan : Quotes → List Char → Quotes × Option (List Char)
  | state, [] => (state, none)
  | state, c :: rest =>
    if state = blank ∧ c = '#' then (outside, some [])
    else
      let (last, before) := scan (state.step c) rest
      (last, before.map (c :: ·))

end Quotes

/-- Cuts a text after every line feed. -/
def physicalLines (text : List Char) : List (List Char) :=
  text.foldr
    (fun c done =>
      if c = '\n' then [c] :: done
      else match done with
        | [] => [[c]]
        | line :: others => (c :: line) :: others)
    []

/-- Takes the line break off the end of a line. -/
def withoutBreak (line : List Char) : List Char :=
  match line.reverse with
  | '\n' :: '\r' :: rest => rest.reverse
  | '\n' :: rest => rest.reverse
  | _ => line

/-- Joins the lines whose breaks are inside quotes, and drops comments.  Each is read from the place
where the one before it ended; `sofar` is what has been read of a line that is still open.  A line
that never ends is dropped. -/
def logicalLinesFrom (state : Quotes) (sofar : List Char) : List (List Char) → List (List Char)
  | [] => []
  | line :: lines =>
    let all := sofar ++ line
    if (all.dropWhile Text.isBlank).head? = some '#' then logicalLinesFrom .outside [] lines
    else match state.scan line with
      | (_, some before) => (sofar ++ before) :: logicalLinesFrom .outside [] lines
      | (.outside, none) => withoutBreak all :: logicalLinesFrom .outside [] lines
      | (state, none) => logicalLinesFrom state all lines

/-- The lines of a file of assignments. -/
def logicalLines (text : List Char) : List (List Char) :=
  logicalLinesFrom .outside [] (physicalLines text)

/-! ### Values -/

/-- Where the reading of a value stands.  `weak` says that double quotes are open. -/
inductive ValueState where
  | plain (weak : Bool)
  /-- Inside single quotes. -/
  | strong
  /-- After a backslash. -/
  | escape (weak : Bool)
  /-- After a dollar; the name so far is reversed. -/
  | name (weak : Bool) (sofar : List Char)
  /-- After a dollar and a brace; the name so far is reversed. -/
  | braced (weak : Bool) (sofar : List Char)
  /-- After the value. -/
  | ended
  /-- In a comment after the value. -/
  | comment
  deriving DecidableEq, Repr

/-- What stands for a variable in a value. -/
def substitute (environment : Environment) (name : List Char) : List Char :=
  ((environment.value? (String.ofList name)).getD "").toList

/-- Reads one character of a value: the next place, and what the character adds to the value. -/
def ValueState.step (environment : Environment) (state : ValueState) (c : Char) :
    Option (ValueState × List Char) :=
  match state with
  | plain weak =>
    if c = '$' then some (name weak [], [])
    else if c = '\\' then some (escape weak, [])
    else if c = '"' then some (plain (!weak), [])
    else if weak then some (plain weak, [c])
    else if c = '\'' then some (strong, [])
    else if c = ' ' ∨ c = '\t' then some (ended, [])
    else some (plain weak, [c])
  | strong => if c = '\'' then some (plain false, []) else some (strong, [c])
  | escape weak =>
    if c = 'n' then some (plain weak, ['\n'])
    else if ['\\', '\'', '"', '$', ' '].contains c then some (plain weak, [c])
    else none
  | name weak sofar =>
    if Text.isAlphanumeric c then some (name weak (c :: sofar), [])
    else if c = '\x7b' ∧ sofar = [] then some (braced weak [], [])
    else
      let value := substitute environment sofar.reverse
      if c = '$' then some (name weak [], value) else some (plain weak, value ++ [c])
  | braced weak sofar =>
    if c = '\x7d' then some (plain weak, substitute environment sofar.reverse)
    else some (braced weak (c :: sofar), [])
  | ended =>
    if c = ' ' ∨ c = '\t' then some (ended, [])
    else if c = '#' then some (comment, [])
    else none
  | comment => some (comment, [])

/-- What the end of a value adds to it. -/
def ValueState.finish? (environment : Environment) : ValueState → Option (List Char)
  | plain weak => if weak then none else some []
  | strong => none
  | escape weak => if weak then none else some []
  | name weak sofar => if weak then none else some (substitute environment sofar.reverse)
  | braced .. => none
  | ended => some []
  | comment => some []

/-- Reads a value from a place on. -/
def readValueFrom? (environment : Environment) (state : ValueState) :
    List Char → Option (List Char)
  | [] => state.finish? environment
  | c :: rest => do
    let (state, part) ← state.step environment c
    let others ← readValueFrom? environment state rest
    return part ++ others

/-! ### Assignments -/

/-- A character with which a name may start. -/
def startsName (c : Char) : Bool := c.isAlpha || c == '_'

/-- A character of a name. -/
def isNameChar (c : Char) : Bool := c.isAlphanum || c == '_' || c == '.'

/-- What a line says that is well formed. -/
inductive Assignment where
  /-- Nothing. -/
  | blank
  /-- A value for a variable. -/
  | assign (name value : String)
  deriving DecidableEq, Repr

/-- Reads a name and the blanks after it. -/
def readName? (text : List Char) : Option (List Char × List Char) :=
  match text with
  | [] => none
  | c :: _ =>
    if startsName c then
      some (text.takeWhile isNameChar, (text.dropWhile isNameChar).dropWhile Text.isBlank)
    else none

/-- A line says nothing from here on. -/
def saysNothing (text : List Char) : Bool :=
  match text with
  | [] => true
  | c :: _ => c == '#'

/-- Reads what follows a name: an equals sign and a value, which may be missing. -/
def readAssigned? (environment : Environment) (name text : List Char) : Option Assignment :=
  match text with
  | '=' :: rest =>
    let value := rest.dropWhile Text.isBlank
    if saysNothing value then some (.assign (String.ofList name) "")
    else (readValueFrom? environment (.plain false) value).map fun value =>
      .assign (String.ofList name) (String.ofList value)
  | _ => none

/-- Reads a line. -/
def readAssignment? (environment : Environment) (line : List Char) : Option Assignment := do
  let text := Text.trim line
  if saysNothing text then return .blank
  let (name, rest) ← readName? text
  if name = ['e', 'x', 'p', 'o', 'r', 't'] ∧ rest.head? ≠ some '=' then do
    let (name, rest) ← readName? rest
    readAssigned? environment name rest
  else readAssigned? environment name rest

/-- Follows the assignments of lines, one after the other, up to the first line that is none. -/
def assignLines (environment : Environment) : List (List Char) → Environment
  | [] => environment
  | line :: lines =>
    match readAssignment? environment line with
    | none => environment
    | some .blank => assignLines environment lines
    | some (.assign name value) => assignLines (environment.define name value) lines

/-- The bytes of a file up to the first line that is not UTF-8. -/
def wellFormedLines (bytes : Bytes) : Bytes :=
  match Utf8.fault? bytes with
  | none => bytes
  | some offset => ((bytes.take offset).reverse.dropWhile (· != 0x0A)).reverse

/-- The lines of a file of assignments; a byte-order mark at its start is skipped. -/
def linesOfFile (bytes : Bytes) : List (List Char) :=
  match Utf8.decode (wellFormedLines bytes) with
  | '\uFEFF' :: text => logicalLines text
  | text => logicalLines text

/-- Follows the assignments of a file that may be missing. -/
def assignAll (environment : Environment) (file : Option Bytes) : Environment :=
  match file with
  | none => environment
  | some bytes => assignLines environment (linesOfFile bytes)

end ForbiddenHosts.Environment
