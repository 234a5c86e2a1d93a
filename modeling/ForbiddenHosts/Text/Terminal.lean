import ForbiddenHosts.Text.Quoted
import ForbiddenHosts.Text.Utf8

/-!
# Control sequences of terminals

A terminal takes some characters for commands.  A text that is shown as a message must not contain
such commands, and there are two ways to keep them out.

**Dropping them.**  `withoutSequences` leaves out control characters and whole control sequences: an
escape with what it introduces, up to the byte that ends it.  The reading is one automaton over
bytes (`Mode.step`).  White space stays, and inside a short sequence it also breaks the sequence off;
so does a byte that continues a character, inside any sequence.

**Showing them.**  `showControls` writes each character that could start or be part of a command as
an escape with its number.
-/
namespace ForbiddenHosts.Text

/-- Where a terminal stands in its input. -/
inductive Mode where
  /-- Between two sequences. -/
  | ground
  /-- After an escape. -/
  | escape
  /-- After an escape and intermediate bytes: one more byte ends the sequence. -/
  | intermediate
  /-- Inside a control sequence, which a byte from `@` to `~` ends. -/
  | control
  /-- Inside a string that only another escape or a cancellation ends. -/
  | string
  /-- Inside a string that a bell ends, too. -/
  | command
  deriving DecidableEq, Repr

/-- A byte that is white space. -/
def isSpaceByte (byte : UInt8) : Bool :=
  byte == 0x09 || byte == 0x0A || byte == 0x0C || byte == 0x0D || byte == 0x20

namespace Mode

/-- What the byte after an escape introduces. -/
def introduced (byte : UInt8) : Mode :=
  if byte = 0x5B then control
  else if byte = 0x5D then command
  else if byte = 0x50 ∨ byte = 0x58 ∨ byte = 0x5E ∨ byte = 0x5F then string
  else ground

/-- Reads one byte: the next mode, and whether the byte stays in the text. -/
def step (mode : Mode) (byte : UInt8) : Mode × Bool :=
  if 0x80 ≤ byte ∧ byte ≤ 0xBF then (ground, true)
  else if byte = 0x1B then (escape, false)
  else if byte = 0x18 ∨ byte = 0x1A then (ground, false)
  else match mode with
    | ground => (ground, isSpaceByte byte || (0x20 ≤ byte && byte != 0x7F))
    | string => (string, false)
    | command => (if byte = 0x07 then ground else command, false)
    | _ =>
      if byte < 0x20 then if isSpaceByte byte then (ground, true) else (mode, false)
      else if 0x7F ≤ byte then (mode, false)
      else match mode with
        | escape => (if byte < 0x30 then intermediate else introduced byte, false)
        | intermediate => (if byte < 0x30 then intermediate else ground, false)
        | _ => (if byte < 0x40 then control else ground, false)

/-- The bytes that stay, reading from a mode on. -/
def keep (mode : Mode) : Bytes → Bytes
  | [] => []
  | byte :: rest =>
    let (next, stays) := mode.step byte
    if stays then byte :: next.keep rest else next.keep rest

end Mode

/-- A text without control characters and control sequences. -/
def withoutSequences (text : String) : String :=
  Utf8.decodeString (Mode.ground.keep (Utf8.encodeString text))

/-- How a character is written where commands must show.  Tabs and line breaks are no commands. -/
def showControl (c : Char) : List Char :=
  if c = '\x07' ∨ c = '\x08' ∨ c = '\x0c' then ['\\', 'x', '0'] ++ hexadecimal c.toNat
  else if c = '\x1b' ∨ c = '\x7f' then ['\\', 'x'] ++ hexadecimal c.toNat
  else if 0x80 ≤ c.toNat ∧ c.toNat ≤ 0x9F then numbered c
  else [c]

/-- A text in which commands to a terminal show. -/
def showControls (text : String) : String :=
  String.ofList (text.toList.flatMap showControl)

end ForbiddenHosts.Text
