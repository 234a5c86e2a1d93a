import ForbiddenHosts.Decimal.Reading
import ForbiddenHosts.Log.Level
import ForbiddenHosts.Text.Alphanumeric
import ForbiddenHosts.Text.Pieces

/-!
# Log filters

A log filter is a list of **directives**, each with a target and the least grave level that it lets
through.  It concerns the events of the parts of the program whose names start with its target, or,
if it names a field, those among them that have the field.  Of the directives that concern an event
the one with the longest target decides, among these one that names a field, and of what is left the
last one.  An event that no directive concerns is left out.

Directives are written with commas between them, each as `target=level`, as a level alone, which
concerns every event, or as a target alone, which lets everything through.  A level is a name in
letters of either case or a number from 0 to 5.  Brackets after the target hold a span, or a field in
braces, or both; no event belongs to a span and no field has a value to compare, so a directive that
names a span or a value decides nothing.

Blanks around a directive are not skipped.  A level or a target with a blank at an end is not the one
that it would be without, and no level may follow a target that has a blank before it.
-/
namespace ForbiddenHosts.Log

/-- A rule about the events of some parts of the program. -/
structure Directive where
  /-- How the names of those parts start. -/
  target : List Char
  /-- The field that the events have. -/
  field : Option (List Char)
  /-- The least grave level that is let through; `none` lets nothing through. -/
  most : Option Level
  deriving DecidableEq, Repr

/-- The rules that choose the events of the log. -/
structure Filter where
  directives : List Directive
  deriving DecidableEq, Repr

namespace Directive

/-- The one field that every event has. -/
def message : List Char := ['m', 'e', 's', 's', 'a', 'g', 'e']

/-- The directive concerns the events of a part of the program. -/
def concerns (d : Directive) (target : String) : Bool :=
  d.target.isPrefixOf target.toList && d.field.all (· == message)

/-- Between two directives that concern an event, the later one is to decide. -/
def yieldsTo (d later : Directive) : Bool :=
  d.target.length < later.target.length ||
    (d.target.length == later.target.length && (later.field.isSome || d.field.isNone))

/-- The directive lets events of a level through. -/
def admits (d : Directive) (level : Level) : Bool :=
  match d.most with
  | some most => level.rank ≤ most.rank
  | none => false

end Directive

namespace Filter

/-- The directive that decides about a part of the program. -/
def decisive? (f : Filter) (target : String) : Option Directive :=
  f.directives.foldl
    (fun best d =>
      if d.concerns target && best.all (fun (b : Directive) => b.yieldsTo d) then some d else best)
    none

/-- The filter lets the events of a part of the program and a level through. -/
def admits (f : Filter) (target : String) (level : Level) : Bool :=
  (f.decisive? target).any (·.admits level)

/-- The filter of a program that is told nothing: everything down to information. -/
def standard : Filter := ⟨[⟨[], none, some .info⟩]⟩

/-! ### Reading -/

/-- The level that a text names; the inner `none` lets nothing through. -/
def level? (text : List Char) : Option (Option Level) :=
  match String.ofList (text.map Char.toLower) with
  | "off" => some none
  | "error" => some (some .error)
  | "warn" => some (some .warn)
  | "info" => some (some .info)
  | "debug" => some (some .debug)
  | "trace" => some (some .trace)
  | _ =>
    let digits := match text with
      | '+' :: digits => digits
      | digits => digits
    match Decimal.signed? false digits with
    | some 0 => some none
    | some 1 => some (some .error)
    | some 2 => some (some .warn)
    | some 3 => some (some .info)
    | some 4 => some (some .debug)
    | some 5 => some (some .trace)
    | _ => none

/-- A character with which a target may start. -/
def startsTarget (c : Char) : Bool :=
  Text.isAlphanumeric c || c == '-' || c == ':' || c == '_'

/-- Reads what follows a target: an equals sign and a level, which may be missing, or blanks. -/
def readMost? (text : List Char) : Option (Option Level) :=
  match text with
  | ['='] => some (some .trace)
  | '=' :: level => level? level
  | blanks => if blanks.all Text.isBlank then some (some .trace) else none

/-- What brackets hold. -/
inductive Scope where
  /-- A span, or a field with a value. -/
  | never
  /-- A field alone. -/
  | field (name : List Char)
  deriving DecidableEq, Repr

/-- Reads what brackets hold, with the closing bracket but without the opening one. -/
def readScope? (text : List Char) : Option (Scope × List Char) :=
  let isMark := fun c => c == ']' || c == '\x7b'
  let span := text.takeWhile (!isMark ·)
  match text.dropWhile (!isMark ·) with
  | [] => none
  | ']' :: rest => some (.never, rest)
  | _ :: rest =>
    let field := rest.takeWhile (· != '\x7d')
    match field, rest.dropWhile (· != '\x7d') with
    | _ :: _, _ :: ']' :: rest =>
      some (if span.isEmpty && !field.contains '=' then .field field else .never, rest)
    | _, _ => none

/-- Reads a directive; the inner `none` is one that decides nothing. -/
def readDirective? (text : List Char) : Option (Option Directive) :=
  let body := text.dropWhile Text.isBlank
  let blankBefore := body.length < text.length
  let isMark := fun c => c == '=' || c == '['
  let target := body.takeWhile (!isMark ·)
  let mostOf := fun (rest : List Char) =>
    if blankBefore && rest.head? == some '=' then none else readMost? rest
  if !body.head?.any (fun first => first == '[' || startsTarget first) then none
  else match body.dropWhile (!isMark ·) with
    | [] => some (some (match level? text with
      | some most => ⟨[], none, most⟩
      | none => ⟨text, none, some .trace⟩))
    | '[' :: scope =>
      match readScope? scope with
      | none => none
      | some (.never, rest) => (mostOf rest).map fun _ => none
      | some (.field name, rest) => (mostOf rest).map fun most =>
        if blankBefore then none else some ⟨target, some name, most⟩
    | rest => (mostOf rest).map fun most => some ⟨target, none, most⟩

/-- The filter that a text spells. -/
def parse? (text : String) : Option Filter :=
  (((Text.pieces ',' text.toList).filter (fun piece => !piece.isEmpty)).mapM
    readDirective?).map fun directives => ⟨directives.filterMap id⟩

/-- The filter that a variable may spell; the standard one if it is not set or spells none. -/
def ofVariable (value : Option String) : Filter := (value.bind parse?).getD standard

end Filter

end ForbiddenHosts.Log
