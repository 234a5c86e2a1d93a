import ForbiddenHosts.Text.Pieces
import ForbiddenHosts.Text.Terminal
import ForbiddenHosts.Url.Basic

/-!
# The command line

The program takes one positional argument, the base URL of the configuration API, and the option
`--custom-hostname`, which may be repeated.  Its value is the next argument, unless that looks like
an option, or whatever follows an equals sign.  A lone hyphen and an empty argument look like no
option, and after `--` no argument does.

Arguments are read from left to right.  A positional argument and an option without a value are
**pending** until the next argument of another kind: only then is the URL read, or the value missed.
So an unknown option wins over a URL that is none before it, and a request for help wins only over
what comes after it.  That there is no URL at all is noticed last.
-/
namespace ForbiddenHosts

/-- The command line of a run. -/
structure CommandLine where
  apiUrl : Url
  customHostnames : List String
  deriving DecidableEq, Repr

namespace CommandLine

/-- Why a command line is not that of a run. -/
inductive Refusal where
  /-- It asks for the help text. -/
  | help
  /-- There is no URL. -/
  | missingUrl
  /-- The positional argument is no URL. -/
  | invalidUrl (given : String) (fault : Url.Fault)
  /-- An argument has no place, as it is shown. -/
  | unknownArgument (shown : String)
  /-- The option has no value. -/
  | missingValue
  /-- The help flag has a value. -/
  | helpWithValue (value : String)
  deriving DecidableEq, Repr

/-- The help text, line by line. -/
def helpLines : List String :=
  ["Merges the CT log onion list into the crawler's forbidden hostnames.",
    "",
    "Usage: blacklist-hostnames [OPTIONS] <CONFIG_API_URI>",
    "",
    "Arguments:",
    "  <CONFIG_API_URI>  Base URI of the configuration API, e.g. https://config.example/api",
    "",
    "Options:",
    "      --custom-hostname <HOST>  Custom hostname to forbid; repeat to pass several. " ++
      "Replaces the configured custom hostnames when given",
    "  -h, --help                    Print help"]

/-- The help text, with a line break after each line. -/
def helpText : String := String.join (helpLines.map (· ++ "\n"))

/-- What an argument looks like in a message: between quotes, without control sequences. -/
def cited (argument : String) : String := "'" ++ Text.withoutSequences argument ++ "'"

/-- The message for a refusal, which may have several lines if an argument has. -/
def Refusal.message : Refusal → String
  | help => helpText
  | missingUrl => "error: the following required arguments were not provided:"
  | invalidUrl given fault =>
    "error: invalid value " ++ cited given ++ " for '<CONFIG_API_URI>': " ++ fault.message
  | unknownArgument shown => "error: unexpected argument " ++ cited shown ++ " found"
  | missingValue =>
    "error: a value is required for '--custom-hostname <HOST>' but none was supplied"
  | helpWithValue value =>
    "error: unexpected value " ++ cited value ++ " for '--help' found; no more were expected"

/-- The status with which the program ends when it refuses its command line. -/
def Refusal.exitCode : Refusal → Nat
  | help => 0
  | _ => 2

/-! ### Arguments -/

/-- What an argument is by its look. -/
inductive Argument where
  /-- The two hyphens after which no argument looks like an option. -/
  | separator
  /-- An option with a long name, and what follows its equals sign. -/
  | long (name : String) (value : Option String)
  /-- An option with a short name. -/
  | short (name : Char)
  /-- Anything else. -/
  | plain (text : String)
  deriving DecidableEq, Repr

/-- Looks at an argument. -/
def Argument.ofString (text : String) : Argument :=
  match text.toList with
  | ['-', '-'] => separator
  | '-' :: '-' :: rest =>
    let (name, value) := Url.cutAt '=' rest
    long (String.ofList name) (value.map String.ofList)
  | '-' :: name :: _ => short name
  | _ => plain text

/-- What is pending between two arguments. -/
inductive Pending where
  | nothing
  /-- A positional argument, which is to be read as a URL. -/
  | positional (given : String)
  /-- The option, which still has no value. -/
  | option
  deriving DecidableEq, Repr

/-- How far the arguments have been read. -/
structure State where
  url : Option Url
  /-- The values of the option, the latest first. -/
  hostnames : List String
  pending : Pending
  /-- The separator has been read. -/
  separated : Bool
  deriving DecidableEq, Repr

namespace State

/-- Nothing has been read. -/
def start : State := ⟨none, [], .nothing, false⟩

/-- There is a positional argument already. -/
def hasPositional (state : State) : Bool :=
  state.url.isSome ||
    match state.pending with
    | .positional _ => true
    | _ => false

/-- Finishes what is pending. -/
def settle (state : State) : Except Refusal State :=
  match state.pending with
  | .nothing => .ok state
  | .positional given =>
    match Url.parse given with
    | .ok url => .ok { state with url := some url, pending := .nothing }
    | .error fault => .error (.invalidUrl given fault)
  | .option => .error .missingValue

/-- Takes a positional argument. -/
def takePositional (state : State) (text : String) : Except Refusal State :=
  if state.hasPositional then .error (.unknownArgument text)
  else do
    let state ← state.settle
    return { state with pending := .positional text }

/-- Takes an argument that does not look like an option. -/
def takePlain (state : State) (text : String) : Except Refusal State :=
  if state.pending = .option ∧ state.separated = false then
    .ok { state with hostnames := text :: state.hostnames, pending := .nothing }
  else state.takePositional text

/-- Takes the next argument. -/
def take (state : State) (text : String) : Except Refusal State :=
  if state.separated then state.takePositional text
  else match Argument.ofString text with
    | .separator => .ok { state with separated := true }
    | .long name value =>
      if name = "custom-hostname" then do
        let state ← state.settle
        match value with
        | some value => return { state with hostnames := value :: state.hostnames }
        | none => return { state with pending := .option }
      else if name = "help" then
        match value with
        | some value => .error (.helpWithValue value)
        | none => do
          let _ ← state.settle
          .error .help
      else .error (.unknownArgument ("--" ++ name))
    | .short name =>
      if name = 'h' then do
        let _ ← state.settle
        .error .help
      else .error (.unknownArgument (String.ofList ['-', name]))
    | .plain text => state.takePlain text

/-- Ends the reading. -/
def finish (state : State) : Except Refusal CommandLine := do
  let state ← state.settle
  match state.url with
  | some url => return ⟨url, state.hostnames.reverse⟩
  | none => throw .missingUrl

end State

/-- Reads a command line, without the name of the program. -/
def parse (arguments : List String) : Except Refusal CommandLine := do
  let state ← arguments.foldlM State.take State.start
  state.finish

/-- The custom hostnames of a run: those of the command line replace the configured ones. -/
def customHostnamesOr (c : CommandLine) (configured : List String) : List String :=
  if c.customHostnames.isEmpty then configured else c.customHostnames

end CommandLine

end ForbiddenHosts
