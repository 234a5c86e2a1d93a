import ForbiddenHosts.CommandLine
import ForbiddenHosts.Environment.Assignments
import ForbiddenHosts.Log.Filter
import ForbiddenHosts.Runtime
import ForbiddenHosts.Settings.Load
import ForbiddenHosts.Sync.Run

/-!
# The program

A run of the program starts from what it is given (`Invocation`), holds a conversation with the
network, and comes to an `Ending`, which fixes its exit code.  The command line is read first, then
the configuration, and only then is anything requested; so a run that refuses its command line or
has no configuration makes no request at all.

An assignment file adds variables to the environment, before anything but the command line is read.
What the program writes are the events that its log filter lets through, or the help text.

All of this is a run on the runtime.  The program as it is started (`Program.start`) brings up the
runtime first, and crashes if that fails.
-/
namespace ForbiddenHosts

/-- What a run is given. -/
structure Invocation where
  /-- The arguments, without the name of the program. -/
  arguments : List String
  /-- The variables that are set from outside. -/
  «variables» : Environment
  /-- The content of the assignment file, if there is one. -/
  assignments : Option Bytes
  /-- The content of the settings file, if there is one. -/
  settings : Option Bytes

namespace Invocation

/-- The environment of a run: the variables that are set from outside, and those of the assignment
file that are not. -/
def environment (invocation : Invocation) : Environment :=
  invocation.variables.assignAll invocation.assignments

/-- The variable that spells the log filter. -/
def filterVariable : String := "RUST_LOG"

/-- The log filter of a run. -/
def filter (invocation : Invocation) : Log.Filter :=
  .ofVariable (invocation.environment.value? filterVariable)

/-- The configuration of a run. -/
def configuration (invocation : Invocation) : Except Settings.Fault Configuration :=
  Configuration.load invocation.settings invocation.environment

end Invocation

/-- How a run ends. -/
inductive Ending where
  /-- The command line is not that of a run. -/
  | refused (refusal : CommandLine.Refusal)
  /-- Something kept the run from succeeding. -/
  | failed (error : SyncError)
  /-- The merged list was accepted. -/
  | succeeded (report : Report)
  /-- The runtime did not start. -/
  | crashed (fault : Runtime.Fault)

namespace Ending

/-- The exit code of a run. -/
def exitCode : Ending → Nat
  | refused refusal => refusal.exitCode
  | failed _ => 1
  | succeeded _ => 0
  | crashed _ => 101

/-- The message for a run that did not succeed.  A configuration that is missing is reported by its
fault alone. -/
def message? : Ending → Option String
  | refused .help => none
  | refused refusal => some refusal.message
  | failed (.configuration fault) => some fault.message
  | failed error => some error.message
  | succeeded _ => none
  | crashed fault => some fault.message

/-- The lines of the text that a run was asked for. -/
def answer : Ending → List String
  | refused .help => CommandLine.helpLines
  | _ => []

end Ending

namespace Program

/-- Fails with the message of a rejection. -/
def settle (result : Except SyncError Report) : Ending :=
  match result.bind Report.settle with
  | .ok report => .succeeded report
  | .error error => .failed error

/-- The sync run that a command line and a configuration ask for. -/
def syncOf (commandLine : CommandLine) (configuration : Configuration) : Sync where
  ctLogUrl := configuration.ctLogUrl
  api := .ofUrl commandLine.apiUrl
  customHostnames := commandLine.customHostnamesOr configuration.customHostnames

/-- A run of the program. -/
def run (invocation : Invocation) : Http.Conversation Event Ending :=
  match CommandLine.parse invocation.arguments with
  | .error refusal => pure (.refused refusal)
  | .ok commandLine =>
    match invocation.configuration with
    | .error fault => pure (.failed (.configuration fault))
    | .ok configuration =>
      .note (.configurationLoaded configuration) do
        let result ← (syncOf commandLine configuration).run.run
        return settle result

/-- The program, from the start of its runtime on. -/
def start (invocation : Invocation) : Http.Conversation Event Ending :=
  match Runtime.fault? invocation.variables with
  | some fault => pure (.crashed fault)
  | none => run invocation

/-- The lines that a run writes. -/
def lines (invocation : Invocation) (ending : Ending) (events : List Event) : List String :=
  ending.answer ++
    (events.filter fun event => invocation.filter.admits event.target event.level).flatMap
      fun event => Text.allLines event.line

end Program

end ForbiddenHosts
