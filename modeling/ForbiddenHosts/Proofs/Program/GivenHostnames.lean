import ForbiddenHosts.Proofs.CommandLine.OptionCount
import ForbiddenHosts.Proofs.Program.ExitCode

/-!
# Given hostnames hide the configured ones

Whoever gives a custom hostname on the command line must not depend on what else is configured.  Two
runs with the same command line, in which the option occurs, and with the same address of the CT log
list may otherwise have any settings file and any environment: nobody who sees their requests, the
replies or their ends can tell them apart (`Indistinguishable`).  One occurrence of the option is
enough, also with an empty value.

The configured hostnames come into a run at one place, where they stand in for given ones.  An
accepted command line in which the option occurs has a given one (`customHostnames_ne_nil`), so the
sync run has just the given ones, in their place (`syncOf_given`).  The two runs are then one and the
same, but for the note of what was configured (`run_given`).
-/
namespace ForbiddenHosts

open Http

variable {σ : Type}

namespace CommandLine

/-- The option occurs, with its value or without. -/
def GivesHostname (arguments : List String) : Prop :=
  ∃ argument ∈ arguments, argument = bareOption ∨ ∃ value, argument = joinedOption value

/-- **Where the option occurs, there is a custom hostname.** -/
theorem customHostnames_ne_nil {arguments : List String} {c : CommandLine}
    (h : parse arguments = .ok c) (given : GivesHostname arguments) : c.customHostnames ≠ [] := by
  obtain ⟨argument, hmem, hoption⟩ := given
  have hnames : namesOption argument = true := by
    rcases hoption with rfl | ⟨value, rfl⟩
    · exact namesOption_bareOption
    · exact namesOption_joinedOption value
  intro hnil
  have hcount := length_customHostnames h
  rw [hnil] at hcount
  have hpositive : 0 < arguments.countP namesOption :=
    List.countP_pos_iff.mpr ⟨argument, hmem, hnames⟩
  exact Nat.ne_of_lt hpositive hcount

end CommandLine

namespace Program

open CommandLine

variable {i j : Invocation} {c : CommandLine} {ofI ofJ : Configuration}

/-- The sync run of a command line that gives hostnames has these and no others. -/
theorem syncOf_given (hparse : parse i.arguments = .ok c) (given : GivesHostname i.arguments)
    (configuration : Configuration) :
    syncOf c configuration = ⟨configuration.ctLogUrl, .ofUrl c.apiUrl, c.customHostnames⟩ := by
  have hne := customHostnames_ne_nil hparse given
  rw [syncOf, customHostnamesOr, if_neg (by simpa using hne)]

/-- What a run does that has been given hostnames, once it has noted its configuration.  Of the
configuration only the address of the CT log list is left. -/
def givenRun (ctLogUrl : String) (c : CommandLine) : Conversation Event Ending := do
  let result ← (Sync.mk ctLogUrl (.ofUrl c.apiUrl) c.customHostnames).run.run
  return settle result

/-- **A run that has been given hostnames** notes its configuration, and then goes on without the
configured ones. -/
theorem run_given (hparse : parse i.arguments = .ok c) (given : GivesHostname i.arguments)
    (hload : i.configuration = .ok ofI) :
    run i = .note (.configurationLoaded ofI) (givenRun ofI.ctLogUrl c) := by
  rw [run, hparse]
  simp only [hload]
  rw [syncOf_given hparse given, givenRun]

/-- **Two runs cannot be told apart** over a network. -/
structure Indistinguishable (i j : Invocation) (network : Network σ) (before : σ) : Prop where
  /-- They make the same requests, with the same bodies, in the same order. -/
  requests : ((run i).over network before).requests = ((run j).over network before).requests
  /-- They get the same replies. -/
  exchanges : (run i).exchanges network before = (run j).exchanges network before
  /-- They leave the network in the same state. -/
  world : ((run i).over network before).world = ((run j).over network before).world
  /-- They end in the same way. -/
  ending : ((run i).over network before).result = ((run j).over network before).result
  /-- They end with the same exit code. -/
  exitCode : ((run i).over network before).result.exitCode =
    ((run j).over network before).result.exitCode
  /-- They note the same, but for the first note. -/
  notes : ((run i).over network before).notes.tail = ((run j).over network before).notes.tail

/-- **Given hostnames hide the configured ones**: if the command lines are the same and give a
custom hostname, and the addresses of the CT log list are the same, then the settings files and the
environments do not matter, whatever the network does.  What is requested is what a sync run with
the given hostnames requests. -/
theorem indistinguishable_of_given (same : i.arguments = j.arguments)
    (hparse : parse i.arguments = .ok c) (given : GivesHostname i.arguments)
    (hi : i.configuration = .ok ofI) (hj : j.configuration = .ok ofJ)
    (hurl : ofI.ctLogUrl = ofJ.ctLogUrl) (network : Network σ) (before : σ) :
    Indistinguishable i j network before ∧
      ((run i).over network before).requests =
        ((Sync.mk ofI.ctLogUrl (.ofUrl c.apiUrl) c.customHostnames).run.over network
          before).requests := by
  have hruni := run_given hparse given hi
  have hrunj : run j = .note (.configurationLoaded ofJ) (givenRun ofI.ctLogUrl c) := by
    rw [same] at hparse given
    rw [hurl]
    exact run_given hparse given hj
  constructor
  · constructor
    all_goals
      rw [hruni, hrunj]
      rfl
  · rw [(over_run_configured network before hparse hi).2.1, syncOf_given hparse given]

/-- A settings file with a custom hostname. -/
def onionFile : Bytes := Utf8.encodeString
  "\x7b\"blacklist\":\x7b\"custom_hostnames\":[\"c.onion\"]\x7d\x7d"

/-- A run with an empty custom hostname, and another one in its settings file. -/
def filedRun : Invocation where
  arguments := ["--custom-hostname=", "http://config.example"]
  «variables» := []
  assignments := none
  settings := some onionFile

/-- The same run without a settings file, and with two hostnames in its environment. -/
def exportedRun : Invocation where
  arguments := filedRun.arguments
  «variables» := [("APP_BLACKLIST__CUSTOM_HOSTNAMES", "a.onion,b.onion")]
  assignments := none
  settings := none

/-- Of two runs whose configured hostnames differ, over a network that accepts what is put. -/
theorem indistinguishable_filedRun :
    GivesHostname filedRun.arguments ∧
      filedRun.configuration = .ok ⟨Configuration.defaultCtLogUrl, ["c.onion"]⟩ ∧
      exportedRun.configuration = .ok ⟨Configuration.defaultCtLogUrl, ["a.onion", "b.onion"]⟩ ∧
      Indistinguishable filedRun exportedRun servingNetwork () ∧
      ((run filedRun).over servingNetwork ()).requests =
        ((Sync.mk Configuration.defaultCtLogUrl (.ofUrl scheduledLine.apiUrl) [""]).run.over
          servingNetwork ()).requests := by
  have hparse : parse filedRun.arguments = .ok ⟨scheduledLine.apiUrl, [""]⟩ := rfl
  have hgiven : GivesHostname filedRun.arguments :=
    ⟨"--custom-hostname=", List.mem_cons_self, .inr ⟨"", by decide⟩⟩
  have hfiled : filedRun.configuration = .ok ⟨Configuration.defaultCtLogUrl, ["c.onion"]⟩ :=
    configuration_eq_ok (by decide +kernel)
  have hexported : exportedRun.configuration =
      .ok ⟨Configuration.defaultCtLogUrl, ["a.onion", "b.onion"]⟩ :=
    configuration_eq_ok (by decide +kernel)
  have hsame : filedRun.arguments = exportedRun.arguments := rfl
  have hboth := indistinguishable_of_given hsame hparse hgiven hfiled hexported rfl servingNetwork ()
  exact ⟨hgiven, hfiled, hexported, hboth⟩

end Program

end ForbiddenHosts
