import ForbiddenHosts.Proofs.Hostname.LineFormat
import ForbiddenHosts.Proofs.Program.ExitCode
import ForbiddenHosts.Proofs.Settings.Mentions
import ForbiddenHosts.Proofs.Sync.Publication
import ForbiddenHosts.Proofs.Sync.Sending

/-!
# Hostnames that a run introduces

A hostname that is published and was not stored is **introduced** by the run, and every later run
publishes it again.  Since hostnames are matched exactly, one that is empty or has a blank at an end
forbids nothing.

The CT log list cannot bring in such a hostname, nor can the default hostnames.  Custom hostnames
can, for they are taken as they are written on the command line or in the settings file:
`introduces_paddedRun` is a run that introduces two of the former, and `introduces_paddedFileRun`
one of the latter.  `accounted_run` is the main statement: whatever else is introduced is tidy, and
custom hostnames are published just as they are.

Introducing is said by what goes over the network alone: the records in the body of a put, and those
in the reply to a request for the stored list.
-/
namespace ForbiddenHosts

open Http Text

/-! ### What goes over the network -/

namespace Http

variable {exchanges : List (Request × Reply)} {hostname : String}

/-- A put carries these records. -/
def Puts (exchanges : List (Request × Reply)) (sent : List HostnameRecord) : Prop :=
  ∃ put reply, (put, reply) ∈ exchanges ∧ put.method = .put ∧
    Json.decode Json.readRecords put.body = .ok sent

/-- A request for the stored list is answered with these records. -/
def Reads (exchanges : List (Request × Reply)) (stored : List HostnameRecord) : Prop :=
  ∃ read status body, (read, .arrived status (.complete body)) ∈ exchanges ∧
    read.method = .get ∧ read.accept = "application/json" ∧
    Json.decode Json.readRecords body = .ok stored

/-- **A hostname is introduced**: it is published, and it was not stored. -/
structure Introduces (exchanges : List (Request × Reply)) (hostname : String) : Prop where
  published : ∃ sent, Puts exchanges sent ∧ ⟨hostname⟩ ∈ sent
  not_stored : ∀ stored, Reads exchanges stored → ⟨hostname⟩ ∉ stored

end Http

namespace Sync

variable {σ : Type} {network : Network σ} {before : σ} {sync : Sync} {ctLog : Bytes}
  {stored sent read : List HostnameRecord} {put : Request} {hostnames : List String}
  {hostname : String}

/-- The exchanges of a run that sends. -/
theorem Sends.exists_replies (h : sync.Sends network before ctLog stored put hostnames) :
    ∃ fetch ask fetchReply status body reply,
      network.replies (sync.run.over network before).requests before =
        [(fetch, fetchReply), (ask, .arrived status (.complete body)), (put, reply)] ∧
      fetch.method = .get ∧ fetch.accept = "*/*" ∧
      ask.method = .get ∧ ask.accept = "application/json" ∧
      Json.decode Json.readRecords body = .ok stored := by
  obtain ⟨fetch, ask, body, middle, late, fetched, kept, decoded, hrequests⟩ := h.asks
  obtain ⟨fetchStatus, status, hreplies⟩ := replies_of_yields fetched kept rfl
  obtain ⟨_, _, _, rfl⟩ := make_eq_ok_iff.mp fetched.made
  obtain ⟨_, _, _, rfl⟩ := make_eq_ok_iff.mp kept.made
  rw [hrequests]
  exact ⟨_, _, _, status, body, _, hreplies, rfl, rfl, rfl, rfl, decoded⟩

theorem Sends.puts_iff (h : sync.Sends network before ctLog stored put hostnames) :
    Puts (network.replies (sync.run.over network before).requests before) sent ↔
      sent = hostnames.map HostnameRecord.mk := by
  obtain ⟨fetch, ask, _, _, _, reply, hreplies, hfetch, _, hask, _, _⟩ := h.exists_replies
  rw [hreplies]
  constructor
  · rintro ⟨request, _, hmem, hmethod, hdecode⟩
    simp only [List.mem_cons, Prod.mk.injEq, List.not_mem_nil, or_false] at hmem
    rcases hmem with ⟨rfl, _⟩ | ⟨rfl, _⟩ | ⟨rfl, _⟩
    · rw [hfetch] at hmethod
      cases hmethod
    · rw [hask] at hmethod
      cases hmethod
    · exact Except.ok.inj (hdecode.symm.trans h.body_reads)
  · rintro rfl
    exact ⟨put, reply, by simp, h.method_eq, h.body_reads⟩

theorem Sends.reads_iff (h : sync.Sends network before ctLog stored put hostnames) :
    Reads (network.replies (sync.run.over network before).requests before) read ↔
      read = stored := by
  obtain ⟨fetch, ask, _, status, body, _, hreplies, _, hfetch, hask, haccept, decoded⟩ :=
    h.exists_replies
  rw [hreplies]
  constructor
  · rintro ⟨request, _, _, hmem, hmethod, hjson, hdecode⟩
    simp only [List.mem_cons, Prod.mk.injEq, List.not_mem_nil, or_false] at hmem
    rcases hmem with ⟨rfl, _⟩ | ⟨rfl, hreply⟩ | ⟨rfl, _⟩
    · rw [hfetch] at hjson
      exact absurd hjson (by decide)
    · cases hreply
      exact Except.ok.inj (hdecode.symm.trans decoded)
    · rw [h.method_eq] at hmethod
      cases hmethod
  · rintro rfl
    exact ⟨ask, status, body, by simp, hask, haccept, decoded⟩

/-- The records that a run sends are those of its sources. -/
theorem Sends.mem_records_iff (h : sync.Sends network before ctLog stored put hostnames) :
    (⟨hostname⟩ : HostnameRecord) ∈ hostnames.map HostnameRecord.mk ↔
      hostname ∈ ctLogHostnames ctLog ∨ hostname ∈ sync.customHostnames ∨ ⟨hostname⟩ ∈ stored := by
  rw [h.hostnames_eq, ← mem_sources_iff, ← List.mem_eraseDups]
  simp

/-- **What a run introduces** are the hostnames of its sources that were not stored. -/
theorem Sends.introduces_iff (h : sync.Sends network before ctLog stored put hostnames) :
    Introduces (network.replies (sync.run.over network before).requests before) hostname ↔
      (hostname ∈ ctLogHostnames ctLog ∨ hostname ∈ sync.customHostnames) ∧
        ⟨hostname⟩ ∉ stored := by
  constructor
  · rintro ⟨⟨sent, hputs, hsent⟩, hnot⟩
    rw [h.puts_iff] at hputs
    rw [hputs, h.mem_records_iff] at hsent
    have hstored := hnot stored (h.reads_iff.mpr rfl)
    exact ⟨hsent.imp_right fun hor => hor.resolve_right hstored, hstored⟩
  · rintro ⟨hsource, hstored⟩
    refine ⟨⟨_, h.puts_iff.mpr rfl, h.mem_records_iff.mpr ?_⟩, ?_⟩
    · exact hsource.imp_right Or.inl
    · intro read hread
      rwa [h.reads_iff.mp hread]

end Sync

namespace Program

variable {σ : Type} {network : Network σ} {before : σ} {invocation : Invocation} {c : CommandLine}
  {configuration : Configuration} {put : Request} {reply : Reply} {hostname : String}

/-! ### Runs of the program -/

/-- **A put of a run is that of a sync run**, which has its command line and its configuration. -/
theorem exists_sends_of_mem_exchanges
    (mem : (put, reply) ∈ (run invocation).exchanges network before)
    (method_eq : put.method = .put) :
    ∃ c configuration ctLog stored hostnames,
      CommandLine.parse invocation.arguments = .ok c ∧
      invocation.configuration = .ok configuration ∧
      (syncOf c configuration).Sends network before ctLog stored put hostnames := by
  cases hparse : CommandLine.parse invocation.arguments with
  | error refusal =>
    rw [run_refused hparse] at mem
    cases mem
  | ok c =>
    cases hload : invocation.configuration with
    | error fault =>
      rw [run_unconfigured hparse hload] at mem
      cases mem
    | ok configuration =>
      rw [exchanges_run_configured network before hparse hload] at mem
      obtain ⟨ctLog, stored, hostnames, hsends⟩ :=
        Sync.exists_sends_of_put (Network.mem_of_mem_replies mem) method_eq
      exact ⟨c, configuration, ctLog, stored, hostnames, rfl, rfl, hsends⟩

/-- **A hostname is taken as it is written**, whatever its characters are. -/
inductive TakenAsWritten (invocation : Invocation) (hostname : String) : Prop where
  /-- The command line gives it. -/
  | given {c : CommandLine} (parsed : CommandLine.parse invocation.arguments = .ok c)
      (mem : hostname ∈ c.customHostnames)
  /-- The command line gives none, and it is a configured one that is written in the settings. -/
  | configured {c : CommandLine} {configuration : Configuration}
      (parsed : CommandLine.parse invocation.arguments = .ok c)
      (loaded : invocation.configuration = .ok configuration)
      (none_given : c.customHostnames = [])
      (mem : hostname ∈ configuration.customHostnames)
      (written : Settings.Written invocation.settings invocation.environment hostname)

/-- A custom hostname of a run is tidy, or taken as it is written. -/
theorem tidy_or_takenAsWritten (hparse : CommandLine.parse invocation.arguments = .ok c)
    (hload : invocation.configuration = .ok configuration)
    (mem : hostname ∈ c.customHostnamesOr configuration.customHostnames) :
    Tidy hostname ∨ TakenAsWritten invocation hostname := by
  rw [CommandLine.customHostnamesOr] at mem
  split at mem
  · next hempty =>
    have hnone : c.customHostnames = [] := List.isEmpty_iff.mp hempty
    exact (Settings.tidy_or_written_of_load hload mem).imp_right
      (.configured hparse hload hnone mem)
  · exact .inr (.given hparse mem)

/-- **All that a run introduces is accounted for.** -/
structure Accounted (invocation : Invocation) (network : Network σ) (before : σ) : Prop where
  /-- What is put is a list of records. -/
  records : ∀ put reply, (put, reply) ∈ (run invocation).exchanges network before →
    put.method = .put → ∃ sent, Json.decode Json.readRecords put.body = .ok sent
  /-- What is introduced is tidy, or taken as it is written. -/
  introduced : ∀ hostname, Introduces ((run invocation).exchanges network before) hostname →
    Tidy hostname ∨ TakenAsWritten invocation hostname
  /-- Custom hostnames are published just as they are, tidy or not. -/
  custom : ∀ c configuration hostname sent, CommandLine.parse invocation.arguments = .ok c →
    invocation.configuration = .ok configuration →
    hostname ∈ c.customHostnamesOr configuration.customHostnames →
    Puts ((run invocation).exchanges network before) sent → ⟨hostname⟩ ∈ sent

/-- **A run introduces nothing untidy of its own**, whatever it is given and whatever the network
does. -/
theorem accounted_run (invocation : Invocation) (network : Network σ) (before : σ) :
    Accounted invocation network before where
  records put reply hmem hmethod := by
    obtain ⟨_, _, _, _, hostnames, _, _, hsends⟩ := exists_sends_of_mem_exchanges hmem hmethod
    exact ⟨_, hsends.body_reads⟩
  introduced hostname h := by
    obtain ⟨sent, ⟨put, reply, hmem, hmethod, _⟩, _⟩ := h.published
    obtain ⟨c, configuration, ctLog, stored, hostnames, hparse, hload, hsends⟩ :=
      exists_sends_of_mem_exchanges hmem hmethod
    rw [exchanges_run_configured network before hparse hload, hsends.introduces_iff] at h
    rcases h.1 with hline | hcustom
    · exact .inl (HostnameList.isItem_of_mem_trimmedLines hline).tidy
    · exact tidy_or_takenAsWritten hparse hload hcustom
  custom c configuration hostname sent hparse hload hcustom hputs := by
    obtain ⟨put, reply, hmem, hmethod, _⟩ := id hputs
    obtain ⟨c', configuration', ctLog, stored, hostnames, hparse', hload', hsends⟩ :=
      exists_sends_of_mem_exchanges hmem hmethod
    cases hparse.symm.trans hparse'
    cases hload.symm.trans hload'
    rw [exchanges_run_configured network before hparse hload, hsends.puts_iff] at hputs
    rw [hputs, hsends.mem_records_iff]
    exact .inr (.inl hcustom)

/-! ### Runs with custom hostnames and without -/

/-- Over a network that serves one hostname and an empty stored list, a run introduces that hostname
and its custom ones. -/
theorem introduces_servingNetwork {given configured : List String}
    (hparse : CommandLine.parse invocation.arguments = .ok ⟨scheduledLine.apiUrl, given⟩)
    (hload : invocation.configuration = .ok ⟨Configuration.defaultCtLogUrl, configured⟩) :
    Introduces ((run invocation).exchanges servingNetwork ()) hostname ↔
      hostname = "b.example" ∨ hostname ∈ (syncOf ⟨scheduledLine.apiUrl, given⟩
        ⟨Configuration.defaultCtLogUrl, configured⟩).customHostnames := by
  have hsuccess : 200 ≤ Status.ok.code ∧ Status.ok.code ≤ 299 := by decide
  have hstoredAt : (syncOf ⟨scheduledLine.apiUrl, given⟩
      ⟨Configuration.defaultCtLogUrl, configured⟩).storedAt =
        (ConfigApi.ofUrl scheduledLine.apiUrl).endpoint "forbidden-hostnames" := rfl
  obtain ⟨fetch, fetched⟩ : ∃ fetch, StageYields servingNetwork ()
      Configuration.defaultCtLogUrl CtLog.anyType fetch (Utf8.encodeString "b.example\n") () :=
    ⟨_, rfl, .ok, hsuccess, rfl⟩
  obtain ⟨read, kept⟩ : ∃ read, StageYields servingNetwork ()
      (syncOf ⟨scheduledLine.apiUrl, given⟩ ⟨Configuration.defaultCtLogUrl, configured⟩).storedAt
      ConfigApi.jsonType read (Utf8.encodeString "[]") () := by
    rw [hstoredAt]
    exact ⟨_, rfl, .ok, hsuccess, rfl⟩
  have decoded : Json.decode Json.readRecords (Utf8.encodeString "[]") = .ok [] := rfl
  have hcourse := Sync.Course.answered fetched kept decoded rfl
  have hsends := Sync.sends_publication fetched kept decoded hcourse.settles.requests_eq
  have hline : Sync.ctLogHostnames (Utf8.encodeString "b.example\n") = ["b.example"] := rfl
  rw [exchanges_run_configured servingNetwork () hparse hload, hsends.introduces_iff, hline]
  simp

/-- A run with a padded custom hostname and an empty one. -/
def paddedRun : Invocation where
  arguments := ["http://config.example", "--custom-hostname= a.example", "--custom-hostname="]
  «variables» := []
  assignments := none
  settings := none

/-- Both hostnames are taken as they are written, and introduced. -/
theorem introduces_paddedRun :
    Introduces ((run paddedRun).exchanges servingNetwork ()) " a.example" ∧
      Introduces ((run paddedRun).exchanges servingNetwork ()) "" ∧
      ¬∀ hostname, Introduces ((run paddedRun).exchanges servingNetwork ()) hostname →
        Tidy hostname := by
  have hparse : CommandLine.parse paddedRun.arguments =
      .ok ⟨scheduledLine.apiUrl, [" a.example", ""]⟩ := rfl
  have hload : paddedRun.configuration = .ok scheduledConfiguration := by with_unfolding_all rfl
  have hempty : Introduces ((run paddedRun).exchanges servingNetwork ()) "" :=
    (introduces_servingNetwork hparse hload).mpr (.inr (by decide))
  refine ⟨(introduces_servingNetwork hparse hload).mpr (.inr (by decide)), hempty, fun h => ?_⟩
  exact (h "" hempty).ne_empty rfl

/-- A settings file with a padded custom hostname. -/
def paddedFile : Bytes := Utf8.encodeString
  "\x7b\"blacklist\":\x7b\"custom_hostnames\":[\" c.example\"]\x7d\x7d"

/-- A run with this settings file, and without custom hostnames on its command line. -/
def paddedFileRun : Invocation where
  arguments := ["http://config.example"]
  «variables» := []
  assignments := none
  settings := some paddedFile

/-- The hostname of the settings file is taken as it is written, too. -/
theorem introduces_paddedFileRun :
    Introduces ((run paddedFileRun).exchanges servingNetwork ()) " c.example" ∧
      ¬∀ hostname, Introduces ((run paddedFileRun).exchanges servingNetwork ()) hostname →
        Tidy hostname := by
  have hparse : CommandLine.parse paddedFileRun.arguments = .ok ⟨scheduledLine.apiUrl, []⟩ := rfl
  have hload : paddedFileRun.configuration =
      .ok ⟨Configuration.defaultCtLogUrl, [" c.example"]⟩ :=
    configuration_eq_ok (by decide +kernel)
  have hpadded : Introduces ((run paddedFileRun).exchanges servingNetwork ()) " c.example" :=
    (introduces_servingNetwork hparse hload).mpr (.inr (by decide))
  refine ⟨hpadded, fun h => ?_⟩
  have hfirst : Text.isBlank ' ' = false := (h " c.example" hpadded).trimmed.1 ' ' rfl
  cases hfirst

/-- A run without custom hostnames other than the default ones. -/
def plainRun : Invocation where
  arguments := ["http://config.example"]
  «variables» := []
  assignments := none
  settings := none

/-- Without custom hostnames all that is introduced is tidy. -/
theorem accounted_plainRun :
    Introduces ((run plainRun).exchanges servingNetwork ()) "b.example" ∧
      ∀ hostname, Introduces ((run plainRun).exchanges servingNetwork ()) hostname →
        Tidy hostname := by
  have hparse : CommandLine.parse plainRun.arguments = .ok ⟨scheduledLine.apiUrl, []⟩ := rfl
  have hload : plainRun.configuration = .ok scheduledConfiguration := by with_unfolding_all rfl
  refine ⟨(introduces_servingNetwork hparse hload).mpr (.inl rfl), fun hostname h => ?_⟩
  rcases (accounted_run plainRun servingNetwork ()).introduced hostname h with htidy | htaken
  · exact htidy
  · cases htaken with
    | given parsed mem =>
      cases hparse.symm.trans parsed
      cases mem
    | configured parsed loaded none_given mem written =>
      cases written with
      | inFile read mentions =>
        cases read
        obtain ⟨_, _, hmem, _⟩ := mentions
        cases hmem
      | inVariable mem => cases mem

end Program

end ForbiddenHosts
