import ForbiddenHosts.Http.Routes
import ForbiddenHosts.Main
import ForbiddenHosts.Proofs.Hostname.FirstPlaces
import ForbiddenHosts.Proofs.Hostname.Merge
import ForbiddenHosts.Proofs.Hostname.Equality
import ForbiddenHosts.Proofs.Hostname.Growth
import ForbiddenHosts.Proofs.Hostname.Refinement
import ForbiddenHosts.Proofs.Hostname.LineFormat
import ForbiddenHosts.Proofs.Text.CommaFormat
import ForbiddenHosts.Proofs.Json.Grammar
import ForbiddenHosts.Proofs.Json.Strings
import ForbiddenHosts.Proofs.Json.Skipping
import ForbiddenHosts.Proofs.Json.Shapes
import ForbiddenHosts.Proofs.Json.Reading
import ForbiddenHosts.Proofs.Json.Records
import ForbiddenHosts.Proofs.Sync.Course
import ForbiddenHosts.Proofs.Sync.Sending
import ForbiddenHosts.Proofs.Sync.Replacement
import ForbiddenHosts.Proofs.Sync.Tally
import ForbiddenHosts.Proofs.Sync.Agreement
import ForbiddenHosts.Proofs.Sync.Publication
import ForbiddenHosts.Proofs.Sync.ReadBack
import ForbiddenHosts.Proofs.Sync.StoredList
import ForbiddenHosts.Proofs.Sync.CtLogLines
import ForbiddenHosts.Proofs.Sync.Landing
import ForbiddenHosts.Proofs.Sync.BaseSlashes
import ForbiddenHosts.Proofs.Sync.Repetition
import ForbiddenHosts.Proofs.Http.Exchanges
import ForbiddenHosts.Proofs.Http.Interleaving
import ForbiddenHosts.Proofs.Sync.ReadingFirst
import ForbiddenHosts.Proofs.Sync.Retention
import ForbiddenHosts.Proofs.Program.ExitCode
import ForbiddenHosts.Proofs.Settings.Layers
import ForbiddenHosts.Proofs.Settings.CommaLists
import ForbiddenHosts.Proofs.Json.Canonical
import ForbiddenHosts.Proofs.Settings.Overrides
import ForbiddenHosts.Proofs.Settings.FileSections
import ForbiddenHosts.Proofs.Settings.Mentions
import ForbiddenHosts.Proofs.CommandLine.Placement
import ForbiddenHosts.Proofs.Program.GivenHostnames
import ForbiddenHosts.Proofs.Program.IntroducedHostnames
