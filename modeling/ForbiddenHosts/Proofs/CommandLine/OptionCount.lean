import ForbiddenHosts.Proofs.CommandLine.Steps

/-!
# How often the option is given

Every argument that is the option, in either spelling, gives one custom hostname
(`length_customHostnames`), whatever stands around it.  So a command line that is accepted has a
custom hostname as soon as one of its arguments is the option, also if the value is empty.

The count goes over what is pending: an option that waits for its value counts already, and so does
one that was taken for a positional argument after the separator.  A step then counts exactly its own
argument (`count_of_take`), and settling counts nothing, because the option is no URL.
-/
namespace ForbiddenHosts.CommandLine

/-- An argument is the option, with its value or without. -/
def namesOption (text : String) : Bool :=
  match Argument.ofString text with
  | .long name _ => name == "custom-hostname"
  | _ => false

theorem namesOption_bareOption : namesOption bareOption = true := by
  rw [namesOption, Argument.ofString_bareOption]
  exact beq_self_eq_true _

theorem namesOption_joinedOption (value : String) : namesOption (joinedOption value) = true := by
  rw [namesOption, Argument.ofString_joinedOption]
  exact beq_self_eq_true _

theorem namesOption_of_plain {text given : String} (h : Argument.ofString text = .plain given) :
    namesOption text = false := by
  rw [namesOption, h]

/-- The option is no URL. -/
theorem namesOption_of_parse {text : String} {url : Url} (h : Url.parse text = .ok url) :
    namesOption text = false :=
  namesOption_of_plain (Argument.ofString_of_looksPlain (.inr (Url.head?_ne_of_parse h)))

/-- How many options are pending. -/
def Pending.count : Pending → Nat
  | nothing => 0
  | positional given => (namesOption given).toNat
  | option => 1

namespace State

variable {s t : State} {text : String} {arguments : List String}

/-- How many options have been read: those with their values, and what is pending. -/
def count (s : State) : Nat := s.hostnames.length + s.pending.count

theorem count_of_settle (h : s.settle = .ok t) : t.count = s.count := by
  rcases settle_eq_ok_iff.mp h with ⟨_, rfl⟩ | ⟨given, url, hpending, hparse, rfl⟩
  · rfl
  · simp [count, hpending, Pending.count, namesOption_of_parse hparse]

/-- Once everything is settled, only options with their values have been read. -/
theorem count_of_nothing (h : s.pending = .nothing) : s.count = s.hostnames.length := by
  simp [count, h, Pending.count]

/-- **A step counts its argument.** -/
theorem count_of_take (h : s.take text = .ok t) :
    t.count = s.count + (namesOption text).toNat := by
  cases took_of_take h with
  | positional idle free looks => rw [count_of_nothing idle, count, Pending.count]
  | value unseparated waiting looks =>
    simp [count, waiting, Pending.count, namesOption_of_plain looks]
  | separator unseparated looks => simp [count, namesOption, looks]
  | joined unseparated looks settles =>
    have hsettled := count_of_nothing (pending_of_settle settles)
    rw [← count_of_settle settles, hsettled]
    simp [count, namesOption, looks, pending_of_settle settles, Pending.count]
  | bare unseparated looks settles =>
    have hsettled := count_of_nothing (pending_of_settle settles)
    rw [← count_of_settle settles, hsettled]
    simp [count, namesOption, looks, Pending.count]

/-- Reading counts the arguments that are the option. -/
theorem count_of_foldlM (h : arguments.foldlM take s = .ok t) :
    t.count = s.count + arguments.countP namesOption := by
  induction arguments generalizing s with
  | nil =>
    cases h
    rfl
  | cons text arguments ih =>
    rw [List.foldlM_cons] at h
    obtain ⟨next, htake, hrest⟩ := exists_of_bind_eq_ok h
    calc
      t.count = next.count + arguments.countP namesOption := ih hrest
      _ = s.count + (arguments.countP namesOption + (namesOption text).toNat) := by
        rw [count_of_take htake]
        omega
      _ = s.count + (text :: arguments).countP namesOption := by
        rw [List.countP_cons]
        cases namesOption text <;> rfl

end State

/-- **A command line has as many custom hostnames as arguments that are the option.** -/
theorem length_customHostnames {arguments : List String} {c : CommandLine}
    (h : parse arguments = .ok c) :
    c.customHostnames.length = arguments.countP namesOption := by
  obtain ⟨last, settled, hread, settles, _, hhostnames⟩ := parse_eq_ok_iff.mp h
  calc
    c.customHostnames.length = settled.hostnames.length := by
      rw [← hhostnames, List.length_reverse]
    _ = settled.count := (State.count_of_nothing (State.pending_of_settle settles)).symm
    _ = last.count := State.count_of_settle settles
    _ = arguments.countP namesOption := by
      rw [State.count_of_foldlM hread]
      exact Nat.zero_add _

end ForbiddenHosts.CommandLine
