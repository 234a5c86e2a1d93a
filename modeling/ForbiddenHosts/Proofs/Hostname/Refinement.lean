import ForbiddenHosts.Proofs.Hostname.Equality
import ForbiddenHosts.Proofs.Json.Records
import Mathlib.Logic.Function.Basic

/-!
# The index cannot be seen

A `Roll` is the plain form of a list of hostnames: the hostnames in their order and nothing beside
them.  It finds a hostname by going through all of them and appends one that it has not found.

Whoever works with lists of hostnames, any number of them, in any order of operations, and asks
whatever can be asked, gets the answers that rolls would give.  `Command` holds the operations and
the questions, on lists in numbered places, so that lists can be copied and merged into each other
or into themselves; `perform` and `run` say what commands do with lists of either form, the
operations of which are a `Form`.

A list **represents** a roll when it is coherent and holds the roll's hostnames.  Each operation
keeps this and gives back what the roll's operation does (`Represents.add`, `Represents.merge`), so
each command does (`represents_perform`), and so does every run (`represents_run`).  `run_indexed`
is the main statement.
-/
namespace ForbiddenHosts

/-- Hostnames in the order of their first appearance, without an index. -/
abbrev Roll := List String

namespace Roll

/-- Goes through the hostnames in search of one. -/
def holds : Roll → String → Bool
  | [], _ => false
  | first :: others, hostname => first == hostname || holds others hostname

/-- Appends a hostname unless it is found; the flag says whether it was appended. -/
def add (roll : Roll) (hostname : String) : Bool × Roll :=
  if roll.holds hostname then (false, roll) else (true, roll ++ [hostname])

/-- Adds hostnames one after the other; the number says how many were appended. -/
def merge (roll : Roll) : List String → Nat × Roll
  | [] => (0, roll)
  | hostname :: hostnames =>
    let (isNew, roll) := add roll hostname
    let (count, roll) := merge roll hostnames
    (isNew.toNat + count, roll)

/-- The array of the records as a JSON text. -/
def text (roll : Roll) : String := String.ofList (Json.recordsText roll)

theorem holds_iff (roll : Roll) (hostname : String) :
    roll.holds hostname = true ↔ hostname ∈ roll := by
  induction roll with
  | nil => simp [holds]
  | cons first others ih => rw [holds, Bool.or_eq_true, ih, beq_iff_eq, List.mem_cons, eq_comm]

end Roll

namespace HostnameList

/-! ### Commands -/

/-- A form of lists of hostnames: the operations on them, and what can be asked about them. -/
structure Form (L : Type) where
  empty : L
  collect : List String → L
  add : L → String → Bool × L
  merge : L → List String → Nat × L
  mergeRecords : L → List HostnameRecord → Nat × L
  contains : L → String → Bool
  size : L → Nat
  isEmpty : L → Bool
  hostnames : L → List String
  records : L → List HostnameRecord
  text : L → String
  same : L → L → Bool

/-- Lists with an index. -/
def indexed : Form HostnameList where
  empty := empty
  collect := ofList
  add := add
  merge := merge
  mergeRecords := mergeRecords
  contains := contains
  size := size
  isEmpty := isEmpty
  hostnames := hostnames
  records list := list.records.toList
  text list := list.toJson.text
  same a b := a == b

/-- Lists without an index. -/
def plain : Form Roll where
  empty := []
  collect hostnames := (Roll.merge [] hostnames).2
  add := Roll.add
  merge := Roll.merge
  mergeRecords roll records := roll.merge (records.map HostnameRecord.hostname)
  contains := Roll.holds
  size := List.length
  isEmpty := List.isEmpty
  hostnames roll := roll
  records roll := roll.map HostnameRecord.mk
  text := Roll.text
  same a b := a == b

/-- What is done with the lists in numbered places, or asked about them.  Custom hostnames are
merged like any others. -/
inductive Command where
  | new (place : Nat)
  | collect (place : Nat) (hostnames : List String)
  | copy (place source : Nat)
  | add (place : Nat) (hostname : String)
  | merge (place : Nat) (hostnames : List String)
  | mergeRecords (place : Nat) (records : List HostnameRecord)
  /-- Merges the records of a list into another, or into itself. -/
  | mergeFrom (place source : Nat)
  | contains (place : Nat) (hostname : String)
  | size (place : Nat)
  | isEmpty (place : Nat)
  | hostnames (place : Nat)
  | records (place : Nat)
  | text (place : Nat)
  | same (place other : Nat)

/-- What comes back for a command. -/
inductive Answer where
  | done
  | flag (value : Bool)
  | count (value : Nat)
  | hostnames (values : List String)
  | records (values : List HostnameRecord)
  | text (value : String)

section Running

variable {L : Type} (form : Form L)

/-- Performs one command: what comes back, and the lists that are then in the places. -/
def perform (lists : Nat → L) : Command → Answer × (Nat → L)
  | .new place => (.done, Function.update lists place form.empty)
  | .collect place hostnames => (.done, Function.update lists place (form.collect hostnames))
  | .copy place source => (.done, Function.update lists place (lists source))
  | .add place hostname =>
    let (isNew, list) := form.add (lists place) hostname
    (.flag isNew, Function.update lists place list)
  | .merge place hostnames =>
    let (count, list) := form.merge (lists place) hostnames
    (.count count, Function.update lists place list)
  | .mergeRecords place records =>
    let (count, list) := form.mergeRecords (lists place) records
    (.count count, Function.update lists place list)
  | .mergeFrom place source =>
    let (count, list) := form.mergeRecords (lists place) (form.records (lists source))
    (.count count, Function.update lists place list)
  | .contains place hostname => (.flag (form.contains (lists place) hostname), lists)
  | .size place => (.count (form.size (lists place)), lists)
  | .isEmpty place => (.flag (form.isEmpty (lists place)), lists)
  | .hostnames place => (.hostnames (form.hostnames (lists place)), lists)
  | .records place => (.records (form.records (lists place)), lists)
  | .text place => (.text (form.text (lists place)), lists)
  | .same place other => (.flag (form.same (lists place) (lists other)), lists)

/-- The records of another list are merged like records that were read elsewhere. -/
theorem perform_mergeFrom (lists : Nat → L) (place source : Nat) :
    perform form lists (.mergeFrom place source) =
      perform form lists (.mergeRecords place (form.records (lists source))) := rfl

/-- Performs commands one after the other. -/
def performAll (lists : Nat → L) : List Command → List Answer × (Nat → L)
  | [] => ([], lists)
  | command :: commands =>
    let (answer, lists) := perform form lists command
    let (answers, lists) := performAll lists commands
    (answer :: answers, lists)

/-- Performs commands, with an empty list in every place at the start. -/
def run (commands : List Command) : List Answer × (Nat → L) :=
  performAll form (fun _ => form.empty) commands

end Running

/-! ### Lists that represent rolls -/

/-- A list holds the hostnames of a roll, and its index agrees with its records. -/
structure Represents (list : HostnameList) (roll : Roll) : Prop where
  coherent : list.Coherent
  hostnames_eq : list.hostnames = roll

variable {list list' : HostnameList} {roll roll' : Roll}

theorem represents_empty : empty.Represents [] := ⟨coherent_empty, rfl⟩

theorem Represents.contains (h : list.Represents roll) (hostname : String) :
    list.contains hostname = roll.holds hostname := by
  rw [Bool.eq_iff_iff, h.coherent.contains_iff, Roll.holds_iff, h.hostnames_eq]

theorem Represents.add (h : list.Represents roll) (hostname : String) :
    (list.add hostname).1 = (roll.add hostname).1 ∧
      (list.add hostname).2.Represents (roll.add hostname).2 := by
  have hcontains := h.contains hostname
  refine ⟨?_, h.coherent.add hostname, ?_⟩
  · rw [add_fst, hcontains, Roll.add]
    split <;> simp_all
  · rw [hostnames_add, hcontains, h.hostnames_eq, Roll.add]
    split <;> rfl

theorem Represents.merge (h : list.Represents roll) (hostnames : List String) :
    (list.merge hostnames).1 = (roll.merge hostnames).1 ∧
      (list.merge hostnames).2.Represents (roll.merge hostnames).2 := by
  induction hostnames generalizing list roll with
  | nil => exact ⟨rfl, h⟩
  | cons hostname hostnames ih =>
    obtain ⟨hnew, hadded⟩ := h.add hostname
    obtain ⟨hcount, hmerged⟩ := ih hadded
    rw [merge_cons, Roll.merge]
    exact ⟨by rw [hnew, hcount], hmerged⟩

theorem Represents.collect (hostnames : List String) :
    (ofList hostnames).Represents (Roll.merge [] hostnames).2 :=
  (represents_empty.merge hostnames).2

theorem Represents.records (h : list.Represents roll) :
    list.records.toList = roll.map HostnameRecord.mk := by
  rw [records_toList, h.hostnames_eq]

theorem Represents.mergeRecords (h : list.Represents roll) (records : List HostnameRecord) :
    (list.mergeRecords records).1 = (plain.mergeRecords roll records).1 ∧
      (list.mergeRecords records).2.Represents (plain.mergeRecords roll records).2 :=
  h.merge _

theorem Represents.size (h : list.Represents roll) : list.size = roll.length := by
  rw [size_eq_length, h.hostnames_eq]

theorem Represents.isEmpty (h : list.Represents roll) : list.isEmpty = roll.isEmpty := by
  rw [Bool.eq_iff_iff, isEmpty_iff, h.hostnames_eq, List.isEmpty_iff]

theorem Represents.text (h : list.Represents roll) : list.toJson.text = roll.text := by
  rw [Json.text, Json.chars_toJson, h.hostnames_eq, Roll.text]

theorem Represents.same (h : list.Represents roll) (h' : list'.Represents roll') :
    (list == list') = (roll == roll') := by
  rw [Bool.eq_iff_iff, h.coherent.beq_iff h'.coherent, h.hostnames_eq, h'.hostnames_eq, beq_iff_eq]

/-! ### Runs -/

variable {lists : Nat → HostnameList} {rolls : Nat → Roll}

theorem represents_update (h : ∀ place, (lists place).Represents (rolls place))
    (hnew : list.Represents roll) (place other : Nat) :
    (Function.update lists place list other).Represents
      (Function.update rolls place roll other) := by
  by_cases hplace : other = place
  · subst hplace
    rw [Function.update_self, Function.update_self]
    exact hnew
  · rw [Function.update_of_ne hplace, Function.update_of_ne hplace]
    exact h other

/-- **One command gets the same answer**, and leaves lists that represent the rolls it leaves. -/
theorem represents_perform (h : ∀ place, (lists place).Represents (rolls place))
    (command : Command) :
    (perform indexed lists command).1 = (perform plain rolls command).1 ∧
      ∀ place, ((perform indexed lists command).2 place).Represents
        ((perform plain rolls command).2 place) := by
  cases command with
  | new place => exact ⟨rfl, represents_update h represents_empty place⟩
  | collect place hostnames =>
    exact ⟨rfl, represents_update h (Represents.collect hostnames) place⟩
  | copy place source => exact ⟨rfl, represents_update h (h source) place⟩
  | add place hostname =>
    obtain ⟨hnew, hadded⟩ := (h place).add hostname
    exact ⟨congrArg Answer.flag hnew, represents_update h hadded place⟩
  | merge place hostnames =>
    obtain ⟨hcount, hmerged⟩ := (h place).merge hostnames
    exact ⟨congrArg Answer.count hcount, represents_update h hmerged place⟩
  | mergeRecords place records =>
    obtain ⟨hcount, hmerged⟩ := (h place).mergeRecords records
    exact ⟨congrArg Answer.count hcount, represents_update h hmerged place⟩
  | mergeFrom place source =>
    have hrecords : indexed.records (lists source) = plain.records (rolls source) :=
      (h source).records
    obtain ⟨hcount, hmerged⟩ := (h place).mergeRecords (plain.records (rolls source))
    rw [perform_mergeFrom, perform_mergeFrom, hrecords]
    exact ⟨congrArg Answer.count hcount, represents_update h hmerged place⟩
  | contains place hostname => exact ⟨congrArg Answer.flag ((h place).contains hostname), h⟩
  | size place => exact ⟨congrArg Answer.count (h place).size, h⟩
  | isEmpty place => exact ⟨congrArg Answer.flag (h place).isEmpty, h⟩
  | hostnames place => exact ⟨congrArg Answer.hostnames (h place).hostnames_eq, h⟩
  | records place => exact ⟨congrArg Answer.records (h place).records, h⟩
  | text place => exact ⟨congrArg Answer.text (h place).text, h⟩
  | same place other => exact ⟨congrArg Answer.flag ((h place).same (h other)), h⟩

theorem represents_performAll (h : ∀ place, (lists place).Represents (rolls place))
    (commands : List Command) :
    (performAll indexed lists commands).1 = (performAll plain rolls commands).1 ∧
      ∀ place, ((performAll indexed lists commands).2 place).Represents
        ((performAll plain rolls commands).2 place) := by
  induction commands generalizing lists rolls with
  | nil => exact ⟨rfl, h⟩
  | cons command commands ih =>
    obtain ⟨hanswer, hlists⟩ := represents_perform h command
    obtain ⟨hanswers, hrest⟩ := ih hlists
    exact ⟨congrArg₂ List.cons hanswer hanswers, hrest⟩

theorem represents_run (commands : List Command) :
    (run indexed commands).1 = (run plain commands).1 ∧
      ∀ place, ((run indexed commands).2 place).Represents ((run plain commands).2 place) :=
  represents_performAll (fun _ => represents_empty) commands

/-- **Whatever is done with lists of hostnames and asked about them, they answer like rolls.**  In
every place is then a list of the roll's hostnames, none of them twice, whose index holds the
hostnames of its records and nothing else; and two of the lists are equal exactly when their
hostnames are. -/
theorem run_indexed (commands : List Command) :
    (run indexed commands).1 = (run plain commands).1 ∧
      ∀ place,
        ((run indexed commands).2 place).hostnames = (run plain commands).2 place ∧
        ((run indexed commands).2 place).hostnames.Nodup ∧
        (∀ hostname, hostname ∈ ((run indexed commands).2 place).index ↔
          ⟨hostname⟩ ∈ ((run indexed commands).2 place).records) ∧
        ∀ other,
          ((run indexed commands).2 place == (run indexed commands).2 other) = true ↔
            ((run indexed commands).2 place).hostnames =
              ((run indexed commands).2 other).hostnames := by
  obtain ⟨hanswers, hlists⟩ := represents_run commands
  refine ⟨hanswers, fun place => ?_⟩
  have hplace := hlists place
  refine ⟨hplace.hostnames_eq, hplace.coherent.nodup, hplace.coherent.mem_index_iff, ?_⟩
  intro other
  exact hplace.coherent.beq_iff (hlists other).coherent

end HostnameList

end ForbiddenHosts
