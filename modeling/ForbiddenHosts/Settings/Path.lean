import ForbiddenHosts.Decimal.Reading

/-!
# Paths to settings

Settings form a tree of tables and lists.  A **path** leads from the root to one place of the tree:
it names a member of the root and goes on by steps, each to a member of a table, `.name`, or to an
item of a list, `[index]`.  A name is a run of ASCII letters, digits, underscores and hyphens.  An
index that is negative counts from the end of the list.

Some keys are paths only where they can be: `Path.ofKey` takes any other key as the name of a member
of the root.
-/
namespace ForbiddenHosts.Settings

/-- A step from a place in the tree to one below it. -/
inductive Step where
  | member (name : String)
  | item (index : Int)
  deriving DecidableEq, Repr

/-- A place in the tree: a member of the root, and the steps from there. -/
structure Path where
  root : String
  steps : List Step
  deriving DecidableEq, Repr

/-- The text of a step. -/
def Step.text : Step → String
  | member name => "." ++ name
  | item index => "[" ++ Decimal.integer index ++ "]"

namespace Path

/-- The text of a path. -/
def text (path : Path) : String := path.root ++ String.join (path.steps.map Step.text)

/-- The place one step below. -/
def below (path : Path) (step : Step) : Path := { path with steps := path.steps ++ [step] }

/-! ### Reading -/

/-- A character of a name. -/
def isNameChar (c : Char) : Bool := c.isAlphanum || c == '_' || c == '-'

/-- A character that may stand around an index. -/
def isPadding (c : Char) : Bool := c == ' ' || c == '\t'

/-- Reads a name: what it is, and what follows it. -/
def readName? (text : List Char) : Option (String × List Char) :=
  match text.takeWhile isNameChar with
  | [] => none
  | name => some (String.ofList name, text.dropWhile isNameChar)

/-- Reads the digits of an index and its closing bracket: the index, and what follows. -/
def closeIndex? (negative : Bool) (text : List Char) : Option (Int × List Char) :=
  match (text.dropWhile Decimal.isDigit).dropWhile isPadding with
  | ']' :: rest => (Decimal.signed? negative (text.takeWhile Decimal.isDigit)).map (·, rest)
  | _ => none

/-- Reads an index, whose opening bracket has been read: what it is, and what follows its closing
bracket. -/
def readIndex? (text : List Char) : Option (Int × List Char) :=
  match text.dropWhile isPadding with
  | '-' :: rest => closeIndex? true rest
  | rest => closeIndex? false rest

/-- Reads one step: what it is, and what follows it. -/
def readStep? : List Char → Option (Step × List Char)
  | '.' :: rest => (readName? rest).map fun (name, rest) => (.member name, rest)
  | '[' :: rest => (readIndex? rest).map fun (index, rest) => (.item index, rest)
  | _ => none

theorem length_dropWhile_le (p : Char → Bool) (text : List Char) :
    (text.dropWhile p).length ≤ text.length :=
  (List.dropWhile_sublist p).length_le

theorem length_of_readName? {text rest : List Char} {name : String}
    (h : readName? text = some (name, rest)) : rest.length ≤ text.length := by
  unfold readName? at h
  split at h
  · simp at h
  · obtain ⟨-, rfl⟩ := Prod.mk.inj (Option.some.inj h)
    exact length_dropWhile_le _ _

theorem length_of_closeIndex? {negative : Bool} {text rest : List Char} {index : Int}
    (h : closeIndex? negative text = some (index, rest)) : rest.length ≤ text.length := by
  have h1 := length_dropWhile_le Decimal.isDigit text
  have h2 := length_dropWhile_le isPadding (text.dropWhile Decimal.isDigit)
  unfold closeIndex? at h
  split at h
  · rename_i after heq
    obtain ⟨i, -, hi⟩ := Option.map_eq_some_iff.1 h
    obtain ⟨-, rfl⟩ := Prod.mk.inj hi
    rw [heq, List.length_cons] at h2
    omega
  · simp at h

theorem length_of_readIndex? {text rest : List Char} {index : Int}
    (h : readIndex? text = some (index, rest)) : rest.length ≤ text.length := by
  have outer := length_dropWhile_le isPadding text
  unfold readIndex? at h
  split at h
  · rename_i after heq
    rw [heq, List.length_cons] at outer
    have inner := length_of_closeIndex? h
    omega
  · exact Nat.le_trans (length_of_closeIndex? h) outer

theorem length_of_readStep? {text rest : List Char} {step : Step}
    (h : readStep? text = some (step, rest)) : rest.length < text.length := by
  unfold readStep? at h
  split at h
  · obtain ⟨⟨name, after⟩, hn, he⟩ := Option.map_eq_some_iff.1 h
    obtain ⟨-, rfl⟩ := Prod.mk.inj he
    exact Nat.lt_succ_of_le (length_of_readName? hn)
  · obtain ⟨⟨index, after⟩, hi, he⟩ := Option.map_eq_some_iff.1 h
    obtain ⟨-, rfl⟩ := Prod.mk.inj he
    exact Nat.lt_succ_of_le (length_of_readIndex? hi)
  · simp at h

/-- Reads steps up to the end of the text. -/
def readSteps? (text : List Char) : Option (List Step) :=
  if text.isEmpty then some []
  else match _ : readStep? text with
    | none => none
    | some (step, rest) => (readSteps? rest).map (step :: ·)
  termination_by text.length
  decreasing_by exact length_of_readStep? (by assumption)

/-- The path that a text spells. -/
def parse? (text : String) : Option Path := do
  let (root, rest) ← readName? text.toList
  let steps ← readSteps? rest
  return ⟨root, steps⟩

/-- The path of a key: the one that it spells, or else the member of the root with that name. -/
def ofKey (key : String) : Path := (parse? key).getD ⟨key, []⟩

end Path

end ForbiddenHosts.Settings
