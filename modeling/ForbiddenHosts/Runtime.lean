import ForbiddenHosts.Decimal.Reading
import ForbiddenHosts.Environment.Basic

/-!
# The runtime

Before the program does anything, the runtime that it works on starts.  A variable may fix how many
workers the runtime has; it must then spell a number of 64 bits, and there must be one worker at
least.  Without the variable the machine decides.  That the machine can run the workers is taken for
granted.
-/
namespace ForbiddenHosts.Runtime

/-- The variable that fixes the number of workers. -/
def workersVariable : String := "TOKIO_WORKER_THREADS"

/-- Why a text is no number of 64 bits. -/
inductive Misreading where
  | empty
  | notDigit
  | tooLarge
  deriving DecidableEq, Repr

/-- The message for a text that is no number of 64 bits. -/
def Misreading.message : Misreading → String
  | empty => "cannot parse integer from empty string"
  | notDigit => "invalid digit found in string"
  | tooLarge => "number too large to fit in target type"

/-- Why the runtime does not start. -/
inductive Fault where
  /-- The variable spells no number. -/
  | misread (misreading : Misreading) (given : String)
  /-- There is no worker. -/
  | noWorker
  deriving DecidableEq, Repr

/-- The message for a runtime that does not start. -/
def Fault.message : Fault → String
  | misread misreading given =>
    "\"" ++ workersVariable ++ "\" must be usize, error: " ++ misreading.message ++ ", value: " ++
      given
  | noWorker => "\"" ++ workersVariable ++ "\" cannot be set to 0"

/-- Reads the digits that follow those of a number. -/
def readDigits (sofar : Nat) : List Char → Except Misreading Nat
  | [] => .ok sofar
  | c :: text =>
    let n := sofar * 10 + (c.toNat - 0x30)
    if !Decimal.isDigit c then .error .notDigit
    else if n < Nat.pow 2 64 then readDigits n text
    else .error .tooLarge

/-- Reads a number of 64 bits, with a plus sign or without. -/
def readCount (text : List Char) : Except Misreading Nat :=
  match text with
  | [] => .error .empty
  | ['+'] => .error .notDigit
  | '+' :: digits => readDigits 0 digits
  | digits => readDigits 0 digits

/-- What keeps the runtime from starting in an environment. -/
def fault? (environment : Environment) : Option Fault :=
  (environment.value? workersVariable).bind fun given =>
    match readCount given.toList with
    | .error misreading => some (.misread misreading given)
    | .ok 0 => some .noWorker
    | .ok _ => none

end ForbiddenHosts.Runtime
