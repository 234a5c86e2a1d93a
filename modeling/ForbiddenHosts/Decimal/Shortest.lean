/-!
# Shortest decimals of floating-point numbers

A finite binary64 number is an integer times a power of two (`Binary`).  The reals that round to it
form an interval, whose ends belong to it when the integer is even.  The **shortest decimal** of the
number is the decimal with the fewest digits in that interval, and of two such decimals the nearer
one.

`shortest` looks for it on coarser and then finer decimal grids: if any point of a grid lies in the
interval, so does one of the number's two neighbours on that grid, so two tests for each grid are
enough, and seventeen digits always suffice.  All arithmetic is exact.
-/
namespace ForbiddenHosts.Decimal

/-- A positive binary number `significand * 2 ^ exponent`, with the interval of reals that round to
it.  `wideBelow` says that the gap below the number is as wide as the gap above it. -/
structure Binary where
  significand : Nat
  exponent : Int
  wideBelow : Bool
  deriving DecidableEq, Repr

/-- What a 64-bit pattern stands for. -/
inductive Reading where
  /-- Not a number. -/
  | nan
  /-- An infinity. -/
  | infinite (negative : Bool)
  /-- A zero. -/
  | zero (negative : Bool)
  /-- A finite number that is not zero, as its sign and its magnitude. -/
  | finite (negative : Bool) (magnitude : Binary)
  deriving DecidableEq, Repr

/-- Takes a binary64 pattern apart. -/
def Reading.ofBits (bits : UInt64) : Reading :=
  let n := bits.toNat
  let negative := n / Nat.pow 2 63 == 1
  let exponent : Nat := n / Nat.pow 2 52 % Nat.pow 2 11
  let fraction : Nat := n % Nat.pow 2 52
  if exponent = 2047 then
    if fraction = 0 then .infinite negative else .nan
  else if exponent = 0 then
    if fraction = 0 then .zero negative else .finite negative ⟨fraction, -1074, true⟩
  else
    .finite negative
      ⟨fraction + Nat.pow 2 52, (exponent : Int) - 1075, fraction != 0 || exponent == 1⟩

/-- A decimal `digits * 10 ^ exponent`. -/
structure Scientific where
  digits : Nat
  exponent : Int
  deriving DecidableEq, Repr

/-- The number of decimal digits of a natural number; zero has one. -/
def digitCount (n : Nat) : Nat := (Nat.toDigits 10 n).length

/-- How often `numerator` must be multiplied by ten to reach `denominator`. -/
def tensBelow (numerator denominator : Nat) : Nat → Nat
  | 0 => 0
  | fuel + 1 =>
    if denominator ≤ numerator then 0 else tensBelow (numerator * 10) denominator fuel + 1

/-- Removes final zeros from the digits of a decimal. -/
def Scientific.normalize (s : Scientific) : Nat → Scientific
  | 0 => s
  | fuel + 1 =>
    if s.digits ≠ 0 ∧ s.digits % 10 = 0 then
      normalize ⟨s.digits / 10, s.exponent + 1⟩ fuel
    else s

/-- The decimal of the interval on one grid, if the grid has one: the points of the grid are the
multiples of `10 ^ exponent`, and the number and the ends of its interval are `value`, `low` and
`high`, each over `denominator`. -/
def onGrid (low value high denominator : Nat) (ends tieUp : Bool) (exponent : Int) :
    Option Scientific :=
  let scale := Nat.pow 10 (-exponent).toNat
  let unit := denominator * Nat.pow 10 exponent.toNat
  let below := value * scale / unit
  let inside := fun (d : Nat) =>
    if ends then low * scale ≤ d * unit && d * unit ≤ high * scale
    else low * scale < d * unit && d * unit < high * scale
  let gapBelow := value * scale - below * unit
  let gapAbove := (below + 1) * unit - value * scale
  let takeAbove :=
    if gapBelow = gapAbove then tieUp || below % 2 == 1 else decide (gapAbove < gapBelow)
  match inside below, inside (below + 1) with
  | true, true => some ⟨if takeAbove then below + 1 else below, exponent⟩
  | true, false => some ⟨below, exponent⟩
  | false, true => some ⟨below + 1, exponent⟩
  | false, false => none

/-- The shortest decimal that rounds to a binary number, without final zeros; `tieUp` says whether
of two equally near decimals the greater one is taken, or else the even one. -/
def shortest (b : Binary) (tieUp : Bool) : Scientific :=
  let shift := Nat.pow 2 (b.exponent - 2).toNat
  let denominator := Nat.pow 2 (2 - b.exponent).toNat
  let value := 4 * b.significand * shift
  let low := (4 * b.significand - if b.wideBelow then 2 else 1) * shift
  let high := (4 * b.significand + 2) * shift
  let magnitude : Int :=
    if denominator ≤ value then (digitCount (value / denominator) : Int) - 1
    else -(tensBelow value denominator 400 : Int)
  let ends := b.significand % 2 == 0
  let grids := (List.range 17).map fun (n : Nat) => magnitude - n
  match grids.findSome? (onGrid low value high denominator ends tieUp) with
  | some s => s.normalize 20
  | none => ⟨0, 0⟩

end ForbiddenHosts.Decimal
