import ForbiddenHosts.Decimal.Shortest

/-!
# Layouts of numbers

The shortest decimal of a number says which digits are written; a `Layout` says how: up to which
decimal exponents a number is written positionally, and whether a whole number ends in `.0`.
Outside those exponents a number has one digit before the point and an exponent that carries its
sign.

A negative zero keeps its sign.  What is not finite is written `inf`, `-inf` or `NaN`.
-/
namespace ForbiddenHosts.Decimal

/-- How numbers are written. -/
structure Layout where
  /-- The decimal exponents of the numbers that are written positionally; `none` for all. -/
  positional : Option (Int × Int)
  /-- A whole number ends in `.0`. -/
  wholeMark : Bool
  /-- Of two equally near shortest decimals the greater one is written. -/
  tieUp : Bool

/-- JSON text: positional from 10⁻⁵ up to below 10¹⁶, whole numbers with `.0`. -/
def Layout.json : Layout := ⟨some (-5, 15), true, false⟩

/-- A setting read as text: always positional, whole numbers without a point. -/
def Layout.plain : Layout := ⟨none, false, true⟩

/-- A number named in a message: always positional, whole numbers with `.0`. -/
def Layout.named : Layout := ⟨none, true, true⟩

/-- The decimal digits of a natural number. -/
def digits (n : Nat) : List Char := Nat.toDigits 10 n

/-- The text of an integer. -/
def integer (i : Int) : String :=
  String.ofList (if i < 0 then '-' :: digits i.natAbs else digits i.natAbs)

/-- A positional decimal: digits, zeros and a point as the exponent demands. -/
def positional (wholeMark : Bool) (s : Scientific) : List Char :=
  let ds := digits s.digits
  match s.exponent with
  | .ofNat zeros =>
    ds ++ List.replicate zeros '0' ++ (if wholeMark then ['.', '0'] else [])
  | .negSucc n =>
    let places := n + 1
    if places < ds.length then
      ds.take (ds.length - places) ++ '.' :: ds.drop (ds.length - places)
    else '0' :: '.' :: List.replicate (places - ds.length) '0' ++ ds

/-- A decimal with one digit before the point and an exponent. -/
def exponential (s : Scientific) : List Char :=
  let ds := digits s.digits
  let exponent := s.exponent + (ds.length - 1 : Nat)
  let mantissa := match ds with
    | [d] => [d]
    | d :: others => d :: '.' :: others
    | [] => []
  mantissa ++ 'e' :: (if exponent < 0 then '-' else '+') :: digits exponent.natAbs

/-- The text of a positive decimal. -/
def Layout.decimal (layout : Layout) (s : Scientific) : List Char :=
  let exponent := s.exponent + ((digits s.digits).length - 1 : Nat)
  match layout.positional with
  | none => ForbiddenHosts.Decimal.positional layout.wholeMark s
  | some (least, greatest) =>
    if least ≤ exponent ∧ exponent ≤ greatest then
      ForbiddenHosts.Decimal.positional layout.wholeMark s
    else exponential s

/-- The text of a floating-point number. -/
def Layout.float (layout : Layout) (x : Float) : String :=
  let signed := fun (negative : Bool) (text : List Char) =>
    String.ofList (if negative then '-' :: text else text)
  match Reading.ofBits x.toBits with
  | .nan => "NaN"
  | .infinite negative => signed negative ['i', 'n', 'f']
  | .zero negative => signed negative (layout.decimal ⟨0, 0⟩)
  | .finite negative magnitude => signed negative (layout.decimal (shortest magnitude layout.tieUp))

end ForbiddenHosts.Decimal
