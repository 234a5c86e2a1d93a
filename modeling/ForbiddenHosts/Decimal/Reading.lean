import ForbiddenHosts.Decimal.Layout

/-!
# Reading numbers

Numbers are read from whole texts, with nothing before or after them.  An **integer** is a run of
decimal digits with a sign or without, which must fit 64 bits.  A **floating-point number** may also
have a point, with digits on at least one side of it, and an exponent; the words `inf`, `infinity`
and `nan`, in letters of either case, are floating-point numbers too.  It is the nearest number to
what is written, so a text beyond the range of numbers is read as an infinity or as zero.
-/
namespace ForbiddenHosts.Decimal

/-- A decimal digit. -/
def isDigit (c : Char) : Bool := '0' ≤ c && c ≤ '9'

/-- The number that decimal digits spell. -/
def ofDigits (digits : List Char) : Nat :=
  digits.foldl (fun n c => n * 10 + (c.toNat - 0x30)) 0

/-- Takes a sign off a text; the flag says that it was a minus. -/
def takeSign : List Char → Bool × List Char
  | '+' :: rest => (false, rest)
  | '-' :: rest => (true, rest)
  | text => (false, text)

/-- The integer that a sign and digits spell, if it fits 64 bits. -/
def signed? (negative : Bool) (digits : List Char) : Option Int :=
  let n := ofDigits digits
  if digits.isEmpty || !digits.all isDigit then none
  else if negative then if n ≤ Nat.pow 2 63 then some (-n) else none
  else if n < Nat.pow 2 63 then some n else none

/-- The integer that a text spells. -/
def readInteger? (text : List Char) : Option Int :=
  let (negative, digits) := takeSign text
  signed? negative digits

/-- The floating-point number nearest to `significand * 10 ^ exponent`.  Powers of ten that put the
number beyond the range for certain are not computed. -/
def nearest (significand : Nat) (exponent : Int) : Float :=
  let magnitude := exponent + digitCount significand
  if significand = 0 ∨ magnitude < -400 then 0.0
  else if 400 < magnitude then Float.ofBits 0x7FF0000000000000
  else Float.ofScientific significand (exponent < 0) exponent.natAbs

/-- Reads an exponent, which may be missing, at the end of a text. -/
def readExponent? (text : List Char) : Option Int :=
  match text with
  | [] => some 0
  | mark :: rest =>
    let (negative, digits) := takeSign rest
    if (mark == 'e' || mark == 'E') && !digits.isEmpty && digits.all isDigit then
      some (if negative then -(ofDigits digits : Int) else ofDigits digits)
    else none

/-- The unsigned floating-point number that a text spells in digits. -/
def readPositional? (text : List Char) : Option Float :=
  let whole := text.takeWhile isDigit
  let (places, rest) := match text.dropWhile isDigit with
    | '.' :: rest => (rest.takeWhile isDigit, rest.dropWhile isDigit)
    | rest => ([], rest)
  if whole.isEmpty && places.isEmpty then none
  else (readExponent? rest).map fun exponent =>
    nearest (ofDigits (whole ++ places)) (exponent - (places.length : Int))

/-- The unsigned floating-point number that a text spells. -/
def readMagnitude? (text : List Char) : Option Float :=
  match String.ofList (text.map Char.toLower) with
  | "inf" => some (Float.ofBits 0x7FF0000000000000)
  | "infinity" => some (Float.ofBits 0x7FF0000000000000)
  | "nan" => some (Float.ofBits 0x7FF8000000000000)
  | _ => readPositional? text

/-- The floating-point number that a text spells. -/
def readFloat? (text : List Char) : Option Float :=
  let (negative, magnitude) := takeSign text
  (readMagnitude? magnitude).map fun x => if negative then -x else x

end ForbiddenHosts.Decimal
