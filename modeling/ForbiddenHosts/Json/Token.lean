import ForbiddenHosts.Json.Fault
import ForbiddenHosts.Json.Value

/-!
# Tokens of JSON texts

The readers of single tokens: blanks, words, strings and numbers.  Each takes what is left of the
text and returns what it read with what is left after it.

A **string** is read by an automaton, one byte at a time (`StringState.step`): outside an escape,
after a backslash, inside the four digits of a `\u` escape, and between the two escapes that spell
a character beyond U+FFFF.  What a string spells is checked to be UTF-8 when its end is reached.

A **number** without fraction and exponent that fits 64 bits is an integer.  Any other number is
floating point: its first digits, as many as fit 64 bits, are scaled by a power of ten, with at most
one rounding for each scaling step (`scaled`).
-/
namespace ForbiddenHosts.Json

/-- The bytes that may stand between tokens. -/
def isSpace (byte : UInt8) : Bool :=
  byte == 0x20 || byte == 0x0A || byte == 0x09 || byte == 0x0D

/-- What is left after the bytes that stand between tokens. -/
def dropSpace (text : Bytes) : Bytes := text.dropWhile isSpace

/-! ### Words -/

/-- Reads the bytes of a word one after the other. -/
def readWord : Bytes → Bytes → Except Fault Bytes
  | [], rest => .ok rest
  | _ :: _, [] => .error ⟨.endInValue, []⟩
  | letter :: word, byte :: rest =>
    if byte = letter then readWord word rest else .error ⟨.expectedWord, rest⟩

/-- The letters of `null` after its first. -/
def restOfNull : Bytes := [0x75, 0x6C, 0x6C]

/-- The letters of `true` after its first. -/
def restOfTrue : Bytes := [0x72, 0x75, 0x65]

/-- The letters of `false` after its first. -/
def restOfFalse : Bytes := [0x61, 0x6C, 0x73, 0x65]

/-! ### Strings -/

/-- The value of a hexadecimal digit. -/
def hexValue? (byte : UInt8) : Option Nat :=
  let b := byte.toNat
  if 0x30 ≤ b ∧ b ≤ 0x39 then some (b - 0x30)
  else if 0x41 ≤ b ∧ b ≤ 0x46 then some (b - 0x37)
  else if 0x61 ≤ b ∧ b ≤ 0x66 then some (b - 0x57)
  else none

/-- The number that hexadecimal digits spell. -/
def hexNumber? (digits : Bytes) : Option Nat :=
  digits.foldlM (fun n byte => (hexValue? byte).map (n * 16 + ·)) 0

/-- The character that a backslash and this byte stand for. -/
def shortEscape? (byte : UInt8) : Option UInt8 :=
  match byte with
  | 0x22 => some 0x22
  | 0x5C => some 0x5C
  | 0x2F => some 0x2F
  | 0x62 => some 0x08
  | 0x66 => some 0x0C
  | 0x6E => some 0x0A
  | 0x72 => some 0x0D
  | 0x74 => some 0x09
  | _ => none

/-- Where the reading of a string stands. -/
inductive StringState where
  /-- Outside an escape. -/
  | plain
  /-- After a backslash. -/
  | escape
  /-- Among the four digits of an escape, of which `digits` have been read, after the leading
  surrogate `high` if there was one. -/
  | unicode (high : Option Nat) (digits : Bytes)
  /-- After a leading surrogate: the next escape must follow. -/
  | paired (high : Nat)
  /-- After a leading surrogate and a backslash. -/
  | pairedEscape (high : Nat)

/-- What one byte of a string does. -/
inductive StringStep where
  /-- The reading goes on, with these bytes added to the content. -/
  | next (state : StringState) (content : Bytes)
  /-- The string has ended. -/
  | close
  /-- The string is refused. -/
  | refuse (cause : Cause)

/-- What the four digits of an escape do. -/
def unicodeStep (high : Option Nat) (digits : Bytes) : StringStep :=
  match hexNumber? digits, high with
  | none, _ => .refuse .invalidEscape
  | some n, none =>
    if 0xDC00 ≤ n ∧ n ≤ 0xDFFF then .refuse .loneSurrogate
    else if 0xD800 ≤ n ∧ n ≤ 0xDBFF then .next (.paired n) []
    else .next .plain (String.utf8EncodeChar (Char.ofNat n))
  | some n, some high =>
    if 0xDC00 ≤ n ∧ n ≤ 0xDFFF then
      .next .plain
        (String.utf8EncodeChar (Char.ofNat (0x10000 + (high - 0xD800) * 0x400 + (n - 0xDC00))))
    else .refuse .loneSurrogate

/-- Reads one byte of a string. -/
def StringState.step (state : StringState) (byte : UInt8) : StringStep :=
  match state with
  | plain =>
    if byte = 0x22 then .close
    else if byte = 0x5C then .next escape []
    else if byte < 0x20 then .refuse .controlCharacter
    else .next plain [byte]
  | escape =>
    if byte = 0x75 then .next (unicode none []) []
    else match shortEscape? byte with
      | some c => .next plain [c]
      | none => .refuse .invalidEscape
  | unicode high digits =>
    let digits := digits ++ [byte]
    if digits.length < 4 then .next (unicode high digits) [] else unicodeStep high digits
  | paired high => if byte = 0x5C then .next (pairedEscape high) [] else .refuse .unpairedEscape
  | pairedEscape high =>
    if byte = 0x75 then .next (unicode (some high) []) [] else .refuse .unpairedEscape

/-- Reads a string from a state on, up to its closing quote; `content` was read before. -/
def readStringFrom (state : StringState) (content : Array UInt8) : Bytes → Read (Array UInt8)
  | [] => .error ⟨.endInString, []⟩
  | byte :: rest =>
    match state.step byte with
    | .next state more => readStringFrom state (content ++ more) rest
    | .close => .ok (content, rest)
    | .refuse cause => .error ⟨cause, rest⟩

/-- Reads a string whose opening quote has been read.  When the content is not UTF-8, the place is
counted back from the closing quote by the bytes of the content from the fault on. -/
def readString (text : Bytes) : Read String :=
  match readStringFrom .plain #[] text with
  | .error fault => .error fault
  | .ok (content, rest) =>
    match Utf8.fault? content.toList with
    | some offset =>
      let before := text.length - rest.length - (content.size - offset)
      .error ⟨.illFormedUtf8, text.drop before⟩
    | none => .ok (Utf8.decodeString content.toList, rest)

/-! ### Numbers -/

/-- A decimal digit. -/
def isDigit (byte : UInt8) : Bool := 0x30 ≤ byte && byte ≤ 0x39

/-- The value of a decimal digit. -/
def digitValue (byte : UInt8) : Nat := byte.toNat - 0x30

/-- Appends digits to a number as long as it fits 64 bits; the rest of the digits is left over. -/
def takeDigits (n : Nat) : Bytes → Nat × Bytes
  | [] => (n, [])
  | digit :: digits =>
    if n * 10 + digitValue digit < Nat.pow 2 64 then takeDigits (n * 10 + digitValue digit) digits
    else (n, digit :: digits)

/-- Scales a number by a power of ten; `none` when the result is too large.  Powers beyond `10 ^ 308`
are divided out in steps. -/
def scaled (x : Float) (exponent : Int) : Nat → Option Float
  | 0 => some x
  | steps + 1 =>
    if exponent.natAbs ≤ 308 then
      let power := Float.ofScientific 1 false exponent.natAbs
      if 0 ≤ exponent then
        let product := x * power
        if product.isInf then none else some product
      else some (x / power)
    else if x == 0.0 then some x
    else if 0 ≤ exponent then none
    else scaled (x / Float.ofScientific 1 false 308) (exponent + 308) steps

/-- The floating-point number `significand * 10 ^ exponent` with its sign, or a fault at `rest` when
it is too large. -/
def floatOf (negative : Bool) (significand : Nat) (exponent : Int) (rest : Bytes) : Read Number :=
  match scaled (Float.ofNat significand) exponent 8 with
  | some x => .ok (.float (if negative then -x else x), rest)
  | none => .error ⟨.numberOutOfRange, rest⟩

/-- The largest exponent that is written out. -/
def greatestExponent : Nat := Nat.pow 2 31 - 1

/-- Reads the digits of an exponent after the first: the exponent, or what is left after the digit
that makes it too large. -/
def readExponentDigits (n : Nat) : Bytes → (Nat ⊕ Bytes) × Bytes
  | [] => (.inl n, [])
  | byte :: rest =>
    if isDigit byte then
      if n * 10 + digitValue byte ≤ greatestExponent then
        readExponentDigits (n * 10 + digitValue byte) rest
      else (.inr rest, rest.dropWhile isDigit)
    else (.inl n, byte :: rest)

/-- Reads the exponent of a number, whose mark has been read. -/
def readExponent (negative : Bool) (significand : Nat) (exponent : Int) (text : Bytes) :
    Read Number :=
  let (down, digits) := match text with
    | 0x2B :: rest => (false, rest)
    | 0x2D :: rest => (true, rest)
    | rest => (false, rest)
  match digits with
  | [] => .error ⟨.endInValue, []⟩
  | byte :: rest =>
    if isDigit byte then
      match readExponentDigits (digitValue byte) rest with
      | (.inl n, rest) =>
        floatOf negative significand (if down then exponent - n else exponent + n) rest
      | (.inr afterDigit, rest) =>
        if significand ≠ 0 ∧ ¬down then .error ⟨.numberOutOfRange, afterDigit⟩
        else .ok (.float (if negative then -0.0 else 0.0), rest)
    else .error ⟨.invalidNumber, rest⟩

/-- Reads the fraction of a number, whose point has been read. -/
def readFraction (negative : Bool) (significand : Nat) (exponent : Int) (text : Bytes) :
    Read Number :=
  let digits := text.takeWhile isDigit
  let (significand, unused) := takeDigits significand digits
  let exponent := exponent - (digits.length - unused.length : Nat)
  match digits, text.dropWhile isDigit with
  | [], [] => .error ⟨.endInValue, []⟩
  | [], _ :: rest => .error ⟨.invalidNumber, rest⟩
  | _ :: _, 0x65 :: rest => readExponent negative significand exponent rest
  | _ :: _, 0x45 :: rest => readExponent negative significand exponent rest
  | _ :: _, rest => floatOf negative significand exponent rest

/-- The number of an integer part that stands alone and fits 64 bits. -/
def wholeNumber (negative : Bool) (n : Nat) : Number :=
  if negative then
    if n = 0 ∨ Nat.pow 2 63 < n then .float (-Float.ofNat n) else .integer (-n)
  else .integer n

/-- Reads what follows the integer part of a number: `dropped` digits of it did not fit. -/
def readAfterInteger (negative : Bool) (significand dropped : Nat) (text : Bytes) : Read Number :=
  match text with
  | 0x2E :: rest => readFraction negative significand dropped rest
  | 0x65 :: rest => readExponent negative significand dropped rest
  | 0x45 :: rest => readExponent negative significand dropped rest
  | rest =>
    if dropped = 0 then .ok (wholeNumber negative significand, rest)
    else floatOf negative significand dropped rest

/-- Reads a number, whose minus sign has been read if it has one. -/
def readNumber (negative : Bool) (text : Bytes) : Read Number :=
  match text with
  | [] => .error ⟨.endInValue, []⟩
  | byte :: rest =>
    if byte = 0x30 then
      match rest with
      | next :: after =>
        if isDigit next then .error ⟨.invalidNumber, after⟩
        else readAfterInteger negative 0 0 rest
      | [] => readAfterInteger negative 0 0 rest
    else if isDigit byte then
      let digits := text.takeWhile isDigit
      let (significand, unused) := takeDigits 0 digits
      readAfterInteger negative significand unused.length (text.dropWhile isDigit)
    else .error ⟨.invalidNumber, rest⟩

end ForbiddenHosts.Json
