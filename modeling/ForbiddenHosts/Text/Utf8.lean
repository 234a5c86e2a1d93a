/-!
# UTF-8

Texts travel as bytes.  `encode` writes a text; `decode` reads bytes **lossily**: each maximal part
that no well-formed sequence continues is replaced by one U+FFFD, and a leading byte-order mark
stays.  `fault?` finds the first such part, for readers that refuse it.

Reading is one automaton, fed byte by byte (`Decoder.step`).  Between characters it expects a lead
byte; inside one it knows the range of the next continuation byte, how many more follow, and the
bits read so far.  The narrower ranges after `E0`, `ED`, `F0` and `F4` exclude overlong forms,
surrogates and everything above U+10FFFF, so a sequence that has been read to its end is a
character.  A byte that does not continue the open sequence closes it as ill-formed and is then
read afresh.
-/
namespace ForbiddenHosts

/-- Raw bytes, as they travel and as they lie in files. -/
abbrev Bytes := List UInt8

namespace Utf8

/-- The UTF-8 form of a text. -/
def encode (text : List Char) : Bytes :=
  text.flatMap String.utf8EncodeChar

@[simp] theorem encode_nil : encode [] = [] := rfl

@[simp] theorem encode_cons (c : Char) (text : List Char) :
    encode (c :: text) = String.utf8EncodeChar c ++ encode text := rfl

@[simp] theorem encode_append (front back : List Char) :
    encode (front ++ back) = encode front ++ encode back := by
  simp [encode]

/-- The replacement character U+FFFD. -/
def replacement : Char := '\uFFFD'

/-- Where the reading of a byte sequence stands. -/
inductive Decoder where
  /-- Between two characters. -/
  | between
  /-- Inside a character: the next byte must lie between `low` and `high`, `more` bytes follow it,
  and `bits` is the number read so far. -/
  | inside (low high : Nat) (more : Nat) (bits : Nat)
  deriving DecidableEq, Repr

namespace Decoder

/-- Reads a byte between two characters: the next state, and what the byte completes, a character
or an ill-formed part (`none`). -/
def lead (byte : UInt8) : Decoder × List (Option Char) :=
  let b := byte.toNat
  if b < 0x80 then (between, [some (Char.ofNat b)])
  else if b < 0xC2 then (between, [none])
  else if b < 0xE0 then (inside 0x80 0xBF 0 (b - 0xC0), [])
  else if b = 0xE0 then (inside 0xA0 0xBF 1 0, [])
  else if b = 0xED then (inside 0x80 0x9F 1 0xD, [])
  else if b < 0xF0 then (inside 0x80 0xBF 1 (b - 0xE0), [])
  else if b = 0xF0 then (inside 0x90 0xBF 2 0, [])
  else if b < 0xF4 then (inside 0x80 0xBF 2 (b - 0xF0), [])
  else if b = 0xF4 then (inside 0x80 0x8F 2 4, [])
  else (between, [none])

/-- Reads one byte: the next state, and what the byte completes, characters and ill-formed parts
(`none`) in their order. -/
def step : Decoder → UInt8 → Decoder × List (Option Char)
  | between, byte => lead byte
  | inside low high more bits, byte =>
    if low ≤ byte.toNat ∧ byte.toNat ≤ high then
      match more with
      | 0 => (between, [some (Char.ofNat (bits * 64 + byte.toNat % 64))])
      | more + 1 => (inside 0x80 0xBF more (bits * 64 + byte.toNat % 64), [])
    else ((lead byte).1, none :: (lead byte).2)

/-- What an input that ends in this state still holds: an open sequence is ill-formed. -/
def finish : Decoder → List (Option Char)
  | between => []
  | inside .. => [none]

/-- Reads bytes from a state on; `done` holds what was completed before. -/
def run (state : Decoder) (done : Array (Option Char)) : Bytes → Array (Option Char)
  | [] => done ++ state.finish
  | byte :: rest => (state.step byte).1.run (done ++ (state.step byte).2) rest

/-- The offset of the first ill-formed part, reading from a state on: `offset` bytes have been read,
and the sequence that is open, if any, began after `opened` of them. -/
def faultFrom (state : Decoder) (opened offset : Nat) : Bytes → Option Nat
  | [] => if state.finish = [] then none else some opened
  | byte :: rest =>
    let start := if state = between then offset else opened
    if none ∈ (state.step byte).2 then some start
    else (state.step byte).1.faultFrom start (offset + 1) rest

end Decoder

/-- Reads bytes lossily: each maximal part that no well-formed sequence continues becomes one
replacement character. -/
def decode (bytes : Bytes) : List Char :=
  (Decoder.between.run #[] bytes).toList.map (·.getD replacement)

/-- The offset of the first part that no well-formed sequence continues, if there is one. -/
def fault? (bytes : Bytes) : Option Nat :=
  Decoder.between.faultFrom 0 0 bytes

/-- Reads bytes lossily into a string. -/
def decodeString (bytes : Bytes) : String :=
  String.ofList (decode bytes)

/-- The UTF-8 form of a string. -/
def encodeString (text : String) : Bytes :=
  encode text.toList

end Utf8

end ForbiddenHosts
