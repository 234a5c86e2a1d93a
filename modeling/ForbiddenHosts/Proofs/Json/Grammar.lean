import ForbiddenHosts.Text.Utf8

/-!
# The language of JSON texts

What is a JSON text, and which value does it denote?  Readers of JSON are compared here with nothing
that reads: a `Tree` is a text taken apart into its tokens and the gaps between them, and each
constructor is one way in which the language lets a text be put together.  So every tree is a JSON
text, the bytes of which are `Tree.text`, and the value that it spells is `Tree.value`.

A `Value` says no more than the text does.  Its numbers are rational numbers, since a text may spell
a number of any size, and its members stand in the order of the text, repeated names included.  That
order means nothing: values that differ in it only are `Alike`.

`Denotes` puts this together: a text denotes a value if it is the text of a tree, with gaps on both
sides, that spells the value up to the order of members.
-/
namespace ForbiddenHosts.Json

/-! ### Values -/

/-- What a JSON text denotes. -/
inductive Value where
  | null
  | boolean (value : Bool)
  | number (value : Rat)
  | string (value : String)
  | array (items : List Value)
  | object (members : List (String × Value))

mutual

/-- Two values are the same up to the order of the members of their objects. -/
inductive Alike : Value → Value → Prop where
  | same (value : Value) : Alike value value
  | array {items items' : List Value} (alike : AlikeItems items items') :
      Alike (.array items) (.array items')
  | object {members members' : List (String × Value)} (alike : AlikeMembers members members') :
      Alike (.object members) (.object members')

/-- Two lists of items are alike, one item after the other. -/
inductive AlikeItems : List Value → List Value → Prop where
  | nil : AlikeItems [] []
  | cons {item item' : Value} {items items' : List Value} (head : Alike item item')
      (tail : AlikeItems items items') : AlikeItems (item :: items) (item' :: items')

/-- Two lists of members are alike, in whatever order. -/
inductive AlikeMembers : List (String × Value) → List (String × Value) → Prop where
  | nil : AlikeMembers [] []
  | cons {name : String} {value value' : Value} {members members' : List (String × Value)}
      (head : Alike value value') (tail : AlikeMembers members members') :
      AlikeMembers ((name, value) :: members) ((name, value') :: members')
  | swap (first second : String × Value) (members : List (String × Value)) :
      AlikeMembers (first :: second :: members) (second :: first :: members)
  | trans {members members' members'' : List (String × Value)}
      (first : AlikeMembers members members') (second : AlikeMembers members' members'') :
      AlikeMembers members members''

end

/-! ### Gaps -/

/-- A blank between two tokens. -/
inductive Space where
  | space
  | tab
  | lineFeed
  | carriageReturn

/-- The byte of a blank. -/
def Space.byte : Space → UInt8
  | space => 0x20
  | tab => 0x09
  | lineFeed => 0x0A
  | carriageReturn => 0x0D

/-- What may stand between two tokens. -/
abbrev Gap := List Space

/-- The bytes of a gap. -/
def Gap.text (gap : Gap) : Bytes := gap.map Space.byte

/-! ### Strings -/

/-- A hexadecimal digit, of which the letters are capital or small. -/
structure HexDigit where
  value : Fin 16
  capital : Bool

/-- The byte of a hexadecimal digit. -/
def HexDigit.byte (digit : HexDigit) : UInt8 :=
  UInt8.ofNat <|
    if digit.value.val < 10 then 0x30 + digit.value.val
    else if digit.capital then 0x41 + (digit.value.val - 10)
    else 0x61 + (digit.value.val - 10)

/-- Four hexadecimal digits. -/
structure Quad where
  first : HexDigit
  second : HexDigit
  third : HexDigit
  fourth : HexDigit

/-- The number that four hexadecimal digits spell. -/
def Quad.value (quad : Quad) : Nat :=
  ((quad.first.value.val * 16 + quad.second.value.val) * 16 + quad.third.value.val) * 16 +
    quad.fourth.value.val

/-- The bytes of four hexadecimal digits. -/
def Quad.text (quad : Quad) : Bytes :=
  [quad.first.byte, quad.second.byte, quad.third.byte, quad.fourth.byte]

/-- A character that is spelled by a backslash and one letter. -/
inductive ShortEscape where
  | quote
  | backslash
  | slash
  | backspace
  | formFeed
  | lineFeed
  | carriageReturn
  | tab

/-- The byte after the backslash. -/
def ShortEscape.letter : ShortEscape → UInt8
  | quote => 0x22
  | backslash => 0x5C
  | slash => 0x2F
  | backspace => 0x62
  | formFeed => 0x66
  | lineFeed => 0x6E
  | carriageReturn => 0x72
  | tab => 0x74

/-- The character that is meant. -/
def ShortEscape.char : ShortEscape → Char
  | quote => '"'
  | backslash => '\\'
  | slash => '/'
  | backspace => '\x08'
  | formFeed => '\x0C'
  | lineFeed => '\n'
  | carriageReturn => '\r'
  | tab => '\t'

/-- One character as it is spelled between the quotes of a string. -/
inductive Piece where
  /-- The character itself. -/
  | plain (c : Char) (ordinary : c ≠ '"' ∧ c ≠ '\\' ∧ 0x20 ≤ c.toNat)
  /-- A backslash and a letter. -/
  | short (escape : ShortEscape)
  /-- The number of the character, which is no surrogate. -/
  | number (quad : Quad) (noSurrogate : quad.value < 0xD800 ∨ 0xDFFF < quad.value)
  /-- The number of a character beyond U+FFFF, as a leading and a trailing surrogate. -/
  | surrogates (leading trailing : Quad)
      (isLeading : 0xD800 ≤ leading.value ∧ leading.value ≤ 0xDBFF)
      (isTrailing : 0xDC00 ≤ trailing.value ∧ trailing.value ≤ 0xDFFF)

/-- The character that is spelled. -/
def Piece.char : Piece → Char
  | plain c _ => c
  | short escape => escape.char
  | number quad _ => Char.ofNat quad.value
  | surrogates leading trailing _ _ =>
    Char.ofNat (0x10000 + (leading.value - 0xD800) * 0x400 + (trailing.value - 0xDC00))

/-- The bytes that spell the character. -/
def Piece.text : Piece → Bytes
  | plain c _ => String.utf8EncodeChar c
  | short escape => [0x5C, escape.letter]
  | number quad _ => 0x5C :: 0x75 :: quad.text
  | surrogates leading trailing _ _ =>
    0x5C :: 0x75 :: leading.text ++ 0x5C :: 0x75 :: trailing.text

/-- A string as it is spelled between its quotes. -/
abbrev Spelling := List Piece

/-- The string that is spelled. -/
def Spelling.string (spelling : Spelling) : String := String.ofList (spelling.map Piece.char)

/-- The bytes between the quotes. -/
def Spelling.text (spelling : Spelling) : Bytes := spelling.flatMap Piece.text

/-! ### Numbers -/

/-- A decimal digit. -/
abbrev Digit := Fin 10

/-- The byte of a decimal digit. -/
def Digit.byte (digit : Digit) : UInt8 := UInt8.ofNat (0x30 + digit.val)

/-- One or more decimal digits. -/
structure Digits where
  first : Digit
  others : List Digit

/-- The number that decimal digits spell. -/
def Digits.value (digits : Digits) : Nat :=
  digits.others.foldl (fun n digit => n * 10 + digit.val) digits.first.val

/-- The bytes of decimal digits. -/
def Digits.text (digits : Digits) : Bytes :=
  digits.first.byte :: digits.others.map Digit.byte

/-- The integer part of a number, which has no zero in front of other digits. -/
inductive Whole where
  | zero
  | positive (digits : Digits) (noZero : digits.first ≠ 0)

/-- The number that an integer part spells. -/
def Whole.value : Whole → Nat
  | zero => 0
  | positive digits _ => digits.value

/-- The bytes of an integer part. -/
def Whole.text : Whole → Bytes
  | zero => [0x30]
  | positive digits _ => digits.text

/-- The sign of an exponent. -/
inductive Sign where
  | none
  | plus
  | minus

/-- The bytes of a sign. -/
def Sign.text : Sign → Bytes
  | none => []
  | plus => [0x2B]
  | minus => [0x2D]

/-- The exponent of a number, of which the mark is capital or small. -/
structure Exponent where
  capital : Bool
  sign : Sign
  digits : Digits

/-- The power of ten that an exponent stands for. -/
def Exponent.factor (exponent : Exponent) : Rat :=
  match exponent.sign with
  | .minus => 1 / 10 ^ exponent.digits.value
  | _ => 10 ^ exponent.digits.value

/-- The bytes of an exponent, if there is one. -/
def exponentText : Option Exponent → Bytes
  | none => []
  | some exponent =>
    (if exponent.capital then 0x45 else 0x65) :: exponent.sign.text ++ exponent.digits.text

/-- The bytes of a fraction, if there is one. -/
def fractionText : Option Digits → Bytes
  | none => []
  | some digits => 0x2E :: digits.text

/-- A number as it is spelled. -/
structure Numeral where
  negative : Bool
  whole : Whole
  fraction : Option Digits
  exponent : Option Exponent

/-- The number that is spelled, without its sign. -/
def Numeral.magnitude (numeral : Numeral) : Rat :=
  let fraction : Rat := match numeral.fraction with
    | none => 0
    | some digits => digits.value / 10 ^ (digits.others.length + 1)
  let factor : Rat := match numeral.exponent with
    | none => 1
    | some exponent => exponent.factor
  (numeral.whole.value + fraction) * factor

/-- The number that is spelled. -/
def Numeral.value (numeral : Numeral) : Rat :=
  if numeral.negative then -numeral.magnitude else numeral.magnitude

/-- The bytes of a number after its sign. -/
def Numeral.unsigned (numeral : Numeral) : Bytes :=
  numeral.whole.text ++ (fractionText numeral.fraction ++ exponentText numeral.exponent)

/-- The bytes of a number. -/
def Numeral.text (numeral : Numeral) : Bytes :=
  if numeral.negative then 0x2D :: numeral.unsigned else numeral.unsigned

/-! ### Texts -/

mutual

/-- A JSON text without the gaps around it, taken apart. -/
inductive Tree where
  | null
  | boolean (value : Bool)
  | number (numeral : Numeral)
  | string (spelling : Spelling)
  | emptyArray (gap : Gap)
  | array (items : Items)
  | emptyObject (gap : Gap)
  | object (members : Members)

/-- The items of an array, each between two gaps. -/
inductive Items where
  | last (before : Gap) (item : Tree) (after : Gap)
  | cons (before : Gap) (item : Tree) (after : Gap) (items : Items)

/-- The members of an object, with gaps around each name and each value. -/
inductive Members where
  | last (before : Gap) (name : Spelling) (behind ahead : Gap) (value : Tree) (after : Gap)
  | cons (before : Gap) (name : Spelling) (behind ahead : Gap) (value : Tree) (after : Gap)
      (members : Members)

end

mutual

/-- The bytes of a JSON text. -/
def Tree.text : Tree → Bytes
  | .null => [0x6E, 0x75, 0x6C, 0x6C]
  | .boolean true => [0x74, 0x72, 0x75, 0x65]
  | .boolean false => [0x66, 0x61, 0x6C, 0x73, 0x65]
  | .number numeral => numeral.text
  | .string spelling => 0x22 :: (spelling.text ++ [0x22])
  | .emptyArray gap => 0x5B :: (gap.text ++ [0x5D])
  | .array items => 0x5B :: items.text
  | .emptyObject gap => 0x7B :: (gap.text ++ [0x7D])
  | .object members => 0x7B :: members.text

/-- The bytes of the items of an array, and its closing bracket. -/
def Items.text : Items → Bytes
  | .last before item after => before.text ++ (item.text ++ (after.text ++ [0x5D]))
  | .cons before item after items =>
    before.text ++ (item.text ++ (after.text ++ 0x2C :: items.text))

/-- The bytes of the members of an object, and its closing brace. -/
def Members.text : Members → Bytes
  | .last before name behind ahead value after =>
    before.text ++ 0x22 :: (name.text ++ 0x22 :: (behind.text ++ 0x3A :: (ahead.text ++
      (value.text ++ (after.text ++ [0x7D])))))
  | .cons before name behind ahead value after members =>
    before.text ++ 0x22 :: (name.text ++ 0x22 :: (behind.text ++ 0x3A :: (ahead.text ++
      (value.text ++ (after.text ++ 0x2C :: members.text)))))

end

mutual

/-- The value that a JSON text spells. -/
def Tree.value : Tree → Value
  | .null => .null
  | .boolean value => .boolean value
  | .number numeral => .number numeral.value
  | .string spelling => .string spelling.string
  | .emptyArray _ => .array []
  | .array items => .array items.values
  | .emptyObject _ => .object []
  | .object members => .object members.values

/-- The values of the items of an array. -/
def Items.values : Items → List Value
  | .last _ item _ => [item.value]
  | .cons _ item _ items => item.value :: items.values

/-- The names and values of the members of an object. -/
def Members.values : Members → List (String × Value)
  | .last _ name _ _ value _ => [(name.string, value.value)]
  | .cons _ name _ _ value _ members => (name.string, value.value) :: members.values

end

/-- **A text denotes a value**: it spells the value, with its members in some order, between two
gaps. -/
def Denotes (text : Bytes) (value : Value) : Prop :=
  ∃ (before : Gap) (tree : Tree) (after : Gap),
    text = before.text ++ (tree.text ++ after.text) ∧ Alike tree.value value

end ForbiddenHosts.Json
