import ForbiddenHosts.Json.Token

/-!
# Skipping JSON values

A reader that has no use for a member of an object steps over its value.  The value must be JSON,
but less is asked of it than of a value that is read: it may be nested to any depth, its numbers may
be of any size, its strings need not be UTF-8 and their surrogates need no partner.
-/
namespace ForbiddenHosts.Json

/-- Where the skipping of a string stands. -/
inductive SkipState where
  /-- Outside an escape. -/
  | plain
  /-- After a backslash. -/
  | escape
  /-- Among the four digits of an escape, of which `digits` have been read. -/
  | unicode (digits : Bytes)

/-- Steps over a string from a state on, up to its closing quote. -/
def skipStringFrom (state : SkipState) : Bytes → Except Fault Bytes
  | [] => .error ⟨.endInString, []⟩
  | byte :: rest =>
    match state with
    | .plain =>
      if byte = 0x22 then .ok rest
      else if byte = 0x5C then skipStringFrom .escape rest
      else if byte < 0x20 then .error ⟨.controlCharacter, byte :: rest⟩
      else skipStringFrom .plain rest
    | .escape =>
      if byte = 0x75 then skipStringFrom (.unicode []) rest
      else if (shortEscape? byte).isSome then skipStringFrom .plain rest
      else .error ⟨.invalidEscape, rest⟩
    | .unicode digits =>
      if digits.length < 3 then skipStringFrom (.unicode (digits ++ [byte])) rest
      else if (hexNumber? (digits ++ [byte])).isSome then skipStringFrom .plain rest
      else .error ⟨.invalidEscape, rest⟩

/-- Steps over a string whose opening quote has been read. -/
def skipString (text : Bytes) : Except Fault Bytes := skipStringFrom .plain text

/-- Steps over the exponent of a number, whose mark has been read. -/
def skipExponent (text : Bytes) : Except Fault Bytes :=
  let digits := match text with
    | 0x2B :: rest => rest
    | 0x2D :: rest => rest
    | rest => rest
  match digits with
  | [] => .error ⟨.invalidNumber, []⟩
  | byte :: rest =>
    if isDigit byte then .ok (rest.dropWhile isDigit) else .error ⟨.invalidNumber, rest⟩

/-- Steps over the exponent of a number, if it has one. -/
def skipOptionalExponent (text : Bytes) : Except Fault Bytes :=
  match text with
  | 0x65 :: rest => skipExponent rest
  | 0x45 :: rest => skipExponent rest
  | rest => .ok rest

/-- Steps over what follows the integer part of a number. -/
def skipAfterInteger (text : Bytes) : Except Fault Bytes :=
  match text with
  | 0x2E :: rest =>
    match rest with
    | [] => .error ⟨.invalidNumber, []⟩
    | byte :: after =>
      if isDigit byte then skipOptionalExponent (rest.dropWhile isDigit)
      else .error ⟨.invalidNumber, after⟩
  | rest => skipOptionalExponent rest

/-- Steps over a number, whose minus sign has been read if it has one. -/
def skipNumber (text : Bytes) : Except Fault Bytes :=
  match text with
  | [] => .error ⟨.invalidNumber, []⟩
  | byte :: rest =>
    if byte = 0x30 then
      match rest with
      | next :: after =>
        if isDigit next then .error ⟨.invalidNumber, after⟩ else skipAfterInteger rest
      | [] => skipAfterInteger rest
    else if isDigit byte then skipAfterInteger (rest.dropWhile isDigit)
    else .error ⟨.invalidNumber, rest⟩

/-- Steps over the name of a member, whose opening quote has been read, and the colon after it. -/
def skipName (text : Bytes) : Except Fault Bytes := do
  let rest ← skipString text
  match dropSpace rest with
  | [] => .error ⟨.endInObject, []⟩
  | byte :: rest => if byte = 0x3A then .ok rest else .error ⟨.expectedColon, rest⟩

mutual

/-- Steps over a value.  Each step of the recursion costs one unit of `fuel`, and no value needs
more than twice its length. -/
def skipValueWith : Nat → Bytes → Except Fault Bytes
  | 0, rest => .error ⟨.expectedValue, rest⟩
  | fuel + 1, text =>
    match dropSpace text with
    | [] => .error ⟨.endInValue, []⟩
    | byte :: rest =>
      if byte = 0x6E then readWord restOfNull rest
      else if byte = 0x74 then readWord restOfTrue rest
      else if byte = 0x66 then readWord restOfFalse rest
      else if byte = 0x2D then skipNumber rest
      else if isDigit byte then skipNumber (byte :: rest)
      else if byte = 0x22 then skipString rest
      else if byte = 0x5B then
        match dropSpace rest with
        | [] => .error ⟨.endInList, []⟩
        | next :: after => if next = 0x5D then .ok after else skipItemsWith fuel (next :: after)
      else if byte = 0x7B then
        match dropSpace rest with
        | [] => .error ⟨.endInObject, []⟩
        | next :: after => if next = 0x7D then .ok after else skipMembersWith fuel (next :: after)
      else .error ⟨.expectedValue, rest⟩

/-- Steps over the items of a list, from an item on, and its closing bracket. -/
def skipItemsWith : Nat → Bytes → Except Fault Bytes
  | 0, rest => .error ⟨.expectedValue, rest⟩
  | fuel + 1, text =>
    match skipValueWith fuel text with
    | .error fault => .error fault
    | .ok rest =>
      match dropSpace rest with
      | [] => .error ⟨.endInList, []⟩
      | byte :: rest =>
        if byte = 0x2C then skipItemsWith fuel rest
        else if byte = 0x5D then .ok rest
        else .error ⟨.expectedCommaInList, rest⟩

/-- Steps over the members of an object, from the name of a member on, and its closing brace. -/
def skipMembersWith : Nat → Bytes → Except Fault Bytes
  | 0, rest => .error ⟨.expectedValue, rest⟩
  | fuel + 1, text =>
    match dropSpace text with
    | [] => .error ⟨.endInObject, []⟩
    | byte :: rest =>
      if byte = 0x22 then
        match skipName rest with
        | .error fault => .error fault
        | .ok rest =>
          match skipValueWith fuel rest with
          | .error fault => .error fault
          | .ok rest =>
            match dropSpace rest with
            | [] => .error ⟨.endInObject, []⟩
            | byte :: rest =>
              if byte = 0x2C then skipMembersWith fuel rest
              else if byte = 0x7D then .ok rest
              else .error ⟨.expectedCommaInObject, rest⟩
      else .error ⟨.nameNotString, rest⟩

end

/-- Steps over a value. -/
def skipValue (text : Bytes) : Except Fault Bytes := skipValueWith (2 * text.length + 2) text

end ForbiddenHosts.Json
