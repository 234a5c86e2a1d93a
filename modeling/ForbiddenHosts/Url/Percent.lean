import ForbiddenHosts.Text.Utf8

/-!
# Percent-encoding

Inside a URL a character that its place does not admit is written as the bytes of its UTF-8 form,
each as a percent sign and two upper-case hexadecimal digits.  Every place encodes control
characters and everything beyond ASCII; which further characters it encodes is its **encode set**.
A percent sign belongs to no set, so what is encoded already is left alone and encoding twice is
encoding once.
-/
namespace ForbiddenHosts.Url

/-- A character that every place of a URL encodes: a control character or one beyond ASCII. -/
def isControl (c : Char) : Bool := c.toNat < 0x20 || 0x7E < c.toNat

/-- What a fragment encodes. -/
def inFragmentSet (c : Char) : Bool :=
  isControl c || c == ' ' || c == '"' || c == '<' || c == '>' || c == '\x60'

/-- What a query encodes; the query of a special URL encodes the apostrophe too. -/
def inQuerySet (special : Bool) (c : Char) : Bool :=
  isControl c || c == ' ' || c == '"' || c == '#' || c == '<' || c == '>' ||
    (special && c == '\'')

/-- What a segment of a path encodes. -/
def inPathSet (c : Char) : Bool :=
  inFragmentSet c || c == '#' || c == '?' || c == '\x7b' || c == '\x7d'

/-- What a user name or a password encodes. -/
def inUserSet (c : Char) : Bool :=
  inPathSet c || c == '/' || c == ':' || c == ';' || c == '=' || c == '@' || c == '[' ||
    c == '\\' || c == ']' || c == '^' || c == '|'

/-- The upper-case hexadecimal digit of a number below sixteen. -/
def hexDigit (n : Nat) : Char :=
  Char.ofNat (if n < 10 then 0x30 + n else 0x37 + n)

/-- A percent sign and the two digits of a byte. -/
def encodeByte (byte : UInt8) : List Char :=
  ['%', hexDigit (byte.toNat / 16), hexDigit (byte.toNat % 16)]

/-- Encodes the characters of a set and leaves the others alone. -/
def percentEncode (inSet : Char → Bool) (text : List Char) : List Char :=
  text.flatMap fun c =>
    if inSet c then (String.utf8EncodeChar c).flatMap encodeByte else [c]

/-- The value of a hexadecimal digit of either case. -/
def hexValue? (c : Char) : Option Nat :=
  if '0' ≤ c ∧ c ≤ '9' then some (c.toNat - 0x30)
  else if 'A' ≤ c ∧ c ≤ 'F' then some (c.toNat - 0x37)
  else if 'a' ≤ c ∧ c ≤ 'f' then some (c.toNat - 0x57)
  else none

/-- The bytes of a text in which a percent sign with two hexadecimal digits stands for a byte. -/
def percentDecode : List Char → Bytes
  | '%' :: high :: low :: text =>
    match hexValue? high, hexValue? low with
    | some h, some l => UInt8.ofNat (h * 16 + l) :: percentDecode text
    | _, _ => String.utf8EncodeChar '%' ++ percentDecode (high :: low :: text)
  | c :: text => String.utf8EncodeChar c ++ percentDecode text
  | [] => []

/-- A text without characters of the set is left alone. -/
theorem percentEncode_eq_self {inSet : Char → Bool} {text : List Char}
    (h : ∀ c ∈ text, inSet c = false) : percentEncode inSet text = text := by
  induction text with
  | nil => rfl
  | cons c text ih =>
    have ht := ih fun d hd => h d (List.mem_cons_of_mem c hd)
    simp only [percentEncode, List.flatMap_cons, h c List.mem_cons_self] at ht ⊢
    simp [ht]

@[simp] theorem percentEncode_append (inSet : Char → Bool) (front back : List Char) :
    percentEncode inSet (front ++ back) =
      percentEncode inSet front ++ percentEncode inSet back := by
  simp [percentEncode]

end ForbiddenHosts.Url
