/-!
# Blank characters and trimming

A character is **blank** when it has the Unicode property `White_Space`: twenty-five characters,
among them the ASCII spaces and line breaks, U+0085, the no-break space, the spaces of U+2000 to
U+200A, the line and paragraph separators and the ideographic space.  Zero-width characters and the
byte-order mark are not blank.

`trim` takes the blank characters off both ends of a text and leaves its inside alone.  A text is
`Trimmed` when neither its first nor its last character is blank; trimming gives exactly such texts.
-/
namespace ForbiddenHosts.Text

/-- The characters with the property `White_Space`. -/
def isBlank (c : Char) : Bool :=
  (0x9 ≤ c.toNat && c.toNat ≤ 0xD) || c.toNat == 0x20 || c.toNat == 0x85 || c.toNat == 0xA0 ||
    c.toNat == 0x1680 || (0x2000 ≤ c.toNat && c.toNat ≤ 0x200A) || c.toNat == 0x2028 ||
    c.toNat == 0x2029 || c.toNat == 0x202F || c.toNat == 0x205F || c.toNat == 0x3000

/-- Drops the longest final part of a text whose characters all satisfy `p`. -/
def dropEndWhile (p : Char → Bool) (text : List Char) : List Char :=
  (text.reverse.dropWhile p).reverse

/-- Takes the blank characters off both ends of a text. -/
def trim (text : List Char) : List Char :=
  dropEndWhile isBlank (text.dropWhile isBlank)

/-- Neither end of the text is a blank character. -/
def Trimmed (text : List Char) : Prop :=
  (∀ c, text.head? = some c → isBlank c = false) ∧
    (∀ c, text.getLast? = some c → isBlank c = false)

/-- Core's ASCII white space is blank. -/
theorem isBlank_of_isWhitespace {c : Char} (h : c.isWhitespace = true) : isBlank c = true := by
  simp only [Char.isWhitespace, Bool.or_eq_true, decide_eq_true_eq] at h
  rcases h with ((rfl | rfl) | rfl) | rfl <;> decide

@[simp] theorem trim_nil : trim [] = [] := rfl

/-- Takes the blank characters off both ends of a string. -/
def trimString (text : String) : String :=
  String.ofList (trim text.toList)

end ForbiddenHosts.Text
