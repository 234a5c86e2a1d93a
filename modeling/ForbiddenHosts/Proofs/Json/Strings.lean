import ForbiddenHosts.Json.Skip
import ForbiddenHosts.Proofs.Json.Grammar
import ForbiddenHosts.Proofs.Text.Utf8

/-!
# Reading strings

However a string is spelled, it is read as the string that is spelled (`readString_spelling`), and
stepped over up to the same place (`skipString_spelling`).  A spelling is a list of pieces, and each
of them leaves both readers outside an escape again, whatever follows; so one lemma for each reader
takes a piece off the text, by the cases of the piece, and the string follows by induction.

A character that is spelled by itself has bytes that neither reader takes for a quote, a backslash
or a control character (`PlainByte`).  The digits of an escape are read as their number, whichever
of their letters are capital (`Quad.hexNumber?_text`).
-/
namespace ForbiddenHosts.Json

open Utf8

/-! ### Plain bytes -/

/-- A byte that stands for itself between the quotes of a string. -/
def PlainByte (byte : UInt8) : Prop := byte ≠ 0x22 ∧ byte ≠ 0x5C ∧ ¬byte < 0x20

theorem step_plain {byte : UInt8} (h : PlainByte byte) :
    StringState.plain.step byte = .next .plain [byte] := by
  obtain ⟨hquote, hslash, hcontrol⟩ := h
  rw [StringState.step, if_neg hquote, if_neg hslash, if_neg hcontrol]

theorem readStringFrom_plain {bytes : Bytes} (h : ∀ byte ∈ bytes, PlainByte byte)
    (content : Array UInt8) (rest : Bytes) :
    readStringFrom .plain content (bytes ++ rest) =
      readStringFrom .plain (content ++ bytes) rest := by
  induction bytes generalizing content with
  | nil => simp
  | cons byte bytes ih =>
    rw [List.cons_append, readStringFrom, step_plain (h byte (List.mem_cons_self ..))]
    refine (ih (fun b hb => h b (List.mem_cons_of_mem _ hb)) _).trans ?_
    simp

theorem plainByte_iff {byte : UInt8} :
    PlainByte byte ↔ byte.toNat ≠ 0x22 ∧ byte.toNat ≠ 0x5C ∧ 0x20 ≤ byte.toNat := by
  rw [PlainByte, UInt8.not_lt, UInt8.le_iff_toNat_le, ne_eq, ne_eq, ← UInt8.toNat_inj,
    ← UInt8.toNat_inj]
  exact Iff.rfl

/-- The bytes of a character beyond ASCII all lie beyond ASCII. -/
theorem le_toNat_of_mem_encodeChar {c : Char} (h : 0x80 ≤ c.toNat) {byte : UInt8}
    (hb : byte ∈ String.utf8EncodeChar c) : 0x80 ≤ byte.toNat := by
  have hval : c.val.toNat = c.toNat := rfl
  have hvalid := Decoder.toNat_valid c
  simp only [String.utf8EncodeChar, hval] at hb
  rw [if_neg (by omega)] at hb
  -- Every byte is a mark of `80` or more, and fewer than eight bits of the number below it.
  have hmarked : ∀ mark bits, bits ≤ 0x7F → 0x80 ≤ mark → mark + bits < 256 →
      byte = UInt8.ofNat (bits + mark) → 0x80 ≤ byte.toNat := by
    intro mark bits _ hmark hlt he
    rw [he, Decoder.toNat_ofNat (by omega)]
    omega
  split at hb
  · simp only [List.mem_cons, List.not_mem_nil, or_false] at hb
    rcases hb with he | he <;> exact hmarked _ _ (by omega) (by omega) (by omega) he
  split at hb
  · simp only [List.mem_cons, List.not_mem_nil, or_false] at hb
    rcases hb with he | he | he <;> exact hmarked _ _ (by omega) (by omega) (by omega) he
  · simp only [List.mem_cons, List.not_mem_nil, or_false] at hb
    rcases hb with he | he | he | he <;> exact hmarked _ _ (by omega) (by omega) (by omega) he

theorem encodeChar_ascii {c : Char} (h : c.toNat < 0x80) :
    String.utf8EncodeChar c = [UInt8.ofNat c.toNat] := by
  have hval : c.val.toNat = c.toNat := rfl
  simp only [String.utf8EncodeChar, hval]
  rw [if_pos (by omega)]

/-- The bytes of a character that is written as itself are plain. -/
theorem plainByte_of_mem_encodeChar {c : Char} (hquote : c ≠ '"') (hslash : c ≠ '\\')
    (hcontrol : ¬c.toNat < 0x20) {byte : UInt8} (hb : byte ∈ String.utf8EncodeChar c) :
    PlainByte byte := by
  rw [plainByte_iff]
  by_cases hascii : c.toNat < 0x80
  · rw [encodeChar_ascii hascii, List.mem_singleton] at hb
    have hq : c.toNat ≠ 0x22 := fun he => hquote (Char.toNat_inj.mp he)
    have hs : c.toNat ≠ 0x5C := fun he => hslash (Char.toNat_inj.mp he)
    rw [hb, Decoder.toNat_ofNat (by omega)]
    exact ⟨hq, hs, by omega⟩
  · have hlarge := le_toNat_of_mem_encodeChar (by omega) hb
    omega

/-! ### Hexadecimal digits -/

theorem HexDigit.hexValue?_byte (digit : HexDigit) :
    hexValue? digit.byte = some digit.value.val := by
  obtain ⟨value, capital⟩ := digit
  revert value capital
  decide

/-- Four digits are read as the number that they spell. -/
theorem Quad.hexNumber?_text (quad : Quad) : hexNumber? quad.text = some quad.value := by
  simp [hexNumber?, Quad.text, Quad.value, HexDigit.hexValue?_byte]

/-! ### Pieces -/

/-- Four digits after `\u` that spell no surrogate are read as their character. -/
theorem readStringFrom_number {quad : Quad}
    (noSurrogate : quad.value < 0xD800 ∨ 0xDFFF < quad.value) (content : Array UInt8)
    (rest : Bytes) :
    readStringFrom .plain content (0x5C :: 0x75 :: quad.text ++ rest) =
      readStringFrom .plain (content ++ String.utf8EncodeChar (Char.ofNat quad.value)) rest := by
  have hclose : unicodeStep none quad.text =
      .next .plain (String.utf8EncodeChar (Char.ofNat quad.value)) := by
    simp only [unicodeStep, quad.hexNumber?_text]
    rw [if_neg (by omega), if_neg (by omega)]
  rw [Quad.text] at hclose ⊢
  simp only [List.cons_append, List.nil_append, readStringFrom, StringState.step]
  simp [hclose]

theorem Piece.char_plainByte {c : Char} (ordinary : c ≠ '"' ∧ c ≠ '\\' ∧ 0x20 ≤ c.toNat) :
    ∀ byte ∈ String.utf8EncodeChar c, PlainByte byte := fun _ hb =>
  plainByte_of_mem_encodeChar ordinary.1 ordinary.2.1 (by omega) hb

/-- Two surrogates are read as the character beyond U+FFFF that they stand for. -/
theorem readStringFrom_surrogates {leading trailing : Quad}
    (isLeading : 0xD800 ≤ leading.value ∧ leading.value ≤ 0xDBFF)
    (isTrailing : 0xDC00 ≤ trailing.value ∧ trailing.value ≤ 0xDFFF)
    (content : Array UInt8) (rest : Bytes) :
    readStringFrom .plain content
        (0x5C :: 0x75 :: leading.text ++ 0x5C :: 0x75 :: trailing.text ++ rest) =
      readStringFrom .plain (content ++ String.utf8EncodeChar
        (Char.ofNat (0x10000 + (leading.value - 0xD800) * 0x400 + (trailing.value - 0xDC00))))
        rest := by
  have hleading : unicodeStep none leading.text = .next (.paired leading.value) [] := by
    simp only [unicodeStep, leading.hexNumber?_text]
    rw [if_neg (by omega), if_pos isLeading]
  have htrailing : unicodeStep (some leading.value) trailing.text = .next .plain
      (String.utf8EncodeChar
        (Char.ofNat (0x10000 + (leading.value - 0xD800) * 0x400 + (trailing.value - 0xDC00)))) := by
    simp only [unicodeStep, trailing.hexNumber?_text]
    rw [if_pos isTrailing]
  rw [Quad.text] at hleading htrailing ⊢
  rw [Quad.text]
  simp only [List.cons_append, List.nil_append, readStringFrom, StringState.step]
  simp [hleading, htrailing]

/-- **A piece is read as the bytes of its character**, whatever follows. -/
theorem readStringFrom_piece (piece : Piece) (content : Array UInt8) (rest : Bytes) :
    readStringFrom .plain content (piece.text ++ rest) =
      readStringFrom .plain (content ++ String.utf8EncodeChar piece.char) rest := by
  cases piece with
  | plain c ordinary => exact readStringFrom_plain (Piece.char_plainByte ordinary) content rest
  | short escape => cases escape <;> rfl
  | number quad noSurrogate => exact readStringFrom_number noSurrogate content rest
  | surrogates leading trailing isLeading isTrailing =>
    exact readStringFrom_surrogates isLeading isTrailing content rest

theorem skipStringFrom_plain {bytes : Bytes} (h : ∀ byte ∈ bytes, PlainByte byte) (rest : Bytes) :
    skipStringFrom .plain (bytes ++ rest) = skipStringFrom .plain rest := by
  induction bytes with
  | nil => rfl
  | cons byte bytes ih =>
    obtain ⟨hquote, hslash, hcontrol⟩ := h byte (List.mem_cons_self ..)
    rw [List.cons_append, skipStringFrom, if_neg hquote, if_neg hslash, if_neg hcontrol]
    exact ih fun b hb => h b (List.mem_cons_of_mem _ hb)

/-- One escape with digits is stepped over, be its number a surrogate or not. -/
theorem skipStringFrom_quad (quad : Quad) (rest : Bytes) :
    skipStringFrom .plain (0x5C :: 0x75 :: quad.text ++ rest) = skipStringFrom .plain rest := by
  have h := quad.hexNumber?_text
  rw [Quad.text] at h ⊢
  simp [skipStringFrom, h]

/-- **A piece is stepped over**, whatever follows. -/
theorem skipStringFrom_piece (piece : Piece) (rest : Bytes) :
    skipStringFrom .plain (piece.text ++ rest) = skipStringFrom .plain rest := by
  cases piece with
  | plain c ordinary => exact skipStringFrom_plain (Piece.char_plainByte ordinary) rest
  | short escape => cases escape <;> rfl
  | number quad noSurrogate => exact skipStringFrom_quad quad rest
  | surrogates leading trailing isLeading isTrailing =>
    rw [Piece.text, List.append_assoc, List.cons_append, List.cons_append]
    exact (skipStringFrom_quad leading _).trans (skipStringFrom_quad trailing rest)

/-! ### Strings -/

theorem readStringFrom_spelling (spelling : Spelling) (content : Array UInt8) (rest : Bytes) :
    readStringFrom .plain content (spelling.text ++ 0x22 :: rest) =
      .ok (content ++ encode (spelling.map Piece.char), rest) := by
  induction spelling generalizing content with
  | nil => simp [Spelling.text, readStringFrom, StringState.step]
  | cons piece spelling ih =>
    rw [Spelling.text, List.flatMap_cons, List.append_assoc, readStringFrom_piece]
    refine (ih _).trans ?_
    rw [List.map_cons, encode_cons]
    refine congrArg (fun read => Except.ok (read, rest)) (Array.ext' ?_)
    simp

/-- **A string is read as the string that is spelled**, whatever follows its closing quote. -/
theorem readString_spelling (spelling : Spelling) (rest : Bytes) :
    readString (spelling.text ++ 0x22 :: rest) = .ok (spelling.string, rest) := by
  rw [readString, readStringFrom_spelling]
  simp [Spelling.string, decodeString]

/-- **A string is stepped over up to its closing quote.** -/
theorem skipString_spelling (spelling : Spelling) (rest : Bytes) :
    skipString (spelling.text ++ 0x22 :: rest) = .ok rest := by
  rw [skipString]
  induction spelling with
  | nil => simp [Spelling.text, skipStringFrom]
  | cons piece spelling ih =>
    rw [Spelling.text, List.flatMap_cons, List.append_assoc, skipStringFrom_piece]
    exact ih

end ForbiddenHosts.Json
