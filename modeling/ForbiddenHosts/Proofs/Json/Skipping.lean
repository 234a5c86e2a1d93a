import ForbiddenHosts.Proofs.Json.Strings
import Mathlib.Data.List.DropRight

/-!
# Stepping over values

Whatever value a JSON text spells, however deep it is and however it is spelled, it is stepped over
to its end and no further (`skipValue_text`): a reader that has no use for a value does not depend
on what it is.  The proof is by recursion on the tree; each step into it costs a unit of fuel, and
two units for each byte are enough.

The end of a number is not marked, so the text behind a value must not go on with one
(`Delimited`).  What can follow a value inside a text never does: a gap, a comma or a closing byte.
-/
namespace ForbiddenHosts.Json

/-! ### Gaps -/

theorem dropSpace_cons {byte : UInt8} (h : isSpace byte = false) (rest : Bytes) :
    dropSpace (byte :: rest) = byte :: rest :=
  List.dropWhile_cons_of_neg (by simp [h])

theorem Space.isSpace_byte (blank : Space) : isSpace blank.byte = true := by
  cases blank <;> rfl

/-- Readers that drop blanks drop a gap. -/
theorem dropSpace_gap (gap : Gap) (rest : Bytes) :
    dropSpace (gap.text ++ rest) = dropSpace rest := by
  induction gap with
  | nil => rfl
  | cons blank gap ih =>
    rw [Gap.text, List.map_cons, List.cons_append, dropSpace,
      List.dropWhile_cons_of_pos blank.isSpace_byte]
    exact ih

theorem dropSpace_dropSpace (text : Bytes) : dropSpace (dropSpace text) = dropSpace text :=
  List.dropWhile_idempotent ..

/-! ### What follows a value -/

/-- A text that does not begin with a digit. -/
def NoDigit (rest : Bytes) : Prop := ∀ byte ∈ rest.head?, isDigit byte = false

/-- A text that does not continue a number. -/
def Delimited (rest : Bytes) : Prop :=
  ∀ byte ∈ rest.head?, isDigit byte = false ∧ byte ≠ 0x2E ∧ byte ≠ 0x65 ∧ byte ≠ 0x45

theorem Delimited.noDigit {rest : Bytes} (h : Delimited rest) : NoDigit rest :=
  fun byte hb => (h byte hb).1

theorem delimited_cons (byte : UInt8)
    (h : isDigit byte = false ∧ byte ≠ 0x2E ∧ byte ≠ 0x65 ∧ byte ≠ 0x45) (rest : Bytes) :
    Delimited (byte :: rest) := fun _ hb => Option.some.inj hb ▸ h

/-- A gap does not continue a number. -/
theorem delimited_gap (gap : Gap) {rest : Bytes} (h : Delimited rest) :
    Delimited (gap.text ++ rest) := by
  cases gap with
  | nil => exact h
  | cons blank gap => exact delimited_cons _ (by cases blank <;> decide) _

/-! ### Numbers -/

theorem Digit.isDigit_byte : ∀ digit : Digit, isDigit digit.byte = true := by decide

theorem Digit.byte_ne_zero : ∀ digit : Digit, digit ≠ 0 → digit.byte ≠ 0x30 := by decide

theorem dropWhile_digits (digits : List Digit) {rest : Bytes} (h : NoDigit rest) :
    (digits.map Digit.byte ++ rest).dropWhile isDigit = rest := by
  induction digits with
  | nil =>
    cases rest with
    | nil => rfl
    | cons byte rest => exact List.dropWhile_cons_of_neg (by simp [h byte rfl])
  | cons digit digits ih =>
    rw [List.map_cons, List.cons_append, List.dropWhile_cons_of_pos digit.isDigit_byte, ih]

theorem noDigit_exponent (exponent : Option Exponent) {rest : Bytes} (h : NoDigit rest) :
    NoDigit (exponentText exponent ++ rest) := by
  cases exponent with
  | none => exact h
  | some exponent =>
    intro byte hb
    rw [← Option.some.inj hb]
    cases exponent.capital <;> rfl

theorem noDigit_fraction (fraction : Option Digits) {rest : Bytes} (h : NoDigit rest) :
    NoDigit (fractionText fraction ++ rest) := by
  cases fraction with
  | none => exact h
  | some digits =>
    intro byte hb
    rw [← Option.some.inj hb]
    rfl

/-- The digits of an exponent are stepped over, after a sign or without. -/
theorem skipExponent_text (sign : Sign) (digits : Digits) {rest : Bytes} (h : NoDigit rest) :
    skipExponent (sign.text ++ (digits.text ++ rest)) = .ok rest := by
  have hdigit := digits.first.isDigit_byte
  have hothers := dropWhile_digits digits.others h
  cases sign with
  | none =>
    -- The first digit is no sign.
    have hsigns : ∀ digit : Digit, digit.byte ≠ 0x2B ∧ digit.byte ≠ 0x2D := by decide
    obtain ⟨hplus, hminus⟩ := hsigns digits.first
    simp [Sign.text, Digits.text, skipExponent, hplus, hminus, hdigit, hothers]
  | plus => simp [Sign.text, Digits.text, skipExponent, hdigit, hothers]
  | minus => simp [Sign.text, Digits.text, skipExponent, hdigit, hothers]

theorem skipOptionalExponent_text (exponent : Option Exponent) {rest : Bytes}
    (h : Delimited rest) : skipOptionalExponent (exponentText exponent ++ rest) = .ok rest := by
  cases exponent with
  | none =>
    cases rest with
    | nil => rfl
    | cons byte rest =>
      obtain ⟨_, _, hsmall, hcapital⟩ := h byte rfl
      simp [exponentText, skipOptionalExponent, hsmall, hcapital]
  | some exponent =>
    have hskip := skipExponent_text exponent.sign exponent.digits h.noDigit
    cases hcapital : exponent.capital <;>
      simp [exponentText, skipOptionalExponent, hcapital, hskip]

theorem skipAfterInteger_text (fraction : Option Digits) (exponent : Option Exponent)
    {rest : Bytes} (h : Delimited rest) :
    skipAfterInteger (fractionText fraction ++ (exponentText exponent ++ rest)) = .ok rest := by
  have hskip := skipOptionalExponent_text exponent h
  cases fraction with
  | none =>
    -- Neither an exponent nor the text behind the number begins with a point.
    have hpoint : ∀ after, exponentText exponent ++ rest ≠ 0x2E :: after := by
      intro after he
      cases exponent with
      | none =>
        rw [exponentText, List.nil_append] at he
        exact (h 0x2E (by rw [he]; rfl)).2.1 rfl
      | some exponent => cases hcapital : exponent.capital <;> simp [exponentText, hcapital] at he
    rw [fractionText, List.nil_append, skipAfterInteger]
    · exact hskip
    · exact hpoint
  | some digits =>
    have hdigits := dropWhile_digits (digits.first :: digits.others)
      (noDigit_exponent exponent h.noDigit)
    rw [List.map_cons, List.cons_append] at hdigits
    simp only [fractionText, Digits.text, List.cons_append, skipAfterInteger]
    rw [if_pos digits.first.isDigit_byte, hdigits, hskip]

/-- **A number is stepped over**, its sign apart, if nothing follows that continues it. -/
theorem skipNumber_unsigned (numeral : Numeral) {rest : Bytes} (h : Delimited rest) :
    skipNumber (numeral.unsigned ++ rest) = .ok rest := by
  obtain ⟨negative, whole, fraction, exponent⟩ := numeral
  have hskip := skipAfterInteger_text fraction exponent h
  have hno := noDigit_fraction fraction (noDigit_exponent exponent h.noDigit)
  simp only [Numeral.unsigned, List.append_assoc]
  cases whole with
  | zero =>
    simp only [Whole.text, List.singleton_append, skipNumber, ↓reduceIte]
    split
    · rename_i next after heq
      rw [if_neg (by simp [hno next (by rw [heq]; rfl)])]
      exact hskip
    · exact hskip
  | positive digits noZero =>
    have hdigits := dropWhile_digits digits.others hno
    simp only [Whole.text, Digits.text, List.cons_append, skipNumber]
    rw [if_neg (digits.first.byte_ne_zero noZero), if_pos digits.first.isDigit_byte, hdigits, hskip]

/-! ### Where a value begins -/

theorem ne_of_isDigit {byte other : UInt8} (h : isDigit byte = true) (h' : isDigit other = false) :
    byte ≠ other := by
  rintro rfl
  exact absurd (h.symm.trans h') (by decide)

theorem isSpace_of_isDigit {byte : UInt8} (h : isDigit byte = true) : isSpace byte = false := by
  have hne : ∀ other, isDigit other = false → (byte == other) = false :=
    fun other h' => beq_eq_false_iff_ne.mpr (ne_of_isDigit h h')
  rw [isSpace, hne _ (by decide), hne _ (by decide), hne _ (by decide), hne _ (by decide)]
  rfl

/-- A number without its sign begins with a digit. -/
theorem Numeral.unsigned_start (numeral : Numeral) :
    ∃ byte more, numeral.unsigned = byte :: more ∧ isDigit byte = true := by
  obtain ⟨negative, whole, fraction, exponent⟩ := numeral
  cases whole with
  | zero => exact ⟨0x30, _, rfl, by decide⟩
  | positive digits noZero => exact ⟨digits.first.byte, _, rfl, digits.first.isDigit_byte⟩

/-- A number begins with a minus sign or a digit, not as any other value or with a closing
bracket. -/
theorem Numeral.text_start (numeral : Numeral) :
    ∃ byte more, numeral.text = byte :: more ∧ isSpace byte = false ∧ byte ≠ 0x22 ∧
      byte ≠ 0x5B ∧ byte ≠ 0x7B ∧ byte ≠ 0x5D := by
  rw [Numeral.text]
  split
  · exact ⟨0x2D, _, rfl, by decide⟩
  · obtain ⟨byte, more, htext, hdigit⟩ := numeral.unsigned_start
    exact ⟨byte, more, htext, isSpace_of_isDigit hdigit, ne_of_isDigit hdigit (by decide),
      ne_of_isDigit hdigit (by decide), ne_of_isDigit hdigit (by decide),
      ne_of_isDigit hdigit (by decide)⟩

/-- A value begins with a byte that is neither a blank nor a closing bracket. -/
theorem Tree.text_start (tree : Tree) :
    ∃ byte more, tree.text = byte :: more ∧ isSpace byte = false ∧ byte ≠ 0x5D := by
  cases tree with
  | boolean value => cases value <;> exact ⟨_, _, rfl, by decide, by decide⟩
  | number numeral =>
    obtain ⟨byte, more, htext, hspace, _, _, _, hclose⟩ := numeral.text_start
    exact ⟨byte, more, htext, hspace, hclose⟩
  | _ => exact ⟨_, _, rfl, by decide, by decide⟩

/-- The items of an array begin, behind a gap, with neither a blank nor a closing bracket. -/
theorem Items.dropSpace_text (items : Items) (rest : Bytes) :
    ∃ byte more, dropSpace (items.text ++ rest) = byte :: more ∧ byte ≠ 0x5D := by
  cases items with
  | last before item after | cons before item after items =>
    obtain ⟨byte, more, htext, hspace, hclose⟩ := item.text_start
    rw [Items.text, List.append_assoc, dropSpace_gap, htext]
    exact ⟨byte, _, dropSpace_cons hspace _, hclose⟩

theorem Items.text_length_pos (items : Items) : 0 < items.text.length := by
  cases items <;> (simp only [Items.text, List.length_append, List.length_cons]; omega)

/-- The members of an object begin, behind a gap, with the quote of a name. -/
theorem Members.dropSpace_text (members : Members) (rest : Bytes) :
    ∃ more, dropSpace (members.text ++ rest) = 0x22 :: more := by
  cases members with
  | last before _ _ _ _ _ | cons before _ _ _ _ _ _ =>
    rw [Members.text, List.append_assoc, dropSpace_gap, List.cons_append]
    exact ⟨_, dropSpace_cons (by decide) _⟩

theorem Members.text_length_pos (members : Members) : 0 < members.text.length := by
  cases members <;> (simp only [Members.text, List.length_append, List.length_cons]; omega)

/-! ### Values -/

theorem skipValueWith_dropSpace (fuel : Nat) (text : Bytes) :
    skipValueWith (fuel + 1) (dropSpace text) = skipValueWith (fuel + 1) text := by
  rw [skipValueWith, skipValueWith, dropSpace_dropSpace]

theorem skipItemsWith_dropSpace (fuel : Nat) (text : Bytes) :
    skipItemsWith (fuel + 2) (dropSpace text) = skipItemsWith (fuel + 2) text := by
  rw [skipItemsWith, skipItemsWith, skipValueWith_dropSpace]

theorem skipMembersWith_dropSpace (fuel : Nat) (text : Bytes) :
    skipMembersWith (fuel + 1) (dropSpace text) = skipMembersWith (fuel + 1) text := by
  rw [skipMembersWith, skipMembersWith, dropSpace_dropSpace]

/-- The name of a member is stepped over with its colon. -/
theorem skipName_spelling (name : Spelling) (behind : Gap) (rest : Bytes) :
    skipName (name.text ++ 0x22 :: (behind.text ++ 0x3A :: rest)) = .ok rest := by
  rw [skipName, skipString_spelling]
  simp only [bind, Except.bind]
  rw [dropSpace_gap, dropSpace_cons (by decide)]
  rfl

theorem skipValueWith_number (numeral : Numeral) (fuel : Nat) {rest : Bytes}
    (h : Delimited rest) : skipValueWith (fuel + 1) (numeral.text ++ rest) = .ok rest := by
  have hskip := skipNumber_unsigned numeral h
  rw [Numeral.text]
  split
  · rw [List.cons_append, skipValueWith, dropSpace_cons (by decide)]
    simpa using hskip
  · obtain ⟨byte, more, htext, hdigit⟩ := numeral.unsigned_start
    rw [htext, List.cons_append] at hskip ⊢
    rw [skipValueWith, dropSpace_cons (isSpace_of_isDigit hdigit)]
    simp only []
    rw [if_neg (ne_of_isDigit hdigit (by decide)), if_neg (ne_of_isDigit hdigit (by decide)),
      if_neg (ne_of_isDigit hdigit (by decide)), if_neg (ne_of_isDigit hdigit (by decide)),
      if_pos hdigit, hskip]

/-- A gap in front of a value is stepped over with it. -/
theorem skipValueWith_gap (gap : Gap) (fuel : Nat) (text : Bytes) :
    skipValueWith (fuel + 1) (gap.text ++ text) = skipValueWith (fuel + 1) text := by
  rw [← skipValueWith_dropSpace, dropSpace_gap, skipValueWith_dropSpace]

/-- Behind its bracket an array ends, or its first item stands. -/
theorem skipValueWith_bracket (fuel : Nat) (text : Bytes) :
    skipValueWith (fuel + 1) (0x5B :: text) =
      match dropSpace text with
      | [] => .error ⟨.endInList, []⟩
      | next :: after =>
        if next = 0x5D then .ok after else skipItemsWith fuel (next :: after) := rfl

/-- Behind its brace an object ends, or the name of its first member stands. -/
theorem skipValueWith_brace (fuel : Nat) (text : Bytes) :
    skipValueWith (fuel + 1) (0x7B :: text) =
      match dropSpace text with
      | [] => .error ⟨.endInObject, []⟩
      | next :: after =>
        if next = 0x7D then .ok after else skipMembersWith fuel (next :: after) := rfl

/-- A member is stepped over if its value is: what decides is the byte behind it. -/
theorem skipMembersWith_member (before : Gap) (name : Spelling) (behind : Gap) (fuel : Nat)
    {text rest more : Bytes} {byte : UInt8} (h : skipValueWith fuel text = .ok rest)
    (hdrop : dropSpace rest = byte :: more) :
    skipMembersWith (fuel + 1)
        (before.text ++ 0x22 :: (name.text ++ 0x22 :: (behind.text ++ 0x3A :: text))) =
      if byte = 0x2C then skipMembersWith fuel more
      else if byte = 0x7D then .ok more
      else .error ⟨.expectedCommaInObject, more⟩ := by
  rw [skipMembersWith, dropSpace_gap, dropSpace_cons (by decide)]
  simp only [↓reduceIte]
  rw [skipName_spelling]
  simp only [h, hdrop]

mutual

/-- **A value is stepped over**, with two units of fuel for each of its bytes but one. -/
theorem Tree.skipValueWith_text : (tree : Tree) → (fuel : Nat) → {rest : Bytes} →
    2 * tree.text.length ≤ fuel + 1 → Delimited rest →
    skipValueWith fuel (tree.text ++ rest) = .ok rest
  | tree, 0, rest, hfuel, _ => by
    obtain ⟨byte, more, htext, _⟩ := tree.text_start
    simp only [htext, List.length_cons] at hfuel
    omega
  | .null, fuel + 1, rest, _, _ => rfl
  | .boolean true, fuel + 1, rest, _, _ => rfl
  | .boolean false, fuel + 1, rest, _, _ => rfl
  | .number numeral, fuel + 1, rest, _, hrest => skipValueWith_number numeral fuel hrest
  | .string spelling, fuel + 1, rest, _, _ => by
    rw [Tree.text, List.cons_append, List.append_assoc, skipValueWith, dropSpace_cons (by decide)]
    exact skipString_spelling spelling rest
  | .emptyArray gap, fuel + 1, rest, _, _ => by
    rw [Tree.text, List.cons_append, List.append_assoc, skipValueWith_bracket, dropSpace_gap]
    rfl
  | .array items, fuel + 1, rest, hfuel, _ => by
    simp only [Tree.text, List.length_cons] at hfuel
    have hpos := items.text_length_pos
    obtain ⟨fuel, rfl⟩ : ∃ n, fuel = n + 2 := ⟨fuel - 2, by omega⟩
    obtain ⟨byte, more, hdrop, hclose⟩ := items.dropSpace_text rest
    have hskip := items.skipItemsWith_text (fuel + 2) rest (by omega)
    rw [← skipItemsWith_dropSpace, hdrop] at hskip
    rw [Tree.text, List.cons_append, skipValueWith_bracket, hdrop]
    simp only []
    rw [if_neg hclose, hskip]
  | .emptyObject gap, fuel + 1, rest, _, _ => by
    rw [Tree.text, List.cons_append, List.append_assoc, skipValueWith_brace, dropSpace_gap]
    rfl
  | .object members, fuel + 1, rest, hfuel, _ => by
    simp only [Tree.text, List.length_cons] at hfuel
    have hpos := members.text_length_pos
    obtain ⟨fuel, rfl⟩ : ∃ n, fuel = n + 1 := ⟨fuel - 1, by omega⟩
    obtain ⟨more, hdrop⟩ := members.dropSpace_text rest
    have hskip := members.skipMembersWith_text (fuel + 1) rest (by omega)
    rw [← skipMembersWith_dropSpace, hdrop] at hskip
    rw [Tree.text, List.cons_append, skipValueWith_brace, hdrop]
    exact hskip

/-- The items of an array are stepped over up to its closing bracket. -/
theorem Items.skipItemsWith_text : (items : Items) → (fuel : Nat) → (rest : Bytes) →
    2 * items.text.length ≤ fuel →
    skipItemsWith fuel (items.text ++ rest) = .ok rest
  | .last before item after, fuel, rest, hfuel => by
    simp only [Items.text, List.length_append, List.length_singleton] at hfuel
    obtain ⟨fuel, rfl⟩ : ∃ n, fuel = n + 2 := ⟨fuel - 2, by omega⟩
    have hskip := item.skipValueWith_text (fuel + 1) (by omega)
      (delimited_gap after (delimited_cons 0x5D (by decide) rest))
    rw [skipItemsWith]
    simp only [Items.text, List.append_assoc, List.singleton_append]
    rw [skipValueWith_gap, hskip]
    simp only []
    rw [dropSpace_gap, dropSpace_cons (by decide)]
    rfl
  | .cons before item after items, fuel, rest, hfuel => by
    simp only [Items.text, List.length_append, List.length_cons] at hfuel
    obtain ⟨fuel, rfl⟩ : ∃ n, fuel = n + 2 := ⟨fuel - 2, by omega⟩
    have hskip := item.skipValueWith_text (fuel + 1) (by omega)
      (delimited_gap after (delimited_cons 0x2C (by decide) (items.text ++ rest)))
    have hitems := items.skipItemsWith_text (fuel + 1) rest (by omega)
    rw [skipItemsWith]
    simp only [Items.text, List.append_assoc, List.cons_append]
    rw [skipValueWith_gap, hskip]
    simp only []
    rw [dropSpace_gap, dropSpace_cons (by decide)]
    exact hitems

/-- The members of an object are stepped over up to its closing brace. -/
theorem Members.skipMembersWith_text : (members : Members) → (fuel : Nat) → (rest : Bytes) →
    2 * members.text.length ≤ fuel →
    skipMembersWith fuel (members.text ++ rest) = .ok rest
  | .last before name behind ahead value after, fuel, rest, hfuel => by
    simp only [Members.text, List.length_append, List.length_cons, List.length_nil] at hfuel
    obtain ⟨fuel, rfl⟩ : ∃ n, fuel = n + 2 := ⟨fuel - 2, by omega⟩
    have hskip := value.skipValueWith_text (fuel + 1) (by omega)
      (delimited_gap after (delimited_cons 0x7D (by decide) rest))
    rw [← skipValueWith_gap ahead] at hskip
    have hmember := skipMembersWith_member before name behind (fuel + 1) hskip
      ((dropSpace_gap after _).trans (dropSpace_cons (by decide) rest))
    simp only [Members.text, List.append_assoc, List.cons_append, List.nil_append]
    rw [hmember, if_neg (by decide), if_pos rfl]
  | .cons before name behind ahead value after members, fuel, rest, hfuel => by
    simp only [Members.text, List.length_append, List.length_cons] at hfuel
    obtain ⟨fuel, rfl⟩ : ∃ n, fuel = n + 2 := ⟨fuel - 2, by omega⟩
    have hskip := value.skipValueWith_text (fuel + 1) (by omega)
      (delimited_gap after (delimited_cons 0x2C (by decide) (members.text ++ rest)))
    rw [← skipValueWith_gap ahead] at hskip
    have hmember := skipMembersWith_member before name behind (fuel + 1) hskip
      ((dropSpace_gap after _).trans (dropSpace_cons (by decide) (members.text ++ rest)))
    simp only [Members.text, List.append_assoc, List.cons_append]
    rw [hmember, if_pos rfl]
    exact members.skipMembersWith_text (fuel + 1) rest (by omega)

end

/-- **A value behind a gap is stepped over to its end.** -/
theorem skipValue_text (gap : Gap) (tree : Tree) {rest : Bytes} (h : Delimited rest) :
    skipValue (gap.text ++ (tree.text ++ rest)) = .ok rest := by
  rw [skipValue, skipValueWith_gap]
  refine tree.skipValueWith_text _ ?_ h
  simp only [List.length_append]
  omega

end ForbiddenHosts.Json
