import ForbiddenHosts.Text.Utf8

/-!
# Reading UTF-8 back

The automaton of `Utf8` accumulates what it reads in an array.  `Decoder.read` is the same reading
as a list, from any state on, and both `decode` and `fault?` are said by it: `decode` replaces its
ill-formed parts, and `fault?` is `none` exactly when it has none (`faultFrom_eq_none_iff`).

A character's bytes, read between two characters, give back that character and leave the automaton
between characters again, whatever follows (`read_encodeChar`).  The proof goes through the four
lengths; the ranges after `E0`, `ED`, `F0` and `F4` admit the second byte because the number is
large enough for its length, below the surrogates or above them, and below `110000`.  So a text is
read back from its bytes unchanged (`decode_encode`), and its bytes hold no fault.
-/
namespace ForbiddenHosts.Utf8

namespace Decoder

/-- What bytes come to, read from a state on: characters and ill-formed parts (`none`). -/
def read : Decoder → Bytes → List (Option Char)
  | state, [] => state.finish
  | state, byte :: rest => (state.step byte).2 ++ (state.step byte).1.read rest

theorem toList_run (state : Decoder) (done : Array (Option Char)) (bytes : Bytes) :
    (state.run done bytes).toList = done.toList ++ state.read bytes := by
  induction bytes generalizing state done with
  | nil => simp [run, read]
  | cons byte rest ih => rw [run, ih, read, Array.toList_appendList, List.append_assoc]

/-- There is no fault exactly when nothing ill-formed is read. -/
theorem faultFrom_eq_none_iff (state : Decoder) (opened offset : Nat) (bytes : Bytes) :
    state.faultFrom opened offset bytes = none ↔ none ∉ state.read bytes := by
  induction bytes generalizing state opened offset with
  | nil => cases state <;> simp [faultFrom, read, finish]
  | cons byte rest ih =>
    rw [faultFrom, read, List.mem_append, not_or]
    split
    · rename_i hstep
      simp [hstep]
    · rename_i hstep
      rw [ih]
      exact ⟨fun h => ⟨hstep, h⟩, fun h => h.2⟩

/-! ### Single bytes -/

variable {byte : UInt8}

theorem lead_ascii (h : byte.toNat < 0x80) :
    lead byte = (between, [some (Char.ofNat byte.toNat)]) := by
  simp only [lead]
  rw [if_pos h]

theorem lead_two (h : 0xC2 ≤ byte.toNat) (h' : byte.toNat < 0xE0) :
    lead byte = (inside 0x80 0xBF 0 (byte.toNat - 0xC0), []) := by
  simp only [lead]
  rw [if_neg (by omega), if_neg (by omega), if_pos h']

theorem lead_three (h : 0xE0 ≤ byte.toNat) (h' : byte.toNat < 0xF0) :
    ∃ low high, lead byte = (inside low high 1 (byte.toNat - 0xE0), []) ∧
      (low = if byte.toNat = 0xE0 then 0xA0 else 0x80) ∧
      (high = if byte.toNat = 0xED then 0x9F else 0xBF) := by
  simp only [lead]
  rw [if_neg (by omega), if_neg (by omega), if_neg (by omega)]
  by_cases h0 : byte.toNat = 0xE0
  · exact ⟨0xA0, 0xBF, by rw [if_pos h0, h0], by rw [if_pos h0], by rw [if_neg (by omega)]⟩
  · by_cases hd : byte.toNat = 0xED
    · exact ⟨0x80, 0x9F, by rw [if_neg h0, if_pos hd, hd], by rw [if_neg h0], by rw [if_pos hd]⟩
    · exact ⟨0x80, 0xBF, by rw [if_neg h0, if_neg hd, if_pos h'], by rw [if_neg h0],
        by rw [if_neg hd]⟩

theorem lead_four (h : 0xF0 ≤ byte.toNat) (h' : byte.toNat ≤ 0xF4) :
    ∃ low high, lead byte = (inside low high 2 (byte.toNat - 0xF0), []) ∧
      (low = if byte.toNat = 0xF0 then 0x90 else 0x80) ∧
      (high = if byte.toNat = 0xF4 then 0x8F else 0xBF) := by
  simp only [lead]
  rw [if_neg (by omega), if_neg (by omega), if_neg (by omega), if_neg (by omega),
    if_neg (by omega), if_neg (by omega)]
  by_cases h0 : byte.toNat = 0xF0
  · exact ⟨0x90, 0xBF, by rw [if_pos h0, h0], by rw [if_pos h0], by rw [if_neg (by omega)]⟩
  · by_cases h4 : byte.toNat = 0xF4
    · exact ⟨0x80, 0x8F, by rw [if_neg h0, if_neg (by omega), if_pos h4, h4], by rw [if_neg h0],
        by rw [if_pos h4]⟩
    · exact ⟨0x80, 0xBF, by rw [if_neg h0, if_pos (by omega)], by rw [if_neg h0],
        by rw [if_neg h4]⟩

variable {low high bits : Nat}

theorem step_last (h : low ≤ byte.toNat ∧ byte.toNat ≤ high) :
    (inside low high 0 bits).step byte =
      (between, [some (Char.ofNat (bits * 64 + byte.toNat % 64))]) := by
  rw [step, if_pos h]

theorem step_more {more : Nat} (h : low ≤ byte.toNat ∧ byte.toNat ≤ high) :
    (inside low high (more + 1) bits).step byte =
      (inside 0x80 0xBF more (bits * 64 + byte.toNat % 64), []) := by
  rw [step, if_pos h]

/-! ### Characters -/

theorem toNat_ofNat {n : Nat} (h : n < 256) : (UInt8.ofNat n).toNat = n := by
  rw [UInt8.toNat_ofNat']
  exact Nat.mod_eq_of_lt h

theorem ofNat_eq {c : Char} {n : Nat} (h : n = c.toNat) : Char.ofNat n = c := by
  rw [h, Char.ofNat_toNat]

/-- A character is no surrogate and not beyond the last code point. -/
theorem toNat_valid (c : Char) : c.toNat < 0xD800 ∨ 0xDFFF < c.toNat ∧ c.toNat < 0x110000 := by
  have h := c.valid
  rcases h with h | h
  · exact Or.inl h
  · exact Or.inr h

/-- **The bytes of a character are read as that character**, whatever follows. -/
theorem read_encodeChar (c : Char) (rest : Bytes) :
    between.read (String.utf8EncodeChar c ++ rest) = some c :: between.read rest := by
  have hvalid := toNat_valid c
  have hval : c.val.toNat = c.toNat := rfl
  simp only [String.utf8EncodeChar, hval]
  generalize hv : c.toNat = v at *
  by_cases h1 : v ≤ 0x7F
  · have e : (UInt8.ofNat v).toNat = v := toNat_ofNat (by omega)
    rw [if_pos h1, List.singleton_append, read, step, lead_ascii (by omega), e,
      ofNat_eq hv.symm]
    rfl
  rw [if_neg h1]
  by_cases h2 : v ≤ 0x7FF
  · have e1 : (UInt8.ofNat (v / 64 % 32 + 0xC0)).toNat = v / 64 + 0xC0 := by
      rw [toNat_ofNat (by omega)]
      omega
    have e2 : (UInt8.ofNat (v % 64 + 0x80)).toNat = v % 64 + 0x80 := toNat_ofNat (by omega)
    rw [if_pos h2, List.cons_append, List.singleton_append, read, step,
      lead_two (by omega) (by omega), read, step_last (by omega), e1, e2,
      ofNat_eq (c := c) (by omega)]
    rfl
  rw [if_neg h2]
  by_cases h3 : v ≤ 0xFFFF
  · have e1 : (UInt8.ofNat (v / 4096 % 16 + 0xE0)).toNat = v / 4096 + 0xE0 := by
      rw [toNat_ofNat (by omega)]
      omega
    have e2 : (UInt8.ofNat (v / 64 % 64 + 0x80)).toNat = v / 64 % 64 + 0x80 :=
      toNat_ofNat (by omega)
    have e3 : (UInt8.ofNat (v % 64 + 0x80)).toNat = v % 64 + 0x80 := toNat_ofNat (by omega)
    obtain ⟨low, high, hlead, hlow, hhigh⟩ :=
      @lead_three (UInt8.ofNat (v / 4096 % 16 + 0xE0)) (by omega) (by omega)
    -- the second byte lies in the narrow ranges: `v` is at least `800` and no surrogate
    have hsecond : low ≤ v / 64 % 64 + 0x80 ∧ v / 64 % 64 + 0x80 ≤ high := by
      rw [hlow, hhigh, e1]
      split <;> split <;> omega
    rw [if_pos h3, List.cons_append, List.cons_append, List.singleton_append, read, step, hlead,
      read, step_more (by rw [e2]; exact hsecond), read, step_last (by omega), e1, e2, e3,
      ofNat_eq (c := c) (by omega)]
    rfl
  rw [if_neg h3]
  have e1 : (UInt8.ofNat (v / 262144 % 8 + 0xF0)).toNat = v / 262144 + 0xF0 := by
    rw [toNat_ofNat (by omega)]
    omega
  have e2 : (UInt8.ofNat (v / 4096 % 64 + 0x80)).toNat = v / 4096 % 64 + 0x80 :=
    toNat_ofNat (by omega)
  have e3 : (UInt8.ofNat (v / 64 % 64 + 0x80)).toNat = v / 64 % 64 + 0x80 :=
    toNat_ofNat (by omega)
  have e4 : (UInt8.ofNat (v % 64 + 0x80)).toNat = v % 64 + 0x80 := toNat_ofNat (by omega)
  obtain ⟨low, high, hlead, hlow, hhigh⟩ :=
    @lead_four (UInt8.ofNat (v / 262144 % 8 + 0xF0)) (by omega) (by omega)
  -- here the narrow ranges say that `v` is at least `10000` and below `110000`
  have hsecond : low ≤ v / 4096 % 64 + 0x80 ∧ v / 4096 % 64 + 0x80 ≤ high := by
    rw [hlow, hhigh, e1]
    split <;> split <;> omega
  rw [List.cons_append, List.cons_append, List.cons_append, List.singleton_append, read, step,
    hlead, read, step_more (by rw [e2]; exact hsecond), read, step_more (by omega), read,
    step_last (by omega), e1, e2, e3, e4, ofNat_eq (c := c) (by omega)]
  rfl

/-- The bytes of a text are read as its characters, whatever follows. -/
theorem read_encode_append (text : List Char) (rest : Bytes) :
    between.read (encode text ++ rest) = text.map some ++ between.read rest := by
  induction text with
  | nil => rfl
  | cons c text ih =>
    rw [encode_cons, List.append_assoc, read_encodeChar, ih]
    rfl

theorem read_encode (text : List Char) : between.read (encode text) = text.map some := by
  have h := read_encode_append text []
  rw [List.append_nil] at h
  rw [h]
  exact List.append_nil _

end Decoder

open Decoder

theorem decode_eq_read (bytes : Bytes) :
    decode bytes = (between.read bytes).map (·.getD replacement) := by
  rw [decode, toList_run]
  rfl

/-- **A text is read back from its bytes unchanged.** -/
@[simp] theorem decode_encode (text : List Char) : decode (encode text) = text := by
  rw [decode_eq_read, read_encode, List.map_map]
  exact List.map_id _

@[simp] theorem decodeString_encode (text : List Char) :
    decodeString (encode text) = String.ofList text := by
  rw [decodeString, decode_encode]

/-- The bytes of a text hold no fault. -/
@[simp] theorem fault?_encode (text : List Char) : fault? (encode text) = none := by
  rw [fault?, faultFrom_eq_none_iff, read_encode]
  simp

end ForbiddenHosts.Utf8
