import ForbiddenHosts.Proofs.Text.Utf8
import Mathlib.Tactic.SplitIfs

/-!
# Lossy reading, line by line

Bytes are decoded as a whole, and only then cut into lines.  Nevertheless damage stays on its line:
`decode_lineFeed` says that bytes on both sides of a line feed are decoded as if the other side were
not there.

Two facts about the automaton carry this.  Inside a character it waits for a byte beyond ASCII, so a
line feed continues no sequence; it closes the open one as ill-formed and is then read itself.  And
what a sequence comes to is beyond ASCII, so there is no line feed in the text but where its byte
is.  Both are read off `Multibyte`, which holds of every state that the automaton reaches.
-/
namespace ForbiddenHosts.Utf8

namespace Decoder

/-- Inside a character, the next byte is a continuation byte, and the least number that the sequence
can still come to is beyond ASCII. -/
def Multibyte : Decoder → Prop
  | between => True
  | inside low high more bits =>
    0x80 ≤ low ∧ high ≤ 0xBF ∧ 0x80 ≤ (bits * 64 + (low - 0x80)) * Nat.pow 64 more

variable {state : Decoder} {byte : UInt8}

theorem multibyte_lead (byte : UInt8) : (lead byte).1.Multibyte := by
  have hbyte := byte.toNat_lt
  have hone : Nat.pow 64 0 = 1 := rfl
  have hpower : Nat.pow 64 1 = 64 := rfl
  have hsquare : Nat.pow 64 2 = 4096 := rfl
  simp only [lead]
  -- one case for each class of lead bytes
  split
  · trivial
  split
  · trivial
  split
  · refine ⟨Nat.le_refl _, Nat.le_refl _, ?_⟩
    rw [hone]
    omega
  split
  · exact ⟨by decide, Nat.le_refl _, by decide⟩
  split
  · exact ⟨Nat.le_refl _, by decide, by decide⟩
  split
  · refine ⟨Nat.le_refl _, Nat.le_refl _, ?_⟩
    rw [hpower]
    omega
  split
  · exact ⟨by decide, Nat.le_refl _, by decide⟩
  split
  · refine ⟨Nat.le_refl _, Nat.le_refl _, ?_⟩
    rw [hsquare]
    omega
  split
  · exact ⟨Nat.le_refl _, by decide, by decide⟩
  · trivial

/-- A continuation byte adds no less than the least one that is admitted. -/
theorem le_of_continues {low high more bits : Nat} (h : (inside low high more bits).Multibyte)
    (hbyte : low ≤ byte.toNat ∧ byte.toNat ≤ high) :
    0x80 ≤ (bits * 64 + byte.toNat % 64) * Nat.pow 64 more := by
  obtain ⟨hlow, hhigh, hleast⟩ := h
  have hadds : low - 0x80 ≤ byte.toNat % 64 := by omega
  exact Nat.le_trans hleast (Nat.mul_le_mul_right _ (Nat.add_le_add_left hadds _))

/-- A byte that does not continue a sequence ends it and is read afresh. -/
theorem step_outside {low high more bits : Nat} (h : ¬(low ≤ byte.toNat ∧ byte.toNat ≤ high)) :
    (inside low high more bits).step byte = ((lead byte).1, none :: (lead byte).2) := if_neg h

theorem Multibyte.step (h : state.Multibyte) (byte : UInt8) :
    (state.step byte).1.Multibyte := by
  cases state with
  | between => exact multibyte_lead byte
  | inside low high more bits =>
    by_cases hbyte : low ≤ byte.toNat ∧ byte.toNat ≤ high
    · have hleast := le_of_continues h hbyte
      cases more with
      | zero =>
        rw [step_last hbyte]
        trivial
      | succ more =>
        rw [step_more hbyte]
        refine ⟨Nat.le_refl _, Nat.le_refl _, ?_⟩
        calc 0x80 ≤ (bits * 64 + byte.toNat % 64) * (Nat.pow 64 more * 64) := hleast
          _ = ((bits * 64 + byte.toNat % 64) * 64 + (0x80 - 0x80)) * Nat.pow 64 more := by
            rw [Nat.sub_self, Nat.add_zero, Nat.mul_assoc, Nat.mul_comm 64]
    · rw [step_outside hbyte]
      exact multibyte_lead byte

/-! ### The byte of a line feed -/

/-- **A line feed continues no sequence**: it ends the open one and is read itself. -/
theorem step_lineFeed (h : state.Multibyte) :
    state.step 0x0A = (between, state.finish ++ [some '\n']) := by
  cases state with
  | between => rfl
  | inside low high more bits =>
    have hno : ¬(low ≤ (0x0A : UInt8).toNat ∧ (0x0A : UInt8).toNat ≤ high) := by
      have hten : (0x0A : UInt8).toNat = 10 := rfl
      have hlow := h.1
      omega
    rw [step_outside hno]
    rfl

/-- What is read behind a line feed does not depend on what stands before it. -/
theorem read_lineFeed (h : state.Multibyte) (front back : Bytes) :
    state.read (front ++ 0x0A :: back) = state.read front ++ some '\n' :: between.read back := by
  induction front generalizing state with
  | nil =>
    have hnil : state.read [] = state.finish := by rw [read]
    rw [List.nil_append, hnil, read, step_lineFeed h, List.append_assoc]
    rfl
  | cons byte front ih =>
    rw [List.cons_append, read, ih (h.step byte), read, List.append_assoc]

/-! ### The character of a line feed -/

theorem ofNat_ne_lineFeed {n : Nat} (h : n ≠ 10) : Char.ofNat n ≠ '\n' := by
  intro heq
  by_cases hvalid : n.isValidChar
  · have hchar : Char.ofNat n = Char.ofNatAux n hvalid := dif_pos hvalid
    have htoNat : (Char.ofNatAux n hvalid).toNat = 10 := congrArg Char.toNat (hchar ▸ heq)
    exact h htoNat
  · have hchar : Char.ofNat n = Char.ofNatAux 0 (by decide) := dif_neg hvalid
    exact absurd (hchar.symm.trans heq) (by decide)

theorem lineFeed_not_mem_lead (h : byte ≠ 0x0A) : some '\n' ∉ (lead byte).2 := by
  have hten : byte.toNat ≠ 10 := fun he => h (UInt8.toNat_inj.mp he)
  by_cases hascii : byte.toNat < 0x80
  · rw [lead_ascii hascii, List.mem_singleton, Option.some_inj]
    exact Ne.symm (ofNat_ne_lineFeed hten)
  · simp only [lead, if_neg hascii]
    -- no other lead byte completes a character
    split_ifs <;> simp

/-- No byte but its own completes a line feed. -/
theorem lineFeed_not_mem_step (h : state.Multibyte) (hne : byte ≠ 0x0A) :
    some '\n' ∉ (state.step byte).2 := by
  cases state with
  | between => exact lineFeed_not_mem_lead hne
  | inside low high more bits =>
    by_cases hbyte : low ≤ byte.toNat ∧ byte.toNat ≤ high
    · cases more with
      | zero =>
        have hleast := le_of_continues h hbyte
        have hpower : Nat.pow 64 0 = 1 := rfl
        rw [hpower, Nat.mul_one] at hleast
        rw [step_last hbyte, List.mem_singleton, Option.some_inj]
        exact Ne.symm (ofNat_ne_lineFeed (by omega))
      | succ more =>
        rw [step_more hbyte]
        exact List.not_mem_nil
    · rw [step_outside hbyte, List.mem_cons, not_or]
      exact ⟨nofun, lineFeed_not_mem_lead hne⟩

theorem lineFeed_not_mem_read (h : state.Multibyte) {bytes : Bytes} (hno : 0x0A ∉ bytes) :
    some '\n' ∉ state.read bytes := by
  induction bytes generalizing state with
  | nil => cases state <;> simp [read, finish]
  | cons byte bytes ih =>
    rw [List.mem_cons, not_or] at hno
    rw [read, List.mem_append, not_or]
    exact ⟨lineFeed_not_mem_step h (Ne.symm hno.1), ih (h.step byte) hno.2⟩

end Decoder

open Decoder

/-- **The bytes on either side of a line feed are decoded by themselves.** -/
theorem decode_lineFeed (front back : Bytes) :
    decode (front ++ 0x0A :: back) = decode front ++ '\n' :: decode back := by
  have hbetween : between.Multibyte := trivial
  rw [decode_eq_read, decode_eq_read, decode_eq_read, read_lineFeed hbetween, List.map_append,
    List.map_cons]
  rfl

/-- A text has no line feed but where the bytes have one. -/
theorem lineFeed_not_mem_decode {bytes : Bytes} (h : 0x0A ∉ bytes) : '\n' ∉ decode bytes := by
  intro hmem
  rw [decode_eq_read] at hmem
  obtain ⟨part, hpart, heq⟩ := List.mem_map.mp hmem
  cases part with
  | none => exact absurd heq (by decide)
  | some c =>
    cases heq
    have hstart : between.Multibyte := trivial
    exact lineFeed_not_mem_read hstart h hpart

end ForbiddenHosts.Utf8
