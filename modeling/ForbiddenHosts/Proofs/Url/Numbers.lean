import ForbiddenHosts.Url.Basic

/-!
# Numbers of URLs

A number that a URL holds, a port, a byte of an IPv4 address or a piece of an IPv6 address, is
written by its digits and read digit by digit.  What was written is read back, and a number that is
read is bounded by the count of its digits.
-/
namespace ForbiddenHosts.Url

variable {base n : Nat} {c : Char} {digits : List Char}

/-! ### Reading in a base -/

theorem hexValue?_digitChar : ∀ d < 16, hexValue? (Nat.digitChar d) = some d := by decide

/-- Reads one more digit of a number. -/
def readDigit? (base n : Nat) (c : Char) : Option Nat :=
  (hexValue? c).bind fun d => if d < base then some (n * base + d) else none

theorem numberIn?_eq (base : Nat) (digits : List Char) :
    numberIn? base digits = digits.foldlM (readDigit? base) 0 := rfl

theorem readDigit?_digitChar {d : Nat} (hbase : base ≤ 16) (hd : d < base) :
    readDigit? base n (Nat.digitChar d) = some (n * base + d) := by
  rw [readDigit?, hexValue?_digitChar d (by omega), Option.bind_some, if_pos hd]

/-- **A number is read back from its digits.** -/
theorem numberIn?_toDigits (hone : 1 < base) (hbase : base ≤ 16) (n : Nat) :
    numberIn? base (Nat.toDigits base n) = some n := by
  induction n using Nat.strongRecOn with
  | _ n ih =>
    by_cases hlt : n < base
    · rw [Nat.toDigits_of_lt_base hlt, numberIn?_eq]
      simp [readDigit?_digitChar hbase hlt]
    · -- the last digit is the remainder, the digits before it are those of the quotient
      have hquotient := ih (n / base) (Nat.div_lt_self (by omega) hone)
      rw [numberIn?_eq] at hquotient
      rw [Nat.toDigits_of_base_le hone (by omega), numberIn?_eq, List.foldlM_append, hquotient]
      have hremainder : n % base < base := Nat.mod_lt n (by omega)
      simp [readDigit?_digitChar hbase hremainder, Nat.div_add_mod']

theorem lt_of_foldlM_readDigit? {start : Nat}
    (h : digits.foldlM (readDigit? base) start = some n) :
    n < (start + 1) * Nat.pow base digits.length := by
  induction digits generalizing start with
  | nil =>
    cases h
    show n < (n + 1) * 1
    omega
  | cons c digits ih =>
    rw [List.foldlM_cons] at h
    obtain ⟨next, hnext, h⟩ := Option.bind_eq_some_iff.mp h
    obtain ⟨d, _, hd⟩ := Option.bind_eq_some_iff.mp hnext
    split at hd
    · rename_i hlt
      cases hd
      have hstep : start * base + d + 1 ≤ (start + 1) * base := by
        rw [Nat.add_mul, Nat.one_mul]
        omega
      have hpower : Nat.pow base (digits.length + 1) = base * Nat.pow base digits.length :=
        Nat.mul_comm _ _
      calc n < (start * base + d + 1) * Nat.pow base digits.length := ih h
        _ ≤ (start + 1) * base * Nat.pow base digits.length := Nat.mul_le_mul_right _ hstep
        _ = (start + 1) * Nat.pow base (digits.length + 1) := by
          rw [hpower, Nat.mul_assoc]
    · cases hd

/-- A number with a few digits is small. -/
theorem lt_of_numberIn? (h : numberIn? base digits = some n) :
    n < Nat.pow base digits.length := by
  have hlt : n < (0 + 1) * Nat.pow base digits.length := lt_of_foldlM_readDigit? h
  rwa [Nat.zero_add, Nat.one_mul] at hlt

/-! ### Digits -/

theorem mem_toDigits (hbase : 1 < base) (h : c ∈ Nat.toDigits base n) :
    ∃ d < base, c = Nat.digitChar d := by
  induction n using Nat.strongRecOn with
  | _ n ih =>
    by_cases hlt : n < base
    · rw [Nat.toDigits_of_lt_base hlt, List.mem_singleton] at h
      exact ⟨n, hlt, h⟩
    · rw [Nat.toDigits_of_base_le hbase (by omega), List.mem_append, List.mem_singleton] at h
      rcases h with h | h
      · exact ih (n / base) (Nat.div_lt_self (by omega) hbase) h
      · exact ⟨n % base, Nat.mod_lt n (by omega), h⟩

/-- What holds of every digit of a base holds of the digits of a number. -/
theorem forall_mem_toDigits {p : Char → Prop} (hbase : 1 < base)
    (h : ∀ d < base, p (Nat.digitChar d)) : ∀ c ∈ Nat.toDigits base n, p c := by
  intro c hc
  obtain ⟨d, hd, rfl⟩ := mem_toDigits hbase hc
  exact h d hd

/-- The port that decimal digits spell. -/
def portOf (digits : List Char) : Nat := digits.foldl (fun n c => n * 10 + (c.toNat - 0x30)) 0

theorem portOf_toDigits (n : Nat) : portOf (Nat.toDigits 10 n) = n := by
  have hstep : (fun (n : Nat) (c : Char) => n * 10 + (c.toNat - 0x30)) =
      fun n c => 10 * n + (c.toNat - '0'.toNat) := by
    funext n c
    rw [Nat.mul_comm]
    rfl
  have hread := Nat.ofDigitChars_toDigits (b := 10) (n := n) (by decide) (by decide)
  rw [portOf, hstep]
  exact hread

theorem isDigit_of_mem_toDigits (n : Nat) : ∀ c ∈ Nat.toDigits 10 n, c.isDigit = true :=
  fun _ hc => Nat.isDigit_of_mem_toDigits (by decide) (by decide) hc

end ForbiddenHosts.Url
