import ForbiddenHosts.Proofs.Text.Items
import ForbiddenHosts.Proofs.Text.Utf8
import ForbiddenHosts.Url.Basic
import Mathlib.Data.List.TakeWhile

/-!
# Texts that reading leaves alone

The parts of a normal form hold visible ASCII characters only, and none of the delimiters that would
cut them: such a text is `Free` of these marks.  Neither stripping, nor dropping line breaks, nor
encoding or decoding changes it, and a cut at one of the marks goes past it.

What encoding produces is free of every mark in its encode set.
-/
namespace ForbiddenHosts.Url

variable {marks marks' text front back : List Char} {mark c : Char}

/-! ### Free texts -/

/-- A text of visible ASCII characters other than the marks. -/
def Free (marks text : List Char) : Prop :=
  ∀ c ∈ text, (0x20 < c.toNat ∧ c.toNat < 0x7F) ∧ c ∉ marks

theorem free_nil (marks : List Char) : Free marks [] := nofun

theorem free_of_all
    (h : text.all (fun c => decide ((0x20 < c.toNat ∧ c.toNat < 0x7F) ∧ c ∉ marks)) = true) :
    Free marks text := fun c hc => of_decide_eq_true (List.all_eq_true.mp h c hc)

theorem Free.append (hf : Free marks front) (hb : Free marks back) :
    Free marks (front ++ back) := by
  intro c hc
  rcases List.mem_append.mp hc with hc | hc
  · exact hf c hc
  · exact hb c hc

theorem Free.cons (hc : (0x20 < c.toNat ∧ c.toNat < 0x7F) ∧ c ∉ marks) (h : Free marks text) :
    Free marks (c :: text) := List.forall_mem_cons.mpr ⟨hc, h⟩

theorem Free.mono (h : Free marks text) (hsub : marks' ⊆ marks) : Free marks' text :=
  fun c hc => ⟨(h c hc).1, fun hmark => (h c hc).2 (hsub hmark)⟩

theorem Free.not_mem (h : Free marks text) (hmark : mark ∈ marks) : mark ∉ text :=
  fun hmem => (h mark hmem).2 hmark

theorem visible_of_not_control (h : isControl c = false) (hspace : c ≠ ' ') :
    0x20 < c.toNat ∧ c.toNat < 0x7F := by
  simp only [isControl, Bool.or_eq_false_iff, decide_eq_false_iff_not] at h
  have hne : c.toNat ≠ ' '.toNat := fun heq => hspace (Char.toNat_inj.mp heq)
  have hvalue : ' '.toNat = 0x20 := rfl
  omega

/-- A break is a control character. -/
theorem isBreak_of_visible (h : 0x20 < c.toNat ∧ c.toNat < 0x7F) : isBreak c = false := by
  have hne : ∀ d : Char, d.toNat ≤ 0x20 → c ≠ d := by
    rintro d hd rfl
    omega
  simp [isBreak, hne '\t' (by decide), hne '\n' (by decide), hne '\r' (by decide)]

theorem Free.dropBreaks_eq (h : Free marks text) : dropBreaks text = text := by
  refine List.filter_eq_self.mpr ?_
  intro c hc
  rw [isBreak_of_visible (h c hc).1]
  rfl

theorem not_le_space (h : 0x20 < c.toNat ∧ c.toNat < 0x7F) : decide (c ≤ ' ') = false := by
  refine decide_eq_false ?_
  intro hle
  have hnat : c.toNat ≤ ' '.toNat := hle
  have hvalue : ' '.toNat = 0x20 := rfl
  omega

theorem Free.strip_eq (h : Free marks text) : strip text = text := by
  have hkept : ∀ c ∈ text, decide (c ≤ ' ') = false := fun c hc => not_le_space (h c hc).1
  rw [strip, Text.dropWhile_eq_self fun c hc => hkept c (List.mem_of_head? hc),
    Text.dropEndWhile_eq_self fun c hc => hkept c (List.mem_of_getLast? hc)]

/-! ### Cutting -/

theorem takeWhile_append_of_not {p : Char → Bool} (h : ∀ d ∈ front, p d = true)
    (hc : p c = false) : (front ++ c :: back).takeWhile p = front := by
  rw [List.takeWhile_append_of_pos h, List.takeWhile_cons_of_neg (by simp [hc]), List.append_nil]

theorem dropWhile_append_of_not {p : Char → Bool} (h : ∀ d ∈ front, p d = true)
    (hc : p c = false) : (front ++ c :: back).dropWhile p = c :: back := by
  rw [List.dropWhile_append_of_pos h, List.dropWhile_cons_of_neg (by simp [hc])]

theorem ne_of_not_mem (h : mark ∉ text) : ∀ d ∈ text, (d != mark) = true := by
  intro d hd
  rw [bne_iff_ne]
  rintro rfl
  exact h hd

theorem cutAt_of_not_mem (h : mark ∉ text) : cutAt mark text = (text, none) := by
  rw [cutAt, List.dropWhile_eq_nil_iff.mpr (ne_of_not_mem h)]

theorem cutAt_append (h : mark ∉ front) (back : List Char) :
    cutAt mark (front ++ mark :: back) = (front, some back) := by
  have hmark : (mark != mark) = false := by simp
  rw [cutAt, dropWhile_append_of_not (ne_of_not_mem h) hmark,
    takeWhile_append_of_not (ne_of_not_mem h) hmark]

/-! ### Encoded texts -/

/-- The characters that encoding writes. -/
def codeChars : List Char := '%' :: (List.range 16).map hexDigit

theorem mem_codeChars_of_mem_encodeByte {byte : UInt8} (h : c ∈ encodeByte byte) :
    c ∈ codeChars := by
  have hbyte : byte.toNat < 256 := byte.toNat_lt
  have hdigit : ∀ n < 16, hexDigit n ∈ codeChars := by decide
  rw [encodeByte] at h
  rcases List.mem_cons.mp h with rfl | h
  · exact List.mem_cons_self
  · rcases List.mem_cons.mp h with rfl | h
    · exact hdigit _ (by omega)
    · rw [List.mem_singleton.mp h]
      exact hdigit _ (by omega)

/-- A character of an encoded text was left alone, or encoding wrote it. -/
theorem mem_percentEncode {inSet : Char → Bool} (h : c ∈ percentEncode inSet text) :
    (c ∈ text ∧ inSet c = false) ∨ c ∈ codeChars := by
  obtain ⟨d, hd, hc⟩ := List.mem_flatMap.mp h
  by_cases hset : inSet d = true
  · rw [if_pos hset] at hc
    obtain ⟨byte, _, hbyte⟩ := List.mem_flatMap.mp hc
    exact Or.inr (mem_codeChars_of_mem_encodeByte hbyte)
  · rw [if_neg hset, List.mem_singleton] at hc
    rw [hc]
    exact Or.inl ⟨hd, by simpa using hset⟩

/-- A text of which nothing has to be encoded. -/
def Encoded (inSet : Char → Bool) (text : List Char) : Prop := ∀ c ∈ text, inSet c = false

theorem encoded_of_all {inSet : Char → Bool} (h : text.all (!inSet ·) = true) :
    Encoded inSet text := by
  intro c hc
  have hset := List.all_eq_true.mp h c hc
  simpa using hset

theorem encoded_percentEncode {inSet : Char → Bool} (h : Encoded inSet codeChars)
    (text : List Char) : Encoded inSet (percentEncode inSet text) := by
  intro c hc
  rcases mem_percentEncode hc with ⟨_, hset⟩ | hcode
  · exact hset
  · exact h c hcode

theorem Encoded.percentEncode_eq {inSet : Char → Bool} (h : Encoded inSet text) :
    percentEncode inSet text = text := percentEncode_eq_self h

theorem Encoded.free {inSet : Char → Bool} (h : Encoded inSet text)
    (hset : ∀ c, inSet c = false → (isControl c = false ∧ c ≠ ' ') ∧ c ∉ marks) :
    Free marks text := by
  intro c hc
  obtain ⟨⟨hcontrol, hspace⟩, hmarks⟩ := hset c (h c hc)
  exact ⟨visible_of_not_control hcontrol hspace, hmarks⟩

section Sets

variable {special : Bool}

theorem inFragmentSet_codeChars : Encoded inFragmentSet codeChars := encoded_of_all (by decide)

theorem inQuerySet_codeChars : Encoded (inQuerySet special) codeChars := by
  cases special
  · exact encoded_of_all (by decide)
  · exact encoded_of_all (by decide)

theorem inPathSet_codeChars : Encoded inPathSet codeChars := encoded_of_all (by decide)

theorem inUserSet_codeChars : Encoded inUserSet codeChars := encoded_of_all (by decide)

theorem free_fragment (h : Encoded inFragmentSet text) : Free [] text := by
  refine h.free ?_
  intro c hc
  simp only [inFragmentSet, Bool.or_eq_false_iff, beq_eq_false_iff_ne] at hc
  simp [hc]

theorem free_query (h : Encoded (inQuerySet special) text) : Free ['#'] text := by
  refine h.free ?_
  intro c hc
  simp only [inQuerySet, Bool.or_eq_false_iff, beq_eq_false_iff_ne] at hc
  simp [hc]

theorem free_path (h : Encoded inPathSet text) : Free ['?', '#'] text := by
  refine h.free ?_
  intro c hc
  simp only [inPathSet, inFragmentSet, Bool.or_eq_false_iff, beq_eq_false_iff_ne] at hc
  simp [hc]

theorem free_user (h : Encoded inUserSet text) : Free ['/', '\\', '?', '#', '@', ':'] text := by
  refine h.free ?_
  intro c hc
  simp only [inUserSet, inPathSet, inFragmentSet, Bool.or_eq_false_iff, beq_eq_false_iff_ne] at hc
  simp [hc]

end Sets

/-! ### Decoding -/

/-- A text without percent signs is decoded to its own bytes. -/
theorem percentDecode_of_not_mem (h : '%' ∉ text) : percentDecode text = Utf8.encode text := by
  induction text with
  | nil => rw [percentDecode, Utf8.encode_nil]
  | cons c text ih =>
    rw [List.mem_cons, not_or] at h
    rw [percentDecode, ih h.2, Utf8.encode_cons]
    rintro high low rest rfl _
    exact h.1 rfl

end ForbiddenHosts.Url
