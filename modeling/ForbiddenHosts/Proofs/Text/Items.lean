import ForbiddenHosts.Proofs.Text.Lines
import Mathlib.Data.List.DropRight

/-!
# Items of separated texts

A separated text is read piece by piece, and a piece by trimming.  This module says what either step
does, in both directions.

Trimming finds what stands between blanks: a text is its trimmed part with blanks around it
(`exists_padding`), and whatever blanks are put around a trimmed text, trimming takes them off again
(`trim_padded`).

An **item** of a separated text is a text that is not empty, has no blank at its ends and does not
hold the separator (`IsItem`).  Reading yields nothing but items (`isItem_of_mem_items`), and it
goes separator by separator: the items of two texts with a separator between them are those of the
one and then those of the other (`items_append_separator`).
-/
namespace ForbiddenHosts.Text

/-! ### Trimming -/

/-- All characters of the text are blank. -/
def Blank (text : List Char) : Prop := ∀ c ∈ text, isBlank c = true

variable {before after text : List Char}

theorem Blank.append (hb : Blank before) (ha : Blank after) : Blank (before ++ after) := by
  intro c hc
  rcases List.mem_append.mp hc with hc | hc
  · exact hb c hc
  · exact ha c hc

theorem dropEndWhile_eq_rdropWhile (p : Char → Bool) (text : List Char) :
    dropEndWhile p text = text.rdropWhile p := rfl

theorem dropEndWhile_append_of_pos {p : Char → Bool} (h : ∀ c ∈ after, p c = true) :
    dropEndWhile p (before ++ after) = dropEndWhile p before := by
  have hreverse : ∀ c ∈ after.reverse, p c = true := fun c hc => h c (List.mem_reverse.mp hc)
  rw [dropEndWhile, List.reverse_append, List.dropWhile_append_of_pos hreverse]
  rfl

/-- What is dropped at the end of a text stands behind its last character that stays. -/
theorem dropEndWhile_append_of_getLast? {p : Char → Bool} {c : Char}
    (h : before.getLast? = some c) (hc : p c = false) (after : List Char) :
    dropEndWhile p (before ++ after) = before ++ dropEndWhile p after := by
  obtain ⟨front, rfl⟩ := List.getLast?_eq_some_iff.mp h
  have hstays : (c :: front.reverse).dropWhile p = c :: front.reverse :=
    List.dropWhile_cons_of_neg (by simp [hc])
  have hreverse : (front ++ [c] ++ after).reverse = after.reverse ++ c :: front.reverse := by simp
  rw [dropEndWhile, dropEndWhile, hreverse, List.dropWhile_append, hstays]
  split
  · rename_i hempty
    rw [List.isEmpty_iff.mp hempty]
    simp
  · simp

theorem dropEndWhile_eq_self {p : Char → Bool}
    (h : ∀ c, text.getLast? = some c → p c = false) : dropEndWhile p text = text := by
  refine List.rdropWhile_eq_self_iff.mpr ?_
  intro hne
  rw [h _ (List.getLast?_eq_some_getLast hne)]
  exact Bool.false_ne_true

theorem dropWhile_eq_self {p : Char → Bool}
    (h : ∀ c, text.head? = some c → p c = false) : text.dropWhile p = text := by
  cases text with
  | nil => rfl
  | cons c text => exact List.dropWhile_cons_of_neg (by simp [h c rfl])

theorem trim_eq_self (h : Trimmed text) : trim text = text := by
  rw [trim, dropWhile_eq_self h.1, dropEndWhile_eq_self h.2]

/-- The trimmed part of a text is what stands in front of the blanks at its end. -/
theorem trim_append_blank (h : Blank after) : trim (before ++ after) = trim before := by
  rw [trim, trim, List.dropWhile_append]
  split
  · rename_i hempty
    -- nothing but blanks: both sides are empty
    have hafter : after.dropWhile isBlank = [] := List.dropWhile_eq_nil_iff.mpr h
    rw [hafter, List.isEmpty_iff.mp hempty]
  · exact dropEndWhile_append_of_pos h

theorem trim_blank_append (h : Blank before) : trim (before ++ after) = trim after := by
  rw [trim, List.dropWhile_append_of_pos h, trim]

/-- **Blanks around a trimmed text are taken off.** -/
theorem trim_padded {item : List Char} (hb : Blank before) (ha : Blank after) (h : Trimmed item) :
    trim (before ++ item ++ after) = item := by
  rw [trim_append_blank ha, trim_blank_append hb, trim_eq_self h]

theorem trim_of_blank (h : Blank text) : trim text = [] := by
  have hpadded : trim ([] ++ text) = trim [] := trim_append_blank h
  rwa [List.nil_append, trim_nil] at hpadded

/-- **A text is its trimmed part with blanks around it.** -/
theorem exists_padding (text : List Char) :
    ∃ before after, Blank before ∧ Blank after ∧ text = before ++ trim text ++ after := by
  refine ⟨text.takeWhile isBlank, (text.dropWhile isBlank).rtakeWhile isBlank, ?_, ?_, ?_⟩
  · intro c hc
    exact List.mem_takeWhile_imp hc
  · intro c hc
    exact List.mem_rtakeWhile_imp hc
  · rw [trim, dropEndWhile_eq_rdropWhile, List.append_assoc, List.rdropWhile_append_rtakeWhile,
      List.takeWhile_append_dropWhile]

theorem trimmed_trim (text : List Char) : Trimmed (trim text) := by
  constructor
  · intro c hc
    -- the first character that stays is the first one that is not blank
    have hprefix : trim text <+: text.dropWhile isBlank := List.rdropWhile_prefix isBlank _
    have hhead : (text.dropWhile isBlank).head? = some c := by
      obtain ⟨rest, hrest⟩ := hprefix
      rw [← hrest, List.head?_append, hc, Option.some_or]
    have hnot := List.head?_dropWhile_not isBlank text
    rwa [hhead] at hnot
  · intro c hc
    have hne : trim text ≠ [] := by
      intro hnil
      rw [hnil] at hc
      cases hc
    have hlast := List.rdropWhile_last_not isBlank (text.dropWhile isBlank) hne
    rw [List.getLast?_eq_some_getLast hne] at hc
    cases hc
    exact Bool.eq_false_iff.mpr hlast

/-- `inner` is what stands between the blanks at either end of a text. -/
structure TrimsTo (text inner : List Char) : Prop where
  trimmed : Trimmed inner
  padded : ∃ before after, Blank before ∧ Blank after ∧ text = before ++ inner ++ after

/-- **Trimming finds what stands between the blanks**, and there is nothing else to find. -/
theorem trimsTo_iff {inner : List Char} : TrimsTo text inner ↔ trim text = inner := by
  constructor
  · rintro ⟨htrimmed, before, after, hbefore, hafter, rfl⟩
    exact trim_padded hbefore hafter htrimmed
  · rintro rfl
    exact ⟨trimmed_trim text, exists_padding text⟩

theorem mem_of_mem_trim {c : Char} (h : c ∈ trim text) : c ∈ text :=
  (List.dropWhile_sublist isBlank).subset ((List.rdropWhile_prefix isBlank _).subset h)

/-! ### Items -/

variable {separator : Char} {item piece front back : List Char}

/-- A text that can be an item between separators: it is not empty, has no blank at its ends, and
does not hold the separator. -/
structure IsItem (separator : Char) (item : List Char) : Prop where
  ne_nil : item ≠ []
  trimmed : Trimmed item
  no_separator : separator ∉ item

/-- The items of a text are the trimmed texts between separators that are not empty. -/
theorem items_eq_splitOn (separator : Char) (text : List Char) :
    items separator text =
      ((text.splitOn separator).map trim).filter (fun item => !item.isEmpty) := by
  rw [items, pieces_eq_splitOn]

/-- **A separator lets neither side see the other.** -/
theorem items_append_separator (separator : Char) (front back : List Char) :
    items separator (front ++ separator :: back) =
      items separator front ++ items separator back := by
  rw [items_eq_splitOn, items_eq_splitOn, items_eq_splitOn, List.splitOn_append_cons_self,
    List.map_append, List.filter_append]

theorem items_of_not_mem (h : separator ∉ piece) :
    items separator piece = [trim piece].filter (fun item => !item.isEmpty) := by
  rw [items_eq_splitOn, List.splitOn_eq_singleton h, List.map_singleton]

theorem items_blank (hs : separator ∉ piece) (h : Blank piece) : items separator piece = [] := by
  rw [items_of_not_mem hs, trim_of_blank h]
  rfl

/-- An item with blanks around it is read as that item. -/
theorem items_padded (hb : Blank before) (hbs : separator ∉ before) (ha : Blank after)
    (has : separator ∉ after) (h : IsItem separator item) :
    items separator (before ++ item ++ after) = [item] := by
  have hno : separator ∉ before ++ item ++ after := by
    simp [hbs, has, h.no_separator]
  rw [items_of_not_mem hno, trim_padded hb ha h.trimmed]
  refine List.filter_cons_of_pos ?_
  simpa using h.ne_nil

/-- The characters of a piece are characters of the text other than the separator. -/
theorem of_mem_of_mem_splitOn {c : Char} (h : piece ∈ text.splitOn separator) (hc : c ∈ piece) :
    c ∈ text ∧ c ≠ separator := by
  induction text generalizing piece with
  | nil =>
    rw [List.splitOn_nil, List.mem_singleton] at h
    rw [h] at hc
    cases hc
  | cons d text ih =>
    rw [List.splitOn_cons_eq_if_modifyHead] at h
    by_cases hd : d = separator
    · rw [if_pos (by simpa using hd)] at h
      rcases List.mem_cons.mp h with rfl | h
      · cases hc
      · exact ⟨List.mem_cons_of_mem d (ih h hc).1, (ih h hc).2⟩
    · rw [if_neg (by simpa using hd)] at h
      cases hsplit : text.splitOn separator with
      | nil =>
        rw [hsplit] at h
        cases h
      | cons first others =>
        rw [hsplit, List.modifyHead_cons] at h
        have hfirst : ∀ {piece : List Char}, piece ∈ first :: others → c ∈ piece →
            c ∈ d :: text ∧ c ≠ separator := by
          intro piece hpiece hc
          obtain ⟨hmem, hne⟩ := ih (hsplit ▸ hpiece) hc
          exact ⟨List.mem_cons_of_mem d hmem, hne⟩
        rcases List.mem_cons.mp h with rfl | h
        · rcases List.mem_cons.mp hc with rfl | hc
          · exact ⟨List.mem_cons_self, hd⟩
          · exact hfirst List.mem_cons_self hc
        · exact hfirst (List.mem_cons_of_mem first h) hc

theorem not_mem_of_mem_splitOn (h : piece ∈ text.splitOn separator) : separator ∉ piece :=
  fun hmem => (of_mem_of_mem_splitOn h hmem).2 rfl

/-- **Nothing but items is read.** -/
theorem isItem_of_mem_items (h : item ∈ items separator text) : IsItem separator item := by
  rw [items_eq_splitOn] at h
  obtain ⟨hmem, hne⟩ := List.mem_filter.mp h
  obtain ⟨piece, hpiece, rfl⟩ := List.mem_map.mp hmem
  refine ⟨by simpa using hne, trimmed_trim piece, ?_⟩
  intro hs
  exact not_mem_of_mem_splitOn hpiece (mem_of_mem_trim hs)

/-! ### Lines -/

/-- The lines of a text are its items between line feeds. -/
theorem trimmedLines_eq_items (text : List Char) :
    trimmedLines text = (items '\n' text).map String.ofList := by
  have hlines := lines_eq (String.ofList text)
  rw [String.toList_ofList] at hlines
  rw [← hlines, lines, String.toList_ofList]

theorem trimmedLines_lineFeed (front back : List Char) :
    trimmedLines (front ++ '\n' :: back) = trimmedLines front ++ trimmedLines back := by
  rw [trimmedLines_eq_items, trimmedLines_eq_items, trimmedLines_eq_items,
    items_append_separator, List.map_append]

theorem trimmedLines_of_not_mem {line : List Char} (h : '\n' ∉ line) :
    trimmedLines line =
      ([trim line].filter (fun item => !item.isEmpty)).map String.ofList := by
  rw [trimmedLines_eq_items, items_of_not_mem h]

end ForbiddenHosts.Text
