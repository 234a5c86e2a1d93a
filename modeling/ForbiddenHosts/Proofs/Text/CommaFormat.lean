import ForbiddenHosts.Proofs.Text.Items

/-!
# The format of a comma list

A list of texts is written with commas between them.  `Spells` is that format, said without the
reader: between two commas, and outside the first and the last one, an item may have blanks on
either side, and there may as well be nothing but blanks, or nothing at all.

`readsCommaLists_commaList` is the main statement.  Nothing but items is read, a comma lets neither
side see the other, a text that spells items is read as these, and there is no text that does not
spell what is read from it.  The last two together leave one reader only (`commaList_eq_iff`): items
are neither lost nor invented, and they keep their order and their repeats.
-/
namespace ForbiddenHosts.Text

/-! ### The format -/

/-- What stands between two commas, with the items that it adds. -/
inductive Entry : List String → List Char → Prop where
  /-- Blanks, or nothing at all, are no item. -/
  | blank {part : List Char} (blank : Blank part) : Entry [] part
  /-- An item may have blanks on either side. -/
  | item {before after : List Char} {item : String} (isItem : IsItem ',' item.toList)
      (before_blank : Blank before) (after_blank : Blank after) :
      Entry [item] (before ++ item.toList ++ after)

/-- A text spells a list of items. -/
inductive Spells : List String → List Char → Prop where
  /-- There is no comma. -/
  | last {listed : List String} {part : List Char} (entry : Entry listed part) : Spells listed part
  /-- There is a comma, and what follows it spells a list too. -/
  | comma {listed others : List String} {part rest : List Char} (entry : Entry listed part)
      (following : Spells others rest) : Spells (listed ++ others) (part ++ ',' :: rest)

variable {listed : List String} {part text : List Char}

/-! ### Reading what is spelled -/

theorem comma_not_mem_of_blank (h : Blank part) : ',' ∉ part := by
  intro hmem
  have hblank : isBlank ',' = true := h ',' hmem
  exact absurd hblank (by decide)

theorem Entry.items_eq (h : Entry listed part) : (items ',' part).map String.ofList = listed := by
  cases h with
  | blank blank => rw [items_blank (comma_not_mem_of_blank blank) blank, List.map_nil]
  | item isItem before_blank after_blank =>
    rw [items_padded before_blank (comma_not_mem_of_blank before_blank) after_blank
      (comma_not_mem_of_blank after_blank) isItem, List.map_singleton, String.ofList_toList]

/-- **A text that spells items is read as these.** -/
theorem Spells.items_eq (h : Spells listed text) : (items ',' text).map String.ofList = listed := by
  induction h with
  | last entry => exact entry.items_eq
  | comma entry following ih =>
    rw [items_append_separator, List.map_append, entry.items_eq, ih]

/-! ### Every text spells a list -/

/-- Without a comma, a text is blank or one item with blanks around it. -/
theorem entry_items (h : ',' ∉ part) : Entry ((items ',' part).map String.ofList) part := by
  obtain ⟨before, after, hbefore, hafter, hpart⟩ := exists_padding part
  rw [items_of_not_mem h]
  by_cases htrim : trim part = []
  · rw [htrim]
    refine .blank ?_
    rw [hpart, htrim, List.append_nil]
    exact hbefore.append hafter
  · have hkeep : [trim part].filter (fun item => !item.isEmpty) = [trim part] :=
      List.filter_cons_of_pos (by simpa using htrim)
    have hitem : IsItem ',' (String.ofList (trim part)).toList := by
      rw [String.toList_ofList]
      exact ⟨htrim, trimmed_trim part, fun hmem => h (mem_of_mem_trim hmem)⟩
    have hentry := Entry.item hitem hbefore hafter
    rw [String.toList_ofList, ← hpart] at hentry
    rwa [hkeep, List.map_singleton]

/-- **Every text spells what is read from it.** -/
theorem spells_items (text : List Char) : Spells ((items ',' text).map String.ofList) text := by
  -- the induction is on what stands behind the first comma
  induction hlength : text.length using Nat.strongRecOn generalizing text with
  | _ length ih =>
    by_cases hcomma : ',' ∈ text
    · obtain ⟨front, back, rfl, hfront⟩ := List.eq_append_cons_of_mem hcomma
      rw [items_append_separator, List.map_append]
      have hshorter : back.length < length := by
        rw [← hlength, List.length_append, List.length_cons]
        omega
      exact .comma (entry_items hfront) (ih _ hshorter back rfl)
    · exact .last (entry_items hcomma)

/-- **What is read is what is spelled**, and nothing else. -/
theorem commaList_eq_iff (text : String) :
    commaList text = listed ↔ Spells listed text.toList := by
  rw [commaList]
  constructor
  · rintro rfl
    exact spells_items text.toList
  · exact Spells.items_eq

/-! ### What a reader of comma lists owes -/

/-- **A reader of comma lists**, as it has to be for every text. -/
structure ReadsCommaLists (read : String → List String) : Prop where
  /-- Nothing but items is read: none is empty, has a blank at its ends, or holds a comma. -/
  isItem : ∀ text, ∀ item ∈ read text, IsItem ',' item.toList
  /-- A comma lets neither side see the other. -/
  comma : ∀ front back, read (front ++ "," ++ back) = read front ++ read back
  /-- A text that spells items is read as these, in their order and with their repeats. -/
  spelled : ∀ text items, Spells items text.toList → read text = items
  /-- A text spells what is read from it. -/
  spells : ∀ text, Spells (read text) text.toList

/-- **Reading recognises exactly the format of comma lists.** -/
theorem readsCommaLists_commaList : ReadsCommaLists commaList where
  isItem := by
    intro text item hmem
    obtain ⟨chars, hchars, rfl⟩ := List.mem_map.mp hmem
    rw [String.toList_ofList]
    exact isItem_of_mem_items hchars
  comma := by
    intro front back
    have htext : (front ++ "," ++ back).toList = front.toList ++ ',' :: back.toList := by simp
    rw [commaList, htext, items_append_separator, List.map_append]
    rfl
  spelled := fun text _ h => (commaList_eq_iff text).mpr h
  spells := fun text => (commaList_eq_iff text).mp rfl

/-! ### An untidy list -/

/-- A list that starts with a comma and ends in one, with a blank entry, blanks of several kinds
around its items and inside them, and a repeated item. -/
def untidyList : String := ", a\u00A0b\t,,\u3000,c\u2028,\na\u00A0b,"

theorem spells_untidyList : Spells ["a\u00A0b", "c", "a\u00A0b"] untidyList.toList := by
  have hblank (part : List Char) (h : part.all isBlank = true) : Blank part := List.all_eq_true.mp h
  have hitem (item : String) (hne : item.toList ≠ [])
      (hhead : item.toList.head?.all (fun c => !isBlank c) = true)
      (hlast : item.toList.getLast?.all (fun c => !isBlank c) = true)
      (hno : ',' ∉ item.toList) : IsItem ',' item.toList := by
    refine ⟨hne, ⟨fun c hc => ?_, fun c hc => ?_⟩, hno⟩
    · simpa [hc] using hhead
    · simpa [hc] using hlast
  have hnothing : Entry [] [] := .blank (hblank [] rfl)
  have hab : IsItem ',' "a\u00A0b".toList :=
    hitem _ (by decide) (by decide) (by decide) (by decide)
  have hc : IsItem ',' "c".toList := hitem _ (by decide) (by decide) (by decide) (by decide)
  exact .comma hnothing
    (.comma (.item hab (hblank [' '] (by decide)) (hblank ['\t'] (by decide)))
      (.comma hnothing
        (.comma (.blank (hblank ['\u3000'] (by decide)))
          (.comma (.item hc (hblank [] rfl) (hblank ['\u2028'] (by decide)))
            (.comma (.item hab (hblank ['\n'] (by decide)) (hblank [] rfl))
              (.last hnothing))))))

/-- What an untidy list spells is read from it. -/
theorem readsCommaLists_untidyList :
    Spells ["a\u00A0b", "c", "a\u00A0b"] untidyList.toList ∧
      commaList untidyList = ["a\u00A0b", "c", "a\u00A0b"] :=
  ⟨spells_untidyList, readsCommaLists_commaList.spelled _ _ spells_untidyList⟩

end ForbiddenHosts.Text
