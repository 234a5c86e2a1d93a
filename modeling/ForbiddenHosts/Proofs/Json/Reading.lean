import ForbiddenHosts.Json.Typed
import ForbiddenHosts.Proofs.Json.Shapes
import ForbiddenHosts.Proofs.Json.Skipping

/-!
# Reading records off any text

The reader of records never sees a value, only a text.  Still it answers by the value: whatever text
of whatever tree it is given, it finds the hostnames that the tree's value lists and leaves what
follows, or it refuses the text (`Agrees`).

The proofs follow the tree.  A string is read as what it spells, a member as `afterMember` has it,
the members of an object by recursion on them, a record as `hostname?`, the items of an array by
recursion on them, and a whole text as `hostnames?` (`decode_text`).  Between two members or items
the readers stand behind the one and in front of a comma; there they go on as if the second were
the first (`readMembersWith_comma`, `readItemsWith_comma`), so the recursions need no second case.
-/
namespace ForbiddenHosts.Json

/-- A reader finds what is to be found and leaves what follows it, or there is nothing to be found
and it refuses the text. -/
def Agrees {α : Type} (result : Read α) (found : Option α) (rest : Bytes) : Prop :=
  match found with
  | some value => result = .ok (value, rest)
  | none => ∃ fault, result = .error fault

theorem Agrees.cases {α : Type} {result : Read α} {found : Option α} {rest : Bytes}
    (h : Agrees result found rest) :
    (found = none ∧ ∃ fault, result = .error fault) ∨
      ∃ value, found = some value ∧ result = .ok (value, rest) := by
  cases found with
  | none => exact .inl ⟨rfl, h⟩
  | some value => exact .inr ⟨value, rfl, h⟩

theorem Agrees.map {α β : Type} {result : Read α} {found : Option α} {rest : Bytes}
    (h : Agrees result found rest) (f : α → β) :
    Agrees (result.map fun (value, rest) => (f value, rest)) (found.map f) rest := by
  cases found with
  | none =>
    obtain ⟨fault, rfl⟩ := h
    exact ⟨fault, rfl⟩
  | some value =>
    cases h
    rfl

/-- What is found is gone on with from where the reader stands. -/
theorem Agrees.andThen {α β : Type} {result : Read α} {found : Option α} {rest rest' : Bytes}
    {next : α × Bytes → Read β} {next? : α → Option β} (h : Agrees result found rest)
    (hnext : ∀ value, Agrees (next (value, rest)) (next? value) rest') :
    Agrees (result.bind next) (found.bind next?) rest' := by
  cases found with
  | none =>
    obtain ⟨fault, rfl⟩ := h
    exact ⟨fault, rfl⟩
  | some value =>
    cases h
    exact hnext value

/-! ### Values of another kind -/

section Refusing

variable {α β : Type}

theorem bind_fails {result : Except Fault β} {next : β → Read α}
    (h : ∀ value, ∃ fault, next value = .error fault) :
    ∃ fault, result.bind next = .error fault := by
  cases result with
  | error fault => exact ⟨fault, rfl⟩
  | ok value => exact h value

/-- Whatever value of another kind stands there, the text is refused. -/
theorem refuse_fails (wanted : String) (byte : UInt8) (rest : Bytes) :
    ∃ fault, (refuse wanted byte rest : Read α) = .error fault := by
  unfold refuse
  simp only []
  split
  · exact bind_fails fun _ => ⟨_, rfl⟩
  split
  · exact bind_fails fun _ => ⟨_, rfl⟩
  split
  · exact bind_fails fun _ => ⟨_, rfl⟩
  split
  · split <;> exact ⟨_, rfl⟩
  split
  · split <;> exact ⟨_, rfl⟩
  split
  · exact bind_fails fun _ => ⟨_, rfl⟩
  split
  · exact ⟨_, rfl⟩
  split
  · exact ⟨_, rfl⟩
  · exact ⟨_, rfl⟩

end Refusing

/-! ### Strings -/

/-- Only a quote begins a string. -/
theorem readText_fails {byte : UInt8} (hspace : isSpace byte = false) (hquote : byte ≠ 0x22)
    (rest : Bytes) : ∃ fault, readText (byte :: rest) = .error fault := by
  rw [readText, dropSpace_cons hspace]
  simp only []
  rw [if_neg hquote]
  exact refuse_fails _ _ _

theorem readText_dropSpace (text : Bytes) : readText (dropSpace text) = readText text := by
  rw [readText, readText, dropSpace_dropSpace]

theorem readText_gap (gap : Gap) (text : Bytes) : readText (gap.text ++ text) = readText text := by
  rw [readText, readText, dropSpace_gap]

/-- A value is read as a string if it is one. -/
theorem readText_text (tree : Tree) (rest : Bytes) :
    Agrees (readText (tree.text ++ rest)) tree.value.string? rest := by
  cases tree with
  | string spelling =>
    rw [Tree.text, List.cons_append, List.append_assoc, readText, dropSpace_cons (by decide)]
    exact readString_spelling spelling rest
  | boolean value => cases value <;> exact readText_fails (by decide) (by decide) _
  | number numeral =>
    obtain ⟨byte, more, htext, hspace, hquote, _⟩ := numeral.text_start
    rw [Tree.text, htext]
    exact readText_fails hspace hquote _
  | _ => exact readText_fails (by decide) (by decide) _

/-! ### Members -/

theorem readColon_gap (gap : Gap) (rest : Bytes) :
    readColon (gap.text ++ 0x3A :: rest) = .ok rest := by
  rw [readColon, dropSpace_gap, dropSpace_cons (by decide)]
  rfl

theorem readRecordMember_first (behind : Gap) (text : Bytes) :
    readRecordMember none "hostname" (behind.text ++ 0x3A :: text) =
      (readText text).map fun (hostname, rest) => (some hostname, rest) := by
  unfold readRecordMember
  rw [if_pos rfl, readColon_gap]

theorem readRecordMember_second (s : String) (text : Bytes) :
    ∃ fault, readRecordMember (some s) "hostname" text = .error fault := by
  unfold readRecordMember
  exact ⟨_, if_pos rfl⟩

theorem readRecordMember_other {name : String} (h : name ≠ "hostname") (hostname : Option String)
    (behind : Gap) (text : Bytes) :
    readRecordMember hostname name (behind.text ++ 0x3A :: text) =
      (skipValue text).map (hostname, ·) := by
  unfold readRecordMember
  rw [if_neg h, readColon_gap]

/-- **A member does to the hostname what its name and value do**, however it is spelled. -/
theorem readRecordMember_text (hostname : Option String) (name : Spelling) (behind ahead : Gap)
    (value : Tree) {rest : Bytes} (hrest : Delimited rest) :
    Agrees
      (readRecordMember hostname name.string
        (behind.text ++ 0x3A :: (ahead.text ++ (value.text ++ rest))))
      (afterMember hostname (name.string, value.value)) rest := by
  by_cases hname : name.string = "hostname"
  · rw [hname]
    cases hostname with
    | some s => exact readRecordMember_second s _
    | none =>
      rw [readRecordMember_first, readText_gap, afterMember_hostname]
      exact (readText_text value rest).map some
  · rw [readRecordMember_other hname, afterMember_other hname, skipValue_text ahead value hrest]
    rfl

section Members

variable {β : Type} {readMember : β → String → Bytes → Read β} {done : β}

/-- The first member is read by its name. -/
theorem readMembersWith_first (before : Gap) (name : Spelling) (fuel : Nat) (text : Bytes) :
    readMembersWith readMember (fuel + 1) true done
        (before.text ++ 0x22 :: (name.text ++ 0x22 :: text)) =
      (readMember done name.string text).bind fun read =>
        readMembersWith readMember fuel false read.1 read.2 := by
  rw [readMembersWith, dropSpace_gap, dropSpace_cons (by decide)]
  simp only [↓reduceIte]
  rw [if_neg (by decide), readString_spelling]
  dsimp only
  cases readMember done name.string text <;> rfl

/-- Behind a comma a member is read as the first one is. -/
theorem readMembersWith_comma (after : Gap) (members : Members) (fuel : Nat) (rest : Bytes) :
    readMembersWith readMember (fuel + 1) false done
        (after.text ++ 0x2C :: (members.text ++ rest)) =
      readMembersWith readMember (fuel + 1) true done (members.text ++ rest) := by
  obtain ⟨more, hdrop⟩ := members.dropSpace_text rest
  rw [readMembersWith, readMembersWith, dropSpace_gap, dropSpace_cons (by decide), hdrop]
  simp only [↓reduceIte]
  rw [if_neg (by decide), hdrop]
  rfl

/-- The closing brace ends the members. -/
theorem readMembersWith_close (after : Gap) (first : Bool) (fuel : Nat) (rest : Bytes) :
    readMembersWith readMember (fuel + 1) first done (after.text ++ 0x7D :: rest) =
      .ok (done, 0x7D :: rest) := by
  rw [readMembersWith, dropSpace_gap, dropSpace_cons (by decide)]
  rfl

end Members

/-- **The members of an object come to what `afterMember` makes of them one after the other.** -/
theorem Members.readMembersWith_text : (members : Members) → (fuel : Nat) →
    (hostname : Option String) → (rest : Bytes) → members.text.length < fuel →
    Agrees (readMembersWith readRecordMember fuel true hostname (members.text ++ rest))
      (members.values.foldlM afterMember hostname) (0x7D :: rest)
  | .last before name behind ahead value after, fuel, hostname, rest, hfuel => by
    simp only [Members.text, List.length_append, List.length_cons] at hfuel
    obtain ⟨fuel, rfl⟩ : ∃ n, fuel = n + 2 := ⟨fuel - 2, by omega⟩
    have hread := readRecordMember_text hostname name behind ahead value
      (delimited_gap after (delimited_cons 0x7D (by decide) rest))
    simp only [Members.text, List.append_assoc, List.cons_append, List.nil_append]
    rw [readMembersWith_first, Members.values, List.foldlM_cons]
    exact hread.andThen fun found => readMembersWith_close after false fuel rest
  | .cons before name behind ahead value after members, fuel, hostname, rest, hfuel => by
    simp only [Members.text, List.length_append, List.length_cons] at hfuel
    obtain ⟨fuel, rfl⟩ : ∃ n, fuel = n + 2 := ⟨fuel - 2, by omega⟩
    have hread := readRecordMember_text hostname name behind ahead value
      (delimited_gap after (delimited_cons 0x2C (by decide) (members.text ++ rest)))
    simp only [Members.text, List.append_assoc, List.cons_append]
    rw [readMembersWith_first, Members.values, List.foldlM_cons]
    refine hread.andThen fun found => ?_
    dsimp only
    rw [readMembersWith_comma]
    exact members.readMembersWith_text (fuel + 1) found rest (by omega)

/-! ### Records -/

/-- The record that a value stands for, if it stands for one. -/
def record? (value : Value) : Option HostnameRecord := (hostname? value).map HostnameRecord.mk

theorem readRecord_bracket (text : Bytes) : readRecord (0x5B :: text) = readRecordArray text := rfl

theorem readRecord_brace (text : Bytes) : readRecord (0x7B :: text) = readRecordObject text := rfl

/-- Only a brace or a bracket begins a record. -/
theorem readRecord_fails {byte : UInt8} (hspace : isSpace byte = false) (hbrace : byte ≠ 0x7B)
    (hbracket : byte ≠ 0x5B) (rest : Bytes) :
    ∃ fault, readRecord (byte :: rest) = .error fault := by
  rw [readRecord, dropSpace_cons hspace]
  simp only []
  rw [if_neg hbrace, if_neg hbracket]
  exact refuse_fails _ _ _

/-- What the members of an object come to is what the record that is an object comes to. -/
theorem readRecordObject_of_members {text rest : Bytes} {found : Option (Option String)}
    (h : Agrees (readMembers readRecordMember none text) found (0x7D :: rest)) :
    Agrees (readRecordObject text) (found.join.map HostnameRecord.mk) rest := by
  rw [readRecordObject]
  obtain ⟨rfl, fault, hread⟩ | ⟨hostname, rfl, hread⟩ := h.cases
  · rw [hread]
    exact ⟨fault, rfl⟩
  · rw [hread]
    cases hostname with
    | none => exact ⟨_, rfl⟩
    | some s => rfl

/-- A record that is an array has its one string before the closing bracket. -/
theorem readRecordArray_text (items : Items) (rest : Bytes) :
    Agrees (readRecordArray (items.text ++ rest)) (record? (.array items.values)) rest := by
  obtain ⟨byte, more, hdrop, hclose⟩ := items.dropSpace_text rest
  rw [readRecordArray, hdrop]
  simp only []
  rw [if_neg hclose, ← hdrop, readText_dropSpace]
  cases items with
  | last before item after =>
    have hread := readText_text item (after.text ++ 0x5D :: rest)
    simp only [Items.text, List.append_assoc, List.singleton_append]
    rw [readText_gap, record?, Items.values, hostname?]
    obtain ⟨hstring, fault, hread⟩ | ⟨hostname, hstring, hread⟩ := hread.cases
    · rw [hstring, hread]
      exact ⟨fault, rfl⟩
    · rw [hstring, hread]
      simp only []
      rw [dropSpace_gap, dropSpace_cons (by decide)]
      rfl
  | cons before item after items =>
    -- Behind the first item stands a comma: the array is refused, whatever the item is.
    have hread := readText_text item (after.text ++ 0x2C :: (items.text ++ rest))
    have hvalue : hostname? (.array (item.value :: items.values)) = none := by cases items <;> rfl
    simp only [Items.text, List.append_assoc, List.cons_append]
    rw [readText_gap, record?, Items.values, hvalue]
    obtain ⟨_, fault, hread⟩ | ⟨hostname, _, hread⟩ := hread.cases
    · rw [hread]
      exact ⟨fault, rfl⟩
    · rw [hread]
      simp only []
      rw [dropSpace_gap, dropSpace_cons (by decide)]
      simp only []
      rw [if_neg (by decide), if_pos trivial]
      cases dropSpace (items.text ++ rest) <;> exact ⟨_, rfl⟩

/-- **A record is read as the hostname that its value holds.** -/
theorem readRecord_text (tree : Tree) (rest : Bytes) :
    Agrees (readRecord (tree.text ++ rest)) (record? tree.value) rest := by
  cases tree with
  | boolean value => cases value <;> exact readRecord_fails (by decide) (by decide) (by decide) _
  | number numeral =>
    obtain ⟨byte, more, htext, hspace, _, hbracket, hbrace, _⟩ := numeral.text_start
    rw [Tree.text, htext]
    exact readRecord_fails hspace hbrace hbracket _
  | emptyArray gap =>
    rw [Tree.text, List.cons_append, List.append_assoc, readRecord_bracket, readRecordArray,
      dropSpace_gap]
    exact ⟨_, rfl⟩
  | array items => exact readRecordArray_text items rest
  | emptyObject gap =>
    rw [Tree.text, List.cons_append, List.append_assoc, readRecord_brace]
    exact readRecordObject_of_members (readMembersWith_close gap true _ rest)
  | object members =>
    have hmembers := members.readMembersWith_text ((members.text ++ rest).length + 1) none rest
      (by rw [List.length_append]; omega)
    exact readRecordObject_of_members hmembers
  | null | string spelling => exact readRecord_fails (by decide) (by decide) (by decide) _

/-! ### Arrays -/

section Items

variable {α : Type} {readItem : Bytes → Read α} {item? : Value → Option α} {done : Array α}

/-- The first item is read by its reader. -/
theorem readItemsWith_first (before : Gap) (item : Tree) (fuel : Nat) (rest : Bytes) :
    readItemsWith readItem (fuel + 1) true done (before.text ++ (item.text ++ rest)) =
      (readItem (item.text ++ rest)).bind fun read =>
        readItemsWith readItem fuel false (done.push read.1) read.2 := by
  obtain ⟨byte, more, htext, hspace, hclose⟩ := item.text_start
  rw [readItemsWith, dropSpace_gap, htext, List.cons_append, dropSpace_cons hspace]
  simp only []
  rw [if_neg hclose, if_pos trivial]
  cases readItem (byte :: (more ++ rest)) <;> rfl

/-- Behind a comma an item is read as the first one is. -/
theorem readItemsWith_comma (after : Gap) (items : Items) (fuel : Nat) (rest : Bytes) :
    readItemsWith readItem (fuel + 1) false done (after.text ++ 0x2C :: (items.text ++ rest)) =
      readItemsWith readItem (fuel + 1) true done (items.text ++ rest) := by
  obtain ⟨byte, more, hdrop, hclose⟩ := items.dropSpace_text rest
  rw [readItemsWith, readItemsWith, dropSpace_gap, dropSpace_cons (by decide), hdrop]
  simp only []
  rw [if_neg (by decide), if_neg (by decide), if_pos trivial, hdrop, if_neg hclose, if_pos trivial]
  simp only []
  rw [if_neg hclose]

/-- The closing bracket ends the items. -/
theorem readItemsWith_close (after : Gap) (first : Bool) (fuel : Nat) (rest : Bytes) :
    readItemsWith readItem (fuel + 1) first done (after.text ++ 0x5D :: rest) =
      .ok (done, rest) := by
  rw [readItemsWith, dropSpace_gap, dropSpace_cons (by decide)]
  rfl

/-- The items of an array are found if the first is found and then the others. -/
theorem mapM_cons_map (value : Value) (values : List Value) :
    ((value :: values).mapM item?).map (fun found => done ++ found.toArray) =
      (item? value).bind fun item =>
        (values.mapM item?).map fun found => done.push item ++ found.toArray := by
  rw [List.mapM_cons]
  cases item? value with
  | none => rfl
  | some item => cases values.mapM item? <;> simp

/-- **The items of an array are read one after the other**, if each is read as its value has it. -/
theorem Items.readItemsWith_text
    (reads : ∀ (tree : Tree) rest, Agrees (readItem (tree.text ++ rest)) (item? tree.value) rest) :
    (items : Items) → (fuel : Nat) → (done : Array α) → (rest : Bytes) →
    items.text.length < fuel →
    Agrees (readItemsWith readItem fuel true done (items.text ++ rest))
      ((items.values.mapM item?).map fun found => done ++ found.toArray) rest
  | .last before item after, fuel, done, rest, hfuel => by
    simp only [Items.text, List.length_append, List.length_singleton] at hfuel
    obtain ⟨fuel, rfl⟩ : ∃ n, fuel = n + 2 := ⟨fuel - 2, by omega⟩
    simp only [Items.text, List.append_assoc, List.singleton_append]
    rw [readItemsWith_first, Items.values, mapM_cons_map]
    refine (reads item _).andThen fun found => ?_
    dsimp only
    rw [readItemsWith_close]
    simp [Agrees]
  | .cons before item after items, fuel, done, rest, hfuel => by
    simp only [Items.text, List.length_append, List.length_cons] at hfuel
    obtain ⟨fuel, rfl⟩ : ∃ n, fuel = n + 2 := ⟨fuel - 2, by omega⟩
    simp only [Items.text, List.append_assoc, List.cons_append]
    rw [readItemsWith_first, Items.values, mapM_cons_map]
    refine (reads item _).andThen fun found => ?_
    dsimp only
    rw [readItemsWith_comma]
    exact items.readItemsWith_text reads (fuel + 1) (done.push found) rest (by omega)

end Items

theorem mapM_map {α β γ : Type} (f : α → Option β) (g : β → γ) (xs : List α) :
    xs.mapM (fun x => (f x).map g) = (xs.mapM f).map (List.map g) := by
  induction xs with
  | nil => rfl
  | cons x xs ih =>
    rw [List.mapM_cons, List.mapM_cons, ih]
    cases f x <;> cases xs.mapM f <;> rfl

theorem readRecords_bracket (text : Bytes) :
    readRecords (0x5B :: text) =
      (readItems readRecord text).map fun (items, rest) => (items.toList, rest) := rfl

theorem readRecords_gap (gap : Gap) (text : Bytes) :
    readRecords (gap.text ++ text) = readRecords text := by
  rw [readRecords, readRecords, readList, readList, dropSpace_gap]

/-- Only a bracket begins a list of records. -/
theorem readRecords_fails {byte : UInt8} (hspace : isSpace byte = false) (hbracket : byte ≠ 0x5B)
    (rest : Bytes) : ∃ fault, readRecords (byte :: rest) = .error fault := by
  rw [readRecords, readList, dropSpace_cons hspace]
  simp only []
  rw [if_neg hbracket]
  exact refuse_fails _ _ _

/-- **A list of records is read as the hostnames that its value lists.** -/
theorem readRecords_text (tree : Tree) (rest : Bytes) :
    Agrees (readRecords (tree.text ++ rest))
      ((hostnames? tree.value).map (List.map HostnameRecord.mk)) rest := by
  cases tree with
  | boolean value => cases value <;> exact readRecords_fails (by decide) (by decide) _
  | number numeral =>
    obtain ⟨byte, more, htext, hspace, _, hbracket, _⟩ := numeral.text_start
    rw [Tree.text, htext]
    exact readRecords_fails hspace hbracket _
  | emptyArray gap =>
    rw [Tree.text, List.cons_append, List.append_assoc, readRecords_bracket, readItems]
    rw [List.singleton_append, readItemsWith_close]
    rfl
  | array items =>
    have hitems := (items.readItemsWith_text readRecord_text ((items.text ++ rest).length + 1) #[]
      rest (by rw [List.length_append]; omega)).map Array.toList
    have hfound : ((items.values.mapM record?).map fun found => #[] ++ found.toArray).map
        Array.toList = (hostnames? (.array items.values)).map (List.map HostnameRecord.mk) := by
      have hmap : items.values.mapM record? = _ := mapM_map hostname? HostnameRecord.mk items.values
      rw [hmap, hostnames?]
      cases items.values.mapM hostname? <;> simp
    rw [hfound] at hitems
    exact hitems
  | null | string spelling | emptyObject gap | object members =>
    exact readRecords_fails (by decide) (by decide) _

/-! ### Whole texts -/

/-- Of a whole text nothing is left but the gap behind its value. -/
theorem decode_text (before : Gap) (tree : Tree) (after : Gap) {text : Bytes}
    (h : text = before.text ++ (tree.text ++ after.text)) :
    match hostnames? tree.value with
    | some hostnames => decode readRecords text = .ok (hostnames.map HostnameRecord.mk)
    | none => ∃ error, decode readRecords text = .error error := by
  have hread := readRecords_text tree after.text
  rw [← readRecords_gap before, ← h] at hread
  have hend : dropSpace after.text = [] := by
    have hgap := dropSpace_gap after []
    rwa [List.append_nil] at hgap
  rw [decode]
  cases hvalue : hostnames? tree.value with
  | none =>
    rw [hvalue] at hread
    obtain ⟨fault, hfault⟩ := hread
    exact ⟨Error.locate text fault, by rw [hfault]⟩
  | some hostnames =>
    rw [hvalue] at hread
    have hok : readRecords text = .ok (hostnames.map HostnameRecord.mk, after.text) := hread
    simp only [hok, hend]

/-- **A text is decoded as the hostnames that its value lists**, and refused if it lists none. -/
theorem decode_of_denotes {text : Bytes} {value : Value} (h : Denotes text value) :
    match hostnames? value with
    | some hostnames => decode readRecords text = .ok (hostnames.map HostnameRecord.mk)
    | none => ∃ error, decode readRecords text = .error error := by
  obtain ⟨before, tree, after, htext, alike⟩ := h
  rw [← alike.hostnames?_eq]
  exact decode_text before tree after htext

end ForbiddenHosts.Json
