import ForbiddenHosts.Proofs.Hostname.Merge
import ForbiddenHosts.Proofs.Json.Reading

/-!
# Reading published records back

A list is published as the array of its records.  `recordsText` says outright which text that is:
brackets around `\x7b"hostname":"…"\x7d` once for each hostname, with commas between and nothing
else; `chars_toJson` says that the value of a list is written so.

That text is a JSON text like any other.  `recordsTree` takes it apart: there are no gaps, and every
character is spelled as the writer spells it (`Piece.ofChar`).  Its value lists the hostnames, so it
is read as all texts are (`decode_published`).  Hostnames are arbitrary strings throughout.
-/
namespace ForbiddenHosts.Json

open Utf8

/-! ### The text -/

/-- The compact text of one record. -/
def recordText (hostname : String) : List Char :=
  "\x7b\"hostname\":".toList ++ stringText hostname ++ ['\x7d']

/-- The compact text of an array of records. -/
def recordsText (hostnames : List String) : List Char :=
  '[' :: List.intercalate [','] (hostnames.map recordText) ++ [']']

/-- The bytes that publish hostnames. -/
def published (hostnames : List String) : Bytes := encode (recordsText hostnames)

/-- A record is an object with its one member. -/
theorem recordText_eq (hostname : String) :
    recordText hostname =
      '\x7b' :: (stringText "hostname" ++ ':' :: (stringText hostname ++ ['\x7d'])) := by
  have hname : "\x7b\"hostname\":".toList = '\x7b' :: (stringText "hostname" ++ [':']) := by
    rfl
  unfold recordText
  rw [hname]
  simp only [List.cons_append, List.append_assoc]
  simp only [List.nil_append]

theorem chars_record (hostname : String) :
    (HostnameRecord.mk hostname).toJson.chars = recordText hostname := by
  rw [recordText_eq, HostnameRecord.toJson, chars, memberChars, chars]
  simp only [List.cons_append, List.append_assoc]

theorem intercalate_singleton {α : Type} (separator text : List α) :
    List.intercalate separator [text] = text := by
  simp [List.intercalate]

theorem intercalate_cons {α : Type} (separator text next : List α) (texts : List (List α)) :
    List.intercalate separator (text :: next :: texts) =
      text ++ (separator ++ List.intercalate separator (next :: texts)) := by
  simp [List.intercalate]

theorem itemChars_records (hostname : String) (hostnames : List String) :
    recordText hostname ++ itemChars ((hostnames.map HostnameRecord.mk).map HostnameRecord.toJson) =
      List.intercalate [','] ((hostname :: hostnames).map recordText) ++ [']'] := by
  induction hostnames generalizing hostname with
  | nil => simp [itemChars, List.intercalate]
  | cons next hostnames ih =>
    have h := ih next
    rw [List.map_cons, List.map_cons, itemChars, chars_record, List.cons_append, h]
    simp [List.intercalate]

/-- The value of a list is written as the compact array of its records. -/
theorem chars_toJson (list : HostnameList) : list.toJson.chars = recordsText list.hostnames := by
  rw [HostnameList.toJson, HostnameList.records_toList, recordsText]
  cases list.hostnames with
  | nil => rfl
  | cons hostname hostnames =>
    have h := itemChars_records hostname hostnames
    rw [List.map_cons, List.map_cons, chars, chars_record, List.cons_append, List.cons_append, h]

/-! ### Strings -/

/-- The four digits of a number below 0x10000. -/
def Quad.ofNat (n : Nat) (capital : Bool) : Quad where
  first := ⟨.ofNat 16 (n / 0x1000), capital⟩
  second := ⟨.ofNat 16 (n / 0x100), capital⟩
  third := ⟨.ofNat 16 (n / 0x10), capital⟩
  fourth := ⟨.ofNat 16 n, capital⟩

theorem Quad.value_ofNat {n : Nat} (h : n < 0x10000) (capital : Bool) :
    (ofNat n capital).value = n := by
  simp only [Quad.value, ofNat, Fin.val_ofNat]
  omega

theorem Quad.text_ofControl : ∀ n < 0x20,
    (ofNat n false).text = encode ['0', '0', hexDigit (n / 16), hexDigit (n % 16)] := by
  decide

/-- A character as it is written. -/
def Piece.ofChar (c : Char) : Piece :=
  if hquote : c = '"' then short .quote
  else if hslash : c = '\\' then short .backslash
  else if hcontrol : c.toNat < 0x20 then
    if c.toNat = 0x08 then short .backspace
    else if c.toNat = 0x09 then short .tab
    else if c.toNat = 0x0A then short .lineFeed
    else if c.toNat = 0x0C then short .formFeed
    else if c.toNat = 0x0D then short .carriageReturn
    else number (.ofNat c.toNat false) (by rw [Quad.value_ofNat (by omega)]; omega)
  else plain c ⟨hquote, hslash, by omega⟩

/-- **Every character is written as one piece.** -/
theorem Piece.text_ofChar (c : Char) : (ofChar c).text = encode (escaped c) := by
  unfold ofChar escaped
  split
  · rfl
  split
  · rfl
  split
  · rename_i hcontrol
    split
    · rfl
    split
    · rfl
    split
    · rfl
    split
    · rfl
    split
    · rfl
    · exact congrArg (0x5C :: 0x75 :: ·) (Quad.text_ofControl c.toNat hcontrol)
  · rw [encode_cons, encode_nil, List.append_nil]
    rfl

/-- The piece spells the character. -/
theorem Piece.char_ofChar (c : Char) : (ofChar c).char = c := by
  have hshort : ∀ d : Char, c.toNat = d.toNat → d = c := fun d h => (Char.toNat_inj.mp h).symm
  unfold ofChar
  split
  · exact Eq.symm ‹_›
  split
  · exact Eq.symm ‹_›
  split
  · split
    · exact hshort _ ‹_›
    split
    · exact hshort _ ‹_›
    split
    · exact hshort _ ‹_›
    split
    · exact hshort _ ‹_›
    split
    · exact hshort _ ‹_›
    · rw [Piece.char, Quad.value_ofNat (by omega), Char.ofNat_toNat]
  · rfl

/-- A string as it is written. -/
def Spelling.ofString (s : String) : Spelling := s.toList.map Piece.ofChar

theorem Spelling.text_ofString (s : String) :
    (ofString s).text = encode (s.toList.flatMap escaped) := by
  rw [Spelling.text, ofString, List.flatMap_map, encode, List.flatMap_assoc]
  exact congrArg (List.flatMap · _) (funext Piece.text_ofChar)

theorem Spelling.string_ofString (s : String) : (ofString s).string = s := by
  rw [Spelling.string, ofString, List.map_map]
  simp [Function.comp_def, Piece.char_ofChar]

theorem encode_stringText (s : String) :
    encode (stringText s) = 0x22 :: ((Spelling.ofString s).text ++ [0x22]) := by
  rw [Spelling.text_ofString, stringText, List.cons_append, encode_cons, encode_append]
  rfl

/-! ### Records -/

/-- A record as it is written. -/
def recordTree (hostname : String) : Tree :=
  .object (.last [] (.ofString "hostname") [] [] (.string (.ofString hostname)) [])

theorem text_recordTree (hostname : String) :
    (recordTree hostname).text = encode (recordText hostname) := by
  rw [recordText_eq, encode_cons, encode_append, encode_stringText, encode_cons, encode_append,
    encode_stringText]
  simp only [recordTree, Tree.text, Members.text, List.cons_append, List.append_assoc]
  rfl

theorem hostname?_recordTree (hostname : String) :
    hostname? (recordTree hostname).value = some hostname := by
  have hvalue : (recordTree hostname).value = .object [("hostname", .string hostname)] := by
    rw [recordTree, Tree.value, Members.values, Tree.value, Spelling.string_ofString,
      Spelling.string_ofString]
  rw [hvalue]
  rfl

/-! ### Arrays -/

/-- Records as they are written between the brackets of an array. -/
def recordItems (hostname : String) : List String → Items
  | [] => .last [] (recordTree hostname) []
  | next :: hostnames => .cons [] (recordTree hostname) [] (recordItems next hostnames)

/-- A list of records as it is written. -/
def recordsTree : List String → Tree
  | [] => .emptyArray []
  | hostname :: hostnames => .array (recordItems hostname hostnames)

theorem text_recordItems (hostname : String) (hostnames : List String) :
    (recordItems hostname hostnames).text =
      encode (List.intercalate [','] ((hostname :: hostnames).map recordText) ++ [']']) := by
  induction hostnames generalizing hostname with
  | nil =>
    rw [List.map_singleton, intercalate_singleton, encode_append, ← text_recordTree]
    rfl
  | cons next hostnames ih =>
    have h := ih next
    rw [List.map_cons] at h
    rw [recordItems, Items.text, h, text_recordTree, List.map_cons, List.map_cons,
      intercalate_cons, List.append_assoc, List.append_assoc, encode_append (recordText hostname),
      encode_append [',']]
    rfl

/-- **What is published is the text of a tree.** -/
theorem text_recordsTree (hostnames : List String) :
    (recordsTree hostnames).text = published hostnames := by
  cases hostnames with
  | nil => rfl
  | cons hostname hostnames =>
    rw [recordsTree, Tree.text, text_recordItems, published, recordsText, List.cons_append,
      encode_cons]
    rfl

theorem mapM_recordItems (hostname : String) (hostnames : List String) :
    (recordItems hostname hostnames).values.mapM hostname? = some (hostname :: hostnames) := by
  induction hostnames generalizing hostname with
  | nil => simp [recordItems, Items.values, hostname?_recordTree]
  | cons next hostnames ih =>
    simp [recordItems, Items.values, hostname?_recordTree, ih next]

theorem hostnames?_recordsTree (hostnames : List String) :
    hostnames? (recordsTree hostnames).value = some hostnames := by
  cases hostnames with
  | nil => rfl
  | cons hostname hostnames => exact mapM_recordItems hostname hostnames

/-- **What is published can be read back**: the records, all of them, in their order. -/
theorem decode_published (hostnames : List String) :
    decode readRecords (published hostnames) = .ok (hostnames.map HostnameRecord.mk) := by
  have htext : published hostnames = Gap.text [] ++ ((recordsTree hostnames).text ++ Gap.text []) :=
    (text_recordsTree hostnames).symm.trans (List.append_nil _).symm
  have hdecode := decode_text [] (recordsTree hostnames) [] htext
  rw [hostnames?_recordsTree] at hdecode
  exact hdecode

end ForbiddenHosts.Json
