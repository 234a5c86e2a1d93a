import ForbiddenHosts.Proofs.Json.Records
import ForbiddenHosts.Proofs.Sync.Stage

/-!
# The stored list is decoded all or nothing

Whoever reads the stored list writes it back, with more hostnames.  So an element that is not
understood must not be left out: it would be lost.  `DecidedByShape` says that it never is.  What a
text is decoded as depends on the value that it denotes, and on nothing else: not on blanks, the
order of members or the spelling of strings, and not on the other members of a record.  If each
element of an array holds a hostname, all of them are found, in their order, with repeats; if one
does not, whichever it is, there is no list but an error, and a client that asks for the list gets
that error.

This holds of every text that denotes a value (`decidedByShape_of_denotes`).
-/
namespace ForbiddenHosts.ConfigApi

open Http Json

variable {text : Bytes} {value : Value}

/-- **What a text is decoded as is decided by the shape of the value that it denotes.** -/
structure DecidedByShape (text : Bytes) (value : Value) : Prop where
  /-- The text is decoded as the records of these hostnames exactly if the value lists them. -/
  decodes : ∀ hostnames : List String,
    decode readRecords text = .ok (hostnames.map HostnameRecord.mk) ↔ value.Lists hostnames
  /-- Decoding succeeds exactly if the value is an array each element of which holds a hostname. -/
  succeeds : (∃ records, decode readRecords text = .ok records) ↔
    ∃ items, value = .array items ∧ ∀ item ∈ items, ∃ hostname, item.Holds hostname
  /-- One element that holds no hostname fails the whole. -/
  fails : ∀ items, value = .array items → ∀ item ∈ items, (∀ hostname, ¬item.Holds hostname) →
    ∃ error, decode readRecords text = .error error
  /-- A client that asks for the stored list and gets the text has the records, if there are any. -/
  reads : ∀ (σ : Type) (network : Network σ) (before : σ) (api : ConfigApi) (request : Request)
    (after : σ),
    StageYields network before (api.endpoint "forbidden-hostnames") "application/json" request text
        after →
      ∀ hostnames : List String, value.Lists hostnames →
        (api.forbiddenHostnames.over network before).result =
          .ok (hostnames.map HostnameRecord.mk)
  /-- If there are none, the client has an error that says what is wrong with the text. -/
  refuses : ∀ (σ : Type) (network : Network σ) (before : σ) (api : ConfigApi) (request : Request)
    (after : σ),
    StageYields network before (api.endpoint "forbidden-hostnames") "application/json" request text
        after →
      (∀ hostnames, ¬value.Lists hostnames) →
        ∃ error, (api.forbiddenHostnames.over network before).result = .error (.json error)

/-! ### Values that list hostnames -/

/-- A value lists hostnames if it is an array each element of which holds one. -/
theorem exists_lists_iff :
    (∃ hostnames, value.Lists hostnames) ↔
      ∃ items, value = .array items ∧ ∀ item ∈ items, ∃ hostname, item.Holds hostname := by
  constructor
  · rintro ⟨hostnames, items, rfl, hitems⟩
    refine ⟨items, rfl, ?_⟩
    induction hitems with
    | nil => exact fun _ hm => by cases hm
    | cons hitem _ ih => exact List.forall_mem_cons.mpr ⟨⟨_, hitem⟩, ih⟩
  · rintro ⟨items, rfl, hitems⟩
    induction items with
    | nil => exact ⟨[], [], rfl, .nil⟩
    | cons item items ih =>
      obtain ⟨⟨hostname, hitem⟩, hothers⟩ := List.forall_mem_cons.mp hitems
      obtain ⟨hostnames, items', heq, hlisted⟩ := ih hothers
      cases heq
      exact ⟨hostname :: hostnames, _, rfl, .cons hitem hlisted⟩

/-! ### Decoding -/

theorem decode_eq_ok_iff (h : Denotes text value) {hostnames : List String} :
    decode readRecords text = .ok (hostnames.map HostnameRecord.mk) ↔ value.Lists hostnames := by
  have hdecode := decode_of_denotes h
  rw [← hostnames?_eq_some_iff]
  cases hvalue : hostnames? value with
  | none =>
    rw [hvalue] at hdecode
    obtain ⟨error, herror⟩ := hdecode
    simp [herror]
  | some found =>
    rw [hvalue] at hdecode
    have hok : decode readRecords text = .ok (found.map HostnameRecord.mk) := hdecode
    have hinj : Function.Injective HostnameRecord.mk := fun _ _ he => HostnameRecord.mk.inj he
    simp [hok, (List.map_injective_iff.mpr hinj).eq_iff]

theorem decode_eq_error (h : Denotes text value) (hnone : ∀ hostnames, ¬value.Lists hostnames) :
    ∃ error, decode readRecords text = .error error := by
  have hdecode := decode_of_denotes h
  cases hvalue : hostnames? value with
  | none =>
    rw [hvalue] at hdecode
    exact hdecode
  | some found => exact absurd (hostnames?_eq_some_iff.mp hvalue) (hnone found)

/-- **The stored list is decoded by the shape of its value**, whatever text denotes it. -/
theorem decidedByShape_of_denotes (h : Denotes text value) : DecidedByShape text value where
  decodes _ := decode_eq_ok_iff h
  succeeds := by
    rw [← exists_lists_iff]
    constructor
    · rintro ⟨records, hdecode⟩
      refine ⟨records.map HostnameRecord.hostname, (decode_eq_ok_iff h).mp ?_⟩
      rw [hdecode, List.map_map]
      exact congrArg _ (List.map_id records).symm
    · rintro ⟨hostnames, hlists⟩
      exact ⟨_, (decode_eq_ok_iff h).mpr hlists⟩
  fails items hitems item hitem hnone := by
    refine decode_eq_error h fun hostnames hlists => ?_
    obtain ⟨items', hitems', hall⟩ := exists_lists_iff.mp ⟨hostnames, hlists⟩
    cases hitems.symm.trans hitems'
    obtain ⟨hostname, hholds⟩ := hall item hitem
    exact hnone hostname hholds
  reads _ _ _ _ _ _ yields _ hlists :=
    (settles_stored_decoded yields ((decode_eq_ok_iff h).mpr hlists)).result_eq
  refuses _ _ _ _ _ _ yields hnone := by
    obtain ⟨error, herror⟩ := decode_eq_error h hnone
    exact ⟨error, (settles_stored_unread yields herror).result_eq⟩

/-! ### An unusual list -/

theorem nine_ne_zero : (Fin.last 9 : Digit) ≠ 0 := by decide

/-- The number `9E+999`. -/
def large : Numeral where
  negative := false
  whole := .positive ⟨.last 9, []⟩ nine_ne_zero
  fraction := none
  exponent := some ⟨true, .plus, ⟨.last 9, [.last 9, .last 9]⟩⟩

theorem large_value : large.value = 9 * 10 ^ (999 : Nat) := by
  have hvalue : large.value = ((9 : Nat) + 0) * 10 ^ (999 : Nat) := rfl
  rw [hvalue, Rat.add_zero]
  rfl

/-- The escape of the letter o. -/
def letterO : Quad := .ofNat 0x6F true

theorem letterO_noSurrogate : letterO.value < 0xD800 ∨ 0xDFFF < letterO.value := by decide

/-- The leading surrogate of a face. -/
def faceLeading : Quad := .ofNat 0xD83D false

theorem faceLeading_isLeading : 0xD800 ≤ faceLeading.value ∧ faceLeading.value ≤ 0xDBFF := by decide

/-- The trailing surrogate of a face. -/
def faceTrailing : Quad := .ofNat 0xDE00 true

theorem faceTrailing_isTrailing : 0xDC00 ≤ faceTrailing.value ∧ faceTrailing.value ≤ 0xDFFF := by
  decide

/-- A list of three records.  The first has a member that is skipped, with a number beyond all
floating-point numbers and a `hostname` of its own, and an escape in the name that counts; the
second is an array; the third repeats the hostname of the second and has two members of one name. -/
def unusual : Tree :=
  let hostname : Spelling := .ofString "hostname"
  let escaped : Spelling :=
    .ofChar 'h' :: .number letterO letterO_noSurrogate :: Spelling.ofString "stname"
  let face : Piece :=
    .surrogates faceLeading faceTrailing faceLeading_isLeading faceTrailing_isTrailing
  let skipped : Tree :=
    .array (.cons [] (.number large) []
      (.last [.space] (.object (.last [] hostname [] [] .null [])) []))
  .array
    (.cons [.space]
      (.object
        (.cons [] (.ofString "x") [] [] skipped []
          (.last [] escaped [.space] [.space]
            (.string [.ofChar 'a', face]) [])))
      [.lineFeed]
      (.cons [] (.array (.last [] (.string (.ofString "b")) [])) []
        (.last [.tab]
          (.object
            (.cons [] hostname [] [] (.string (.ofString "b")) []
              (.cons [] (.ofString "y") [] [] (.string []) []
                (.last [] (.ofString "y") [] [] .null []))))
          [])))

/-- The text of the unusual list, with a line feed at its end. -/
def unusualText : Bytes :=
  Utf8.encodeString
    ("[ \x7b\"x\":[9E+999, \x7b\"hostname\":null\x7d]," ++
      "\"h\\u006Fstname\" : \"a\\ud83d\\uDE00\"\x7d\n" ++
      ",[\"b\"],\t\x7b\"hostname\":\"b\",\"y\":\"\",\"y\":null\x7d]\n")

/-- What the unusual list denotes, with the members of its first record the other way round. -/
def unusualValue : Value :=
  .array
    [.object
      [("hostname", .string "a😀"),
        ("x", .array [.number (9 * 10 ^ (999 : Nat)), .object [("hostname", .null)]])],
    .array [.string "b"],
    .object [("hostname", .string "b"), ("y", .string ""), ("y", .null)]]

theorem denotes_unusual : Denotes unusualText unusualValue := by
  refine ⟨[], unusual, [.lineFeed], by decide +kernel, ?_⟩
  have hvalue : unusual.value =
      .array
        [.object
          [("x", .array [.number (9 * 10 ^ (999 : Nat)), .object [("hostname", .null)]]),
            ("hostname", .string "a😀")],
        .array [.string "b"],
        .object [("hostname", .string "b"), ("y", .string ""), ("y", .null)]] := by
    rw [← large_value]
    rfl
  rw [hvalue]
  exact .array (.cons (.object (.swap _ _ _)) (.cons (.same _) (.cons (.same _) .nil)))

theorem lists_unusual : unusualValue.Lists ["a😀", "b", "b"] := by
  have hfirst (s : String) (members : List (String × Value))
      (hmembers : ∀ member ∈ members, member.1 ≠ "hostname") :
      Value.Holds (.object (("hostname", .string s) :: members)) s :=
    @Value.Holds.member [] members s hmembers
  exact ⟨_, rfl, .cons (hfirst _ _ (by simp)) (.cons .item (.cons (hfirst _ _ (by simp)) .nil))⟩

/-- Of a list in which nothing is spelled as it is published. -/
theorem decidedByShape_unusual :
    Denotes unusualText unusualValue ∧ unusualValue.Lists ["a😀", "b", "b"] ∧
      DecidedByShape unusualText unusualValue :=
  ⟨denotes_unusual, lists_unusual, decidedByShape_of_denotes denotes_unusual⟩

end ForbiddenHosts.ConfigApi
