import ForbiddenHosts.Proofs.Settings.Layers
import ForbiddenHosts.Proofs.Text.Items

/-!
# Custom hostnames from the environment and from an override

The custom hostnames can be given as one text, in a variable of the environment or by an override
that stands in for it.  The two are read by different rules.  An override is a comma list: its items
are trimmed, and blank ones left out.  A variable that reads as a boolean or a number is that
scalar, which is no list of hostnames; any other is cut at its commas, and every piece counts as it
is written.

`Readings` says what either comes to over any settings file, and when the two agree: they do exactly
if the text reads as no scalar and each of its pieces is trimmed and not empty, or if the file alone
already fails both.  `readings_of_setsOnly` is the main statement.
-/
namespace ForbiddenHosts.Settings

open Setting Text

/-! ### Sections of the root -/

/-- The place of the custom hostnames. -/
def customHostnamesPath : Path := ⟨"blacklist", [.member "custom_hostnames"]⟩

theorem parse?_customHostnamesKey : Path.parse? customHostnamesKey = some customHostnamesPath := by
  with_unfolding_all rfl

theorem ofKey_customHostnamesKey : Path.ofKey customHostnamesKey = customHostnamesPath := by
  rw [Path.ofKey, parse?_customHostnamesKey, Option.getD_some]

theorem defaults_blacklist : ∃ origin members,
    defaults.member? "blacklist" = some (.table origin members) :=
  ⟨_, _, by with_unfolding_all rfl⟩

/-- The address of the CT log list that a settings file gives. -/
def ctLogUrlOfFile? (file : Option Bytes) : Except Fault String := do
  let entries ← entriesOfFile? file
  readSection readCtLogUrl "ct_log" (overDefaults entries)

theorem ctLogUrlOfFile?_none : ctLogUrlOfFile? none = .ok Configuration.defaultCtLogUrl := by
  with_unfolding_all rfl

section Sections

variable (root value : Setting)

theorem member?_put_ctLog :
    (root.put customHostnamesPath value).member? "ct_log" = root.member? "ct_log" :=
  member?_changeMember_of_ne (by decide) _ _

theorem member?_put_blacklist :
    (root.put customHostnamesPath value).member? "blacklist" =
      some (((root.member? "blacklist").getD blank).changeMember "custom_hostnames"
        (layOver value)) := by
  rw [put]
  exact member?_changeMember_self _ _ _

end Sections

/-- Collecting the custom hostnames last leaves the address of the CT log list alone. -/
theorem readCtLogUrl_overDefaults (entries : List (String × Setting)) (value : Setting) :
    readSection readCtLogUrl "ct_log" (overDefaults (entries ++ [(customHostnamesKey, value)])) =
      readSection readCtLogUrl "ct_log" (overDefaults entries) := by
  have hmember : (noSettings.putAll (entries ++ [(customHostnamesKey, value)])).member? "ct_log" =
      (noSettings.putAll entries).member? "ct_log" := by
    rw [putAll_concat, ofKey_customHostnamesKey, member?_put_ctLog]
  rw [readSection, readSection, member?_overDefaults, member?_overDefaults, hmember]

theorem readCtLogUrl_put (root value : Setting) :
    readSection readCtLogUrl "ct_log" (root.put customHostnamesPath value) =
      readSection readCtLogUrl "ct_log" root := by
  rw [readSection, readSection, member?_put_ctLog]

/-! ### Reading the custom hostnames -/

theorem readCustomHostnames_table {place : Path} {origin : Origin}
    {members : List (String × Setting)} {field : Setting}
    (h : (table origin members).member? "custom_hostnames" = some field) :
    readCustomHostnames place (.table origin members) =
      readTexts (place.below (.member "custom_hostnames")) field := by
  have hfind : Table.find? "custom_hostnames" members = some field := h
  rw [readCustomHostnames]
  simp only [hfind]

/-- What is put in the place of the custom hostnames is read as these. -/
theorem readCustomHostnames_put (root : Setting) {value : Setting} (h : Replaces value) :
    readSection readCustomHostnames "blacklist" (root.put customHostnamesPath value) =
      readTexts customHostnamesPath value := by
  rw [readSection, member?_put_blacklist]
  exact readCustomHostnames_table (member?_changeMember_replaces h _ _)

/-- What is collected last as the custom hostnames is read as these, over the defaults too. -/
theorem readCustomHostnames_overDefaults (entries : List (String × Setting)) {value : Setting}
    (h : Replaces value) :
    readSection readCustomHostnames "blacklist"
        (overDefaults (entries ++ [(customHostnamesKey, value)])) =
      readTexts customHostnamesPath value := by
  obtain ⟨origin, old, hdefault⟩ := defaults_blacklist
  let collected := (noSettings.putAll entries).member? "blacklist" |>.getD blank
  have hmember :
      (noSettings.putAll (entries ++ [(customHostnamesKey, value)])).member? "blacklist" =
        some (collected.changeMember "custom_hostnames" (layOver value)) := by
    rw [putAll_concat, ofKey_customHostnamesKey, member?_put_blacklist]
  have hdistinct : Table.Distinct
      (collected.changeMember "custom_hostnames" (layOver value)).members :=
    distinct_changeMember (distinct_member (collected_putAll entries) _)
  -- the field stands in the section that was collected, and so in the section over the default one
  have hfield := member?_changeMember_replaces h collected "custom_hostnames"
  obtain ⟨new, htable⟩ := exists_layMembersOver_eq_table
    (collected.changeMember "custom_hostnames" (layOver value)).members origin old
  have hlaid := member?_layMembersOver hdistinct (.table origin old) "custom_hostnames"
  rw [show Table.find? "custom_hostnames"
      (collected.changeMember "custom_hostnames" (layOver value)).members = some value from hfield,
    htable] at hlaid
  rw [readSection, member?_overDefaults, hmember, hdefault]
  show readCustomHostnames ⟨"blacklist", []⟩
    (layMembersOver (collected.changeMember "custom_hostnames" (layOver value)).members
      (.table origin old)) = _
  rw [htable]
  refine readCustomHostnames_table (hlaid.trans ?_)
  exact congrArg some (h _)

/-- A list of texts is read as these texts. -/
theorem readTexts_texts (place : Path) (origin : Origin) (texts : List String) :
    readTexts place (.list origin (texts.map .text)) = .ok texts := by
  have hfrom : ∀ index, readTextsFrom place index (texts.map .text) = .ok texts := by
    induction texts with
    | nil => exact fun _ => rfl
    | cons text texts ih =>
      intro index
      rw [List.map_cons, readTextsFrom, readText, ih (index + 1)]
      rfl
  exact hfrom 0

/-! ### Variables and overrides -/

/-- A scalar is a boolean or a number. -/
theorem cases_of_readScalar? {value : String} {scalar : Setting}
    (h : readScalar? value = some scalar) :
    (∃ b, scalar = .boolean b) ∨ (∃ n, scalar = .integer n) ∨ ∃ x, scalar = .float x := by
  rw [readScalar?] at h
  split at h
  · exact Or.inl ⟨true, (Option.some.inj h).symm⟩
  · exact Or.inl ⟨false, (Option.some.inj h).symm⟩
  · split at h
    · exact Or.inr (Or.inl ⟨_, (Option.some.inj h).symm⟩)
    · obtain ⟨x, _, rfl⟩ := Option.map_eq_some_iff.mp h
      exact Or.inr (Or.inr ⟨x, rfl⟩)

/-- What reads as a scalar is no list. -/
theorem scalar_of_readScalar? {value : String} {scalar : Setting}
    (h : readScalar? value = some scalar) :
    Replaces scalar ∧ ∀ place : Path,
      readTexts place scalar = .error (.wrongShape scalar "a sequence" place) := by
  have hcases := cases_of_readScalar? h
  refine ⟨replaces_of_ne_table ?_, ?_⟩
  · rintro origin members rfl
    rcases hcases with ⟨_, h⟩ | ⟨_, h⟩ | ⟨_, h⟩ <;> cases h
  · intro place
    rcases hcases with ⟨b, rfl⟩ | ⟨n, rfl⟩ | ⟨x, rfl⟩ <;> rfl

theorem replaces_list (origin : Origin) (items : List Setting) :
    Replaces (.list origin items) := by
  refine replaces_of_ne_table ?_
  intro _ _ heq
  cases heq

/-- An environment sets the custom hostnames and nothing else: one of its variables is theirs, and
no other is a setting. -/
def SetsOnly (environment : Environment) (value : String) : Prop :=
  ∃ before after,
    environment = before ++ ("APP_BLACKLIST__CUSTOM_HOSTNAMES", value) :: after ∧
      ∀ other ∈ before ++ after, keyOfVariable? other.1 = none

theorem entriesOfEnvironment_of_setsOnly {environment : Environment} {value : String}
    (h : SetsOnly environment value) :
    entriesOfEnvironment environment =
      [(customHostnamesKey, ofVariable customHostnamesKey value)] := by
  obtain ⟨before, after, rfl, hothers⟩ := h
  have hnone : ∀ part : Environment, part ⊆ before ++ after → entriesOfEnvironment part = [] := by
    intro part hpart
    refine List.filterMap_eq_nil_iff.mpr ?_
    rintro ⟨name, value⟩ hmem
    have hkey : keyOfVariable? name = none := hothers _ (hpart hmem)
    simp [hkey]
  have hkey : keyOfVariable? "APP_BLACKLIST__CUSTOM_HOSTNAMES" = some customHostnamesKey := by
    decide
  have hbefore := hnone before (List.subset_append_left _ _)
  have hafter := hnone after (List.subset_append_right _ _)
  rw [entriesOfEnvironment] at hbefore hafter
  rw [entriesOfEnvironment, List.filterMap_append, hbefore, List.filterMap_cons, hafter]
  simp [hkey]

/-- A text that reads as no scalar is the list of its pieces. -/
theorem ofVariable_customHostnames {value : String} (h : readScalar? value = none) :
    ofVariable customHostnamesKey value =
      .list .elsewhere ((commaPieces value).map .text) := by
  rw [ofVariable, h]
  exact if_pos rfl

theorem ofVariable_scalar {key value : String} {scalar : Setting}
    (h : readScalar? value = some scalar) : ofVariable key value = scalar := by
  rw [ofVariable, h]

/-- The pieces of a text are its items exactly if each is trimmed and not empty. -/
theorem commaPieces_eq_commaList_iff (value : String) :
    commaPieces value = commaList value ↔
      ∀ piece ∈ commaPieces value, piece ≠ "" ∧ Trimmed piece.toList := by
  constructor
  · intro heq piece hpiece
    rw [heq] at hpiece
    obtain ⟨item, hitem, rfl⟩ := List.mem_map.mp hpiece
    have hisItem := isItem_of_mem_items hitem
    rw [String.toList_ofList]
    refine ⟨?_, hisItem.trimmed⟩
    intro hempty
    exact hisItem.ne_nil (String.ofList_eq_empty_iff.mp hempty)
  · intro hpieces
    have hpiece : ∀ piece ∈ pieces ',' value.toList, piece ≠ [] ∧ Trimmed piece := by
      intro piece hmem
      obtain ⟨hne, htrimmed⟩ := hpieces (String.ofList piece) (List.mem_map_of_mem hmem)
      rw [String.toList_ofList] at htrimmed
      exact ⟨fun hnil => hne (by rw [hnil]), htrimmed⟩
    have htrim : (pieces ',' value.toList).map trim = pieces ',' value.toList := by
      rw [List.map_congr_left fun piece hmem => trim_eq_self (hpiece piece hmem).2]
      exact List.map_id _
    have hkeep : Text.items ',' value.toList = pieces ',' value.toList := by
      rw [Text.items, htrim]
      refine List.filter_eq_self.mpr ?_
      intro piece hmem
      simpa using (hpiece piece hmem).1
    rw [commaPieces, commaList, hkeep]

/-! ### What either comes to -/

/-- **A text that gives the custom hostnames**, in a variable of the environment or as an override,
over a settings file. -/
structure Readings (file : Option Bytes) (environment : Environment) (value : String) : Prop where
  /-- An override gives the trimmed items of the text that are not blank, in their order. -/
  override : Configuration.loadWith file [(customHostnamesKey, value)] =
    (ctLogUrlOfFile? file).map fun url => ⟨url, commaList value⟩
  /-- A variable gives the pieces of the text as they are written. -/
  pieces : readScalar? value = none →
    Configuration.load file environment =
      (ctLogUrlOfFile? file).map fun url => ⟨url, commaPieces value⟩
  /-- A variable that reads as a scalar is refused. -/
  scalar : ∀ scalar, readScalar? value = some scalar →
    Configuration.load file environment =
      (ctLogUrlOfFile? file).bind fun _ =>
        .error (.wrongShape scalar "a sequence" customHostnamesPath)
  /-- The two agree exactly if the file fails both, or the text reads as no scalar and each of its
  pieces is trimmed and not empty. -/
  agree_iff : Configuration.load file environment =
      Configuration.loadWith file [(customHostnamesKey, value)] ↔
    (∃ fault, ctLogUrlOfFile? file = .error fault) ∨
      (readScalar? value = none ∧
        ∀ piece ∈ commaPieces value, piece ≠ "" ∧ Trimmed piece.toList)

theorem loadWith_customHostnames (file : Option Bytes) (value : String) :
    Configuration.loadWith file [(customHostnamesKey, value)] =
      (ctLogUrlOfFile? file).map fun url => ⟨url, commaList value⟩ := by
  have hplaced : placeOverrides [(customHostnamesKey, value)] =
      .ok [(customHostnamesPath, .list .elsewhere ((commaList value).map .text))] := by
    rw [placeOverrides, parse?_customHostnamesKey, placeOverrides, Settings.override, if_pos rfl]
    rfl
  rw [Configuration.loadWith, hplaced, ctLogUrlOfFile?]
  cases entriesOfFile? file with
  | error fault => rfl
  | ok entries =>
    show readConfiguration ((overDefaults entries).put customHostnamesPath _) = _
    rw [readConfiguration, readCtLogUrl_put,
      readCustomHostnames_put _ (replaces_list _ _), readTexts_texts]
    show _ = Except.map _ (readSection readCtLogUrl "ct_log" (overDefaults entries))
    cases readSection readCtLogUrl "ct_log" (overDefaults entries) <;> rfl

theorem load_setsOnly {environment : Environment} {value : String}
    (h : SetsOnly environment value) (file : Option Bytes)
    (hreplaces : Replaces (ofVariable customHostnamesKey value)) :
    Configuration.load file environment =
      (ctLogUrlOfFile? file).bind fun url =>
        (readTexts customHostnamesPath (ofVariable customHostnamesKey value)).map fun hostnames =>
          ⟨url, hostnames⟩ := by
  rw [Configuration.load, entriesOfEnvironment_of_setsOnly h, ctLogUrlOfFile?]
  cases entriesOfFile? file with
  | error fault => rfl
  | ok entries =>
    show readConfiguration (overDefaults (entries ++ [(customHostnamesKey, _)])) = _
    rw [readConfiguration, readCtLogUrl_overDefaults,
      readCustomHostnames_overDefaults entries hreplaces]
    show _ = Except.bind (readSection readCtLogUrl "ct_log" (overDefaults entries)) _
    cases readSection readCtLogUrl "ct_log" (overDefaults entries) with
    | error fault => rfl
    | ok url =>
      cases readTexts customHostnamesPath (ofVariable customHostnamesKey value) <;> rfl

theorem load_pieces {environment : Environment} {value : String} (h : SetsOnly environment value)
    (file : Option Bytes) (hscalar : readScalar? value = none) :
    Configuration.load file environment =
      (ctLogUrlOfFile? file).map fun url => ⟨url, commaPieces value⟩ := by
  have hvariable := ofVariable_customHostnames hscalar
  rw [load_setsOnly h file (by rw [hvariable]; exact replaces_list _ _), hvariable,
    readTexts_texts]
  cases ctLogUrlOfFile? file <;> rfl

theorem load_scalar {environment : Environment} {value : String} {scalar : Setting}
    (h : SetsOnly environment value) (file : Option Bytes)
    (hscalar : readScalar? value = some scalar) :
    Configuration.load file environment =
      (ctLogUrlOfFile? file).bind fun _ =>
        .error (.wrongShape scalar "a sequence" customHostnamesPath) := by
  obtain ⟨hreplaces, hread⟩ := scalar_of_readScalar? hscalar
  have hvariable : ofVariable customHostnamesKey value = scalar := ofVariable_scalar hscalar
  rw [load_setsOnly h file (by rw [hvariable]; exact hreplaces), hvariable, hread]
  rfl

/-- **What the environment and an override make of one text.** -/
theorem readings_of_setsOnly (file : Option Bytes) (environment : Environment) (value : String)
    (h : SetsOnly environment value) : Readings file environment value where
  override := loadWith_customHostnames file value
  pieces := load_pieces h file
  scalar _ := load_scalar h file
  agree_iff := by
    rw [loadWith_customHostnames, ← commaPieces_eq_commaList_iff]
    cases hfile : ctLogUrlOfFile? file with
    | error fault =>
      -- the file alone fails both
      refine iff_of_true ?_ (Or.inl ⟨fault, rfl⟩)
      cases hscalar : readScalar? value with
      | none => rw [load_pieces h file hscalar, hfile]; rfl
      | some scalar => rw [load_scalar h file hscalar, hfile]; rfl
    | ok url =>
      cases hscalar : readScalar? value with
      | none =>
        rw [load_pieces h file hscalar, hfile]
        constructor
        · intro heq
          exact Or.inr ⟨rfl, (Configuration.mk.inj (Except.ok.inj heq)).2⟩
        · rintro (⟨fault, hfault⟩ | ⟨_, heq⟩)
          · cases hfault
          · rw [heq]
      | some scalar =>
        rw [load_scalar h file hscalar, hfile]
        constructor
        · intro heq
          cases heq
        · rintro (⟨fault, hfault⟩ | ⟨hnone, _⟩)
          · cases hfault
          · cases hnone

/-- Two trimmed hostnames are the same list either way. -/
theorem readings_twoHostnames :
    SetsOnly [("HOME", "/"), ("APP_BLACKLIST__CUSTOM_HOSTNAMES", "a.onion,b.onion")]
        "a.onion,b.onion" ∧
      Configuration.load none
          [("HOME", "/"), ("APP_BLACKLIST__CUSTOM_HOSTNAMES", "a.onion,b.onion")] =
        Configuration.loadWith none [("blacklist.custom_hostnames", "a.onion,b.onion")] := by
  have hsets : SetsOnly
      [("HOME", "/"), ("APP_BLACKLIST__CUSTOM_HOSTNAMES", "a.onion,b.onion")] "a.onion,b.onion" :=
    ⟨[("HOME", "/")], [], rfl, by decide⟩
  have hreadings := readings_of_setsOnly none _ _ hsets
  have hpieces : ∀ piece ∈ commaPieces "a.onion,b.onion", piece ≠ "" ∧ Trimmed piece.toList := by
    refine (commaPieces_eq_commaList_iff _).mp ?_
    decide
  exact ⟨hsets, hreadings.agree_iff.mpr (Or.inr ⟨by decide, hpieces⟩)⟩

/-- With a blank after the comma the two lists differ: the variable keeps the blank. -/
theorem load_ne_loadWith_blank :
    Configuration.load none [("APP_BLACKLIST__CUSTOM_HOSTNAMES", "x.onion, y.onion")] =
        .ok ⟨Configuration.defaultCtLogUrl, ["x.onion", " y.onion"]⟩ ∧
      Configuration.loadWith none [("blacklist.custom_hostnames", "x.onion, y.onion")] =
        .ok ⟨Configuration.defaultCtLogUrl, ["x.onion", "y.onion"]⟩ ∧
      Configuration.load none [("APP_BLACKLIST__CUSTOM_HOSTNAMES", "x.onion, y.onion")] ≠
        Configuration.loadWith none [("blacklist.custom_hostnames", "x.onion, y.onion")] := by
  have hsets : SetsOnly [("APP_BLACKLIST__CUSTOM_HOSTNAMES", "x.onion, y.onion")]
      "x.onion, y.onion" := ⟨[], [], rfl, by decide⟩
  have hpieces : commaPieces "x.onion, y.onion" = ["x.onion", " y.onion"] := by decide
  have hitems : commaList "x.onion, y.onion" = ["x.onion", "y.onion"] := by decide
  have hload : Configuration.load none
      [("APP_BLACKLIST__CUSTOM_HOSTNAMES", "x.onion, y.onion")] =
        .ok ⟨Configuration.defaultCtLogUrl, ["x.onion", " y.onion"]⟩ := by
    rw [load_pieces hsets none (by decide), ctLogUrlOfFile?_none, hpieces]
    rfl
  have hloadWith : Configuration.loadWith none
      [("blacklist.custom_hostnames", "x.onion, y.onion")] =
        .ok ⟨Configuration.defaultCtLogUrl, ["x.onion", "y.onion"]⟩ := by
    have h := loadWith_customHostnames none "x.onion, y.onion"
    rw [ctLogUrlOfFile?_none, hitems] at h
    exact h
  refine ⟨hload, hloadWith, ?_⟩
  rw [hload, hloadWith]
  intro heq
  have hlists := (Configuration.mk.inj (Except.ok.inj heq)).2
  exact absurd hlists (by decide)

end ForbiddenHosts.Settings
