import ForbiddenHosts.Proofs.Settings.Overrides
import ForbiddenHosts.Proofs.Url.Numbers

/-!
# Where the texts of settings come from

Settings are collected, laid over one another and put into places, but none of this makes up a text:
a text that stands somewhere in what comes of it (`Mentions`) stood somewhere in what went in.  Each
operation on settings keeps to that (`AddsOnlyIf`), and section by section, since what is put below
one section does not reach another one (`mentions_of_member?_overDefaults`).

So a custom hostname that is configured has one of three sources (`tidy_or_written_of_load`): the
settings file or the environment mention it below the section of the custom hostnames, or it is
**tidy**, not empty and without a blank at its ends.  The last is so for the default hostnames, and
for scalars, which are read as texts without any blank.
-/
namespace ForbiddenHosts

namespace Text

/-! ### Tidy texts -/

/-- A text is tidy: it is not empty, and has no blank at its ends. -/
structure Tidy (text : String) : Prop where
  ne_empty : text ≠ ""
  trimmed : Trimmed text.toList

theorem IsItem.tidy {separator : Char} {item : String} (h : IsItem separator item.toList) :
    Tidy item where
  ne_empty := fun hempty => h.ne_nil (by rw [hempty]; rfl)
  trimmed := h.trimmed

/-- No character of the text is blank. -/
def Solid (text : List Char) : Prop := ∀ c ∈ text, isBlank c = false

instance (text : List Char) : Decidable (Solid text) :=
  List.decidableBAll (isBlank · = false) text

variable {c : Char} {text more : List Char}

theorem solid_nil : Solid [] := List.forall_mem_nil _

theorem Solid.cons (hc : isBlank c = false) (h : Solid text) : Solid (c :: text) :=
  List.forall_mem_cons.mpr ⟨hc, h⟩

theorem Solid.append (h : Solid text) (hmore : Solid more) : Solid (text ++ more) :=
  List.forall_mem_append.mpr ⟨h, hmore⟩

theorem Solid.tidy {text : String} (h : Solid text.toList) (hne : text.toList ≠ []) :
    Tidy text where
  ne_empty := fun hempty => hne (String.toList_eq_nil_iff.mpr hempty)
  trimmed := ⟨fun c hc => h c (List.mem_of_head? hc), fun c hc => h c (List.mem_of_getLast? hc)⟩

theorem Solid.tidy_ofList (h : Solid text) (hne : text ≠ []) : Tidy (String.ofList text) :=
  Solid.tidy (by rwa [String.toList_ofList]) (by rwa [String.toList_ofList])

end Text

open Text

/-! ### Scalars -/

namespace Decimal

theorem solid_digits (n : Nat) : Solid (digits n) :=
  Url.forall_mem_toDigits (by decide) (by decide)

theorem solid_zeros (n : Nat) : Solid (List.replicate n '0') := by
  intro c hc
  rw [List.eq_of_mem_replicate hc]
  decide

theorem tidy_integer (value : Int) : Tidy (integer value) := by
  have hne : digits value.natAbs ≠ [] := Nat.toDigits_ne_nil
  rw [integer]
  split
  · exact ((solid_digits _).cons (by decide)).tidy_ofList (List.cons_ne_nil _ _)
  · exact (solid_digits _).tidy_ofList hne

/-- A positional decimal has digits and a point, and nothing else. -/
theorem solid_positional (s : Scientific) : Solid (positional false s) := by
  have hdigits := solid_digits s.digits
  have hpoint : isBlank '.' = false := by decide
  rw [positional]
  cases s.exponent with
  | ofNat zeros => exact (hdigits.append (solid_zeros zeros)).append solid_nil
  | negSucc n =>
    show Solid (if n + 1 < (digits s.digits).length then _ else _)
    split
    · exact Solid.append (fun c hc => hdigits c (List.mem_of_mem_take hc))
        (Solid.cons hpoint fun c hc => hdigits c (List.mem_of_mem_drop hc))
    · exact (((solid_zeros _).cons hpoint).cons (by decide)).append hdigits

theorem positional_ne_nil (s : Scientific) : positional false s ≠ [] := by
  have hne : digits s.digits ≠ [] := Nat.toDigits_ne_nil
  rw [positional]
  cases s.exponent with
  | ofNat zeros => simp [hne]
  | negSucc n =>
    show (if n + 1 < (digits s.digits).length then _ else _) ≠ []
    split <;> simp

theorem tidy_float (x : Float) : Tidy (Layout.plain.float x) := by
  have hsigned (negative : Bool) {text : List Char} (h : Solid text) (hne : text ≠ []) :
      Tidy (String.ofList (if negative then '-' :: text else text)) := by
    cases negative with
    | false => exact h.tidy_ofList hne
    | true => exact (h.cons (by decide)).tidy_ofList (List.cons_ne_nil _ _)
  have hpositional (negative : Bool) (s : Scientific) :=
    hsigned negative (solid_positional s) (positional_ne_nil s)
  rw [Layout.float]
  split
  · have hletters : Solid ['N', 'a', 'N'] := by decide
    exact hletters.tidy_ofList (by decide)
  · exact hsigned _ (by decide) (by decide)
  · next negative _ => exact hpositional negative ⟨0, 0⟩
  · next negative magnitude _ => exact hpositional negative (shortest magnitude true)

end Decimal

namespace Table

variable {α : Type} {name other : String} {f : Option α → α} {members : List (String × α)}
  {value : α}

theorem mem_of_find? (h : find? name members = some value) : (name, value) ∈ members := by
  induction members with
  | nil => cases h
  | cons m members ih =>
    obtain ⟨first, found⟩ := m
    rw [find?] at h
    split at h
    · next heq =>
      cases h
      exact heq ▸ List.mem_cons_self
    · exact List.mem_cons_of_mem _ (ih h)

/-- A member of a changed table is as it was, or the change made it. -/
theorem mem_change (h : (other, value) ∈ change name f members) :
    (other, value) ∈ members ∨ value = f none ∨
      ∃ old, (other, old) ∈ members ∧ value = f (some old) := by
  induction members with
  | nil =>
    cases List.mem_singleton.mp h
    exact .inr (.inl rfl)
  | cons m members ih =>
    obtain ⟨first, old⟩ := m
    rw [change] at h
    split at h
    · rcases List.mem_cons.mp h with heq | hmem
      · cases heq
        exact .inr (.inr ⟨old, List.mem_cons_self, rfl⟩)
      · exact .inl (List.mem_cons_of_mem _ hmem)
    · rcases List.mem_cons.mp h with heq | hmem
      · exact .inl (heq ▸ List.mem_cons_self)
      · rcases ih hmem with hmem | hnew | ⟨old, hmem, heq⟩
        · exact .inl (List.mem_cons_of_mem _ hmem)
        · exact .inr (.inl hnew)
        · exact .inr (.inr ⟨old, List.mem_cons_of_mem _ hmem, heq⟩)

end Table

namespace Settings

/-! ### Mentions -/

/-- A text stands somewhere in a setting. -/
inductive Mentions (text : String) : Setting → Prop where
  | here : Mentions text (.text text)
  | item {origin : Origin} {items : List Setting} {item : Setting} (mem : item ∈ items)
      (inside : Mentions text item) : Mentions text (.list origin items)
  | member {origin : Origin} {members : List (String × Setting)} {name : String}
      {value : Setting} (mem : (name, value) ∈ members) (inside : Mentions text value) :
      Mentions text (.table origin members)

variable {text name : String} {setting under value : Setting}
  {members entries : List (String × Setting)}

/-- Entries mention a text below a section: one of them leads there, and its setting mentions it. -/
def MentionsBelow (name text : String) (entries : List (String × Setting)) : Prop :=
  ∃ key value, (key, value) ∈ entries ∧ (Path.ofKey key).root = name ∧ Mentions text value

theorem not_mentions_blank : ¬Mentions text Setting.blank := nofun

theorem mentions_texts {origin : Origin} {texts : List String}
    (h : Mentions text (.list origin (texts.map .text))) : text ∈ texts := by
  cases h with
  | item mem inside =>
    obtain ⟨found, hfound, rfl⟩ := List.mem_map.mp mem
    cases inside
    exact hfound

theorem mentions_of_mem_members (mem : (name, value) ∈ setting.members)
    (h : Mentions text value) : Mentions text setting := by
  cases setting with
  | table origin members => exact .member mem h
  | _ => cases mem

theorem mentions_of_mem_items {item : Setting} (mem : item ∈ setting.items)
    (h : Mentions text item) : Mentions text setting := by
  cases setting with
  | list origin items => exact .item mem h
  | _ => cases mem

/-! ### Changes -/

/-- A change adds a text only if `P` holds: otherwise the text was there before. -/
def AddsOnlyIf (P : Prop) (text : String) (f : Setting → Setting) : Prop :=
  ∀ setting, Mentions text (f setting) → P ∨ Mentions text setting

section Changes

variable {P : Prop} {f : Setting → Setting}

theorem AddsOnlyIf.changeMember (hf : AddsOnlyIf P text f) (name : String) :
    AddsOnlyIf P text (Setting.changeMember name f) := by
  intro setting h
  rw [Setting.changeMember] at h
  cases h with
  | member mem inside =>
    rcases Table.mem_change mem with hmem | rfl | ⟨old, hmem, rfl⟩
    · exact .inr (mentions_of_mem_members hmem inside)
    · exact .inl ((hf _ inside).resolve_right not_mentions_blank)
    · exact (hf old inside).imp_right (mentions_of_mem_members hmem)

/-- What makes a list grow mentions nothing. -/
theorem mem_of_mem_reach {index : Int} {items : List Setting} {item : Setting}
    (mem : item ∈ (Setting.reach index items).1) (h : Mentions text item) : item ∈ items := by
  have hblank {n : Nat} (hmem : item ∈ List.replicate n Setting.blank) : item ∈ items := by
    rw [List.eq_of_mem_replicate hmem] at h
    exact absurd h not_mentions_blank
  cases index with
  | ofNat n => exact (List.mem_append.mp mem).elim id hblank
  | negSucc n =>
    rw [Setting.reach] at mem
    split at mem
    · exact mem
    · exact (List.mem_append.mp mem).elim hblank id

theorem mem_modify {α : Type} {f : α → α} {items : List α} {place : Nat} {a : α}
    (h : a ∈ items.modify place f) : a ∈ items ∨ ∃ old ∈ items, a = f old := by
  obtain ⟨i, hi, rfl⟩ := List.mem_iff_getElem.mp h
  rw [List.length_modify] at hi
  rw [List.getElem_modify]
  split
  · exact .inr ⟨items[i], List.getElem_mem hi, rfl⟩
  · exact .inl (List.getElem_mem hi)

theorem AddsOnlyIf.changeItem (hf : AddsOnlyIf P text f) (index : Int) :
    AddsOnlyIf P text (Setting.changeItem index f) := by
  intro setting h
  rw [Setting.changeItem] at h
  cases h with
  | item mem inside =>
    rcases mem_modify mem with hmem | ⟨old, hmem, rfl⟩
    · exact .inr (mentions_of_mem_items (mem_of_mem_reach hmem inside) inside)
    · refine (hf old inside).imp_right fun hold => ?_
      exact mentions_of_mem_items (mem_of_mem_reach hmem hold) hold

/-- **A change at a place** adds what it adds to the setting there, however deep that is. -/
theorem AddsOnlyIf.change (hf : AddsOnlyIf P text f) (steps : List Step) :
    AddsOnlyIf P text (Setting.change f steps) := by
  induction steps with
  | nil => exact hf
  | cons step steps ih =>
    cases step with
    | member name => exact ih.changeMember name
    | item index => exact ih.changeItem index

end Changes

/-! ### Layers -/

mutual

/-- **Laying over** adds what the upper setting mentions. -/
theorem addsOnlyIf_layOver :
    ∀ value, AddsOnlyIf (Mentions text value) text (Setting.layOver value)
  | .table origin members, under, h => by
    rw [Setting.layOver] at h
    rcases addsOnlyIf_layMembersOver members _ h with ⟨name, value, hmem, hvalue⟩ | hunder
    · exact .inl (.member hmem hvalue)
    · cases hunder with
      | member mem inside => exact .inr (mentions_of_mem_members mem inside)
  | .nothing _, _, h => .inl h
  | .boolean _, _, h => .inl h
  | .integer _, _, h => .inl h
  | .float _, _, h => .inl h
  | .text _, _, h => .inl h
  | .list _ _, _, h => .inl h

theorem addsOnlyIf_layMembersOver :
    ∀ members, AddsOnlyIf (∃ name value, (name, value) ∈ members ∧ Mentions text value) text
      (Setting.layMembersOver members)
  | [], under, h => by
    rw [Setting.layMembersOver] at h
    exact .inr h
  | (name, value) :: members, under, h => by
    rw [Setting.layMembersOver] at h
    rcases addsOnlyIf_layMembersOver members _ h with ⟨other, found, hmem, hfound⟩ | hunder
    · exact .inl ⟨other, found, List.mem_cons_of_mem _ hmem, hfound⟩
    · rcases (addsOnlyIf_layOver value).changeMember name _ hunder with hvalue | hunder
      · exact .inl ⟨name, value, List.mem_cons_self, hvalue⟩
      · exact .inr hunder

end

theorem exists_of_mentions_getD {found : Option Setting}
    (h : Mentions text (found.getD Setting.blank)) :
    ∃ old, found = some old ∧ Mentions text old := by
  cases found with
  | none => exact absurd h not_mentions_blank
  | some old => exact ⟨old, rfl, h⟩

/-- **What is put into a place** adds to the section where the place is, and to no other. -/
theorem mentions_of_member?_put {root : Setting} {path : Path}
    (hmember : (root.put path value).member? name = some setting) (h : Mentions text setting) :
    (path.root = name ∧ Mentions text value) ∨
      ∃ old, root.member? name = some old ∧ Mentions text old := by
  rw [Setting.put] at hmember
  by_cases hroot : path.root = name
  · rw [hroot, Setting.member?_changeMember_self] at hmember
    cases hmember
    rcases (addsOnlyIf_layOver value).change _ _ h with hvalue | hold
    · exact .inl ⟨hroot, hvalue⟩
    · exact .inr (exists_of_mentions_getD hold)
  · rw [Setting.member?_changeMember_of_ne (Ne.symm hroot)] at hmember
    exact .inr ⟨setting, hmember, h⟩

/-- What a section mentions after entries were put into the tree, one of them mentions below it, or
it was there before. -/
theorem mentions_of_member?_putAll {root : Setting}
    (hmember : (root.putAll entries).member? name = some setting) (h : Mentions text setting) :
    MentionsBelow name text entries ∨
      ∃ old, root.member? name = some old ∧ Mentions text old := by
  induction entries generalizing root with
  | nil => exact .inr ⟨setting, hmember, h⟩
  | cons entry entries ih =>
    obtain ⟨key, value⟩ := entry
    rcases ih hmember with ⟨other, found, hmem, hroot, hfound⟩ | ⟨old, hold, hmention⟩
    · exact .inl ⟨other, found, List.mem_cons_of_mem _ hmem, hroot, hfound⟩
    · refine (mentions_of_member?_put hold hmention).imp_left ?_
      rintro ⟨hroot, hvalue⟩
      exact ⟨key, value, List.mem_cons_self, hroot, hvalue⟩

/-- **Over the defaults**, a section mentions what entries or the defaults mention there. -/
theorem mentions_of_member?_overDefaults
    (hmember : (overDefaults entries).member? name = some setting) (h : Mentions text setting) :
    MentionsBelow name text entries ∨
      ∃ default, defaults.member? name = some default ∧ Mentions text default := by
  rw [member?_overDefaults] at hmember
  cases hcollected : (noSettings.putAll entries).member? name with
  | none =>
    rw [hcollected] at hmember
    exact .inr ⟨setting, hmember, h⟩
  | some value =>
    rw [hcollected] at hmember
    cases hmember
    rcases addsOnlyIf_layOver value _ h with hvalue | hdefault
    · rcases mentions_of_member?_putAll hcollected hvalue with hbelow | ⟨old, hold, _⟩
      · exact .inl hbelow
      · cases hold
    · exact .inr (exists_of_mentions_getD hdefault)

/-! ### Reading -/

theorem mentions_or_tidy_of_readText {place : Path} (h : readText place setting = .ok text) :
    Mentions text setting ∨ Tidy text := by
  cases setting with
  | text value =>
    cases h
    exact .inl .here
  | boolean value =>
    refine .inr ?_
    cases value <;> cases h
    · exact Solid.tidy (by decide) (by decide)
    · exact Solid.tidy (by decide) (by decide)
  | integer value =>
    cases h
    exact .inr (Decimal.tidy_integer value)
  | float value =>
    cases h
    exact .inr (Decimal.tidy_float value)
  | nothing origin => cases h
  | list origin items => cases h
  | table origin members => cases h

theorem mentions_or_tidy_of_readTextsFrom {place : Path} {index : Nat} {items : List Setting}
    {texts : List String} (h : readTextsFrom place index items = .ok texts) (mem : text ∈ texts) :
    (∃ item ∈ items, Mentions text item) ∨ Tidy text := by
  induction items generalizing index texts with
  | nil =>
    cases h
    cases mem
  | cons item items ih =>
    rw [readTextsFrom] at h
    cases hfirst : readText (place.below (.item index)) item with
    | error fault =>
      rw [hfirst] at h
      cases h
    | ok first =>
      cases hrest : readTextsFrom place (index + 1) items with
      | error fault =>
        rw [hfirst, hrest] at h
        cases h
      | ok rest =>
        rw [hfirst, hrest] at h
        cases h
        rcases List.mem_cons.mp mem with rfl | hmem
        · exact (mentions_or_tidy_of_readText hfirst).imp_left fun hm =>
            ⟨item, List.mem_cons_self, hm⟩
        · rcases ih hrest hmem with ⟨other, hother, hm⟩ | htidy
          · exact .inl ⟨other, List.mem_cons_of_mem _ hother, hm⟩
          · exact .inr htidy

theorem mentions_or_tidy_of_readTexts {place : Path} {texts : List String}
    (h : readTexts place setting = .ok texts) (mem : text ∈ texts) :
    Mentions text setting ∨ Tidy text := by
  cases setting with
  | list origin items =>
    rcases mentions_or_tidy_of_readTextsFrom h mem with ⟨item, hitem, hm⟩ | htidy
    · exact .inl (.item hitem hm)
    · exact .inr htidy
  | _ => cases h

theorem mentions_or_tidy_of_readCustomHostnames {place : Path} {hostnames : List String}
    (h : readCustomHostnames place setting = .ok hostnames) (mem : text ∈ hostnames) :
    Mentions text setting ∨ Tidy text := by
  cases setting with
  | table origin members =>
    rw [readCustomHostnames] at h
    cases hfield : Table.find? "custom_hostnames" members with
    | none =>
      simp only [hfield] at h
      cases h
      cases mem
    | some field =>
      simp only [hfield] at h
      exact (mentions_or_tidy_of_readTexts h mem).imp_left (.member (Table.mem_of_find? hfield))
  | list origin items =>
    cases items with
    | nil =>
      cases h
      cases mem
    | cons field items =>
      exact (mentions_or_tidy_of_readTexts h mem).imp_left (.item List.mem_cons_self)
  | _ => cases h

/-! ### Custom hostnames -/

theorem tidy_of_mem_defaults (h : text ∈ Configuration.defaultCustomHostnames) : Tidy text := by
  have hall : ∀ hostname ∈ Configuration.defaultCustomHostnames,
      Solid hostname.toList ∧ hostname.toList ≠ [] := by
    decide +kernel
  exact (hall text h).1.tidy (hall text h).2

/-- The default settings mention the default hostnames below their section, and nothing else. -/
theorem mem_defaults_of_mentions (hmember : defaults.member? "blacklist" = some setting)
    (h : Mentions text setting) : text ∈ Configuration.defaultCustomHostnames := by
  rcases mentions_of_member?_putAll hmember h with
    ⟨key, value, hmem, hroot, hvalue⟩ | ⟨_, hold, _⟩
  · rcases List.mem_cons.mp hmem with heq | hmem
    · cases heq
      rw [ofKey_of_parse? parse?_ctLogUrlKey] at hroot
      exact absurd hroot (by decide)
    · cases List.mem_singleton.mp hmem
      exact mentions_texts hvalue
  · cases hold

/-- What an environment mentions is the value of a variable, or one of its pieces. -/
theorem mentions_ofVariable {key value : String} (h : Mentions text (ofVariable key value)) :
    text = value ∨ text ∈ commaPieces value := by
  cases hscalar : readScalar? value with
  | some scalar =>
    rw [ofVariable_scalar hscalar] at h
    rcases cases_of_readScalar? hscalar with ⟨_, rfl⟩ | ⟨_, rfl⟩ | ⟨_, rfl⟩ <;> cases h
  | none =>
    rw [ofVariable, hscalar] at h
    simp only at h
    split at h
    · exact .inr (mentions_texts h)
    · cases h
      exact .inl rfl

/-- A custom hostname that is read over the defaults is tidy, or an entry mentions it. -/
theorem tidy_or_mentionsBelow {hostnames : List String}
    (h : readSection readCustomHostnames "blacklist" (overDefaults entries) = .ok hostnames)
    (mem : text ∈ hostnames) : Tidy text ∨ MentionsBelow "blacklist" text entries := by
  rw [readSection] at h
  cases hmember : (overDefaults entries).member? "blacklist" with
  | none =>
    rw [hmember] at h
    cases h
  | some setting =>
    rw [hmember] at h
    rcases mentions_or_tidy_of_readCustomHostnames h mem with hmentions | htidy
    · rcases mentions_of_member?_overDefaults hmember hmentions with
        hbelow | ⟨default, hdefault, hmentions⟩
      · exact .inr hbelow
      · exact .inl (tidy_of_mem_defaults (mem_defaults_of_mentions hdefault hmentions))
    · exact .inl htidy

variable {file : Option Bytes} {environment : Environment} {c : Configuration}

/-- **A hostname is written among the settings**, below the section of the custom hostnames. -/
inductive Written (file : Option Bytes) (environment : Environment) (hostname : String) :
    Prop where
  /-- The settings file mentions it. -/
  | inFile {entries : List (String × Setting)} (read : entriesOfFile? file = .ok entries)
      (mentions : MentionsBelow "blacklist" hostname entries)
  /-- It is the value of a variable, or stands in it between two commas. -/
  | inVariable {name key value : String} (mem : (name, value) ∈ environment)
      (isKey : keyOfVariable? name = some key) (leads : (Path.ofKey key).root = "blacklist")
      (whole_or_piece : hostname = value ∨ hostname ∈ commaPieces value)

/-- What is mentioned is written in the file or in the environment. -/
theorem written_of_mentionsBelow (read : entriesOfFile? file = .ok entries)
    (h : MentionsBelow "blacklist" text (entries ++ entriesOfEnvironment environment)) :
    Written file environment text := by
  obtain ⟨key, value, hmem, hroot, hvalue⟩ := h
  rcases List.mem_append.mp hmem with hmem | hmem
  · exact .inFile read ⟨key, value, hmem, hroot, hvalue⟩
  · obtain ⟨⟨name, given⟩, hvariable, hentry⟩ := List.mem_filterMap.mp hmem
    obtain ⟨_, hkey, heq⟩ := Option.map_eq_some_iff.mp hentry
    cases heq
    exact .inVariable hvariable hkey hroot (mentions_ofVariable hvalue)

/-- **A custom hostname that is configured is tidy, or written as it is among the settings.** -/
theorem tidy_or_written_of_load (h : Configuration.load file environment = .ok c)
    (mem : text ∈ c.customHostnames) : Tidy text ∨ Written file environment text := by
  rw [Configuration.load] at h
  cases hentries : entriesOfFile? file with
  | error fault =>
    rw [hentries] at h
    cases h
  | ok entries =>
    rw [hentries] at h
    have hread := (readConfiguration_eq_ok_iff.mp h).customHostnames
    exact (tidy_or_mentionsBelow hread mem).imp_right (written_of_mentionsBelow hentries)

end Settings

end ForbiddenHosts
