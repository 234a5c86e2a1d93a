import ForbiddenHosts.Settings.Load
import Mathlib.Data.List.TakeWhile

/-!
# Layers of settings

The settings of the file and of the environment are collected in a tree of their own, and this tree
is laid over the defaults, section by section.  What comes of it is said here by the sections:
`member?_overDefaults` gives each section of the whole as the section that was collected, laid over
the default one.

Two things have to be known of a collected tree (`Collected`).  None of its tables at the first two
levels has two members of one name, so that laying members over others one after the other changes
each place once.  And the names of its sections are keys that name just themselves, although the
settings came under keys that may be any paths.
-/
namespace ForbiddenHosts

/-! ### Tables without repeated names -/

namespace Table

variable {α : Type} {name other : String} {f : Option α → α} {members : List (String × α)}

/-- No two members have one name. -/
def Distinct (members : List (String × α)) : Prop := (members.map Prod.fst).Nodup

theorem mem_names_change :
    other ∈ (change name f members).map Prod.fst ↔
      other = name ∨ other ∈ members.map Prod.fst := by
  induction members with
  | nil => simp [change]
  | cons m members ih =>
    obtain ⟨first, value⟩ := m
    by_cases h : first = name
    · subst h
      simp [change]
    · rw [change, if_neg h, List.map_cons, List.mem_cons, ih, List.map_cons, List.mem_cons]
      exact or_left_comm

theorem Distinct.change (h : Distinct members) : Distinct (change name f members) := by
  induction members with
  | nil => simp [Distinct, Table.change]
  | cons m members ih =>
    obtain ⟨first, value⟩ := m
    obtain ⟨hfirst, hmembers⟩ := List.nodup_cons.mp h
    by_cases heq : first = name
    · rw [Table.change, if_pos heq]
      exact h
    · rw [Table.change, if_neg heq]
      refine List.nodup_cons.mpr ⟨?_, ih hmembers⟩
      rw [mem_names_change, not_or]
      exact ⟨heq, hfirst⟩

theorem find?_eq_none (h : name ∉ members.map Prod.fst) : find? name members = none := by
  induction members with
  | nil => rfl
  | cons m members ih =>
    rw [List.map_cons, List.mem_cons, not_or] at h
    rw [find?, if_neg (Ne.symm h.1), ih h.2]

end Table

namespace Settings

/-! ### Keys -/

namespace Path

/-- The key names a member of the root, and nothing below it. -/
def Plain (key : String) : Prop := ofKey key = ⟨key, []⟩

theorem parse?_name {name : List Char} (hne : name ≠ []) (h : ∀ c ∈ name, isNameChar c = true) :
    parse? (String.ofList name) = some ⟨String.ofList name, []⟩ := by
  have htake : name.takeWhile isNameChar = name := List.takeWhile_eq_self_iff.mpr h
  have hdrop : name.dropWhile isNameChar = [] := List.dropWhile_eq_nil_iff.mpr h
  have hname : readName? name = some (String.ofList name, []) := by
    rw [readName?, htake, hdrop]
    cases name with
    | nil => exact absurd rfl hne
    | cons c name => rfl
  have hsteps : readSteps? [] = some [] := by
    rw [readSteps?]
    rfl
  rw [parse?, String.toList_ofList, hname]
  simp [hsteps]

/-- **The section that a key leads to has a plain name.** -/
theorem plain_root_ofKey (key : String) : Plain (ofKey key).root := by
  cases hparse : parse? key with
  | none =>
    have hkey : ofKey key = ⟨key, []⟩ := by rw [ofKey, hparse, Option.getD_none]
    rw [hkey, Plain, hkey]
  | some path =>
    have hkey : ofKey key = path := by rw [ofKey, hparse, Option.getD_some]
    -- the section is named by the run of name characters at the front of the key
    obtain ⟨⟨root, rest⟩, hname, hrest⟩ := Option.bind_eq_some_iff.mp hparse
    obtain ⟨steps, _, hpath⟩ := Option.bind_eq_some_iff.mp hrest
    cases hpath
    rw [hkey]
    rw [readName?] at hname
    split at hname
    · cases hname
    · rename_i name hne
      cases hname
      have hchars : ∀ c ∈ key.toList.takeWhile isNameChar, isNameChar c = true :=
        fun c hc => List.mem_takeWhile_imp hc
      rw [Plain, ofKey, parse?_name hne hchars, Option.getD_some]

end Path

/-! ### Laying over -/

namespace Setting

open Table

variable {root under setting value : Setting} {members : List (String × Setting)}

theorem member?_layMembersOver (h : Distinct members) (under : Setting) (name : String) :
    (layMembersOver members under).member? name =
      match find? name members with
      | some value => some (layOver value ((under.member? name).getD blank))
      | none => under.member? name := by
  induction members generalizing under with
  | nil => rw [layMembersOver, find?]
  | cons m members ih =>
    obtain ⟨first, value⟩ := m
    obtain ⟨hfirst, hmembers⟩ := List.nodup_cons.mp h
    rw [layMembersOver, ih hmembers, find?]
    by_cases heq : first = name
    · subst heq
      rw [if_pos rfl, find?_eq_none hfirst, member?_changeMember_self]
    · rw [if_neg heq, member?_changeMember_of_ne (Ne.symm heq)]

/-- What members are laid over is, if it was none already, a table afterwards. -/
theorem exists_layMembersOver_eq_table (members : List (String × Setting)) (origin : Origin)
    (old : List (String × Setting)) :
    ∃ new, layMembersOver members (table origin old) = table origin new := by
  induction members generalizing old with
  | nil => exact ⟨old, by rw [layMembersOver]⟩
  | cons m members ih =>
    obtain ⟨name, value⟩ := m
    rw [layMembersOver, changeMember]
    exact ih _

theorem distinct_changeMember {name : String} {f : Setting → Setting}
    (h : Distinct setting.members) : Distinct (setting.changeMember name f).members :=
  h.change

theorem distinct_layMembersOver (h : Distinct under.members) :
    Distinct (layMembersOver members under).members := by
  induction members generalizing under with
  | nil => rwa [layMembersOver]
  | cons m members ih =>
    obtain ⟨name, value⟩ := m
    rw [layMembersOver]
    exact ih (distinct_changeMember h)

theorem distinct_layOver (value : Setting) (h : Distinct under.members) :
    Distinct (layOver value under).members := by
  cases value with
  | table origin members =>
    rw [layOver]
    exact distinct_layMembersOver h
  | _ => exact List.nodup_nil

theorem distinct_change (value : Setting) (steps : List Step) (h : Distinct setting.members) :
    Distinct (change (layOver value) steps setting).members := by
  cases steps with
  | nil => exact distinct_layOver value h
  | cons step steps =>
    cases step with
    | member name => exact distinct_changeMember h
    | item index => exact List.nodup_nil

/-! ### Collected trees -/

/-- A tree in which settings were collected. -/
structure Collected (root : Setting) : Prop where
  /-- Each section is there once. -/
  distinct : Distinct root.members
  /-- The names of the sections are plain keys. -/
  plain : ∀ name ∈ root.members.map Prod.fst, Path.Plain name
  /-- Each member of a section is there once. -/
  sections : ∀ name value, root.member? name = some value → Distinct value.members

theorem collected_noSettings : Collected noSettings where
  distinct := List.nodup_nil
  plain _ h := absurd h List.not_mem_nil
  sections _ _ h := by cases h

theorem distinct_member (h : Collected root) (name : String) :
    Distinct ((root.member? name).getD blank).members := by
  cases hmember : root.member? name with
  | none => exact List.nodup_nil
  | some value => exact h.sections name value hmember

/-- **Collecting one more setting**, under whatever key. -/
theorem Collected.put (h : Collected root) (key : String) (value : Setting) :
    Collected (root.put (.ofKey key) value) where
  distinct := distinct_changeMember h.distinct
  plain := by
    intro name hname
    rcases mem_names_change.mp hname with rfl | hname
    · exact Path.plain_root_ofKey key
    · exact h.plain name hname
  sections := by
    intro name found hfound
    rw [Setting.put] at hfound
    by_cases hname : name = (Path.ofKey key).root
    · subst hname
      rw [member?_changeMember_self] at hfound
      cases hfound
      exact distinct_change value _ (distinct_member h _)
    · rw [member?_changeMember_of_ne hname] at hfound
      exact h.sections name found hfound

theorem Collected.putAll (h : Collected root) (entries : List (String × Setting)) :
    Collected (root.putAll entries) := by
  induction entries generalizing root with
  | nil => exact h
  | cons entry entries ih => exact ih (h.put entry.1 entry.2)

theorem collected_putAll (entries : List (String × Setting)) :
    Collected (noSettings.putAll entries) := collected_noSettings.putAll entries

/-- A setting that is collected last is put into what was collected. -/
theorem putAll_concat (root : Setting) (entries : List (String × Setting)) (key : String)
    (value : Setting) :
    root.putAll (entries ++ [(key, value)]) = (root.putAll entries).put (.ofKey key) value := by
  rw [Setting.putAll, List.foldl_append]
  rfl

/-- A setting that takes the place of whatever it is laid over. -/
def Replaces (value : Setting) : Prop := ∀ under, layOver value under = value

/-- Only a table is laid over what is there. -/
theorem replaces_of_ne_table {value : Setting}
    (h : ∀ origin members, value ≠ .table origin members) : Replaces value := by
  intro under
  rw [layOver]
  exact h

theorem member?_changeMember_replaces (h : Replaces value) (setting : Setting) (name : String) :
    (setting.changeMember name (layOver value)).member? name = some value := by
  rw [member?_changeMember_self, h]

/-- Settings under plain keys are laid over the members of the root. -/
theorem putAll_eq_layMembersOver (h : ∀ name ∈ members.map Prod.fst, Path.Plain name)
    (root : Setting) : root.putAll members = layMembersOver members root := by
  induction members generalizing root with
  | nil => rw [layMembersOver, Setting.putAll, List.foldl_nil]
  | cons m members ih =>
    obtain ⟨name, value⟩ := m
    have hplain : Path.ofKey name = ⟨name, []⟩ := h name List.mem_cons_self
    have hput : root.put (.ofKey name) value = root.changeMember name (layOver value) := by
      rw [hplain]
      rfl
    rw [layMembersOver, ← hput, ← ih fun other hother => h other (List.mem_cons_of_mem _ hother)]
    rfl

end Setting

open Setting

/-- **The sections of the settings over the defaults.** -/
theorem member?_overDefaults (entries : List (String × Setting)) (name : String) :
    (overDefaults entries).member? name =
      match (noSettings.putAll entries).member? name with
      | some value => some (layOver value ((defaults.member? name).getD blank))
      | none => defaults.member? name := by
  have hcollected := collected_putAll entries
  rw [overDefaults, putAll_eq_layMembersOver hcollected.plain,
    member?_layMembersOver hcollected.distinct]
  rfl

end Settings

end ForbiddenHosts
