import ForbiddenHosts.CommandLine
import ForbiddenHosts.Proofs.Url.Encoding

/-!
# Steps of reading a command line

A step takes one argument.  What it does depends on how the argument looks, on what is pending and
on whether the separator has been read.  `Took` lists the five things that it can do without
refusing, and `took_of_take` says that there is no sixth.  The equations for the option
(`take_bareOption`, `take_joinedOption`) say in addition when it is refused: exactly when what is
pending cannot be settled, and then the program ends with a usage error (`exitCode_of_settle`).

No URL starts with a hyphen (`head?_ne_of_parse`), so what looks like an option is never read as the
URL, not even after the separator.
-/
namespace ForbiddenHosts

namespace Url

/-- A text that starts with a hyphen keeps it when it is stripped. -/
theorem strip_hyphen (text : List Char) : ∃ rest, strip ('-' :: text) = '-' :: rest := by
  have hfront : ('-' :: text).dropWhile (· ≤ ' ') = '-' :: text := by
    rw [List.dropWhile_cons_of_neg (by decide)]
  rw [strip, hfront, Text.dropEndWhile, List.reverse_cons, List.dropWhile_append]
  by_cases hempty : (text.reverse.dropWhile (· ≤ ' ')).isEmpty
  · refine ⟨[], ?_⟩
    rw [if_pos hempty, List.dropWhile_cons_of_neg (by decide)]
    rfl
  · refine ⟨(text.reverse.dropWhile (· ≤ ' ')).reverse, ?_⟩
    rw [if_neg hempty, List.reverse_append]
    rfl

/-- A URL does not start with a hyphen: its scheme starts with a letter. -/
theorem head?_ne_of_parse {text : String} {u : Url} (h : Url.parse text = .ok u) :
    text.toList.head? ≠ some '-' := by
  intro hhead
  obtain ⟨rest, hrest⟩ : ∃ rest, text.toList = '-' :: rest := List.head?_eq_some_iff.mp hhead
  obtain ⟨stripped, hstrip⟩ := strip_hyphen rest
  have hscheme (name : List Char) : readScheme? (dropBreaks ('-' :: name)) = none := by
    simp [dropBreaks, readScheme?, show isBreak '-' = false from rfl,
      show ('-').isAlpha = false from rfl]
  -- whether or not there is a colon, the hyphen is the first character before it
  have hcut : ∃ name back, cutAt ':' ('-' :: stripped) = ('-' :: name, back) := by
    rw [cutAt]
    split
    · exact ⟨_, _, rfl⟩
    · exact ⟨stripped.takeWhile (· != ':'), _, rfl⟩
  obtain ⟨name, back, hcut⟩ := hcut
  rw [parse, hrest, hstrip, hcut] at h
  simp only [hscheme] at h
  cases back <;> cases h

end Url

namespace CommandLine

/-! ### Looks -/

/-- Looks like no option: a lone hyphen, or no hyphen at the start. -/
def LooksPlain (text : String) : Prop := text = "-" ∨ text.toList.head? ≠ some '-'

/-- The option without its value. -/
def bareOption : String := "--custom-hostname"

/-- The option with its value. -/
def joinedOption (value : String) : String := bareOption ++ "=" ++ value

theorem toList_bareOption : bareOption.toList = '-' :: '-' :: "custom-hostname".toList := by
  decide +kernel

theorem toList_joinedOption (value : String) :
    (joinedOption value).toList =
      '-' :: '-' :: ("custom-hostname".toList ++ '=' :: value.toList) := by
  simp [joinedOption, toList_bareOption]

namespace Argument

variable {text : String}

theorem ofString_of_looksPlain (h : LooksPlain text) : ofString text = plain text := by
  rcases h with rfl | hhead
  · rfl
  · rw [ofString]
    split <;> simp_all

theorem eq_of_ofString_eq_plain {given : String} (h : ofString text = plain given) :
    given = text := by
  rw [ofString] at h
  split at h <;> simp_all

/-- Two hyphens with something after them start an option with a long name. -/
theorem ofString_long {rest : List Char} (h : text.toList = '-' :: '-' :: rest)
    (hrest : rest ≠ []) :
    ofString text =
      long (String.ofList (Url.cutAt '=' rest).1) ((Url.cutAt '=' rest).2.map String.ofList) := by
  obtain ⟨c, others, rfl⟩ := List.exists_cons_of_ne_nil hrest
  rw [ofString, h]
  rfl

theorem not_mem_name : '=' ∉ "custom-hostname".toList := by decide +kernel

theorem ofString_bareOption : ofString bareOption = long "custom-hostname" none := by
  rw [ofString_long toList_bareOption (by decide +kernel), Url.cutAt_of_not_mem not_mem_name,
    String.ofList_toList]
  rfl

theorem ofString_joinedOption (value : String) :
    ofString (joinedOption value) = long "custom-hostname" (some value) := by
  rw [ofString_long (toList_joinedOption value) (by simp), Url.cutAt_append not_mem_name,
    String.ofList_toList, Option.map_some, String.ofList_toList]

end Argument

/-- What comes of two readings, one after the other, if neither is refused. -/
theorem exists_of_bind_eq_ok {α β : Type} {first : Except Refusal α}
    {second : α → Except Refusal β} {b : β} (h : (first >>= second) = .ok b) :
    ∃ a, first = .ok a ∧ second a = .ok b := by
  cases hfirst : first with
  | error refusal =>
    rw [hfirst] at h
    cases h
  | ok a =>
    rw [hfirst] at h
    exact ⟨a, rfl, h⟩

namespace State

variable {s t : State} {text : String}

/-! ### What is pending -/

/-- What is pending can be settled exactly if it is nothing or a URL. -/
theorem settle_eq_ok_iff :
    s.settle = .ok t ↔
      (s.pending = .nothing ∧ t = s) ∨
        ∃ given url, s.pending = .positional given ∧ Url.parse given = .ok url ∧
          t = { s with url := some url, pending := .nothing } := by
  rw [settle]
  cases hpending : s.pending with
  | nothing => simp [eq_comm]
  | positional given => cases hparse : Url.parse given <;> simp [hparse, eq_comm]
  | option => simp

theorem settle_of_nothing (h : s.pending = .nothing) : s.settle = .ok s := by
  rw [settle, h]

theorem pending_of_settle (h : s.settle = .ok t) : t.pending = .nothing := by
  rcases settle_eq_ok_iff.mp h with ⟨hpending, rfl⟩ | ⟨given, url, _, _, rfl⟩
  · exact hpending
  · rfl

theorem separated_of_settle (h : s.settle = .ok t) : t.separated = s.separated := by
  rcases settle_eq_ok_iff.mp h with ⟨_, rfl⟩ | ⟨given, url, _, _, rfl⟩ <;> rfl

theorem hasPositional_of_settle (h : s.settle = .ok t) : t.hasPositional = s.hasPositional := by
  rcases settle_eq_ok_iff.mp h with ⟨_, rfl⟩ | ⟨given, url, hpending, _, rfl⟩
  · rfl
  · simp [hasPositional, hpending]

/-- What cannot be settled is no request for help. -/
theorem exitCode_of_settle {refusal : Refusal} (h : s.settle = .error refusal) :
    refusal.exitCode = 2 := by
  rw [settle] at h
  split at h
  · cases h
  · split at h <;> cases h
    rfl
  · cases h
    rfl

/-! ### What a step does -/

/-- **A step that takes an argument**, by the state that it leaves. -/
inductive Took (s : State) (text : String) : State → Prop where
  /-- The argument is the first positional one. -/
  | positional (idle : s.pending = .nothing) (free : s.url = none)
      (looks : s.separated = true ∨ Argument.ofString text = .plain text) :
      Took s text { s with pending := .positional text }
  /-- The argument is the value that the option waits for. -/
  | value (unseparated : s.separated = false) (waiting : s.pending = .option)
      (looks : Argument.ofString text = .plain text) :
      Took s text { s with hostnames := text :: s.hostnames, pending := .nothing }
  /-- The argument is the separator. -/
  | separator (unseparated : s.separated = false) (looks : Argument.ofString text = .separator) :
      Took s text { s with separated := true }
  /-- The argument is the option with its value. -/
  | joined {settled : State} {value : String} (unseparated : s.separated = false)
      (looks : Argument.ofString text = .long "custom-hostname" (some value))
      (settles : s.settle = .ok settled) :
      Took s text { settled with hostnames := value :: settled.hostnames }
  /-- The argument is the option, and its value is to come. -/
  | bare {settled : State} (unseparated : s.separated = false)
      (looks : Argument.ofString text = .long "custom-hostname" none)
      (settles : s.settle = .ok settled) :
      Took s text { settled with pending := .option }

theorem takePositional_eq_ok_iff :
    s.takePositional text = .ok t ↔
      s.pending = .nothing ∧ s.url = none ∧ t = { s with pending := .positional text } := by
  rw [takePositional]
  cases hpending : s.pending <;> cases hurl : s.url <;>
    simp [hasPositional, settle, hpending, hurl, bind, Except.bind, pure, Except.pure, eq_comm]

theorem took_of_takePlain (unseparated : s.separated = false)
    (looks : Argument.ofString text = .plain text) (h : s.takePlain text = .ok t) :
    Took s text t := by
  rw [takePlain] at h
  split at h
  · next hwaiting =>
    cases h
    exact .value unseparated hwaiting.1 looks
  · obtain ⟨idle, free, rfl⟩ := takePositional_eq_ok_iff.mp h
    exact .positional idle free (.inr looks)

/-- **A step that is not refused does one of five things.** -/
theorem took_of_take (h : s.take text = .ok t) : Took s text t := by
  rw [take] at h
  split at h
  · next hseparated =>
    obtain ⟨idle, free, rfl⟩ := takePositional_eq_ok_iff.mp h
    exact .positional idle free (.inl hseparated)
  next hnot =>
  have unseparated : s.separated = false := Bool.eq_false_iff.mpr hnot
  split at h
  · next looks =>
    cases h
    exact .separator unseparated looks
  · next name value looks =>
    split at h
    · next hname =>
      subst hname
      obtain ⟨settled, settles, h⟩ := exists_of_bind_eq_ok h
      cases value with
      | none =>
        cases h
        exact .bare unseparated looks settles
      | some value =>
        cases h
        exact .joined unseparated looks settles
    · -- an option of another name is refused, also the request for help
      split at h
      · cases value with
        | none =>
          obtain ⟨settled, settles, h⟩ := exists_of_bind_eq_ok h
          cases h
        | some value => cases h
      · cases h
  · -- and so is every short option
    split at h
    · obtain ⟨settled, settles, h⟩ := exists_of_bind_eq_ok h
      cases h
    · cases h
  · next given looks =>
    cases Argument.eq_of_ofString_eq_plain looks
    exact took_of_takePlain unseparated looks h

/-- The option without its value settles what is pending and waits. -/
theorem take_bareOption (h : s.separated = false) :
    s.take bareOption = s.settle.map fun settled => { settled with pending := .option } := by
  rw [take, h, Argument.ofString_bareOption]
  cases s.settle <;> rfl

/-- The option with its value settles what is pending and keeps the value. -/
theorem take_joinedOption (h : s.separated = false) (value : String) :
    s.take (joinedOption value) =
      s.settle.map fun settled => { settled with hostnames := value :: settled.hostnames } := by
  rw [take, h, Argument.ofString_joinedOption]
  cases s.settle <;> rfl

theorem take_of_looksPlain (h : s.separated = false) (hlooks : LooksPlain text) :
    s.take text = s.takePlain text := by
  rw [take, h, Argument.ofString_of_looksPlain hlooks]
  rfl

end State

/-! ### What a command line comes to -/

/-- A command line is accepted exactly if no argument is refused, what is pending at the end can be
settled, and there is a URL then. -/
theorem parse_eq_ok_iff {arguments : List String} {c : CommandLine} :
    parse arguments = .ok c ↔
      ∃ last settled, arguments.foldlM State.take State.start = .ok last ∧
        last.settle = .ok settled ∧ settled.url = some c.apiUrl ∧
        settled.hostnames.reverse = c.customHostnames := by
  constructor
  · intro h
    obtain ⟨last, hread, hfinish⟩ := exists_of_bind_eq_ok h
    obtain ⟨settled, settles, hend⟩ := exists_of_bind_eq_ok hfinish
    refine ⟨last, settled, hread, settles, ?_⟩
    cases hurl : settled.url with
    | none =>
      rw [hurl] at hend
      cases hend
    | some url =>
      rw [hurl] at hend
      cases hend
      exact ⟨rfl, rfl⟩
  · rintro ⟨last, ⟨url, hostnames, pending, separated⟩, hread, settles, hurl, hhostnames⟩
    obtain ⟨apiUrl, customHostnames⟩ := c
    have hhostnames : hostnames.reverse = customHostnames := hhostnames
    subst hhostnames
    cases hurl
    rw [parse, hread]
    show last.finish = _
    rw [State.finish, settles]
    rfl

end CommandLine

end ForbiddenHosts
