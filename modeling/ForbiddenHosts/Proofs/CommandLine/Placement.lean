import ForbiddenHosts.Proofs.CommandLine.Steps

/-!
# Where the arguments stand and how they are spelled

A command line has its URL and any number of options, the URL anywhere before, between or behind
them, and each option in one of two spellings (`Given`).  `ReadAnywhere` says that neither the place
of the URL nor the spelling of an option matters: the URL is read, and the values are kept as they
stand, in their order.  Without the URL, or with one more argument that looks like no option, the
command line is refused.

Whatever is pending before an option, the option settles it and adds its value, in either spelling
(`foldlM_given`).  From a settled state a sequence of options therefore only adds values, by
induction (`foldlM_argumentsOf`); and the URL is the only thing that can be pending.  A second
positional argument finds the first one pending, or settled by an option in between
(`usageError_of_two`).  Where such an argument can be put without becoming a value is a matter of
lists (`exists_split`).
-/
namespace ForbiddenHosts.CommandLine

/-! ### Options as they are given -/

/-- The option as it is given once. -/
inductive Given where
  /-- The value is an argument of its own, which must look like no option. -/
  | apart (value : String) (plain : LooksPlain value)
  /-- The value follows the equals sign, whatever it is. -/
  | joined (value : String)

namespace Given

/-- The value of the option. -/
def value : Given → String
  | apart value _ => value
  | joined value => value

/-- The arguments that give the option. -/
def arguments : Given → List String
  | apart value _ => [bareOption, value]
  | joined value => [joinedOption value]

end Given

/-- The arguments that give a sequence of options. -/
def argumentsOf (givens : List Given) : List String := givens.flatMap Given.arguments

/-- A command line with its URL between two sequences of options. -/
def around (before : List Given) (u : String) (after : List Given) : List String :=
  argumentsOf before ++ u :: argumentsOf after

/-- The command line is refused, and not because it asks for help. -/
def UsageError (arguments : List String) : Prop :=
  ∃ refusal, parse arguments = .error refusal ∧ refusal.exitCode = 2

variable {given : Given} {givens before after : List Given} {u : String} {url : Url}

theorem argumentsOf_cons : argumentsOf (given :: givens) = given.arguments ++ argumentsOf givens :=
  List.flatMap_cons

theorem argumentsOf_append (first second : List Given) :
    argumentsOf (first ++ second) = argumentsOf first ++ argumentsOf second :=
  List.flatMap_append

/-! ### Reading options -/

namespace State

variable {s t : State}

/-- Adds values of the option, the first one first. -/
def keep (s : State) (values : List String) : State :=
  { s with hostnames := values.reverse ++ s.hostnames }

@[simp] theorem pending_keep (values : List String) : (s.keep values).pending = s.pending := rfl

theorem keep_keep (first second : List String) :
    (s.keep first).keep second = s.keep (first ++ second) := by
  simp [keep]

/-- A waiting option takes what looks like no option for its value. -/
theorem take_value {value : String} (hseparated : s.separated = false)
    (hpending : s.pending = .option) (plain : LooksPlain value) :
    s.take value = .ok { s with hostnames := value :: s.hostnames, pending := .nothing } := by
  rw [take_of_looksPlain hseparated plain, takePlain, if_pos ⟨hpending, hseparated⟩]

/-- **An option settles what is pending and adds its value**, in either spelling. -/
theorem foldlM_given (hseparated : s.separated = false) :
    given.arguments.foldlM take s = s.settle.map (·.keep [given.value]) := by
  cases given with
  | apart value plain =>
    rw [Given.arguments, List.foldlM_cons, take_bareOption hseparated]
    cases settles : s.settle with
    | error refusal => rfl
    | ok settled =>
      obtain ⟨url, hostnames, pending, separated⟩ := settled
      have hnone : separated = false := (separated_of_settle settles).trans hseparated
      have hnothing : pending = .nothing := pending_of_settle settles
      have htake := take_value (s := ⟨url, hostnames, .option, separated⟩) hnone rfl plain
      show List.foldlM take (⟨url, hostnames, .option, separated⟩ : State) [value] = _
      rw [List.foldlM_cons, htake, hnothing]
      rfl
  | joined value =>
    rw [Given.arguments, List.foldlM_cons, take_joinedOption hseparated]
    cases s.settle <;> rfl

/-- **From a settled state a sequence of options only adds its values.** -/
theorem foldlM_argumentsOf (givens : List Given) (hpending : s.pending = .nothing)
    (hseparated : s.separated = false) :
    (argumentsOf givens).foldlM take s = .ok (s.keep (givens.map Given.value)) := by
  induction givens generalizing s with
  | nil => rfl
  | cons given givens ih =>
    have hrest := ih (s := s.keep [given.value]) hpending hseparated
    rw [argumentsOf_cons, List.foldlM_append, foldlM_given hseparated, settle_of_nothing hpending]
    exact hrest.trans (congrArg Except.ok (keep_keep _ _))

/-- An option, and what follows it: what was pending is settled, or refused. -/
theorem foldlM_argumentsOf_cons (hseparated : s.separated = false) :
    (argumentsOf (given :: givens)).foldlM take s =
      s.settle.map (·.keep ((given :: givens).map Given.value)) := by
  rw [argumentsOf_cons, List.foldlM_append, foldlM_given hseparated]
  cases settles : s.settle with
  | error refusal => rfl
  | ok settled =>
    have hpending := pending_of_settle settles
    have hsettled := (separated_of_settle settles).trans hseparated
    have hrest := foldlM_argumentsOf (s := settled.keep [given.value]) givens hpending hsettled
    exact hrest.trans (congrArg Except.ok (keep_keep _ _))

/-- What is pending before a sequence of options is settled by the end of it at the latest. -/
theorem foldlM_argumentsOf_settle (hseparated : s.separated = false) :
    ((argumentsOf givens).foldlM take s >>= settle) =
      s.settle.map (·.keep (givens.map Given.value)) := by
  cases givens with
  | nil =>
    show s.settle = _
    cases s.settle <;> rfl
  | cons given givens =>
    rw [foldlM_argumentsOf_cons hseparated]
    cases settles : s.settle with
    | error refusal => rfl
    | ok settled =>
      have hpending : (settled.keep ((given :: givens).map Given.value)).pending = .nothing :=
        (pending_keep _).trans (pending_of_settle settles)
      exact settle_of_nothing hpending

end State

/-! ### One positional argument -/

namespace State

/-- The option was given with these values, and then came a positional argument. -/
def afterPositional (values : List String) (text : String) : State :=
  ⟨none, values.reverse, .positional text, false⟩

theorem settle_afterPositional (h : Url.parse u = .ok url) (values : List String) :
    (afterPositional values u).settle = .ok ⟨some url, values.reverse, .nothing, false⟩ := by
  simp only [afterPositional, settle, h]

end State

/-- What is read of a sequence of options. -/
theorem foldlM_start : (argumentsOf givens).foldlM State.take State.start =
    .ok (State.start.keep (givens.map Given.value)) :=
  State.foldlM_argumentsOf givens rfl rfl

/-- What is read of a sequence of options and a positional argument. -/
theorem foldlM_positional (plain : LooksPlain u) :
    (argumentsOf givens ++ [u]).foldlM State.take State.start =
      .ok (.afterPositional (givens.map Given.value) u) := by
  rw [List.foldlM_append, foldlM_start]
  show List.foldlM State.take (State.start.keep (givens.map Given.value)) [u] = _
  rw [List.foldlM_cons, State.take_of_looksPlain rfl plain, State.afterPositional,
    ← List.append_nil (givens.map Given.value).reverse]
  rfl

theorem looksPlain_of_parse (h : Url.parse u = .ok url) : LooksPlain u :=
  .inr (Url.head?_ne_of_parse h)

/-- Reading ends with the URL that there is when everything is settled. -/
theorem parse_of_settled {arguments values : List String}
    (h : (arguments.foldlM State.take State.start >>= State.settle) =
      .ok ⟨some url, values.reverse, .nothing, false⟩) :
    parse arguments = .ok ⟨url, values⟩ := by
  obtain ⟨last, hread, settles⟩ := exists_of_bind_eq_ok h
  exact parse_eq_ok_iff.mpr ⟨last, _, hread, settles, rfl, List.reverse_reverse values⟩

/-- Behind a positional argument the options are read from the state that it leaves. -/
theorem foldlM_around (plain : LooksPlain u) :
    (around before u after).foldlM State.take State.start =
      (argumentsOf after).foldlM State.take (.afterPositional (before.map Given.value) u) := by
  rw [around, ← List.singleton_append, ← List.append_assoc, List.foldlM_append,
    foldlM_positional plain]
  rfl

/-- **The URL is read wherever it stands, and every value is kept.** -/
theorem parse_around (h : Url.parse u = .ok url) :
    parse (around before u after) = .ok ⟨url, (before ++ after).map Given.value⟩ := by
  refine parse_of_settled ?_
  rw [foldlM_around (looksPlain_of_parse h), State.foldlM_argumentsOf_settle rfl,
    State.settle_afterPositional h, List.map_append, List.reverse_append]
  rfl

/-- Options alone are no command line. -/
theorem parse_argumentsOf : parse (argumentsOf givens) = .error .missingUrl := by
  rw [parse, foldlM_start]
  rfl

/-! ### Two positional arguments -/

/-- What is refused at the start of a command line is refused. -/
theorem parse_append_of_error {first : List String} {refusal : Refusal}
    (h : first.foldlM State.take State.start = .error refusal) (second : List String) :
    parse (first ++ second) = .error refusal := by
  rw [parse, List.foldlM_append, h]
  rfl

/-- A second positional argument is refused, unless the option waits for its value. -/
theorem State.take_of_hasPositional {s : State} {text : String} (hseparated : s.separated = false)
    (hpositional : s.hasPositional = true) (hpending : s.pending ≠ .option)
    (plain : LooksPlain text) : s.take text = .error (.unknownArgument text) := by
  rw [take_of_looksPlain hseparated plain, takePlain, if_neg fun h => hpending h.1, takePositional,
    if_pos hpositional]

/-- Behind a positional argument and options there is still a positional argument, if nothing has
been refused. -/
theorem foldlM_around_cases (plain : LooksPlain u) (before after : List Given) :
    (∃ refusal, (around before u after).foldlM State.take State.start = .error refusal ∧
        refusal.exitCode = 2) ∨
      ∃ t : State, (around before u after).foldlM State.take State.start = .ok t ∧
        t.separated = false ∧ t.hasPositional = true ∧ t.pending ≠ .option := by
  rw [foldlM_around plain]
  cases after with
  | nil => exact .inr ⟨_, rfl, rfl, rfl, by simp [State.afterPositional]⟩
  | cons given givens =>
    rw [State.foldlM_argumentsOf_cons rfl]
    cases settles : (State.afterPositional (before.map Given.value) u).settle with
    | error refusal => exact .inl ⟨refusal, rfl, State.exitCode_of_settle settles⟩
    | ok settled =>
      refine .inr ⟨_, rfl, ?_, ?_, ?_⟩
      · exact State.separated_of_settle settles
      · exact State.hasPositional_of_settle settles
      · rw [State.pending_keep, State.pending_of_settle settles]
        simp

/-- **With a second positional argument a command line is refused**, whatever the two are. -/
theorem usageError_of_two {p q : String} (hp : LooksPlain p) (hq : LooksPlain q)
    (before after : List Given) (rest : List String) :
    UsageError (argumentsOf before ++ p :: (argumentsOf after ++ q :: rest)) := by
  have hassoc : argumentsOf before ++ p :: (argumentsOf after ++ q :: rest) =
      around before p after ++ q :: rest := by
    rw [around, List.append_assoc, List.cons_append]
  rw [hassoc]
  rcases foldlM_around_cases hp before after with
    ⟨refusal, hfold, hcode⟩ | ⟨t, hfold, hseparated, hpositional, hpending⟩
  · exact ⟨refusal, parse_append_of_error hfold _, hcode⟩
  · have hsecond : (around before p after ++ [q]).foldlM State.take State.start =
        .error (.unknownArgument q) := by
      rw [List.foldlM_append, hfold]
      show List.foldlM State.take t [q] = _
      rw [List.foldlM_cons, State.take_of_hasPositional hseparated hpositional hpending hq]
      rfl
    refine ⟨.unknownArgument q, ?_, rfl⟩
    rw [← List.singleton_append, ← List.append_assoc]
    exact parse_append_of_error hsecond rest

/-! ### Places for one more argument -/

/-- A place that is not right behind the option is between two options. -/
theorem exists_split {pre post : List String} (h : argumentsOf givens = pre ++ post)
    (hlast : pre.getLast? ≠ some bareOption) :
    ∃ first second, pre = argumentsOf first ∧ post = argumentsOf second := by
  induction givens generalizing pre with
  | nil =>
    obtain ⟨rfl, rfl⟩ := List.append_eq_nil_iff.mp h.symm
    exact ⟨[], [], rfl, rfl⟩
  | cons given givens ih =>
    have behind (back : List String) (hback : argumentsOf givens = back ++ post)
        (hpre : pre = given.arguments ++ back) :
        ∃ first second, pre = argumentsOf first ∧ post = argumentsOf second := by
      have hlast : back.getLast? ≠ some bareOption := by
        intro hbare
        rw [hpre, List.getLast?_append, hbare] at hlast
        exact hlast rfl
      obtain ⟨first, second, rfl, rfl⟩ := ih hback hlast
      exact ⟨given :: first, second, hpre.trans argumentsOf_cons.symm, rfl⟩
    rw [argumentsOf_cons] at h
    cases pre with
    | nil => exact ⟨[], given :: givens, rfl, h.symm.trans argumentsOf_cons.symm⟩
    | cons head pre =>
      cases given with
      | joined value =>
        obtain ⟨rfl, hback⟩ := List.cons.inj h
        exact behind pre hback rfl
      | apart value plain =>
        obtain ⟨rfl, htail⟩ := List.cons.inj h
        cases pre with
        | nil => exact absurd rfl hlast
        | cons given pre =>
          obtain ⟨rfl, hback⟩ := List.cons.inj htail
          exact behind pre hback rfl

/-- **One more argument that looks like no option is refused**, wherever it stands but right behind
an option that waits for its value. -/
theorem usageError_insert {x : String} {pre post : List String} (hu : LooksPlain u)
    (hx : LooksPlain x) (h : around before u after = pre ++ post)
    (hlast : pre.getLast? ≠ some bareOption) : UsageError (pre ++ x :: post) := by
  rcases List.append_eq_append_iff.mp h with ⟨back, rfl, hback⟩ | ⟨back, hfront, rfl⟩
  · cases back with
    | nil =>
      -- right before the URL
      cases hback
      rw [List.append_nil]
      exact usageError_of_two hx hu before [] (argumentsOf after)
    | cons head back =>
      obtain ⟨rfl, hrest⟩ := List.cons.inj hback
      have hback : back.getLast? ≠ some bareOption := by
        intro hbare
        rw [List.getLast?_append, List.getLast?_cons, hbare] at hlast
        exact hlast rfl
      obtain ⟨first, second, rfl, rfl⟩ := exists_split hrest hback
      rw [List.append_assoc, List.cons_append]
      exact usageError_of_two hu hx before first (argumentsOf second)
  · obtain ⟨first, second, rfl, rfl⟩ := exists_split hfront hlast
    exact usageError_of_two hx hu first second (argumentsOf after)

/-! ### Every place and spelling -/

/-- **A command line is read in the same way wherever its URL stands and however its options are
spelled.** -/
structure ReadAnywhere (u : String) (url : Url) (before after : List Given) : Prop where
  /-- The URL is read, and the values are kept as they stand, in their order. -/
  parsed : parse (around before u after) = .ok ⟨url, (before ++ after).map Given.value⟩
  /-- If there is an option, the values are the custom hostnames, whatever is configured. -/
  replaced : before ++ after ≠ [] → ∀ c, parse (around before u after) = .ok c →
    ∀ configured, c.customHostnamesOr configured = (before ++ after).map Given.value
  /-- Without an option the configured ones are. -/
  fallback : before ++ after = [] → ∀ c, parse (around before u after) = .ok c →
    ∀ configured, c.customHostnamesOr configured = configured
  /-- Without the URL the command line is refused. -/
  withoutUrl : UsageError (argumentsOf before ++ argumentsOf after)
  /-- With one more argument that looks like no option it is refused too, unless that stands right
  behind an option without a value. -/
  withAnother : ∀ pre post x, around before u after = pre ++ post →
    pre.getLast? ≠ some bareOption → LooksPlain x → UsageError (pre ++ x :: post)

/-- **Every command line with a URL and options is read so**, for every place of the URL and every
spelling of each option. -/
theorem readAnywhere (h : Url.parse u = .ok url) (before after : List Given) :
    ReadAnywhere u url before after where
  parsed := parse_around h
  replaced hgiven c hparse configured := by
    cases (parse_around h).symm.trans hparse
    rw [customHostnamesOr, if_neg (by simpa [List.isEmpty_iff] using hgiven)]
  fallback hnone c hparse configured := by
    cases (parse_around h).symm.trans hparse
    rw [customHostnamesOr, hnone]
    rfl
  withoutUrl := by
    rw [← argumentsOf_append]
    exact ⟨.missingUrl, parse_argumentsOf, rfl⟩
  withAnother pre post x hplace hlast hx :=
    usageError_insert (looksPlain_of_parse h) hx hplace hlast

/-- Two options before the URL: a value that looks like an option and has an equals sign, and a lone
hyphen. -/
def mixedBefore : List Given := [.joined "-a=b", .apart "-" (.inl rfl)]

/-- Three options behind it: an empty value in each spelling, and a value that was given before. -/
def mixedAfter : List Given := [.apart "" (.inr (by simp)), .joined "", .joined "-"]

/-- The URL between them. -/
def mixedUrl : Url where
  scheme := "http"
  authority := some ⟨"", none, .name "config.example", none⟩
  path := .rooted [""]
  query := none
  fragment := none

/-- Of a command line with both spellings on both sides of its URL. -/
theorem readAnywhere_mixed :
    Url.parse "HTTP://config.example" = .ok mixedUrl ∧
      around mixedBefore "HTTP://config.example" mixedAfter =
        ["--custom-hostname=-a=b", "--custom-hostname", "-", "HTTP://config.example",
          "--custom-hostname", "", "--custom-hostname=", "--custom-hostname=-"] ∧
      ReadAnywhere "HTTP://config.example" mixedUrl mixedBefore mixedAfter := by
  have hparse : Url.parse "HTTP://config.example" = .ok mixedUrl := rfl
  exact ⟨hparse, by decide, readAnywhere hparse mixedBefore mixedAfter⟩

end ForbiddenHosts.CommandLine
