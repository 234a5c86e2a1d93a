import ForbiddenHosts.Http.Conversation
import Mathlib.Logic.Function.Basic

/-!
# Conversations held at the same time

Any number of programs hold their conversations with one server at the same time.  At each instant
nothing happens, or one program makes a note, or one program makes a request and gets its reply; the
others stay where they are.  What the server may do is a relation `serve`: the request, its state
before, the reply, its state after.

An `Interleaving` is one way in which this may go on.  It is infinite; a finite one is idle after
its last exchange.  Nothing is said about who moves when, so a statement about every interleaving is
one about every order of requests.  `Interleaving.follow` shows that there is one for every schedule
and every server that answers as `serve` allows.
-/
namespace ForbiddenHosts.Http

/-- A request of one of many programs, and its reply. -/
structure Exchange (ι : Type) where
  program : ι
  request : Request
  reply : Reply

variable {Note α σ ι : Type}

/-- What may happen at one instant, from the server's state and what is left of each conversation to
what they are afterwards. -/
inductive Interleaving.Step (serve : Request → σ → Reply → σ → Prop) (before : σ)
    (left : ι → Conversation Note α) :
    Option (Exchange ι) → σ → (ι → Conversation Note α) → Prop where
  /-- Nothing happens. -/
  | idle : Step serve before left none before left
  /-- One program makes a note. -/
  | note {p : ι} {entry : Note} {next : Conversation Note α} {left' : ι → Conversation Note α}
      (here : left p = .note entry next) (moved : left' p = next)
      (others : ∀ q, q ≠ p → left' q = left q) :
      Step serve before left none before left'
  /-- One program makes a request and gets a reply. -/
  | ask {p : ι} {request : Request} {next : Reply → Conversation Note α} {reply : Reply} {after : σ}
      {left' : ι → Conversation Note α}
      (here : left p = .ask request next) (served : serve request before reply after)
      (moved : left' p = next reply) (others : ∀ q, q ≠ p → left' q = left q) :
      Step serve before left (some ⟨p, request, reply⟩) after left'

/-- **One way in which the conversations of many programs may go on with one server.** -/
structure Interleaving (serve : Request → σ → Reply → σ → Prop)
    (programs : ι → Conversation Note α) where
  /-- The server's state at an instant. -/
  world : Nat → σ
  /-- What is left of each conversation at an instant. -/
  left : Nat → ι → Conversation Note α
  /-- The exchange, if there is one, that leads from an instant to the next. -/
  exchange : Nat → Option (Exchange ι)
  left_zero : ∀ p, left 0 p = programs p
  next : ∀ t, Interleaving.Step serve (world t) (left t) (exchange t) (world (t + 1)) (left (t + 1))

namespace Interleaving

variable {serve : Request → σ → Reply → σ → Prop} {programs : ι → Conversation Note α}

/-- Program `p` has an exchange at instant `t`. -/
def Moves (e : Interleaving serve programs) (p : ι) (t : Nat) : Prop :=
  ∃ request reply, e.exchange t = some ⟨p, request, reply⟩

/-- No program has an exchange between two exchanges of another. -/
def Sequential (e : Interleaving serve programs) : Prop :=
  ∀ p q i m k, e.Moves p i → e.Moves q m → e.Moves p k → i ≤ m → m ≤ k → q = p

/-- From one instant to the next, a program has an exchange, or it makes at most a note. -/
theorem left_succ (e : Interleaving serve programs) (t : Nat) (p : ι) :
    (¬e.Moves p t ∧
        (e.left t p = e.left (t + 1) p ∨ ∃ entry, e.left t p = .note entry (e.left (t + 1) p))) ∨
      ∃ request next reply, e.exchange t = some ⟨p, request, reply⟩ ∧
        e.left t p = .ask request next ∧ e.left (t + 1) p = next reply ∧
        serve request (e.world t) reply (e.world (t + 1)) := by
  have hstep := e.next t
  unfold Moves
  revert hstep
  generalize e.exchange t = exchange, e.world (t + 1) = after, e.left (t + 1) = left'
  intro hstep
  cases hstep with
  | idle =>
    refine Or.inl ⟨?_, Or.inl rfl⟩
    rintro ⟨request, reply, hnone⟩
    cases hnone
  | @note q entry next _ here moved others =>
    refine Or.inl ⟨?_, ?_⟩
    · rintro ⟨request, reply, hnone⟩
      cases hnone
    · by_cases hq : p = q
      · rw [hq, moved]
        exact Or.inr ⟨entry, here⟩
      · exact Or.inl (others p hq).symm
  | @ask q request next reply _ _ here served moved others =>
    by_cases hq : p = q
    · rw [hq]
      exact Or.inr ⟨request, next, reply, rfl, here, moved, served⟩
    · refine Or.inl ⟨?_, Or.inl (others p hq).symm⟩
      rintro ⟨request', reply', hsome⟩
      cases hsome
      exact hq rfl

/-- The server's state changes with an exchange only. -/
theorem world_succ (e : Interleaving serve programs) (t : Nat) :
    e.world (t + 1) = e.world t ∨
      ∃ p request reply, e.exchange t = some ⟨p, request, reply⟩ ∧
        serve request (e.world t) reply (e.world (t + 1)) := by
  have hstep := e.next t
  revert hstep
  generalize e.exchange t = exchange, e.world (t + 1) = after, e.left (t + 1) = left'
  intro hstep
  cases hstep with
  | idle => exact Or.inl rfl
  | note here moved others => exact Or.inl rfl
  | ask here served moved others => exact Or.inr ⟨_, _, _, rfl, served⟩

theorem world_eq_of_still (e : Interleaving serve programs) {j k : Nat} (hjk : j ≤ k)
    (still : ∀ m, j ≤ m → m < k → e.world (m + 1) = e.world m) : e.world k = e.world j := by
  induction hjk with
  | refl => rfl
  | @step k hjk ih =>
    rw [Nat.succ_eq_add_one, still k hjk (Nat.lt_succ_self k)]
    exact ih fun m hjm hmk => still m hjm (Nat.lt_succ_of_lt hmk)

/-! ### Following a schedule -/

section Following

variable [DecidableEq ι]

/-- One step of the program that a schedule names. -/
def advance (network : Network σ) (p : ι) (before : σ) (left : ι → Conversation Note α) :
    Option (Exchange ι) × σ × (ι → Conversation Note α) :=
  match left p with
  | .done _ => (none, before, left)
  | .note _ next => (none, before, Function.update left p next)
  | .ask request next =>
    let (reply, after) := network.answer request before
    (some ⟨p, request, reply⟩, after, Function.update left p (next reply))

theorem step_advance {network : Network σ}
    (honest : ∀ request world, serve request world (network.answer request world).1
      (network.answer request world).2)
    (p : ι) (before : σ) (left : ι → Conversation Note α) :
    Step serve before left (advance network p before left).1 (advance network p before left).2.1
      (advance network p before left).2.2 := by
  unfold advance
  split
  · exact .idle
  · rename_i entry next here
    exact .note here (Function.update_self ..) fun q hq => Function.update_of_ne hq ..
  · rename_i request next here
    exact .ask here (honest request before) (Function.update_self ..)
      fun q hq => Function.update_of_ne hq ..

/-- The server's state and what is left of each conversation, when `schedule` names the program that
moves at each instant and `networks` how the server answers then. -/
def followed (networks : Nat → Network σ) (schedule : Nat → ι) (start : σ)
    (programs : ι → Conversation Note α) : Nat → σ × (ι → Conversation Note α)
  | 0 => (start, programs)
  | t + 1 =>
    let now := followed networks schedule start programs t
    (advance (networks t) (schedule t) now.1 now.2).2

/-- **There is an interleaving for every schedule.** -/
def follow (networks : Nat → Network σ) (schedule : Nat → ι) (start : σ)
    (honest : ∀ t request world, serve request world ((networks t).answer request world).1
      ((networks t).answer request world).2) : Interleaving serve programs where
  world t := (followed networks schedule start programs t).1
  left t := (followed networks schedule start programs t).2
  exchange t :=
    let now := followed networks schedule start programs t
    (advance (networks t) (schedule t) now.1 now.2).1
  left_zero _ := rfl
  next t := step_advance (honest t) (schedule t) _ _

/-- In the interleaving of a schedule, only the program that the schedule names moves. -/
theorem eq_of_moves_follow {networks : Nat → Network σ} {schedule : Nat → ι} {start : σ}
    {honest : ∀ t request world, serve request world ((networks t).answer request world).1
      ((networks t).answer request world).2} {p : ι} {t : Nat}
    (h : (follow networks schedule start honest : Interleaving serve programs).Moves p t) :
    schedule t = p := by
  obtain ⟨request, reply, hexchange⟩ := h
  unfold follow advance at hexchange
  dsimp only at hexchange
  split at hexchange
  · cases hexchange
  · cases hexchange
  · cases hexchange
    rfl

end Following

end Interleaving

end ForbiddenHosts.Http
