import ForbiddenHosts.Sync.Event

/-!
# How errands settle

An errand held with a network settles with a result, after some requests, and leaves the network in
some state; the notes do not matter here.  `Settles` says so, and the rules of this module derive
how a compound errand settles from how its parts do: a part that fails ends the whole, a part that
succeeds hands its result and the network's state on, and the requests are strung together.

An errand settles in one way only, since a network's answer is determined by its state
(`Settles.unique`).
-/
namespace ForbiddenHosts

namespace Http.Conversation

variable {Note σ α β : Type} (network : Network σ)

/-- Two conversations held one after the other. -/
theorem over_bind (c : Conversation Note α) (f : α → Conversation Note β) (world : σ) :
    (c >>= f).over network world =
      let t := c.over network world
      let u := (f t.result).over network t.world
      ⟨u.result, t.requests ++ u.requests, t.notes ++ u.notes, u.world⟩ := by
  induction c generalizing world with
  | done a => rfl
  | note entry next ih =>
    rw [note_bind, Conversation.over, ih]
    rfl
  | ask request next ih =>
    rw [ask_bind, Conversation.over, Conversation.over]
    simp only [ih]
    rfl

end Http.Conversation

namespace Errand

variable {σ α β : Type}

/-- Held with a network in a state, an errand comes to an outcome after the requests `asked`, and
leaves the network in the state `after`. -/
structure Settles (network : Http.Network σ) (errand : Errand α) (before : σ)
    (outcome : Except SyncError α) (asked : List Http.Request) (after : σ) : Prop where
  result_eq : (errand.over network before).result = outcome
  requests_eq : (errand.over network before).requests = asked
  world_eq : (errand.over network before).world = after

variable {network : Http.Network σ} {errand : Errand α} {f : α → Errand β} {before middle after : σ}
  {outcome outcome' : Except SyncError α} {result : Except SyncError β}
  {asked asked' more : List Http.Request}

/-- Every errand settles. -/
theorem settles_over (network : Http.Network σ) (errand : Errand α) (before : σ) :
    errand.Settles network before (errand.over network before).result
      (errand.over network before).requests (errand.over network before).world :=
  ⟨rfl, rfl, rfl⟩

theorem Settles.unique {after' : σ} (h : errand.Settles network before outcome asked after)
    (h' : errand.Settles network before outcome' asked' after') :
    outcome = outcome' ∧ asked = asked' ∧ after = after' :=
  ⟨h.result_eq.symm.trans h'.result_eq, h.requests_eq.symm.trans h'.requests_eq,
    h.world_eq.symm.trans h'.world_eq⟩

theorem settles_pure (a : α) : (pure a : Errand α).Settles network before (.ok a) [] before :=
  ⟨rfl, rfl, rfl⟩

theorem settles_throw (e : SyncError) :
    (throw e : Errand α).Settles network before (.error e) [] before :=
  ⟨rfl, rfl, rfl⟩

theorem settles_note (event : Event) :
    (note event).Settles network before (.ok ()) [] before :=
  ⟨rfl, rfl, rfl⟩

theorem run_bind (errand : Errand α) (f : α → Errand β) :
    (errand >>= f).run = errand.run >>= fun r =>
      match r with
      | .ok a => (f a).run
      | .error e => .done (.error e) := by
  rw [ExceptT.run_bind]
  refine congrArg (errand.run >>= ·) (funext fun r => ?_)
  cases r <;> rfl

theorem over_bind (network : Http.Network σ) (errand : Errand α) (f : α → Errand β) (before : σ) :
    (errand >>= f).over network before =
      let t := errand.over network before
      match t.result with
      | .ok a =>
        let u := (f a).over network t.world
        ⟨u.result, t.requests ++ u.requests, t.notes ++ u.notes, u.world⟩
      | .error e => ⟨.error e, t.requests, t.notes, t.world⟩ := by
  rw [Errand.over, run_bind, Http.Conversation.over_bind]
  simp only [Errand.over]
  cases (Http.Conversation.over network errand.run before).result with
  | ok a => rfl
  | error e => simp [Http.Conversation.over]

/-- **A part that succeeds hands on** its result and the network's state. -/
theorem Settles.bind {a : α} (h : errand.Settles network before (.ok a) asked middle)
    (hf : (f a).Settles network middle result more after) :
    (errand >>= f).Settles network before result (asked ++ more) after := by
  have hover := over_bind network errand f before
  simp only [h.result_eq, h.requests_eq, h.world_eq] at hover
  refine ⟨?_, ?_, ?_⟩
  · rw [hover]
    exact hf.result_eq
  · rw [hover]
    exact congrArg (asked ++ ·) hf.requests_eq
  · rw [hover]
    exact hf.world_eq

/-- A last part that asks nothing adds no request. -/
theorem Settles.bind_quiet {a : α} (h : errand.Settles network before (.ok a) asked middle)
    (hf : (f a).Settles network middle result [] after) :
    (errand >>= f).Settles network before result asked after := by
  have hbind := h.bind hf
  rwa [List.append_nil] at hbind

/-- **A part that fails ends the whole.** -/
theorem Settles.bind_error {e : SyncError}
    (h : errand.Settles network before (.error e) asked after) :
    (errand >>= f).Settles network before (.error e) asked after := by
  have hover := over_bind network errand f before
  simp only [h.result_eq, h.requests_eq, h.world_eq] at hover
  exact ⟨by rw [hover], by rw [hover], by rw [hover]⟩

/-- A note changes nothing. -/
theorem Settles.after_note {event : Event} {f : Unit → Errand β}
    (h : (f ()).Settles network before result asked after) :
    (note event >>= f).Settles network before result asked after :=
  (settles_note event).bind h

end Errand

end ForbiddenHosts
