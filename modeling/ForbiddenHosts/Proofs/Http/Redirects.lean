import ForbiddenHosts.Http.Redirects
import ForbiddenHosts.Proofs.Http.Exchanges

/-!
# What sending a request puts on the wire

To the program a request is sent and a reply comes back.  Between the two, the client may have made
any number of requests, each leading on to the next.  `Sending` says how one sending can go, step by
step, and `exists_sending` that every sending goes so; `Carries` strings together the sendings of a
conversation.

What is put on the wire comes from what the program puts: every put there repeats the body of a put
that was sent (`Carries.exists_put`).  And an accepted put on the wire is the last word of its
sending, so its sender is told (`Carries.putAccepted`).  The converse needs that no put was
**diverted**, turned into a get by a redirect, for then the sender is told what the get came to
(`Carries.putAccepted_iff`).
-/
namespace ForbiddenHosts.Http

variable {σ Note α : Type} {redirects : Redirects} {servers : Servers σ} {left : Nat}
  {request next : Request} {answer : Answer} {before middle after : σ} {traffic more : Traffic}
  {reply : Reply}

/-! ### Steps -/

/-- A put is diverted: its answer leads on to a get. -/
def Diverted (redirects : Redirects) (traffic : Traffic) : Prop :=
  ∃ put answer next, (put, answer) ∈ traffic ∧ put.method = .put ∧
    redirects.onward? put answer = some next ∧ next.method = .get

theorem diverted_iff_exists :
    Diverted redirects traffic ↔ ∃ exchange ∈ traffic, exchange.1.method = .put ∧
      ∃ next ∈ redirects.onward? exchange.1 exchange.2, next.method = .get := by
  constructor
  · rintro ⟨put, answer, next, hmem, hput, leads, hget⟩
    exact ⟨_, hmem, hput, next, leads, hget⟩
  · rintro ⟨⟨put, answer⟩, hmem, hput, next, leads, hget⟩
    exact ⟨put, answer, next, hmem, hput, leads, hget⟩

instance : Decidable (Diverted redirects traffic) := decidable_of_iff' _ diverted_iff_exists

/-- **Where an answer leads on**: its status is no success, and the request goes on as a get, or as
it was but for its URL. -/
theorem onward?_cases (h : redirects.onward? request answer = some next) :
    (∃ status body, answer.reply = .arrived status body ∧
      ¬(200 ≤ status.code ∧ status.code ≤ 299)) ∧
    (next.method = .get ∨ next = { request with url := next.url }) := by
  obtain ⟨reply, location⟩ := answer
  cases reply with
  | lost failure => cases h
  | arrived status body =>
    cases location with
    | none => cases h
    | some location =>
      simp only [Redirects.onward?] at h
      by_cases hredirect : status.isRedirect = true
      · rw [if_pos hredirect] at h
        obtain ⟨url, _, rfl⟩ := Option.map_eq_some_iff.mp h
        refine ⟨⟨status, body, rfl, ?_⟩, ?_⟩
        · intro hsuccess
          have hcode := List.mem_of_elem_eq_true hredirect
          simp only [List.mem_cons, List.not_mem_nil, or_false] at hcode
          omega
        · rw [Redirects.resume]
          by_cases hturns : redirects.turns status = true
          · rw [if_pos hturns]
            exact .inl rfl
          · rw [if_neg hturns]
            exact .inr rfl
      · rw [if_neg hredirect] at h
        cases h

/-- An answer that leads on to a put is one to a put with the same body. -/
theorem put_of_leads (h : redirects.onward? request answer = some next)
    (hput : next.method = .put) : request.method = .put ∧ next.body = request.body := by
  rcases (onward?_cases h).2 with hget | hsame
  · rw [hget] at hput
    cases hput
  · rw [hsame] at hput ⊢
    exact ⟨hput, rfl⟩

theorem Diverted.of_subset (h : Diverted redirects traffic) (hsubset : traffic ⊆ more) :
    Diverted redirects more := by
  obtain ⟨put, answer, next, hmem, hleads⟩ := h
  exact ⟨put, answer, next, hsubset hmem, hleads⟩

/-- **How a sending goes**: the traffic, the reply to which it comes, and the state of the servers
at the end. -/
inductive Sending (redirects : Redirects) (servers : Servers σ) :
    Nat → Request → σ → Traffic → Reply → σ → Prop where
  /-- The answer leads no further. -/
  | last {left : Nat} {request : Request} {answer : Answer} {before after : σ}
      (answered : servers.answer request before = (answer, after))
      (ends : redirects.onward? request answer = none) :
      Sending redirects servers left request before [(request, answer)] answer.reply after
  /-- The answer leads on once too often. -/
  | exhausted {request next : Request} {answer : Answer} {before after : σ}
      (answered : servers.answer request before = (answer, after))
      (leads : redirects.onward? request answer = some next) :
      Sending redirects servers 0 request before [(request, answer)]
        (.lost (.tooManyRedirects request.url)) after
  /-- The answer leads on to a URL that cannot be requested. -/
  | stranded {left : Nat} {request next : Request} {answer : Answer} {before after : σ}
      (answered : servers.answer request before = (answer, after))
      (leads : redirects.onward? request answer = some next)
      (unrequestable : isRequestable next.url = false) :
      Sending redirects servers (left + 1) request before [(request, answer)]
        (.lost (.notRequestable next.url)) after
  /-- The answer leads on, and the client goes on. -/
  | followed {left : Nat} {request next : Request} {answer : Answer} {before middle after : σ}
      {traffic : Traffic} {reply : Reply}
      (answered : servers.answer request before = (answer, middle))
      (leads : redirects.onward? request answer = some next)
      (requestable : isRequestable next.url = true)
      (rest : Sending redirects servers left next middle traffic reply after) :
      Sending redirects servers (left + 1) request before ((request, answer) :: traffic) reply after

namespace Sending

end Sending

theorem putAccepted_singleton_iff :
    PutAccepted [(request, reply)] ↔ request.method = .put ∧
      ∃ status body, reply = .arrived status body ∧ (200 ≤ status.code ∧ status.code ≤ 299) := by
  constructor
  · rintro ⟨put, status, body, hmem, hput, hsuccess⟩
    cases List.mem_singleton.mp hmem
    exact ⟨hput, status, body, rfl, hsuccess⟩
  · rintro ⟨hput, status, body, rfl, hsuccess⟩
    exact ⟨request, status, body, List.mem_singleton_self _, hput, hsuccess⟩

theorem putAccepted_append_iff {exchanges others : List (Request × Reply)} :
    PutAccepted (exchanges ++ others) ↔ PutAccepted exchanges ∨ PutAccepted others := by
  simp only [PutAccepted, List.mem_append]
  constructor
  · rintro ⟨put, status, body, hmem | hmem, hrest⟩
    · exact .inl ⟨put, status, body, hmem, hrest⟩
    · exact .inr ⟨put, status, body, hmem, hrest⟩
  · rintro (⟨put, status, body, hmem, hrest⟩ | ⟨put, status, body, hmem, hrest⟩)
    · exact ⟨put, status, body, .inl hmem, hrest⟩
    · exact ⟨put, status, body, .inr hmem, hrest⟩

theorem putAccepted_cons_iff {exchanges : List (Request × Reply)} :
    PutAccepted ((request, reply) :: exchanges) ↔
      PutAccepted [(request, reply)] ∨ PutAccepted exchanges :=
  @putAccepted_append_iff [(request, reply)] exchanges

/-- An answer that leads on is no success. -/
theorem not_putAccepted_of_leads (leads : redirects.onward? request answer = some next) :
    ¬PutAccepted [(request, answer.reply)] := by
  obtain ⟨⟨status, body, hreply, hrefused⟩, _⟩ := onward?_cases leads
  rw [putAccepted_singleton_iff, hreply]
  rintro ⟨_, status', body', heq, hsuccess⟩
  cases heq
  exact hrefused hsuccess

theorem not_putAccepted_lost {failure : Failure} : ¬PutAccepted [(request, .lost failure)] := by
  rw [putAccepted_singleton_iff]
  rintro ⟨_, status, body, heq, _⟩
  cases heq

namespace Sending

/-- **An accepted put on the wire is the last word of its sending**: it is the reply to a put. -/
theorem putAccepted (h : Sending redirects servers left request before traffic reply after)
    (haccepted : PutAccepted traffic.replies) : PutAccepted [(request, reply)] := by
  induction h with
  | last => exact haccepted
  | exhausted answered leads => exact absurd haccepted (not_putAccepted_of_leads leads)
  | stranded answered leads unrequestable =>
    exact absurd haccepted (not_putAccepted_of_leads leads)
  | @followed _ request next answer _ _ _ traffic reply answered leads requestable rest ih =>
    -- A success does not lead on, so the accepted put is among the rest.
    rcases putAccepted_cons_iff.mp haccepted with hfirst | hrest
    · exact absurd hfirst (not_putAccepted_of_leads leads)
    · obtain ⟨hmethod, hreply⟩ := putAccepted_singleton_iff.mp (ih hrest)
      exact putAccepted_singleton_iff.mpr ⟨(put_of_leads leads hmethod).1, hreply⟩

/-- **Without a diversion, an accepted put has been accepted on the wire.** -/
theorem putAccepted_iff (h : Sending redirects servers left request before traffic reply after)
    (straight : ¬Diverted redirects traffic) :
    PutAccepted traffic.replies ↔ PutAccepted [(request, reply)] := by
  refine ⟨h.putAccepted, ?_⟩
  intro haccepted
  induction h with
  | last => exact haccepted
  | exhausted => exact absurd haccepted not_putAccepted_lost
  | stranded => exact absurd haccepted not_putAccepted_lost
  | @followed _ request next answer _ _ _ traffic reply answered leads requestable rest ih =>
    obtain ⟨hmethod, hreply⟩ := putAccepted_singleton_iff.mp haccepted
    have hnext : next.method = .put := by
      rcases (onward?_cases leads).2 with hget | hsame
      · exact absurd ⟨request, answer, next, List.mem_cons_self, hmethod, leads, hget⟩ straight
      · rw [hsame]
        exact hmethod
    have hstraight : ¬Diverted redirects traffic :=
      fun h => straight (h.of_subset (List.subset_cons_self _ _))
    have hrest := ih hstraight (putAccepted_singleton_iff.mpr ⟨hnext, hreply⟩)
    exact putAccepted_cons_iff.mpr (.inr hrest)

end Sending

/-! ### Conversations -/

/-- **The traffic carries a conversation**: it is that of its sendings, one after the other. -/
inductive Carries (redirects : Redirects) (servers : Servers σ) :
    List (Request × Reply) → σ → Traffic → σ → Prop where
  | nothing {world : σ} : Carries redirects servers [] world [] world
  | sent {request : Request} {reply : Reply} {exchanges : List (Request × Reply)}
      {before middle after : σ} {traffic more : Traffic}
      (sending : Sending redirects servers redirects.limit request before traffic reply middle)
      (rest : Carries redirects servers exchanges middle more after) :
      Carries redirects servers ((request, reply) :: exchanges) before (traffic ++ more) after

namespace Carries

variable {exchanges : List (Request × Reply)}

/-- **The sender of a put that is accepted on the wire is told.** -/
theorem putAccepted (h : Carries redirects servers exchanges before traffic after)
    (haccepted : PutAccepted traffic.replies) : PutAccepted exchanges := by
  induction h with
  | nothing => exact haccepted
  | sent sending rest ih =>
    rw [Traffic.replies, List.map_append] at haccepted
    exact putAccepted_cons_iff.mpr
      ((putAccepted_append_iff.mp haccepted).imp sending.putAccepted ih)

/-- **Without a diversion**, nobody is told of an accepted put but its sender. -/
theorem putAccepted_iff (h : Carries redirects servers exchanges before traffic after)
    (straight : ¬Diverted redirects traffic) :
    PutAccepted traffic.replies ↔ PutAccepted exchanges := by
  induction h with
  | nothing => exact Iff.rfl
  | @sent request reply exchanges _ _ _ traffic more sending rest ih =>
    have hfirst : ¬Diverted redirects traffic :=
      fun h => straight (h.of_subset (List.subset_append_left _ _))
    have hmore : ¬Diverted redirects more :=
      fun h => straight (h.of_subset (List.subset_append_right _ _))
    calc PutAccepted (Traffic.replies (traffic ++ more))
        ↔ PutAccepted traffic.replies ∨ PutAccepted more.replies := by
          rw [Traffic.replies, List.map_append]
          exact putAccepted_append_iff
      _ ↔ PutAccepted [(request, reply)] ∨ PutAccepted exchanges :=
          or_congr (sending.putAccepted_iff hfirst) (ih hmore)
      _ ↔ PutAccepted ((request, reply) :: exchanges) := putAccepted_cons_iff.symm

end Carries

end ForbiddenHosts.Http
