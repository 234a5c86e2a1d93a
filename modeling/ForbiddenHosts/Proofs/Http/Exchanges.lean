import ForbiddenHosts.Http.Conversation

/-!
# What was asked and what came back

The transcript of a conversation has its requests, but not the replies to them.  `exchanges` has
both: each request with the reply that the network gave in the state in which it was asked.  Since a
network answers by its state alone, the exchanges follow from the requests and the state before the
first (`exchanges_eq`), and whoever knows the course of a conversation knows what came back.
-/
namespace ForbiddenHosts.Http

variable {Note σ α : Type}

/-- The requests of a conversation, in the order in which they were made, each with its reply. -/
def Conversation.exchanges (network : Network σ) :
    Conversation Note α → σ → List (Request × Reply)
  | done _, _ => []
  | note _ next, world => next.exchanges network world
  | ask request next, world =>
    let (reply, world) := network.answer request world
    (request, reply) :: (next reply).exchanges network world

/-- Requests that are made one after the other, each with its reply. -/
def Network.replies (network : Network σ) : List Request → σ → List (Request × Reply)
  | [], _ => []
  | request :: requests, world =>
    let (reply, world) := network.answer request world
    (request, reply) :: network.replies requests world

/-- **The exchanges of a conversation are its requests with the network's replies to them.** -/
theorem Conversation.exchanges_eq (network : Network σ) (c : Conversation Note α) (world : σ) :
    c.exchanges network world = network.replies (c.over network world).requests world := by
  induction c generalizing world with
  | done result => rfl
  | note entry next ih => exact ih world
  | ask request next ih => exact congrArg (_ :: ·) (ih _ _)

section Replies

variable {network : Network σ} {before after : σ} {request : Request} {requests : List Request}
  {reply : Reply}

theorem Network.replies_cons (answered : network.answer request before = (reply, after)) :
    network.replies (request :: requests) before =
      (request, reply) :: network.replies requests after := by
  rw [replies, answered]

/-- Only what was asked is replied to. -/
theorem Network.mem_of_mem_replies (h : (request, reply) ∈ network.replies requests before) :
    request ∈ requests := by
  induction requests generalizing before with
  | nil => cases h
  | cons first requests ih =>
    rcases List.mem_cons.mp h with heq | hmem
    · cases heq
      exact List.mem_cons_self ..
    · exact List.mem_cons_of_mem _ (ih hmem)

end Replies

/-- A put has got a response with a status of success. -/
def PutAccepted (exchanges : List (Request × Reply)) : Prop :=
  ∃ request status body, (request, .arrived status body) ∈ exchanges ∧ request.method = .put ∧
    (200 ≤ status.code ∧ status.code ≤ 299)

/-- A response with a status of success. -/
def Reply.isSuccess : Reply → Bool
  | lost _ => false
  | arrived status _ => status.isSuccess

theorem putAccepted_iff_exists {exchanges : List (Request × Reply)} :
    PutAccepted exchanges ↔
      ∃ exchange ∈ exchanges, exchange.1.method = .put ∧ exchange.2.isSuccess = true := by
  constructor
  · rintro ⟨request, status, body, hmem, hput, hsuccess⟩
    exact ⟨_, hmem, hput, Status.isSuccess_iff.mpr hsuccess⟩
  · rintro ⟨⟨request, reply⟩, hmem, hput, hsuccess⟩
    cases reply with
    | lost failure => cases hsuccess
    | arrived status body =>
      exact ⟨request, status, body, hmem, hput, Status.isSuccess_iff.mp hsuccess⟩

instance : DecidablePred PutAccepted := fun _ => decidable_of_iff' _ putAccepted_iff_exists

/-- Where nothing but representations is asked for, no put is accepted. -/
theorem not_putAccepted_of_gets {network : Network σ} {requests : List Request} {before : σ}
    (h : ∀ request ∈ requests, request.method = .get) :
    ¬PutAccepted (network.replies requests before) := by
  rintro ⟨request, status, body, hmem, hput, _⟩
  rw [h request (Network.mem_of_mem_replies hmem)] at hput
  cases hput

end ForbiddenHosts.Http
