import ForbiddenHosts.Http.Message

/-!
# Conversations over HTTP

A program that talks to servers is a **conversation**: it is done, or it makes a note and goes on,
or it asks and goes on with the reply.  Which replies there are is left open, so one conversation
can be held with a real network, with a table of routes, or with any server a statement is about.

A `Network` answers requests and may change while it does.  `Conversation.over` holds a conversation
with a network and keeps a transcript: the result, the requests in the order in which they were
made, the notes, and the network's state at the end.
-/
namespace ForbiddenHosts.Http

/-- A program that makes notes, asks, and ends with a result. -/
inductive Conversation (Note : Type) (α : Type) where
  /-- The conversation has ended. -/
  | done (result : α)
  /-- The program makes a note and goes on. -/
  | note (entry : Note) (next : Conversation Note α)
  /-- The program asks and goes on with the reply. -/
  | ask (request : Request) (next : Reply → Conversation Note α)

namespace Conversation

variable {Note α β γ : Type}

/-- Holds one conversation and then the one that its result calls for. -/
def bind : Conversation Note α → (α → Conversation Note β) → Conversation Note β
  | done result, f => f result
  | note entry next, f => note entry (next.bind f)
  | ask request next, f => ask request fun reply => (next reply).bind f

instance : Monad (Conversation Note) where
  pure := done
  bind := bind

@[simp] theorem pure_eq (a : α) : (pure a : Conversation Note α) = done a := rfl

@[simp] theorem done_bind (a : α) (f : α → Conversation Note β) : (done a >>= f) = f a := rfl

@[simp] theorem note_bind (entry : Note) (next : Conversation Note α)
    (f : α → Conversation Note β) : (note entry next >>= f) = note entry (next >>= f) := rfl

@[simp] theorem ask_bind (request : Request) (next : Reply → Conversation Note α)
    (f : α → Conversation Note β) :
    (ask request next >>= f) = ask request fun reply => next reply >>= f := rfl

theorem bind_done (c : Conversation Note α) : (c >>= done) = c := by
  induction c with
  | done a => rfl
  | note entry next ih => rw [note_bind, ih]
  | ask request next ih => simp only [ask_bind, ih]

theorem bind_assoc (c : Conversation Note α) (f : α → Conversation Note β)
    (g : β → Conversation Note γ) : (c >>= f >>= g) = (c >>= fun a => f a >>= g) := by
  induction c with
  | done a => rfl
  | note entry next ih => simp only [note_bind, ih]
  | ask request next ih => simp only [ask_bind, ih]

instance : LawfulMonad (Conversation Note) :=
  LawfulMonad.mk' _ (fun c => bind_done c) (fun _ _ => rfl) bind_assoc

end Conversation

/-- Something that answers requests, from one of its states to the next. -/
structure Network (σ : Type) where
  answer : Request → σ → Reply × σ

/-- The network on which no request arrives anywhere. -/
def Network.unreachable {σ : Type} : Network σ where
  answer request world := (.lost (.noReply request.url), world)

/-- What was said in a conversation. -/
structure Transcript (Note σ α : Type) where
  /-- The result of the conversation. -/
  result : α
  /-- The requests, in the order in which they were made. -/
  requests : List Request
  /-- The notes, in the order in which they were made. -/
  notes : List Note
  /-- The state of the network at the end. -/
  world : σ

/-- Holds a conversation with a network. -/
def Conversation.over {Note σ α : Type} (network : Network σ) :
    Conversation Note α → σ → Transcript Note σ α
  | done result, world => ⟨result, [], [], world⟩
  | note entry next, world =>
    let t := next.over network world
    { t with notes := entry :: t.notes }
  | ask request next, world =>
    let (reply, world) := network.answer request world
    let t := (next reply).over network world
    { t with requests := request :: t.requests }

/-- Holds a conversation in a monad that knows how to note and how to ask. -/
def Conversation.within {Note α : Type} {m : Type → Type} [Monad m] (note : Note → m Unit)
    (ask : Request → m Reply) : Conversation Note α → m α
  | .done result => pure result
  | .note entry next => do
    note entry
    next.within note ask
  | .ask request next => do
    let reply ← ask request
    (next reply).within note ask

end ForbiddenHosts.Http
