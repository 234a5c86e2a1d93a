import ForbiddenHosts.Proofs.Sync.Course

/-!
# Reading comes first

Here is said of a run what it may still ask, whatever replies it gets.  While it is **reading** it
makes no put; it publishes only after it has read the stored list, from a reply that succeeded and
was whole, and what it then puts holds every hostname that it has read; after that it is **silent**.
A run that fails to read is silent at once.

These are properties of what is left of a conversation, so they make sense in the middle of a run,
while others talk to the same server.  `reading_run` is the main statement.
-/
namespace ForbiddenHosts

open Http Errand

/-- The bytes of a stored list hold a hostname. -/
def Lists (list : Bytes) (hostname : String) : Prop :=
  ∃ records, Json.decode Json.readRecords list = .ok records ∧ ⟨hostname⟩ ∈ records

/-- A body holds every hostname of a list that a reply shows. -/
def KeepsShown (reply : Reply) (body : Bytes) : Prop :=
  ∃ status list, (200 ≤ status.code ∧ status.code ≤ 299) ∧
    reply = .arrived status (.complete list) ∧ ∀ hostname, Lists list hostname → Lists body hostname

namespace Http.Conversation

variable {Note α β : Type}

/-- No request is left. -/
inductive Silent : Conversation Note α → Prop where
  | done (result : α) : Silent (.done result)
  | note {entry : Note} {next : Conversation Note α} (rest : next.Silent) :
      Silent (.note entry next)

/-- One request may be left, a put of a body of which `P` holds. -/
inductive Publishing (P : Bytes → Prop) : Conversation Note α → Prop where
  | done (result : α) : Publishing P (.done result)
  | note {entry : Note} {next : Conversation Note α} (rest : next.Publishing P) :
      Publishing P (.note entry next)
  | put {request : Request} {next : Reply → Conversation Note α} (put : request.method = .put)
      (body : P request.body) (rest : ∀ reply, (next reply).Silent) :
      Publishing P (.ask request next)

/-- A put is left only behind the reading of the list at `place`, and then keeps what was read. -/
inductive Reading (place : Url → Prop) : Conversation Note α → Prop where
  | done (result : α) : Reading place (.done result)
  | note {entry : Note} {next : Conversation Note α} (rest : next.Reading place) :
      Reading place (.note entry next)
  | source {request : Request} {next : Reply → Conversation Note α} (get : request.method = .get)
      (rest : ∀ reply, (next reply).Reading place) : Reading place (.ask request next)
  | list {request : Request} {next : Reply → Conversation Note α} (get : request.method = .get)
      (here : place request.url) (rest : ∀ reply, (next reply).Publishing (KeepsShown reply)) :
      Reading place (.ask request next)

theorem Silent.publishing {c : Conversation Note α} (h : c.Silent) (P : Bytes → Prop) :
    c.Publishing P := by
  induction h with
  | done a => exact .done a
  | note rest ih => exact .note ih

theorem Silent.reading {c : Conversation Note α} (h : c.Silent) (place : Url → Prop) :
    c.Reading place := by
  induction h with
  | done a => exact .done a
  | note rest ih => exact .note ih

theorem Publishing.mono {P Q : Bytes → Prop} {c : Conversation Note α} (h : c.Publishing P)
    (hPQ : ∀ body, P body → Q body) : c.Publishing Q := by
  induction h with
  | done a => exact .done a
  | note rest ih => exact .note ih
  | put put body rest => exact .put put (hPQ _ body) rest

theorem Silent.bind {c : Conversation Note α} {f : α → Conversation Note β} (h : c.Silent)
    (hf : ∀ a, (f a).Silent) : (c >>= f).Silent := by
  induction h with
  | done a => exact hf a
  | note rest ih => exact .note ih

theorem Publishing.bind {P : Bytes → Prop} {c : Conversation Note α} {f : α → Conversation Note β}
    (h : c.Publishing P) (hf : ∀ a, (f a).Silent) : (c >>= f).Publishing P := by
  induction h with
  | done a => exact (hf a).publishing P
  | note rest ih => exact .note ih
  | put put body rest => exact .put put body fun reply => (rest reply).bind hf

section Passing

variable {c c' : Conversation Note α} (passed : c = c' ∨ ∃ entry, c = .note entry c')
include passed

theorem Silent.pass (h : c.Silent) : c'.Silent := by
  rcases passed with rfl | ⟨entry, rfl⟩
  · exact h
  · cases h with
    | note h => exact h

theorem Publishing.pass {P : Bytes → Prop} (h : c.Publishing P) : c'.Publishing P := by
  rcases passed with rfl | ⟨entry, rfl⟩
  · exact h
  · cases h with
    | note h => exact h

theorem Reading.pass {place : Url → Prop} (h : c.Reading place) : c'.Reading place := by
  rcases passed with rfl | ⟨entry, rfl⟩
  · exact h
  · cases h with
    | note h => exact h

end Passing

end Http.Conversation

variable {α β : Type} {place : Url → Prop} {P : Bytes → Prop}

namespace Errand

theorem silent_pure (a : α) : (pure a : Errand α).run.Silent :=
  Conversation.Silent.done (Except.ok a)

theorem silent_throw (e : SyncError) : (throw e : Errand α).run.Silent :=
  Conversation.Silent.done (Except.error e)

theorem silent_note (event : Event) : (note event).run.Silent :=
  Conversation.Silent.note (Conversation.Silent.done (Except.ok ()))

theorem silent_bind {errand : Errand α} {f : α → Errand β} (h : errand.run.Silent)
    (hf : ∀ a, (f a).run.Silent) : (errand >>= f).run.Silent := by
  rw [run_bind]
  refine h.bind ?_
  rintro (e | a)
  · exact .done (Except.error e)
  · exact hf a

theorem publishing_bind {errand : Errand α} {f : α → Errand β} (h : errand.run.Publishing P)
    (hf : ∀ a, (f a).run.Silent) : (errand >>= f).run.Publishing P := by
  rw [run_bind]
  refine h.bind ?_
  rintro (e | a)
  · exact .done (Except.error e)
  · exact hf a

theorem reading_after_note {event : Event} {f : Unit → Errand β}
    (h : (f ()).run.Reading place) : (note event >>= f).run.Reading place := .note h

theorem publishing_after_note {event : Event} {f : Unit → Errand β}
    (h : (f ()).run.Publishing P) : (note event >>= f).run.Publishing P := .note h

theorem run_ask_of_made {method : Method} {address accept : String} {contentType : Option String}
    {body : Bytes} {request : Request}
    (made : Request.make method address accept contentType body = .ok request) :
    (ask method address accept contentType body).run = .ask request fun reply =>
      match reply with
      | .lost failure => .done (.error (.http failure))
      | .arrived status body => .done (.ok (status, body)) := by
  rw [ask, made]
  rfl

end Errand

section Demanding

variable {address accept : String} {next : Bytes → Errand β}

/-- A stage that asks goes on with the list that a reply shows, or is silent. -/
theorem run_demand_of_made {request : Request}
    (made : Request.make .get address accept none [] = .ok request) :
    ∃ after : Reply → Conversation Event (Except SyncError β),
      (demand address accept next).run = .ask request after ∧
        ∀ reply, (after reply).Silent ∨
          ∃ status list, (200 ≤ status.code ∧ status.code ≤ 299) ∧
            reply = .arrived status (.complete list) ∧ after reply = (next list).run := by
  rw [demand, run_bind, run_ask_of_made made]
  refine ⟨_, rfl, ?_⟩
  rintro (_ | ⟨status, body⟩)
  · exact Or.inl (.done _)
  · show (withBody address next status body).run.Silent ∨ _
    by_cases success : 200 ≤ status.code ∧ status.code ≤ 299
    · cases body with
      | complete list =>
        have hnext : (withBody address next status (.complete list)).run = (next list).run :=
          congrArg ExceptT.run (withBody_complete success list)
        exact Or.inr ⟨status, list, success, rfl, hnext⟩
      | brokenOff =>
        rw [withBody_brokenOff success]
        exact Or.inl (silent_throw _)
    · rw [withBody_refused success]
      exact Or.inl (silent_throw _)

theorem run_demand_of_unmade {failure : Failure}
    (unmade : Request.make .get address accept none [] = .error failure) :
    (demand address accept next).run = .done (.error (.http failure)) := by
  rw [demand, run_bind, Errand.ask, unmade]
  rfl

/-- Asking for a value keeps a run reading if what follows does. -/
theorem reading_demand (h : ∀ list, (next list).run.Reading place) :
    (demand address accept next).run.Reading place := by
  cases made : Request.make .get address accept none [] with
  | error failure =>
    rw [run_demand_of_unmade made]
    exact .done _
  | ok request =>
    obtain ⟨after, hrun, hafter⟩ := run_demand_of_made made
    obtain ⟨url, _, _, rfl⟩ := make_eq_ok_iff.mp made
    rw [hrun]
    refine .source rfl fun reply => ?_
    rcases hafter reply with hsilent | ⟨status, list, _, _, heq⟩
    · exact hsilent.reading place
    · rw [heq]
      exact h list

/-- **Asking for the stored list keeps a run reading** if what follows puts no list but one that
keeps the list that was read. -/
theorem reading_demand_place (hplace : ∀ url, Url.parse address = .ok url → place url)
    (h : ∀ list, (next list).run.Publishing fun body =>
      ∀ hostname, Lists list hostname → Lists body hostname) :
    (demand address accept next).run.Reading place := by
  cases made : Request.make .get address accept none [] with
  | error failure =>
    rw [run_demand_of_unmade made]
    exact .done _
  | ok request =>
    obtain ⟨after, hrun, hafter⟩ := run_demand_of_made made
    obtain ⟨url, parsed, _, rfl⟩ := make_eq_ok_iff.mp made
    rw [hrun]
    refine .list rfl (hplace url parsed) fun reply => ?_
    rcases hafter reply with hsilent | ⟨status, list, success, hreply, heq⟩
    · exact hsilent.publishing _
    · rw [heq]
      exact (h list).mono fun body hbody => ⟨status, list, success, hreply, hbody⟩

end Demanding

/-! ### The parts of a run -/

theorem silent_rejectionText (url : String) (reply : Body) :
    (ConfigApi.rejectionText url reply).run.Silent := by
  cases reply with
  | complete bytes => exact silent_pure _
  | brokenOff => exact silent_bind (silent_note _) fun _ => silent_pure ""

theorem silent_judge (url : String) (status : Status) (reply : Body) :
    (judge url status reply).run.Silent := by
  by_cases success : 200 ≤ status.code ∧ status.code ≤ 299
  · rw [judge, isSuccess_of success]
    exact silent_pure (Outcome.accepted status)
  · rw [judge, isSuccess_of_not success]
    exact silent_bind (silent_rejectionText url reply) fun message =>
      silent_pure (Outcome.rejected status message)

/-- Replacing a value makes one put, of the bytes of the value. -/
theorem publishing_set {api : ConfigApi} {key : String} {value : Json}
    (h : P (Utf8.encode value.chars)) : (api.set key value).run.Publishing P := by
  rw [set_eq]
  refine publishing_after_note ?_
  rw [run_bind]
  cases made : Request.make .put (api.endpoint key) ConfigApi.jsonType (some ConfigApi.jsonType)
      (Utf8.encode value.chars) with
  | error failure =>
    rw [Errand.ask, made]
    exact .done _
  | ok request =>
    rw [run_ask_of_made made]
    obtain ⟨url, _, _, rfl⟩ := make_eq_ok_iff.mp made
    refine .put rfl h ?_
    rintro (_ | ⟨status, reply⟩)
    · exact .done _
    · exact silent_judge (api.endpoint key) status reply

/-! ### Runs -/

/-- What is published holds the hostnames that it was made of. -/
theorem lists_published (hostnames : List String) (hostname : String) :
    Lists (Json.published hostnames) hostname ↔ hostname ∈ hostnames := by
  constructor
  · rintro ⟨records, decoded, hmem⟩
    rw [Json.decode_published] at decoded
    cases decoded
    obtain ⟨other, hother, heq⟩ := List.mem_map.mp hmem
    cases heq
    exact hother
  · intro hmem
    exact ⟨_, Json.decode_published hostnames, List.mem_map.mpr ⟨hostname, hmem, rfl⟩⟩

namespace Sync

variable {sync : Sync} {ctLog : Bytes}

/-- What a run publishes holds every hostname that it read. -/
theorem lists_sources {list : Bytes} {records : List HostnameRecord}
    (decoded : Json.decode Json.readRecords list = .ok records) (hostname : String)
    (h : Lists list hostname) :
    Lists (Json.published (sync.sources ctLog records).eraseDups) hostname := by
  obtain ⟨records', decoded', hmem⟩ := h
  rw [decoded] at decoded'
  cases decoded'
  rw [lists_published, List.mem_eraseDups, sources]
  refine List.mem_append_right _ (List.mem_append_right _ ?_)
  exact List.mem_map.mpr ⟨⟨hostname⟩, hmem, rfl⟩

theorem publishing_afterStored {records : List HostnameRecord}
    (h : P (Json.published (sync.sources ctLog records).eraseDups)) :
    (sync.afterStored (CtLog.hostnamesOf ctLog) records).run.Publishing P := by
  rw [← encode_merged] at h
  rw [afterStored]
  refine publishing_after_note (publishing_bind ?_ fun _ => ?_)
  · rw [ConfigApi.setForbiddenHostnames]
    exact publishing_set h
  · exact silent_bind (silent_note _) fun _ => silent_pure _

theorem reading_afterFetch (hplace : ∀ url, Url.parse sync.storedAt = .ok url → place url) :
    (sync.afterFetch (CtLog.hostnamesOf ctLog)).run.Reading place := by
  rw [afterFetch, ConfigApi.forbiddenHostnames, get_eq]
  refine reading_after_note ?_
  rw [bind_assoc, bind_assoc]
  refine reading_after_note ?_
  rw [demand_bind]
  refine reading_demand_place hplace fun list => ?_
  cases decoded : Json.decode Json.readRecords list with
  | error e => exact (silent_throw _).publishing _
  | ok records =>
    dsimp only
    rw [pure_bind, bind_assoc]
    refine publishing_after_note ?_
    rw [pure_bind]
    exact publishing_afterStored (lists_sources decoded)

/-- **A run puts nothing before it has read the stored list**, and then only a list that keeps all
that it has read. -/
theorem reading_run (hplace : ∀ url, Url.parse sync.storedAt = .ok url → place url) :
    sync.run.run.Reading place := by
  rw [run_eq, fetch_eq, bind_assoc]
  refine reading_after_note ?_
  rw [demand_bind]
  refine reading_demand fun ctLog => ?_
  rw [bind_assoc]
  refine reading_after_note ?_
  rw [pure_bind]
  exact reading_afterFetch hplace

end Sync

end ForbiddenHosts
