import ForbiddenHosts.Proofs.Sync.Settling
import ForbiddenHosts.Sync.Run

/-!
# Stages that ask

A run asks for two values, the CT log list and the stored list.  Asking for a value has two ends:
it **fails** (`StageFails`), because the request cannot be sent, because no response arrives,
because the status is no success, or because the body breaks off; or it **yields** the body of the
reply (`StageYields`).  One of them is the case on every network (`stage_fails_or_yields`).

Both errands that ask are a `demand`, and what follows it; the lemmas below say how each settles,
and how the publication does, which takes any response for an answer.
-/
namespace ForbiddenHosts

open Http Errand

variable {σ α β : Type} {network : Network σ} {before middle after : σ}

/-! ### Stages that ask -/

/-- Asking for what an address holds fails. -/
inductive StageFails (network : Network σ) (before : σ) (address accept : String) :
    SyncError → List Request → σ → Prop where
  /-- The request cannot be sent. -/
  | unsent {failure : Failure}
      (made : Request.make .get address accept none [] = .error failure) :
      StageFails network before address accept (.http failure) [] before
  /-- No response arrives. -/
  | unanswered {request : Request} {failure : Failure} {after : σ}
      (made : Request.make .get address accept none [] = .ok request)
      (lost : network.answer request before = (.lost failure, after)) :
      StageFails network before address accept (.http failure) [request] after
  /-- The status is no success, whatever the body. -/
  | refused {request : Request} {status : Status} {body : Body} {after : σ}
      (made : Request.make .get address accept none [] = .ok request)
      (arrived : network.answer request before = (.arrived status body, after))
      (refused : ¬(200 ≤ status.code ∧ status.code ≤ 299)) :
      StageFails network before address accept (.unexpectedStatus address status) [request] after
  /-- The body breaks off. -/
  | brokenOff {request : Request} {status : Status} {after : σ}
      (made : Request.make .get address accept none [] = .ok request)
      (arrived : network.answer request before = (.arrived status .brokenOff, after))
      (success : 200 ≤ status.code ∧ status.code ≤ 299) :
      StageFails network before address accept (.http .bodyBreaksOff) [request] after

/-- Asking for what an address holds yields the body of a reply that succeeds and is whole. -/
structure StageYields (network : Network σ) (before : σ) (address accept : String)
    (request : Request) (body : Bytes) (after : σ) : Prop where
  made : Request.make .get address accept none [] = .ok request
  arrived : ∃ status : Status, (200 ≤ status.code ∧ status.code ≤ 299) ∧
    network.answer request before = (.arrived status (.complete body), after)

/-- A stage that asks fails or yields. -/
theorem stage_fails_or_yields (network : Network σ) (before : σ) (address accept : String) :
    (∃ e asked after, StageFails network before address accept e asked after) ∨
      ∃ request body after, StageYields network before address accept request body after := by
  cases made : Request.make .get address accept none [] with
  | error failure => exact Or.inl ⟨_, _, _, .unsent made⟩
  | ok request =>
    rcases answered : network.answer request before with ⟨reply, after⟩
    cases reply with
    | lost failure => exact Or.inl ⟨_, _, _, .unanswered made answered⟩
    | arrived status body =>
      by_cases success : 200 ≤ status.code ∧ status.code ≤ 299
      · cases body with
        | complete bytes => exact Or.inr ⟨_, _, _, made, status, success, answered⟩
        | brokenOff => exact Or.inl ⟨_, _, _, .brokenOff made answered success⟩
      · exact Or.inl ⟨_, _, _, .refused made answered success⟩

/-- What a stage yields is determined by the network's state. -/
theorem StageYields.unique {address accept : String} {request request' : Request}
    {body body' : Bytes} {after after' : σ}
    (h : StageYields network before address accept request body after)
    (h' : StageYields network before address accept request' body' after') :
    request = request' ∧ body = body' ∧ after = after' := by
  have hrequest := h.made.symm.trans h'.made
  cases hrequest
  obtain ⟨status, _, arrived⟩ := h.arrived
  obtain ⟨status', _, arrived'⟩ := h'.arrived
  have hanswer := arrived.symm.trans arrived'
  cases hanswer
  exact ⟨rfl, rfl, rfl⟩

/-- Goes on with the body of a reply that succeeds and is whole. -/
def withBody (address : String) (next : Bytes → Errand β) (status : Status) (body : Body) :
    Errand β := do
  if !status.isSuccess then throw (.unexpectedStatus address status)
  let bytes ← wholeBody body
  next bytes

/-- Asks for what an address holds and goes on with the body of the reply. -/
def demand (address accept : String) (next : Bytes → Errand β) : Errand β := do
  let (status, body) ← Errand.ask .get address accept none []
  withBody address next status body

theorem isSuccess_of {status : Status} (h : 200 ≤ status.code ∧ status.code ≤ 299) :
    status.isSuccess = true := Status.isSuccess_iff.mpr h

theorem isSuccess_of_not {status : Status} (h : ¬(200 ≤ status.code ∧ status.code ≤ 299)) :
    status.isSuccess = false := by
  rw [Bool.eq_false_iff]
  exact fun hs => h (Status.isSuccess_iff.mp hs)

section Bodies

variable {address : String} {next : Bytes → Errand β} {status : Status}

theorem withBody_refused (refused : ¬(200 ≤ status.code ∧ status.code ≤ 299)) (body : Body) :
    withBody address next status body = throw (.unexpectedStatus address status) := by
  rw [withBody, isSuccess_of_not refused]
  rfl

theorem withBody_brokenOff (success : 200 ≤ status.code ∧ status.code ≤ 299) :
    withBody address next status .brokenOff = throw (.http .bodyBreaksOff) := by
  rw [withBody, isSuccess_of success]
  rfl

theorem withBody_complete (success : 200 ≤ status.code ∧ status.code ≤ 299) (bytes : Bytes) :
    withBody address next status (.complete bytes) = next bytes := by
  rw [withBody, isSuccess_of success]
  rfl

end Bodies

/-- What comes after a stage that asks comes after each of its ends. -/
theorem demand_bind (address accept : String) (next : Bytes → Errand α) (f : α → Errand β) :
    demand address accept next >>= f = demand address accept fun bytes => next bytes >>= f := by
  rw [demand, demand, bind_assoc]
  refine congrArg (_ >>= ·) (funext ?_)
  rintro ⟨status, body⟩
  by_cases success : 200 ≤ status.code ∧ status.code ≤ 299
  · cases body with
    | complete bytes => simp only [withBody_complete success]
    | brokenOff =>
      simp only [withBody_brokenOff success]
      rfl
  · simp only [withBody_refused success]
    rfl

section Making

variable {method method' : Method} {address accept accept' : String}
  {contentType contentType' : Option String} {body body' : Bytes} {request : Request}

/-- A request is made for an address that spells a URL that can be requested. -/
theorem make_eq_ok_iff :
    Request.make method address accept contentType body = .ok request ↔
      ∃ url, Url.parse address = .ok url ∧ isRequestable url = true ∧
        ⟨method, url, accept, contentType, body⟩ = request := by
  rw [Request.make]
  cases Url.parse address with
  | error fault => simp
  | ok url =>
    by_cases requestable : isRequestable url = true
    · simp [requestable]
    · simp [requestable]

/-- A request has the method that it is made with. -/
theorem method_of_make
    (made : Request.make method address accept contentType body = .ok request) :
    request.method = method := by
  obtain ⟨url, _, _, rfl⟩ := make_eq_ok_iff.mp made
  rfl

/-- The same address gives every request the same URL. -/
theorem make_eq_of_make
    (made : Request.make method address accept contentType body = .ok request) :
    Request.make method' address accept' contentType' body' =
      .ok ⟨method', request.url, accept', contentType', body'⟩ := by
  obtain ⟨url, parsed, requestable, rfl⟩ := make_eq_ok_iff.mp made
  exact make_eq_ok_iff.mpr ⟨url, parsed, requestable, rfl⟩

end Making

section Methods

variable {address accept : String} {e : SyncError} {asked : List Request} {request : Request}
  {body : Bytes}

/-- A stage that fails has asked for representations only. -/
theorem StageFails.gets (h : StageFails network before address accept e asked after) :
    ∀ request ∈ asked, request.method = .get := by
  cases h with
  | unsent made => exact fun _ hm => by cases hm
  | unanswered made | refused made | brokenOff made =>
    exact List.forall_mem_singleton.mpr (method_of_make made)

theorem StageYields.gets (h : StageYields network before address accept request body after)
    (others : ∀ other ∈ asked, other.method = .get) :
    ∀ other ∈ request :: asked, other.method = .get :=
  List.forall_mem_cons.mpr ⟨method_of_make h.made, others⟩

end Methods

section Asking

variable {method : Method} {address accept : String} {contentType : Option String} {body : Bytes}
  {request : Request}

theorem settles_ask_unsent {failure : Failure}
    (made : Request.make method address accept contentType body = .error failure) :
    (ask method address accept contentType body).Settles network before
      (.error (.http failure)) [] before := by
  rw [ask, made]
  exact settles_throw _

theorem settles_ask_lost {failure : Failure}
    (made : Request.make method address accept contentType body = .ok request)
    (lost : network.answer request before = (.lost failure, after)) :
    (ask method address accept contentType body).Settles network before
      (.error (.http failure)) [request] after := by
  rw [ask, made]
  refine ⟨?_, ?_, ?_⟩ <;> simp [Errand.over, ExceptT.run_mk, Conversation.over, lost]

theorem settles_ask_arrived {status : Status} {reply : Body}
    (made : Request.make method address accept contentType body = .ok request)
    (arrived : network.answer request before = (.arrived status reply, after)) :
    (ask method address accept contentType body).Settles network before
      (.ok (status, reply)) [request] after := by
  rw [ask, made]
  refine ⟨?_, ?_, ?_⟩ <;> simp [Errand.over, ExceptT.run_mk, Conversation.over, arrived]

theorem settles_demand_of_fails {next : Bytes → Errand β} {e : SyncError} {asked : List Request}
    (h : StageFails network before address accept e asked after) :
    (demand address accept next).Settles network before (.error e) asked after := by
  cases h with
  | unsent made => exact (settles_ask_unsent made).bind_error
  | unanswered made lost => exact (settles_ask_lost made lost).bind_error
  | @refused request status body _ made arrived refused =>
    refine (settles_ask_arrived made arrived).bind_quiet ?_
    simp only [withBody_refused refused]
    exact settles_throw _
  | @brokenOff request status _ made arrived success =>
    refine (settles_ask_arrived made arrived).bind_quiet ?_
    simp only [withBody_brokenOff success]
    exact settles_throw _

theorem settles_demand_of_yields {next : Bytes → Errand β} {bytes : Bytes}
    {result : Except SyncError β} {more : List Request}
    (h : StageYields network before address accept request bytes middle)
    (hnext : (next bytes).Settles network middle result more after) :
    (demand address accept next).Settles network before result (request :: more) after := by
  obtain ⟨status, success, arrived⟩ := h.arrived
  refine (settles_ask_arrived h.made arrived).bind ?_
  simp only [withBody_complete success]
  exact hnext

end Asking

/-! ### The parts of a run -/

/-- The message of a rejection: the trimmed text of a whole body. -/
def rejectionMessage : Body → String
  | .complete bytes => Text.trimString (Utf8.decodeString bytes)
  | .brokenOff => ""

/-- What a response to a publication comes to. -/
def outcomeOf (status : Status) (reply : Body) : Outcome :=
  if 200 ≤ status.code ∧ status.code ≤ 299 then .accepted status
  else .rejected status (rejectionMessage reply)

theorem settles_rejectionText (url : String) (reply : Body) :
    (ConfigApi.rejectionText url reply).Settles network before (.ok (rejectionMessage reply)) []
      before := by
  cases reply with
  | complete bytes => exact settles_pure _
  | brokenOff => exact Settles.after_note (settles_pure _)

section Fetching

variable {url : String} {fetch : Request} {ctLog : Bytes} {e : SyncError} {asked : List Request}

/-- Fetching the CT log list is one stage that asks. -/
theorem fetch_eq (url : String) :
    CtLog.fetch url = (do
      Errand.note (.fetchingCtLog url)
      demand url CtLog.anyType fun bytes => do
        Errand.note (.pulled (CtLog.hostnamesOf bytes).size url)
        return CtLog.hostnamesOf bytes) := rfl

theorem settles_fetch_of_fails
    (h : StageFails network before url CtLog.anyType e asked after) :
    (CtLog.fetch url).Settles network before (.error e) asked after := by
  rw [fetch_eq]
  exact Settles.after_note (settles_demand_of_fails h)

theorem settles_fetch_of_yields
    (h : StageYields network before url CtLog.anyType fetch ctLog after) :
    (CtLog.fetch url).Settles network before (.ok (CtLog.hostnamesOf ctLog)) [fetch] after := by
  rw [fetch_eq]
  exact Settles.after_note (settles_demand_of_yields h (Settles.after_note (settles_pure _)))

end Fetching

section Reading

variable {api : ConfigApi} {key : String} {readValue : Bytes → Json.Read α} {read : Request}
  {body : Bytes} {e : SyncError} {asked : List Request}

/-- Reading a value is one stage that asks, and the decoding of what it yields. -/
theorem get_eq (api : ConfigApi) (readValue : Bytes → Json.Read α) (key : String) :
    api.get readValue key = (do
      Errand.note (.reading (api.endpoint key))
      demand (api.endpoint key) ConfigApi.jsonType fun bytes =>
        match Json.decode readValue bytes with
        | .ok value => return value
        | .error error => throw (.json error)) := rfl

theorem settles_get_of_fails
    (h : StageFails network before (api.endpoint key) ConfigApi.jsonType e asked after) :
    (api.get readValue key).Settles network before (.error e) asked after := by
  rw [get_eq]
  exact Settles.after_note (settles_demand_of_fails h)

theorem settles_get_unread {fault : Json.Error}
    (h : StageYields network before (api.endpoint key) ConfigApi.jsonType read body after)
    (unread : Json.decode readValue body = .error fault) :
    (api.get readValue key).Settles network before (.error (.json fault)) [read] after := by
  rw [get_eq]
  refine Settles.after_note (settles_demand_of_yields h ?_)
  rw [unread]
  exact settles_throw _

theorem settles_get_decoded {value : α}
    (h : StageYields network before (api.endpoint key) ConfigApi.jsonType read body after)
    (decoded : Json.decode readValue body = .ok value) :
    (api.get readValue key).Settles network before (.ok value) [read] after := by
  rw [get_eq]
  refine Settles.after_note (settles_demand_of_yields h ?_)
  rw [decoded]
  exact settles_pure _

end Reading

/-! Reading the stored list is reading its value, and a note. -/

section ReadingStored

variable {api : ConfigApi} {read : Request} {body : Bytes} {e : SyncError} {asked : List Request}

theorem settles_stored_of_fails
    (h : StageFails network before (api.endpoint ConfigApi.forbiddenHostnamesKey)
      ConfigApi.jsonType e asked after) :
    api.forbiddenHostnames.Settles network before (.error e) asked after :=
  (settles_get_of_fails h).bind_error

theorem settles_stored_unread {fault : Json.Error}
    (h : StageYields network before (api.endpoint ConfigApi.forbiddenHostnamesKey)
      ConfigApi.jsonType read body after)
    (unread : Json.decode Json.readRecords body = .error fault) :
    api.forbiddenHostnames.Settles network before (.error (.json fault)) [read] after :=
  (settles_get_unread h unread).bind_error

theorem settles_stored_decoded {records : List HostnameRecord}
    (h : StageYields network before (api.endpoint ConfigApi.forbiddenHostnamesKey)
      ConfigApi.jsonType read body after)
    (decoded : Json.decode Json.readRecords body = .ok records) :
    api.forbiddenHostnames.Settles network before (.ok records) [read] after :=
  (settles_get_decoded h decoded).bind (Settles.after_note (settles_pure _))

end ReadingStored

section Publishing

variable {api : ConfigApi} {key : String} {value : Json} {request : Request}

/-- The outcome that a response is taken for. -/
def judge (url : String) (status : Status) (reply : Body) : Errand Outcome := do
  if status.isSuccess then return .accepted status
  return .rejected status (← ConfigApi.rejectionText url reply)

/-- Replacing a value is one put, and a judgement on the response. -/
theorem set_eq (api : ConfigApi) (key : String) (value : Json) :
    api.set key value = (do
      Errand.note (.publishing (api.endpoint key) (Utf8.encode value.chars).length)
      let (status, reply) ← Errand.ask .put (api.endpoint key) ConfigApi.jsonType
        (some ConfigApi.jsonType) (Utf8.encode value.chars)
      judge (api.endpoint key) status reply) := rfl

theorem settles_judge (url : String) (status : Status) (reply : Body) :
    (judge url status reply).Settles network before (.ok (outcomeOf status reply)) [] before := by
  by_cases success : 200 ≤ status.code ∧ status.code ≤ 299
  · rw [judge, isSuccess_of success, outcomeOf, if_pos success]
    exact settles_pure _
  · rw [judge, isSuccess_of_not success, outcomeOf, if_neg success]
    exact (settles_rejectionText url reply).bind (settles_pure _)

theorem settles_set_unsent {failure : Failure}
    (made : Request.make .put (api.endpoint key) ConfigApi.jsonType (some ConfigApi.jsonType)
      (Utf8.encode value.chars) = .error failure) :
    (api.set key value).Settles network before (.error (.http failure)) [] before := by
  rw [set_eq]
  exact Settles.after_note (settles_ask_unsent made).bind_error

theorem settles_set_lost {failure : Failure}
    (made : Request.make .put (api.endpoint key) ConfigApi.jsonType (some ConfigApi.jsonType)
      (Utf8.encode value.chars) = .ok request)
    (lost : network.answer request before = (.lost failure, after)) :
    (api.set key value).Settles network before (.error (.http failure)) [request] after := by
  rw [set_eq]
  exact Settles.after_note (settles_ask_lost made lost).bind_error

theorem settles_set_arrived {status : Status} {reply : Body}
    (made : Request.make .put (api.endpoint key) ConfigApi.jsonType (some ConfigApi.jsonType)
      (Utf8.encode value.chars) = .ok request)
    (arrived : network.answer request before = (.arrived status reply, after)) :
    (api.set key value).Settles network before (.ok (outcomeOf status reply)) [request] after := by
  rw [set_eq]
  exact Settles.after_note ((settles_ask_arrived made arrived).bind_quiet (settles_judge _ _ _))

end Publishing

end ForbiddenHosts
