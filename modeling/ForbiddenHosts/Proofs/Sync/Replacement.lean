import ForbiddenHosts.Proofs.Sync.Stage
import ForbiddenHosts.Proofs.Text.Items

/-!
# How a value is replaced

Reading a value needs a success and a whole body.  Replacing one does not: once a status has
arrived, the replacement has an outcome, and neither a bad status nor a body that breaks off is an
error.  `Replacing` says how a replacement goes, in all its cases: there is no request, because the
address cannot be requested, or one put, and the reply to it decides the rest.

It is for the one who asked to turn a rejection into an error; `Report.settle` does so, and loses
neither the status nor the message (`Report.settle_eq_error_iff`).

`set_replacing` is the main statement: the transcripts of replacements are exactly these cases,
whatever the network does.
-/
namespace ForbiddenHosts

open Http Errand Text

/-! ### Reports -/

section Reports

variable {report : Report}

/-- A report is an error exactly if it is one of a rejection, of which the error keeps all. -/
theorem Report.settle_eq_error_iff {e : SyncError} :
    report.settle = .error e ↔
      ∃ status message, report.outcome = .rejected status message ∧
        e = .publishRejected status message := by
  rw [Report.settle]
  cases report.outcome with
  | accepted status => simp
  | rejected status message => simp [eq_comm]

theorem Report.settle_eq_ok_iff {settled : Report} :
    report.settle = .ok settled ↔
      settled = report ∧ ∃ status, report.outcome = .accepted status := by
  rw [Report.settle]
  cases report.outcome with
  | accepted status => simp [eq_comm]
  | rejected status message => simp

end Reports

namespace ConfigApi

variable {σ : Type} {network : Network σ} {before after : σ} {api : ConfigApi} {key : String}
  {value : Json} {url : Url}

/-- The request that puts a value at a URL: its body is the text of the value. -/
def replacement (url : Url) (value : Json) : Request where
  method := .put
  url := url
  accept := "application/json"
  contentType := some "application/json"
  body := Utf8.encodeString value.text

/-- How a value is replaced: the outcome, or the error, the requests, and the network's state at the
end. -/
inductive Replacing (api : ConfigApi) (key : String) (value : Json) (network : Network σ)
    (before : σ) : Except SyncError Outcome → List Request → σ → Prop where
  /-- The address of the key is no URL. -/
  | noUrl {fault : Url.Fault} (unread : Url.parse (api.endpoint key) = .error fault) :
      Replacing api key value network before (.error (.http .noUrl)) [] before
  /-- The address of the key is a URL that cannot be requested. -/
  | notRequestable {url : Url} (parsed : Url.parse (api.endpoint key) = .ok url)
      (unrequestable : isRequestable url = false) :
      Replacing api key value network before (.error (.http (.notRequestable url))) [] before
  /-- No response arrives. -/
  | unanswered {url : Url} {failure : Failure} {after : σ}
      (parsed : Url.parse (api.endpoint key) = .ok url) (requestable : isRequestable url = true)
      (lost : network.answer (replacement url value) before = (.lost failure, after)) :
      Replacing api key value network before (.error (.http failure)) [replacement url value] after
  /-- A success arrives, with a body or without. -/
  | accepted {url : Url} {status : Status} {body : Body} {after : σ}
      (parsed : Url.parse (api.endpoint key) = .ok url) (requestable : isRequestable url = true)
      (arrived : network.answer (replacement url value) before = (.arrived status body, after))
      (success : 200 ≤ status.code ∧ status.code ≤ 299) :
      Replacing api key value network before (.ok (.accepted status)) [replacement url value] after
  /-- Another status arrives, and a whole body: its text is the message, without the blanks at its
  ends. -/
  | rejected {url : Url} {status : Status} {bytes : Bytes} {message : String} {after : σ}
      (parsed : Url.parse (api.endpoint key) = .ok url) (requestable : isRequestable url = true)
      (arrived : network.answer (replacement url value) before =
        (.arrived status (.complete bytes), after))
      (refused : ¬(200 ≤ status.code ∧ status.code ≤ 299))
      (trims : TrimsTo (Utf8.decode bytes) message.toList) :
      Replacing api key value network before (.ok (.rejected status message))
        [replacement url value] after
  /-- Another status arrives, and a body that breaks off: there is no message. -/
  | rejectedUnread {url : Url} {status : Status} {after : σ}
      (parsed : Url.parse (api.endpoint key) = .ok url) (requestable : isRequestable url = true)
      (arrived : network.answer (replacement url value) before =
        (.arrived status .brokenOff, after))
      (refused : ¬(200 ≤ status.code ∧ status.code ≤ 299)) :
      Replacing api key value network before (.ok (.rejected status ""))
        [replacement url value] after

/-! ### Requests -/

theorem encodeString_text (value : Json) :
    Utf8.encodeString value.text = Utf8.encode value.chars := by
  rw [Utf8.encodeString, Json.text, String.toList_ofList]

theorem make_replacement (parsed : Url.parse (api.endpoint key) = .ok url)
    (requestable : isRequestable url = true) :
    Request.make .put (api.endpoint key) jsonType (some jsonType) (Utf8.encode value.chars) =
      .ok (replacement url value) := by
  refine make_eq_ok_iff.mpr ⟨url, parsed, requestable, ?_⟩
  rw [replacement, encodeString_text]
  rfl

theorem make_noUrl {fault : Url.Fault} (unread : Url.parse (api.endpoint key) = .error fault) :
    Request.make .put (api.endpoint key) jsonType (some jsonType) (Utf8.encode value.chars) =
      .error .noUrl := by
  rw [Request.make, unread]

theorem make_notRequestable (parsed : Url.parse (api.endpoint key) = .ok url)
    (unrequestable : isRequestable url = false) :
    Request.make .put (api.endpoint key) jsonType (some jsonType) (Utf8.encode value.chars) =
      .error (.notRequestable url) := by
  rw [Request.make, parsed]
  simp [unrequestable]

/-! ### Outcomes -/

theorem outcomeOf_success {status : Status} (success : 200 ≤ status.code ∧ status.code ≤ 299)
    (body : Body) : outcomeOf status body = .accepted status := if_pos success

theorem outcomeOf_refused {status : Status} (refused : ¬(200 ≤ status.code ∧ status.code ≤ 299))
    (body : Body) : outcomeOf status body = .rejected status (rejectionMessage body) :=
  if_neg refused

/-- The message of a rejection is the text of its body, without the blanks at its ends. -/
theorem rejectionMessage_eq_iff {bytes : Bytes} {message : String} :
    rejectionMessage (.complete bytes) = message ↔
      TrimsTo (Utf8.decode bytes) message.toList := by
  rw [rejectionMessage, trimString, Utf8.decodeString, String.toList_ofList, trimsTo_iff,
    ← String.toList_inj, String.toList_ofList]

/-! ### Replacements -/

/-- **A case is what comes of a replacement.** -/
theorem Replacing.settles {result : Except SyncError Outcome} {asked : List Request}
    (h : api.Replacing key value network before result asked after) :
    (api.set key value).Settles network before result asked after := by
  cases h with
  | noUrl unread => exact settles_set_unsent (make_noUrl unread)
  | notRequestable parsed unrequestable =>
    exact settles_set_unsent (make_notRequestable parsed unrequestable)
  | unanswered parsed requestable lost =>
    exact settles_set_lost (make_replacement parsed requestable) lost
  | accepted parsed requestable arrived success =>
    rw [← outcomeOf_success success]
    exact settles_set_arrived (make_replacement parsed requestable) arrived
  | rejected parsed requestable arrived refused trims =>
    rw [← rejectionMessage_eq_iff.mpr trims, ← outcomeOf_refused refused]
    exact settles_set_arrived (make_replacement parsed requestable) arrived
  | @rejectedUnread _ status _ parsed requestable arrived refused =>
    have hsettles := settles_set_arrived (make_replacement parsed requestable) arrived
    rw [outcomeOf_refused refused] at hsettles
    exact hsettles

/-- Every replacement is one of the cases. -/
theorem exists_replacing (api : ConfigApi) (key : String) (value : Json) (network : Network σ)
    (before : σ) : ∃ result asked after,
      api.Replacing key value network before result asked after := by
  cases parsed : Url.parse (api.endpoint key) with
  | error fault => exact ⟨_, _, _, .noUrl parsed⟩
  | ok url =>
    cases requestable : isRequestable url with
    | false => exact ⟨_, _, _, .notRequestable parsed requestable⟩
    | true =>
      rcases answered : network.answer (replacement url value) before with ⟨reply, after⟩
      cases reply with
      | lost failure => exact ⟨_, _, _, .unanswered parsed requestable answered⟩
      | arrived status body =>
        by_cases success : 200 ≤ status.code ∧ status.code ≤ 299
        · exact ⟨_, _, _, .accepted parsed requestable answered success⟩
        · cases body with
          | complete bytes =>
            exact ⟨_, _, _, .rejected parsed requestable answered success
              (rejectionMessage_eq_iff.mp rfl)⟩
          | brokenOff => exact ⟨_, _, _, .rejectedUnread parsed requestable answered success⟩

/-- **A value is replaced with at most one put, and any response to it is an outcome**: the
transcripts of replacements are exactly the cases of `Replacing`.  A report of the outcome is an
error exactly if the outcome is a rejection, and the error has its status and its message. -/
theorem set_replacing (api : ConfigApi) (key : String) (value : Json) (network : Network σ)
    (before : σ) :
    (∀ result asked after,
      api.Replacing key value network before result asked after ↔
        ((api.set key value).over network before).result = result ∧
          ((api.set key value).over network before).requests = asked ∧
          ((api.set key value).over network before).world = after) ∧
    ∀ report : Report,
      (∀ e, report.settle = .error e ↔
        ∃ status message, report.outcome = .rejected status message ∧
          e = .publishRejected status message) ∧
      ∀ settled, report.settle = .ok settled ↔
        settled = report ∧ ∃ status, report.outcome = .accepted status := by
  refine ⟨fun result asked after => ⟨?_, ?_⟩, ?_⟩
  · intro h
    exact ⟨h.settles.result_eq, h.settles.requests_eq, h.settles.world_eq⟩
  · rintro ⟨rfl, rfl, rfl⟩
    obtain ⟨result, asked, after, h⟩ := exists_replacing api key value network before
    obtain ⟨hresult, hasked, hafter⟩ :=
      h.settles.unique (settles_over network (api.set key value) before)
    rw [← hresult, ← hasked, ← hafter]
    exact h
  · intro report
    exact ⟨fun _ => Report.settle_eq_error_iff, fun _ => Report.settle_eq_ok_iff⟩

end ConfigApi

end ForbiddenHosts
