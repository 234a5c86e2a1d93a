import ForbiddenHosts.Proofs.Hostname.Equality
import ForbiddenHosts.Proofs.Json.Records
import ForbiddenHosts.Proofs.Sync.Stage

/-!
# What is published can be read back

A client of the configuration API publishes a list as its `payload`, in one put and whatever comes
back for it.  `ReadsBack` says that no list is changed on the way: who reads the payload finds the
records of the list, all of them and in their order, and collecting their hostnames gives the list
again.  So the payload determines the list.

This holds of every list that the operations build, whatever characters its hostnames consist of
(`readsBack_of_built`).
-/
namespace ForbiddenHosts.ConfigApi

open Http Errand HostnameList

variable {σ : Type} {network : Network σ} {before after : σ} {api : ConfigApi}
  {list other : HostnameList}

/-- The bytes that publish a list. -/
def payload (list : HostnameList) : Bytes := Utf8.encode list.toJson.chars

theorem payload_eq (list : HostnameList) : payload list = Json.published list.hostnames := by
  rw [payload, Json.chars_toJson, Json.published]

/-- **A list comes back as it was sent.** -/
structure ReadsBack (api : ConfigApi) (list : HostnameList) : Prop where
  /-- Who publishes the list puts its payload, once, where the stored list is read. -/
  sends : ∀ (σ : Type) (network : Network σ) (before : σ) (url : Url),
    Url.parse (api.endpoint "forbidden-hostnames") = .ok url → isRequestable url = true →
      ((api.setForbiddenHostnames list).over network before).requests =
        [⟨.put, url, "application/json", some "application/json", payload list⟩]
  /-- The payload is read as the records of the list. -/
  decodes : Json.decode Json.readRecords (payload list) = .ok list.records.toList
  /-- Who asks for the stored list and gets the payload has the records of the list. -/
  reads : ∀ (σ : Type) (network : Network σ) (before : σ) (request : Request) (after : σ),
    StageYields network before (api.endpoint "forbidden-hostnames") "application/json" request
        (payload list) after →
      (api.forbiddenHostnames.over network before).result = .ok list.records.toList
  /-- Collecting what was read gives the list. -/
  collects : (ofList (list.records.toList.map HostnameRecord.hostname) == list) = true
  /-- Lists with the same payload are equal. -/
  determines : ∀ other : HostnameList, other.Built → payload other = payload list →
    (other == list) = true

/-! ### Sending -/

/-- A put that can be made is made once, whatever comes back for it. -/
theorem requests_set {key : String} {value : Json} {request : Request}
    (made : Request.make .put (api.endpoint key) jsonType (some jsonType)
      (Utf8.encode value.chars) = .ok request) :
    ((api.set key value).over network before).requests = [request] := by
  rcases answered : network.answer request before with ⟨reply, after⟩
  cases reply with
  | lost => exact (settles_set_lost made answered).requests_eq
  | arrived status body => exact (settles_set_arrived made answered).requests_eq

theorem requests_setForbiddenHostnames {url : Url}
    (parsed : Url.parse (api.endpoint forbiddenHostnamesKey) = .ok url)
    (requestable : isRequestable url = true) :
    ((api.setForbiddenHostnames list).over network before).requests =
      [⟨.put, url, jsonType, some jsonType, payload list⟩] :=
  requests_set (make_eq_ok_iff.mpr ⟨url, parsed, requestable, rfl⟩)

/-! ### Reading -/

theorem decode_payload (list : HostnameList) :
    Json.decode Json.readRecords (payload list) = .ok list.records.toList := by
  rw [payload_eq, Json.decode_published, records_toList]

/-! ### Collecting -/

theorem hostnames_ofList_records (h : list.Coherent) :
    (ofList (list.records.toList.map HostnameRecord.hostname)).hostnames = list.hostnames := by
  have hrecords : list.records.toList.map HostnameRecord.hostname = list.hostnames := rfl
  rw [hrecords, hostnames_ofList, FirstPlaces.eraseDups_eq_self h.nodup]

theorem hostnames_eq_of_payload_eq (h : payload other = payload list) :
    other.hostnames = list.hostnames := by
  have hread := (decode_payload other).symm.trans ((congrArg _ h).trans (decode_payload list))
  have hrecords : other.records = list.records := Array.toList_inj.mp (Except.ok.inj hread)
  exact records_eq_iff.mp hrecords

/-- **Every list that the operations build is read back as it was published.** -/
theorem readsBack_of_built (api : ConfigApi) (list : HostnameList) (built : list.Built) :
    api.ReadsBack list where
  sends _ _ _ _ parsed requestable := requests_setForbiddenHostnames parsed requestable
  decodes := decode_payload list
  reads _ _ _ _ _ yields :=
    (settles_stored_decoded yields (decode_payload list)).result_eq
  collects := by
    refine ((coherent_ofList _).beq_iff built.coherent).mpr ?_
    exact hostnames_ofList_records built.coherent
  determines other hother hpayload :=
    (hother.coherent.beq_iff built.coherent).mpr (hostnames_eq_of_payload_eq hpayload)

/-- An empty hostname, one of a quote, a backslash and control characters, and one of a line
separator and a character beyond U+FFFF, which is also added a second time. -/
def peculiar : HostnameList :=
  ((ofList ["", "\"\\\n\x01"]).merge ["\u2028😀", "", "\u2028😀"]).2

/-- Of hostnames of which every kind of character has to come back. -/
theorem readsBack_peculiar :
    peculiar.Built ∧
      peculiar.toJson.text =
        "[\x7b\"hostname\":\"\"\x7d,\x7b\"hostname\":\"\\\"\\\\\\n\\u0001\"\x7d," ++
          "\x7b\"hostname\":\"\u2028😀\"\x7d]" ∧
      ReadsBack ⟨"http://config.example"⟩ peculiar := by
  have hbuilt : peculiar.Built := (Built.ofList _).merge _
  have hhostnames : peculiar.hostnames = ["", "\"\\\n\x01", "\u2028😀"] := by
    rw [peculiar, (coherent_ofList _).hostnames_merge, hostnames_ofList]
    decide
  refine ⟨hbuilt, ?_, readsBack_of_built _ _ hbuilt⟩
  rw [Json.text, Json.chars_toJson, hhostnames]
  decide

end ForbiddenHosts.ConfigApi
