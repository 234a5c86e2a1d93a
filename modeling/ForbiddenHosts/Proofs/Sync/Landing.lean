import ForbiddenHosts.Http.Wire
import ForbiddenHosts.Proofs.Sync.ReadBack
import ForbiddenHosts.Proofs.Url.NormalForm

/-!
# Where the requests for the stored list go

A client of the configuration API puts `/config/forbidden-hostnames` behind the text of its base,
and what comes of it is read as a URL when a request is made.  So the place of the stored list comes
under the part that ends the text of the base.  That is the path if the base has neither query nor
fragment.  Otherwise it is the fragment, or else the query: the path is then that of the base, and
the requests go to whatever the base itself addresses.

`lands_of_parse` is the main statement.
-/
namespace ForbiddenHosts.ConfigApi

open Http Errand Url

variable {σ : Type} {network : Network σ} {before : σ} {api : ConfigApi} {request : Request}

/-! ### Requests -/

/-- A stage that fails has asked at its address, if it has asked at all. -/
theorem made_of_stageFails {address accept : String} {e : SyncError} {asked : List Request}
    {after : σ} (h : StageFails network before address accept e asked after)
    (hmem : request ∈ asked) : Request.make .get address accept none [] = .ok request := by
  cases h with
  | unsent _ => cases hmem
  | unanswered made _ | refused made _ _ | brokenOff made _ _ =>
    rw [List.mem_singleton.mp hmem]
    exact made

/-- What is asked for the stored list is asked at its address. -/
theorem made_of_mem_requests_forbiddenHostnames
    (h : request ∈ (api.forbiddenHostnames.over network before).requests) :
    Request.make .get (api.endpoint forbiddenHostnamesKey) jsonType none [] = .ok request := by
  rcases stage_fails_or_yields network before (api.endpoint forbiddenHostnamesKey) jsonType with
    ⟨e, asked, after, hfails⟩ | ⟨read, body, after, hyields⟩
  · rw [(settles_stored_of_fails hfails).requests_eq] at h
    exact made_of_stageFails hfails h
  · have hrequests : (api.forbiddenHostnames.over network before).requests = [read] := by
      cases decoded : Json.decode Json.readRecords body with
      | error fault => exact (settles_stored_unread hyields decoded).requests_eq
      | ok records => exact (settles_stored_decoded hyields decoded).requests_eq
    rw [hrequests, List.mem_singleton] at h
    rw [h]
    exact hyields.made

/-- What is put in the place of the stored list is put at its address. -/
theorem made_of_mem_requests_setForbiddenHostnames {list : HostnameList}
    (h : request ∈ ((api.setForbiddenHostnames list).over network before).requests) :
    Request.make .put (api.endpoint forbiddenHostnamesKey) jsonType (some jsonType)
      (Utf8.encode list.toJson.chars) = .ok request := by
  rw [setForbiddenHostnames] at h
  cases made : Request.make .put (api.endpoint forbiddenHostnamesKey) jsonType (some jsonType)
      (Utf8.encode list.toJson.chars) with
  | error failure =>
    rw [(settles_set_unsent made).requests_eq] at h
    cases h
  | ok sent =>
    rw [requests_set made, List.mem_singleton] at h
    rw [h]

theorem url_of_make {method : Method} {address accept : String} {contentType : Option String}
    {body : Bytes} {url : Url} (parsed : Url.parse address = .ok url)
    (made : Request.make method address accept contentType body = .ok request) :
    request.url = url := by
  obtain ⟨read, hread, _, rfl⟩ := make_eq_ok_iff.mp made
  exact Except.ok.inj (hread.symm.trans parsed)

/-! ### The place of the stored list -/

/-- The place of the stored list, in segments. -/
def storedPlace : List (List Char) := ["config".toList, "forbidden-hostnames".toList]

theorem segment_storedPlace : ∀ s ∈ storedPlace, Segment s := by
  have hchars : ∀ s ∈ storedPlace,
      s.all (!inPathSet ·) = true ∧ s.all (!isSlash true ·) = true := by decide
  have hdots : ∀ s ∈ storedPlace, isSingleDot s = false ∧ isDoubleDot s = false := by decide
  intro s hs
  obtain ⟨hencoded, hslash⟩ := hchars s hs
  obtain ⟨hsingle, hdouble⟩ := hdots s hs
  exact ⟨encoded_of_all hencoded, encoded_of_all hslash, hsingle, hdouble⟩

theorem encoded_storedPlace : Encoded (inQuerySet true) (segmentsText storedPlace) :=
  encoded_of_all (by decide)

/-- A text with the place of the stored list instead of the slashes at its end. -/
def behind (text : List Char) : List Char :=
  Text.dropEndWhile (· == '/') text ++ "/config/forbidden-hostnames".toList

theorem behind_eq (text : List Char) :
    behind text = Text.dropEndWhile (· == '/') text ++ segmentsText storedPlace := rfl

/-- Slashes alone are not the place of the stored list. -/
theorem behind_ne_self (text : List Char) : behind text ≠ text := by
  intro heq
  have hsplit : Text.dropEndWhile (· == '/') text ++ text.rtakeWhile (· == '/') = text :=
    List.rdropWhile_append_rtakeWhile
  have hslashes : "/config/forbidden-hostnames".toList = text.rtakeWhile (· == '/') :=
    List.append_cancel_left (heq.trans hsplit.symm)
  have hmem : 'c' ∈ text.rtakeWhile (· == '/') := hslashes ▸ by decide
  have hslash := List.mem_rtakeWhile_imp hmem
  cases hslash

/-! ### Landing -/

/-- **The requests of a client for a base go to one URL**, `landing`: it has the place of the stored
list under the path of the base, or else under its query or its fragment. -/
structure Lands (api : ConfigApi) (base landing : Url) : Prop where
  /-- The address of the stored list spells this URL. -/
  parsed : Url.parse (api.endpoint "forbidden-hostnames") = .ok landing
  scheme_eq : landing.scheme = base.scheme
  /-- Host and port are those of the base, and so are user name and password. -/
  authority_eq : landing.authority = base.authority
  /-- Without query and fragment the place comes under the path. -/
  inPath : base.query = none → base.fragment = none →
    landing.path.text = behind base.path.text ∧ landing.query = none ∧ landing.fragment = none
  /-- A query without a fragment takes it up. -/
  inQuery : ∀ query, base.query = some query → base.fragment = none →
    landing.path = base.path ∧ landing.query = some (String.ofList (behind query.toList)) ∧
      landing.fragment = none
  /-- A fragment takes it up. -/
  inFragment : ∀ fragment, base.fragment = some fragment →
    landing.path = base.path ∧ landing.query = base.query ∧
      landing.fragment = some (String.ofList (behind fragment.toList))
  /-- The path has the place of the stored list exactly without query and fragment. -/
  path_eq_iff : landing.path.text = behind base.path.text ↔
    base.query = none ∧ base.fragment = none
  /-- Who asks for the stored list asks there, on every network. -/
  reads : ∀ (σ : Type) (network : Network σ) (before : σ),
    ∀ request ∈ (api.forbiddenHostnames.over network before).requests, request.url = landing
  /-- Who publishes a list puts it there, on every network. -/
  publishes : ∀ (σ : Type) (network : Network σ) (before : σ) (list : HostnameList),
    ∀ request ∈ ((api.setForbiddenHostnames list).over network before).requests,
      request.url = landing

theorem toList_endpoint (url : Url) :
    ((ofUrl url).endpoint forbiddenHostnamesKey).toList = behind url.chars := by
  simp [endpoint, ofUrl, behind, forbiddenHostnamesKey]

/-- The address of the stored list is read as the parts of the base with its place under them. -/
theorem parse_endpoint {p : Parts} (h : p.Normal) (hne : p.segments ≠ []) :
    Url.parse ((ofUrl p.url).endpoint forbiddenHostnamesKey) = .ok (p.under storedPlace).url := by
  have htext : (ofUrl p.url).endpoint forbiddenHostnamesKey = (p.under storedPlace).url.text := by
    refine String.toList_inj.mp ?_
    rw [toList_endpoint, behind_eq, Url.text, String.toList_ofList, h.chars_under]
  have hplace : storedPlace ≠ [] := List.cons_ne_nil _ _
  have hsegments := orEmptySegment_of_ne_nil (p.segments_under_ne_nil hne hplace)
  rw [htext, (h.under segment_storedPlace encoded_storedPlace).parse_text, hsegments]

/-- Without query and fragment the place comes under the path. -/
theorem path_text_under {p : Parts} (h : p.Normal) (hquery : p.query = none)
    (hfragment : p.fragment = none) :
    (p.under storedPlace).url.path.text = behind p.url.path.text := by
  rw [Parts.under_of_path hfragment hquery, Parts.path_text_url, Parts.path_text_url, behind_eq,
    dropEndWhile_segmentsText h.segments, segmentsText_append]

/-- A query or a fragment leaves the path as it is. -/
theorem path_under {p : Parts} (h : p.query ≠ none ∨ p.fragment ≠ none) :
    (p.under storedPlace).url.path = p.url.path := by
  cases hfragment : p.fragment with
  | some fragment => rw [Parts.under_of_fragment hfragment, Parts.url, Parts.url]
  | none =>
    cases hquery : p.query with
    | some query => rw [Parts.under_of_query hfragment hquery, Parts.url, Parts.url]
    | none => simp [hfragment, hquery] at h

theorem lands_of_normal {p : Parts} (h : p.Normal) (hne : p.segments ≠ []) :
    (ofUrl p.url).Lands p.url (p.under storedPlace).url where
  parsed := parse_endpoint h hne
  scheme_eq := p.scheme_under storedPlace
  authority_eq := congrArg some (p.authority_under storedPlace)
  inPath := by
    intro hquery hfragment
    refine ⟨path_text_under h hquery hfragment, ?_⟩
    rw [Parts.under_of_path hfragment hquery]
    exact ⟨hquery, hfragment⟩
  inQuery := by
    intro query hquery hfragment
    have hsome : p.query ≠ none := Option.ne_none_iff_exists'.mpr ⟨query, hquery⟩
    refine ⟨path_under (Or.inl hsome), ?_⟩
    rw [Parts.under_of_query hfragment hquery]
    exact ⟨rfl, hfragment⟩
  inFragment := by
    intro fragment hfragment
    have hsome : p.fragment ≠ none := Option.ne_none_iff_exists'.mpr ⟨fragment, hfragment⟩
    refine ⟨path_under (Or.inr hsome), ?_⟩
    rw [Parts.under_of_fragment hfragment]
    exact ⟨rfl, rfl⟩
  path_eq_iff := by
    constructor
    · intro heq
      by_cases hnone : p.query = none ∧ p.fragment = none
      · exact hnone
      · rw [path_under (not_and_or.mp hnone)] at heq
        exact absurd heq.symm (behind_ne_self _)
    · rintro ⟨hquery, hfragment⟩
      exact path_text_under h hquery hfragment
  reads _ _ _ _ hmem :=
    url_of_make (parse_endpoint h hne) (made_of_mem_requests_forbiddenHostnames hmem)
  publishes _ _ _ _ _ hmem :=
    url_of_make (parse_endpoint h hne) (made_of_mem_requests_setForbiddenHostnames hmem)

/-- **A client for a web address** reads and publishes the stored list at one URL. -/
theorem lands_of_parse {text : String} {base : Url} (parsed : Url.parse text = .ok base)
    (web : base.scheme = "http" ∨ base.scheme = "https") :
    ∃ api landing, ConfigApi.parse text = .ok api ∧ api.Lands base landing := by
  have hdefault : (defaultPort? base.scheme).isSome := by
    rcases web with hscheme | hscheme <;> rw [hscheme] <;> decide
  obtain ⟨p, hp, hne, rfl⟩ := normal_of_parse parsed hdefault
  have haccepted : ConfigApi.parse text = .ok (ofUrl p.url) := by rw [ConfigApi.parse, parsed]
  exact ⟨_, _, haccepted, lands_of_normal hp hne⟩

/-- A base with a port and slashes at its end. -/
def slashes : Url :=
  ⟨"http", some ⟨"", none, .name "config.example", some 8080⟩, .rooted ["api", "", ""], none, none⟩

/-- Of the slashes at the end of a base the requests keep none. -/
theorem lands_slashes : Url.parse "http://config.example:8080/api//" = .ok slashes ∧
    (slashes.scheme = "http" ∨ slashes.scheme = "https") ∧
    ∃ api landing, ConfigApi.parse "http://config.example:8080/api//" = .ok api ∧
      api.Lands slashes landing ∧
      landing.text = "http://config.example:8080/api/config/forbidden-hostnames" := by
  have hparsed : Url.parse "http://config.example:8080/api//" = .ok slashes := by rfl
  have hweb : slashes.scheme = "http" ∨ slashes.scheme = "https" := Or.inl rfl
  obtain ⟨api, landing, haccepted, hlands⟩ := lands_of_parse hparsed hweb
  refine ⟨hparsed, hweb, api, landing, haccepted, hlands, ?_⟩
  rw [ConfigApi.parse, hparsed] at haccepted
  cases haccepted
  have hread : Url.parse ((ofUrl slashes).endpoint "forbidden-hostnames") =
      .ok { slashes with path := .rooted ["api", "config", "forbidden-hostnames"] } := by rfl
  have hlanding := Except.ok.inj (hlands.parsed.symm.trans hread)
  rw [hlanding]
  rfl

/-- With a query in the base, the place of the stored list comes under the query, and the path that
is asked for is the one of the base. -/
theorem not_behind_query : ∃ base api request,
    Url.parse "http://config.example/api?tenant=1" = .ok base ∧
      ConfigApi.parse "http://config.example/api?tenant=1" = .ok api ∧
      api.endpoint "forbidden-hostnames" =
        "http://config.example/api?tenant=1/config/forbidden-hostnames" ∧
      (api.forbiddenHostnames.over Network.unreachable ()).requests = [request] ∧
      request.target = "/api?tenant=1/config/forbidden-hostnames" ∧
      request.url.path.text ≠ behind base.path.text := by
  refine ⟨⟨"http", some ⟨"", none, .name "config.example", none⟩, .rooted ["api"], some "tenant=1",
      none⟩, ⟨"http://config.example/api?tenant=1"⟩,
    ⟨.get, ⟨"http", some ⟨"", none, .name "config.example", none⟩, .rooted ["api"],
      some "tenant=1/config/forbidden-hostnames", none⟩, "application/json", none, []⟩,
    rfl, rfl, rfl, rfl, rfl, ?_⟩
  decide

end ForbiddenHosts.ConfigApi
