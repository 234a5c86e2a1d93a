import ForbiddenHosts.Proofs.Http.Interleaving
import ForbiddenHosts.Proofs.Sync.Publication
import ForbiddenHosts.Proofs.Sync.ReadingFirst

/-!
# What runs at the same time keep

Any number of runs work on one stored list, and nothing orders their requests.  Each reads the list
and then replaces the whole of it, so a run that has read before another publishes drops what that
other one added.  What is lost that way is bounded by when the lists were read: whenever a run makes
a put, it puts at least what was stored when it last asked for the list
(`Interleaving.put_keeps_read`).

`retained` draws three conclusions.  A hostname that is stored stays stored as long as the runs that
change the list have read it since; a hostname that is stored at the start is never lost; and when
the runs do not overlap, the stored hostnames only grow.  Without the condition of the first, a
hostname can be lost (`exists_lost_update`).
-/
namespace ForbiddenHosts

open Http

/-- **What a server with one list may do.**  The list is at the addresses of `place`; any other
address may give any reply, and leaves the list alone. -/
inductive ListServer (place : Url → Prop) : Request → Bytes → Reply → Bytes → Prop where
  /-- Another address is asked. -/
  | elsewhere {request : Request} {list : Bytes} {reply : Reply} (other : ¬place request.url) :
      ListServer place request list reply list
  /-- The list is shown. -/
  | shown {request : Request} {list : Bytes} {status : Status} (here : place request.url)
      (get : request.method = .get) (success : 200 ≤ status.code ∧ status.code ≤ 299) :
      ListServer place request list (.arrived status (.complete list)) list
  /-- The list is not shown: there is no reply, or no success, or the body breaks off. -/
  | hidden {request : Request} {list : Bytes} {reply : Reply} (here : place request.url)
      (get : request.method = .get)
      (nothing : ∀ status shown, 200 ≤ status.code ∧ status.code ≤ 299 →
        reply ≠ .arrived status (.complete shown)) :
      ListServer place request list reply list
  /-- A put is accepted, and replaces the list. -/
  | accepted {request : Request} {list : Bytes} {status : Status} {body : Body}
      (here : place request.url) (put : request.method = .put)
      (success : 200 ≤ status.code ∧ status.code ≤ 299) :
      ListServer place request list (.arrived status body) request.body
  /-- A put is rejected, and leaves the list as it is. -/
  | rejected {request : Request} {list : Bytes} {status : Status} {body : Body}
      (here : place request.url) (put : request.method = .put)
      (refused : ¬(200 ≤ status.code ∧ status.code ≤ 299)) :
      ListServer place request list (.arrived status body) list
  /-- The connection is lost before a put is carried out. -/
  | lostBefore {request : Request} {list : Bytes} {failure : Failure} (here : place request.url)
      (put : request.method = .put) :
      ListServer place request list (.lost failure) list
  /-- The connection is lost after a put was carried out. -/
  | lostAfter {request : Request} {list : Bytes} {failure : Failure} (here : place request.url)
      (put : request.method = .put) :
      ListServer place request list (.lost failure) request.body

namespace ListServer

variable {place : Url → Prop} {request : Request} {list after : Bytes} {reply : Reply}

/-- Only a put changes the list, and it changes it into its body. -/
theorem changed (h : ListServer place request list reply after) (hne : after ≠ list) :
    place request.url ∧ request.method = .put ∧ after = request.body := by
  cases h with
  | elsewhere other => exact absurd rfl hne
  | shown here get success => exact absurd rfl hne
  | hidden here get nothing => exact absurd rfl hne
  | accepted here put success => exact ⟨here, put, rfl⟩
  | rejected here put refused => exact absurd rfl hne
  | lostBefore here put => exact absurd rfl hne
  | lostAfter here put => exact ⟨here, put, rfl⟩

/-- A body that keeps what the server shows keeps what is stored. -/
theorem keeps_stored (h : ListServer place request list reply after) (here : place request.url)
    (get : request.method = .get) {body : Bytes} (hbody : KeepsShown reply body)
    (hostname : String) (hstored : Lists list hostname) : Lists body hostname := by
  obtain ⟨status, shown, success, hreply, hkeeps⟩ := hbody
  cases h with
  | elsewhere other => exact absurd here other
  | shown =>
    cases hreply
    exact hkeeps hostname hstored
  | hidden _ _ nothing => exact absurd hreply (nothing status shown success)
  | accepted _ put => rw [get] at put; cases put
  | rejected _ put => rw [get] at put; cases put
  | lostBefore _ put => rw [get] at put; cases put
  | lostAfter _ put => rw [get] at put; cases put

end ListServer

namespace Http.Interleaving

variable {ι Note α : Type} {place : Url → Prop} {programs : ι → Conversation Note α}

/-- Program `p` asks for the list at instant `t`. -/
def AsksList (e : Interleaving (ListServer place) programs) (p : ι) (t : Nat) : Prop :=
  ∃ request reply, e.exchange t = some ⟨p, request, reply⟩ ∧ request.method = .get ∧
    place request.url

/-- Program `p` puts a body in the place of the list at instant `t`. -/
def PutsList (e : Interleaving (ListServer place) programs) (p : ι) (body : Bytes) (t : Nat) :
    Prop :=
  ∃ request reply, e.exchange t = some ⟨p, request, reply⟩ ∧ request.method = .put ∧
    place request.url ∧ request.body = body

/-- **Where a program stands** that reads first: it is reading, or it is about to publish what keeps
the list as it was when it asked for it, and has asked nothing since, or it is silent. -/
inductive Stands (e : Interleaving (ListServer place) programs) (p : ι) (t : Nat) : Prop where
  | reading (left : (e.left t p).Reading place)
  | publishing (j : Nat) (earlier : j < t) (asked : e.AsksList p j)
      (since : ∀ m, j < m → m < t → ¬e.Moves p m)
      (left : (e.left t p).Publishing fun body =>
        ∀ hostname, Lists (e.world j) hostname → Lists body hostname)
  | silent (left : (e.left t p).Silent)

variable {e : Interleaving (ListServer place) programs} {p : ι} {t : Nat}

/-- **Every program stays where a program stands that reads first.** -/
theorem Stands.succ (h : e.Stands p t) : e.Stands p (t + 1) := by
  rcases e.left_succ t p with ⟨still, passed⟩ |
    ⟨request, next, reply, hexchange, hask, hnext, hserved⟩
  · -- Without an exchange, what is left is the same, up to a note.
    cases h with
    | reading left => exact .reading (left.pass passed)
    | publishing j earlier asked since left =>
      refine .publishing j (Nat.lt_succ_of_lt earlier) asked ?_ (left.pass passed)
      intro m hjm hmt
      rcases Nat.lt_succ_iff_lt_or_eq.mp hmt with hmt | rfl
      · exact since m hjm hmt
      · exact still
    | silent left => exact .silent (left.pass passed)
  · -- With an exchange, it goes on as its reply says.
    cases h with
    | reading left =>
      rw [hask] at left
      cases left with
      | source get rest =>
        refine .reading ?_
        rw [hnext]
        exact rest reply
      | list get here rest =>
        refine .publishing t (Nat.lt_succ_self t) ⟨request, reply, hexchange, get, here⟩ ?_ ?_
        · intro m htm hmt
          omega
        · rw [hnext]
          exact (rest reply).mono fun body hbody hostname hstored =>
            hserved.keeps_stored here get hbody hostname hstored
    | publishing j earlier asked since left =>
      rw [hask] at left
      cases left with
      | put put body rest =>
        refine .silent ?_
        rw [hnext]
        exact rest reply
    | silent left =>
      rw [hask] at left
      cases left

theorem stands (hreading : ∀ p, (programs p).Reading place)
    (e : Interleaving (ListServer place) programs) (p : ι) (t : Nat) : e.Stands p t := by
  induction t with
  | zero =>
    refine .reading ?_
    rw [e.left_zero]
    exact hreading p
  | succ t ih => exact ih.succ

/-- **Whoever puts a list keeps what was stored when it last asked.** -/
theorem put_keeps_read (hreading : ∀ p, (programs p).Reading place)
    (e : Interleaving (ListServer place) programs) {body : Bytes} (hput : e.PutsList p body t) :
    ∃ j, j < t ∧ e.AsksList p j ∧ (∀ m, j < m → m < t → ¬e.Moves p m) ∧
      ∀ hostname, Lists (e.world j) hostname → Lists body hostname := by
  obtain ⟨request, reply, hexchange, hmethod, _, rfl⟩ := hput
  rcases e.left_succ t p with ⟨still, _⟩ | ⟨request', next, reply', hexchange', hask, _, _⟩
  · exact absurd ⟨request, reply, hexchange⟩ still
  obtain ⟨rfl, rfl⟩ : request = request' ∧ reply = reply' := by
    rw [hexchange] at hexchange'
    cases hexchange'
    exact ⟨rfl, rfl⟩
  cases stands hreading e p t with
  | reading left =>
    rw [hask] at left
    cases left with
    | source get rest => rw [get] at hmethod; cases hmethod
    | list get here rest => rw [get] at hmethod; cases hmethod
  | publishing j earlier asked since left =>
    rw [hask] at left
    cases left with
    | put put body rest => exact ⟨j, earlier, asked, since, body⟩
  | silent left =>
    rw [hask] at left
    cases left

/-- The stored list changes with a put only, and into the body of the put. -/
theorem exists_put_of_ne (e : Interleaving (ListServer place) programs) {t : Nat}
    (hne : e.world (t + 1) ≠ e.world t) : ∃ p, e.PutsList p (e.world (t + 1)) t := by
  rcases e.world_succ t with hsame | ⟨p, request, reply, hexchange, hserved⟩
  · exact absurd hsame hne
  · obtain ⟨hplace, hput, hbody⟩ := hserved.changed hne
    exact ⟨p, request, reply, hexchange, hput, hplace, hbody.symm⟩

theorem AsksList.moves (h : e.AsksList p t) : e.Moves p t := by
  obtain ⟨request, reply, hexchange, _, _⟩ := h
  exact ⟨request, reply, hexchange⟩

theorem PutsList.moves {body : Bytes} (h : e.PutsList p body t) : e.Moves p t := by
  obtain ⟨request, reply, hexchange, _, _, _⟩ := h
  exact ⟨request, reply, hexchange⟩

/-- What happens at one instant is not both an asking and a put. -/
theorem AsksList.not_putsList {q : ι} {body : Bytes} (h : e.AsksList p t) :
    ¬e.PutsList q body t := by
  rintro ⟨request, reply, hexchange, hput, _, _⟩
  obtain ⟨request', reply', hexchange', hget, _⟩ := h
  rw [hexchange] at hexchange'
  cases hexchange'
  rw [hget] at hput
  cases hput

/-- When a program asks for the list, the list stays. -/
theorem AsksList.world_succ (h : e.AsksList p t) : e.world (t + 1) = e.world t := by
  by_contra hne
  obtain ⟨q, hput⟩ := e.exists_put_of_ne hne
  exact h.not_putsList hput

/-- **A stored hostname stays stored** while whoever changes the list has asked for it since. -/
theorem lists_of_fresh (hreading : ∀ p, (programs p).Reading place)
    (e : Interleaving (ListServer place) programs) {hostname : String} {t t' : Nat} (hle : t ≤ t')
    (hstored : Lists (e.world t) hostname)
    (fresh : ∀ p body k, t ≤ k → k < t' → e.PutsList p body k → e.world (k + 1) ≠ e.world k →
      ∃ j, t ≤ j ∧ j < k ∧ e.AsksList p j) : Lists (e.world t') hostname := by
  -- The list that is kept may be an earlier one than the last, so the induction is a strong one.
  have hall : ∀ k, t ≤ k → k ≤ t' → Lists (e.world k) hostname := by
    intro k
    induction k using Nat.strongRecOn with
    | ind k ih =>
      intro htk hkt
      rcases Nat.eq_or_lt_of_le htk with rfl | hlt
      · exact hstored
      obtain ⟨k, rfl⟩ := Nat.exists_eq_succ_of_ne_zero (Nat.ne_of_gt (Nat.zero_lt_of_lt hlt))
      have htk' : t ≤ k := Nat.le_of_lt_succ hlt
      by_cases hsame : e.world (k + 1) = e.world k
      · rw [Nat.succ_eq_add_one, hsame]
        exact ih k (Nat.lt_succ_self k) htk' (by omega)
      · obtain ⟨p, hput⟩ := e.exists_put_of_ne hsame
        obtain ⟨i, hti, hik, hasked⟩ := fresh p _ k htk' (by omega) hput hsame
        obtain ⟨j, hjk, _, since, hkeeps⟩ := put_keeps_read hreading e hput
        have hij : i ≤ j := by
          by_contra hji
          exact since i (by omega) hik hasked.moves
        exact hkeeps hostname (ih j (by omega) (by omega) (by omega))
  exact hall t' hle (Nat.le_refl t')

/-- When programs do not overlap, a put keeps what is stored. -/
theorem lists_succ_of_sequential (hreading : ∀ p, (programs p).Reading place)
    (e : Interleaving (ListServer place) programs) (sequential : e.Sequential) {hostname : String}
    (hstored : Lists (e.world t) hostname) : Lists (e.world (t + 1)) hostname := by
  by_cases hsame : e.world (t + 1) = e.world t
  · rwa [hsame]
  · obtain ⟨p, hput⟩ := e.exists_put_of_ne hsame
    obtain ⟨j, hjt, hasked, since, hkeeps⟩ := put_keeps_read hreading e hput
    -- Nobody has an exchange between the reading of the list and the put.
    have hsince : e.world t = e.world j := by
      refine e.world_eq_of_still (Nat.le_of_lt hjt) ?_
      intro m hjm hmt
      rcases Nat.eq_or_lt_of_le hjm with rfl | hlt
      · exact hasked.world_succ
      by_contra hne
      obtain ⟨q, hputq⟩ := e.exists_put_of_ne hne
      have hqp : q = p := sequential p q j m t hasked.moves hputq.moves hput.moves hjm
        (Nat.le_of_lt hmt)
      exact since m hlt hmt (hqp ▸ hputq.moves)
    rw [hsince] at hstored
    exact hkeeps hostname hstored

end Http.Interleaving

namespace Sync

variable {ι : Type}

/-- **What is stored is kept by any number of runs, in any order of their requests**, as long as
each run that changes the list has asked for it since; what is stored at the start is always kept;
and runs that do not overlap keep everything. -/
theorem retained (place : Url → Prop) (syncs : ι → Sync)
    (served : ∀ p url, Url.parse (syncs p).storedAt = .ok url → place url)
    (e : Interleaving (ListServer place) fun p => (syncs p).run.run) :
    (∀ hostname t t', t ≤ t' → Lists (e.world t) hostname →
        (∀ p body k, t ≤ k → k < t' → e.PutsList p body k → e.world (k + 1) ≠ e.world k →
          ∃ j, t ≤ j ∧ j < k ∧ e.AsksList p j) →
        Lists (e.world t') hostname) ∧
      (∀ hostname t, Lists (e.world 0) hostname → Lists (e.world t) hostname) ∧
      (e.Sequential → ∀ hostname t t', t ≤ t' → Lists (e.world t) hostname →
        Lists (e.world t') hostname) := by
  have hreading : ∀ p, (syncs p).run.run.Reading place := fun p => reading_run (served p)
  refine ⟨?_, ?_, ?_⟩
  · intro hostname t t' hle hstored fresh
    exact Interleaving.lists_of_fresh hreading e hle hstored fresh
  · intro hostname t hstored
    refine Interleaving.lists_of_fresh hreading e (Nat.zero_le t) hstored ?_
    intro p body k _ _ hput _
    obtain ⟨j, hjk, hasked, _, _⟩ := Interleaving.put_keeps_read hreading e hput
    exact ⟨j, Nat.zero_le j, hjk, hasked⟩
  · intro sequential hostname t t' hle hstored
    induction hle with
    | refl => exact hstored
    | step _ ih => exact Interleaving.lists_succ_of_sequential hreading e sequential ih

/-! ### Two runs -/

/-- The address of the list on which both runs work. -/
def listUrl : Url :=
  ⟨"http", some ⟨"", none, .name "config.example", none⟩,
    .rooted ["config", "forbidden-hostnames"], none, none⟩

/-- A server that accepts every put. -/
def openShelf : Network Bytes where
  answer request list :=
    if request.url = listUrl then
      match request.method with
      | .get => (.arrived .ok (.complete list), list)
      | .put => (.arrived .ok (.complete []), request.body)
    else (.arrived .ok (.complete raggedCtLog), list)

theorem listServer_openShelf (request : Request) (list : Bytes) :
    ListServer (· = listUrl) request list (openShelf.answer request list).1
      (openShelf.answer request list).2 := by
  unfold openShelf
  dsimp only
  split
  · rename_i here
    split
    · rename_i get
      exact .shown here get (by decide)
    · rename_i put
      exact .accepted here put (by decide)
  · rename_i other
    exact .elsewhere other

/-- Two runs with a custom hostname each. -/
def rivals (second : Bool) : Sync where
  ctLogUrl := "http://ct.example/list"
  api := ⟨"http://config.example"⟩
  customHostnames := if second then ["second.example"] else ["first.example"]

theorem storedAt_rivals (p : Bool) (url : Url) (h : Url.parse (rivals p).storedAt = .ok url) :
    url = listUrl := by
  have hparse : Url.parse (rivals p).storedAt = .ok listUrl := by cases p <;> rfl
  rw [hparse] at h
  cases h
  rfl

/-- The second run reads the list after the first and before the first puts it. -/
def crossing : Interleaving (ListServer (· = listUrl)) fun p => (rivals p).run.run :=
  .follow (fun _ => openShelf)
    (fun t => (5 ≤ t && t < 10) || (14 ≤ t && t < 18) || 19 ≤ t) looseRecords
    fun _ => listServer_openShelf

/-- The second run starts when the first has ended. -/
def inTurn : Interleaving (ListServer (· = listUrl)) fun p => (rivals p).run.run :=
  .follow (fun _ => openShelf) (fun t => 11 ≤ t) looseRecords fun _ => listServer_openShelf

theorem sequential_inTurn : inTurn.Sequential := by
  intro p q i m k hi hm hk him hmk
  have hi' := Interleaving.eq_of_moves_follow hi
  have hm' := Interleaving.eq_of_moves_follow hm
  have hk' := Interleaving.eq_of_moves_follow hk
  rw [← hm']
  cases p with
  | false =>
    have hlt : ¬11 ≤ k := of_decide_eq_false hk'
    exact decide_eq_false (by omega)
  | true =>
    have hle : 11 ≤ i := of_decide_eq_true hi'
    exact decide_eq_true (by omega)

theorem lists_looseRecords : Lists looseRecords "d.example" :=
  ⟨[⟨"d.example"⟩, ⟨"c.example"⟩], rfl, List.mem_cons_self ..⟩

/-- Both runs read after instant 10 and put after that: what is stored then is kept. -/
theorem fresh_crossing (p : Bool) (body : Bytes) (k : Nat) (hk : 10 ≤ k)
    (hput : crossing.PutsList p body k) : ∃ j, 10 ≤ j ∧ j < k ∧ crossing.AsksList p j := by
  have hturn := Interleaving.eq_of_moves_follow hput.moves
  cases p with
  | false =>
    have hasks : crossing.AsksList false 10 := ⟨_, _, rfl, rfl, rfl⟩
    refine ⟨10, Nat.le_refl 10, ?_, hasks⟩
    rcases Nat.eq_or_lt_of_le hk with rfl | hlt
    · exact absurd hput hasks.not_putsList
    · exact hlt
  | true =>
    have hasks : crossing.AsksList true 14 := ⟨_, _, rfl, rfl, rfl⟩
    have hle : 14 ≤ k := by
      simp only [Bool.or_eq_true, Bool.and_eq_true, decide_eq_true_eq] at hturn
      omega
    refine ⟨14, by decide, ?_, hasks⟩
    rcases Nat.eq_or_lt_of_le hle with rfl | hlt
    · exact absurd hput hasks.not_putsList
    · exact hlt

/-- Of two runs that cross, and of two in turn. -/
theorem retained_rivals :
    (Lists (crossing.world 10) "d.example" ∧
        (∀ p body k, 10 ≤ k → k < 20 → crossing.PutsList p body k →
          crossing.world (k + 1) ≠ crossing.world k →
          ∃ j, 10 ≤ j ∧ j < k ∧ crossing.AsksList p j) ∧
        Lists (crossing.world 20) "d.example") ∧
      inTurn.Sequential ∧
        ∀ hostname t t', t ≤ t' → Lists (inTurn.world t) hostname →
          Lists (inTurn.world t') hostname := by
  have hstored : Lists (crossing.world 10) "d.example" := lists_looseRecords
  have hfresh : ∀ p body k, 10 ≤ k → k < 20 → crossing.PutsList p body k →
      crossing.world (k + 1) ≠ crossing.world k →
      ∃ j, 10 ≤ j ∧ j < k ∧ crossing.AsksList p j :=
    fun p body k hk _ hput _ => fresh_crossing p body k hk hput
  obtain ⟨hkept, _, _⟩ := retained (· = listUrl) rivals storedAt_rivals crossing
  obtain ⟨_, _, hgrows⟩ := retained (· = listUrl) rivals storedAt_rivals inTurn
  exact ⟨⟨hstored, hfresh, hkept "d.example" 10 20 (by decide) hstored hfresh⟩,
    sequential_inTurn, hgrows sequential_inTurn⟩

/-- What one run has added can be lost to the put of another that has not asked since. -/
theorem exists_lost_update :
    ∃ (e : Interleaving (ListServer (· = listUrl)) fun p => (rivals p).run.run)
      (hostname : String) (t : Nat),
      Lists (e.world t) hostname ∧ ¬Lists (e.world (t + 1)) hostname := by
  refine ⟨crossing, "first.example", 19, ?_⟩
  have hfirst : crossing.world 19 = Utf8.encode (((CtLog.hostnamesOf raggedCtLog).merge
      (rivals false).customHostnames).2.mergeRecords
        [⟨"d.example"⟩, ⟨"c.example"⟩]).2.toJson.chars := rfl
  have hsecond : crossing.world 20 = Utf8.encode (((CtLog.hostnamesOf raggedCtLog).merge
      (rivals true).customHostnames).2.mergeRecords
        [⟨"d.example"⟩, ⟨"c.example"⟩]).2.toJson.chars := rfl
  rw [hfirst, hsecond, encode_merged, encode_merged, lists_published, lists_published,
    List.mem_eraseDups, List.mem_eraseDups, mem_sources_iff, mem_sources_iff]
  decide

end Sync

end ForbiddenHosts
