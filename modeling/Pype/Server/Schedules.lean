import Pype.Foundation.Possibility
import Pype.Server.BlockingPost
import Pype.Server.ResponseQueues
import Pype.Server.ServiceQueues

/-!
# Handlers that run through

A handler that is alone runs one stretch after the other, at one moment.  As long as
the queues hold what it waits for, or have room for what it puts, it comes to its
answer and does to the queues what its route is there for.
-/

namespace Pype
namespace Server

open Foundation Store

/-- A timeout that the server accepts and that leaves time to wait. -/
def Patient (cfg : Settings) (timeout : Option Int) : Prop :=
  exists ms, normalizeTimeout timeout cfg.maxTimeoutMs = .ok ms ∧ 0 < ms

theorem patient_none (cfg : Settings) : Patient cfg none :=
  ⟨cfg.maxTimeoutMs, rfl, cfg.maxTimeoutMs_pos⟩

theorem patient_one (cfg : Settings) : Patient cfg (some 1) :=
  ⟨1, normalizeTimeout_of_mem (by omega) cfg.maxTimeoutMs_pos, Int.one_pos⟩

theorem Patient.max_zero {cfg : Settings} {timeout : Option Int}
    (h : Patient cfg timeout) : timeout.map (fun ms => max 0 ms) = timeout := by
  rcases h with ⟨ms, hms, hpos⟩
  cases timeout with
  | none => rfl
  | some value =>
      simp only [normalizeTimeout] at hms
      split at hms
      · cases hms
      · cases hms
        exact congrArg some (max_eq_right (le_of_lt hpos))

theorem truncate_seconds (start : Time) (ms : Int) :
    truncate ((start + seconds ms - start) * 1000) = ms := by
  have hms : (start + seconds ms - start) * 1000 = (ms : Rat) := by
    unfold seconds
    linarith
  rw [hms, truncate_intCast]

theorem remainingMs_seconds {ms : Int} (hms : 0 ≤ ms) (start : Time) :
    remainingMs (start + seconds ms) start = ms := by
  rw [remainingMs, truncate_seconds, max_eq_right hms]

def Store.clientContent (clientId : String) (s : Store) : List (Posted PypeResponse) :=
  match s.clientRegistry.get? clientId with
  | some entry => s.entryContent entry
  | none => []

theorem clientContent_of_get? {s : Store} {clientId : String} {entry : Ref}
    (h : s.clientRegistry.get? clientId = some entry) :
    s.clientContent clientId = s.entryContent entry := by
  rw [clientContent, h]

/-- The entry that a handler looks up holds what is queued for the client. -/
theorem entryContent_openClient (cfg : Settings) (clientId : String) (createdAt : Time)
    (s : Store) :
    (ClientRegistry.getOrCreate cfg clientId createdAt s).2.entryContent
        (ClientRegistry.getOrCreate cfg clientId createdAt s).1 =
      s.clientContent clientId := by
  rw [ClientRegistry.entryContent_getOrCreate]
  rcases ClientRegistry.getOrCreate_cases cfg clientId createdAt s with
    ⟨entry, hget, heq⟩ | ⟨hnone, heq⟩
  · rw [heq, clientContent_of_get? hget]
  · rw [heq, clientContent, hnone, entryContent,
      List.getElem?_eq_none_iff.mpr (le_refl s.clientEntries.length)]
    rfl

/-- The stretches that a handler runs one after the other, at one moment. -/
def runStretches (cfg : Settings) (jwt : Jwt) (task : TaskId) (request : HttpRequest)
    (now : Time) : List Action -> Store × Phase -> Option (Store × Phase)
  | [], r => some r
  | action :: rest, r =>
      match advance cfg jwt task request r.2 action (Clock.constant now) r.1 with
      | none => none
      | some r' => runStretches cfg jwt task request now rest r'

/-!
## Queues that serve
-/

section

variable {cfg : Settings} {s : Store} (task : TaskId)

theorem putRequest_of_nil (hwell : s.WellFormed cfg) {serviceName : String} {queue : Ref}
    (hqueue : s.serviceRegistry.get? serviceName = some queue)
    (hcontent : s.serviceContent serviceName = []) (request : PypeRequest) :
    exists s', s.putRequest task serviceName queue request = some s' ∧
      s'.serviceContent serviceName = [⟨task, request⟩] ∧ SameClients s s' := by
  rcases hwell.service serviceName queue hqueue with ⟨q, hq, _⟩
  rw [serviceContent_of_get? hqueue hq] at hcontent
  rcases BoundedQueue.putNowait_of_nil hcontent
    (⟨task, request⟩ : Posted PypeRequest) with ⟨q', hq'⟩
  have hput : s.putRequest task serviceName queue request = some
      { s with
        serviceQueues := s.serviceQueues.set queue q'
        history := s.history ++
          [.requestEnqueued task serviceName queue request] } := by
    rw [putRequest, hq]
    dsimp only
    rw [hq']
  refine ⟨_, hput, ?_, ?_⟩
  · rw [serviceContent_set hwell hqueue, if_pos rfl, BoundedQueue.items_putNowait hq',
      hcontent]
    rfl
  · exact sameClients_of_added rfl rfl rfl (by simp [Record.onClient])

theorem takeRequest_of_cons (hwell : s.WellFormed cfg) {serviceName : String}
    {queue : Ref} (hqueue : s.serviceRegistry.get? serviceName = some queue)
    {x : Posted PypeRequest} {rest : List (Posted PypeRequest)}
    (hcontent : s.serviceContent serviceName = x :: rest) :
    exists s', s.takeRequest task serviceName queue = some (x.message, s') ∧
      s'.serviceContent serviceName = rest ∧ SameClients s s' := by
  rcases hwell.service serviceName queue hqueue with ⟨q, hq, _⟩
  rw [serviceContent_of_get? hqueue hq] at hcontent
  rcases BoundedQueue.getNowait_of_cons hcontent with ⟨q', hq', hitems⟩
  have htake : s.takeRequest task serviceName queue = some (x.message,
      { s with
        serviceQueues := s.serviceQueues.set queue q'
        history := s.history ++
          [.requestDequeued task serviceName queue x] }) := by
    rw [takeRequest, hq]
    dsimp only
    rw [hq']
  refine ⟨_, htake, ?_, ?_⟩
  · rw [serviceContent_set hwell hqueue, if_pos rfl, hitems]
  · exact sameClients_of_added rfl rfl rfl (by simp [Record.onClient])

theorem putResponse_of_nil {clientId : String} {entry : Ref}
    (howner : s.ownerOf entry = some clientId) (hcontent : s.entryContent entry = [])
    (response : PypeResponse) :
    exists s', s.putResponse task clientId entry response = some s' ∧
      s'.entryContent entry = [⟨task, response⟩] ∧
        s'.clientRegistry = s.clientRegistry ∧ SameService s s' := by
  rcases ownerOf_eq_some.mp howner with ⟨e, he, _⟩
  rw [entryContent_of_getElem? he] at hcontent
  rcases BoundedQueue.putNowait_of_nil hcontent
    (⟨task, response⟩ : Posted PypeResponse) with ⟨q', hq'⟩
  have hput : s.putResponse task clientId entry response = some
      { s with
        clientEntries := s.clientEntries.set entry { e with queue := q' }
        history := s.history ++
          [.responseEnqueued task clientId entry response] } := by
    rw [putResponse, he]
    dsimp only
    rw [hq']
  refine ⟨_, hput, ?_, rfl, ?_⟩
  · rw [entryContent_set he, if_pos rfl, BoundedQueue.items_putNowait hq', hcontent]
    rfl
  · exact sameService_of_added rfl rfl rfl (by simp [Record.onService])

theorem takeResponse_of_cons (clientId : String) {entry : Ref} {x : Posted PypeResponse}
    {rest : List (Posted PypeResponse)} (hcontent : s.entryContent entry = x :: rest) :
    exists s', s.takeResponse task clientId entry = some (x.message, s') ∧
      s'.entryContent entry = rest ∧ s'.clientRegistry = s.clientRegistry ∧
        SameService s s' := by
  cases he : s.clientEntries[entry]? with
  | none =>
      rw [entryContent, he] at hcontent
      cases hcontent
  | some e =>
      rw [entryContent_of_getElem? he] at hcontent
      rcases BoundedQueue.getNowait_of_cons hcontent with ⟨q', hq', hitems⟩
      have htake : s.takeResponse task clientId entry = some (x.message,
          { s with
            clientEntries := s.clientEntries.set entry { e with queue := q' }
            history := s.history ++
              [.responseDequeued task clientId entry x] }) := by
        rw [takeResponse, he]
        dsimp only
        rw [hq']
      refine ⟨_, htake, ?_, rfl, ?_⟩
      · rw [entryContent_set he, if_pos rfl, hitems]
      · exact sameService_of_added rfl rfl rfl (by simp [Record.onService])

end

/-!
## Handlers
-/

section

variable {cfg : Settings} {jwt : Jwt} {task : TaskId} {request : HttpRequest}
  {now : Time} {s : Store}

theorem runStretches_cons {action : Action} {rest : List Action} {r r' : Store × Phase}
    (h : advance cfg jwt task request r.2 action (Clock.constant now) r.1 = some r') :
    runStretches cfg jwt task request now (action :: rest) r =
      runStretches cfg jwt task request now rest r' := by
  rw [runStretches, h]

theorem pull_runs (task : TaskId) (now : Time) {serviceName : String}
    {timeout : Option Int} {claims : ServiceClaims}
    (hwell : s.WellFormed cfg) (hroute : request.endpoint = .getRequest serviceName timeout)
    (hclaims : serviceClaims jwt request.authorization = .ok claims)
    (hname : claims.name = serviceName) (hne : serviceName ≠ "")
    (hpatient : Patient cfg timeout) {x : Posted PypeRequest}
    {rest : List (Posted PypeRequest)}
    (hcontent : s.serviceContent serviceName = x :: rest) :
    exists s', runStretches cfg jwt task request now [.start "", .serve, .resume]
        (s, .received) = some (s', .done (requestReply x.message)) ∧
      s'.serviceContent serviceName = rest ∧ s'.clientRegistry = s.clientRegistry ∧
        forall entry, s'.entryContent entry = s.entryContent entry := by
  rcases hpatient with ⟨ms, hms, hpos⟩
  have hopened := ServiceRegistry.get?_getOrCreate cfg serviceName s
  have hwell' := hwell.openService serviceName
  have hsame := ServiceRegistry.sameClients_getOrCreate cfg serviceName s
  rw [← serviceContent_openService hwell serviceName serviceName] at hcontent
  generalize hopen : ServiceRegistry.getOrCreate cfg serviceName s = r
    at hopened hwell' hsame hcontent
  rcases takeRequest_of_cons task hwell' hopened hcontent with
    ⟨s', htake, hrest, hsame'⟩
  have hstart : advance cfg jwt task request .received (.start "") (Clock.constant now) s =
      some (r.2, .getRequestGet serviceName r.1 (now + seconds ms)) := by
    simp only [advance, dispatch, hroute, orRefuse, hclaims, requireText, if_neg hne]
    simp only [getRequestForService, hname, ne_eq, not_true, if_false, hms, hopen,
      queueGet, if_neg (ne_of_gt hpos)]
    rfl
  have hserve : advance cfg jwt task request
      (.getRequestGet serviceName r.1 (now + seconds ms)) .serve (Clock.constant now) r.2 =
        some (s', .getRequestGetDone (some x.message)) := by
    simp only [advance, htake]
  refine ⟨s'.record (.answered task (requestReply x.message)), ?_, hrest, ?_, ?_⟩
  · rw [runStretches_cons hstart, runStretches_cons hserve]
    rfl
  · exact hsame'.registry.trans hsame.registry
  · intro entry
    exact (hsame'.content entry).trans (hsame.content entry)

theorem poll_runs (task : TaskId) (now : Time) {clientId : String}
    {timeout : Option Int} {claims : ClientClaims}
    (hroute : request.endpoint = .getResponse clientId timeout)
    (hclaims : clientClaims jwt request.authorization = .ok claims)
    (hid : claims.clientId = clientId) (hpatient : Patient cfg timeout)
    {x : Posted PypeResponse} {rest : List (Posted PypeResponse)}
    (hcontent : s.clientContent clientId = x :: rest) :
    exists s', runStretches cfg jwt task request now [.start "", .serve, .resume]
        (s, .received) = some (s', .done (responseReply x.message)) ∧
      s'.clientContent clientId = rest := by
  rcases hpatient with ⟨ms, hms, hpos⟩
  have hne : clientId ≠ "" := hid ▸ claims.nonempty
  have hopened := ClientRegistry.get?_getOrCreate cfg clientId now s
  rw [← entryContent_openClient cfg clientId now s] at hcontent
  generalize hopen : ClientRegistry.getOrCreate cfg clientId now s = r at hopened hcontent
  rw [← ClientRegistry.entryContent_bumpLastSeen clientId now] at hcontent
  rcases takeResponse_of_cons task clientId hcontent with ⟨s', htake, hrest, hregistry, _⟩
  rw [clientRegistry_bumpLastSeen] at hregistry
  have hstart : advance cfg jwt task request .received (.start "") (Clock.constant now) s =
      some (ClientRegistry.bumpLastSeen clientId now r.2,
        .getResponseGet clientId r.1 (now + seconds ms)) := by
    simp only [advance, dispatch, hroute, orRefuse, hclaims, requireText, if_neg hne]
    simp only [getResponseForClient, hid, ne_eq, not_true, if_false, hms, Clock.constant,
      hopen, queueGet, if_neg (ne_of_gt hpos)]
  have hserve : advance cfg jwt task request
      (.getResponseGet clientId r.1 (now + seconds ms)) .serve (Clock.constant now)
        (ClientRegistry.bumpLastSeen clientId now r.2) =
      some (s', .getResponseGetDone clientId (some x.message)) := by
    simp only [advance, htake]
  refine ⟨(ClientRegistry.bumpLastSeen clientId now s').record
    (.answered task (responseReply x.message)), ?_, ?_⟩
  · rw [runStretches_cons hstart, runStretches_cons hserve]
    rfl
  · have hfound : ((ClientRegistry.bumpLastSeen clientId now s').record
        (.answered task (responseReply x.message))).clientRegistry.get? clientId =
          some r.1 := by
      show (ClientRegistry.bumpLastSeen clientId now s').clientRegistry.get? clientId = _
      rw [clientRegistry_bumpLastSeen, hregistry, hopened]
    rw [clientContent_of_get? hfound]
    exact (ClientRegistry.entryContent_bumpLastSeen clientId now s' r.1).trans hrest

/-- A `block=1` POST puts its request on a service queue that is empty and waits on the
queue of its client. -/
theorem post_runs (task : TaskId) (now : Time) {params : PostRequest}
    {claims : ClientClaims}
    (hwell : s.WellFormed cfg) (hroute : request.endpoint = .postRequest params)
    (hclaims : clientClaims jwt request.authorization = .ok claims)
    (hservice : params.serviceName ≠ "") (hid : params.requestId ≠ "")
    (hblock : params.block = true) (hpatient : Patient cfg params.timeout)
    (hcontent : s.serviceContent params.serviceName = []) :
    exists s' entry expires, runStretches cfg jwt task request now
        [.start "", .body, .serve, .resume] (s, .received) =
          some (s', .postRequestGet params claims entry expires) ∧
      s'.clientRegistry.get? claims.clientId = some entry ∧
      s'.entryContent entry = s.clientContent claims.clientId ∧
      s'.serviceContent params.serviceName = [⟨task, params.pypeReq cfg claims⟩] := by
  rcases hpatient with ⟨ms, hms, hpos⟩
  have hopened := ClientRegistry.get?_getOrCreate cfg claims.clientId now s
  have hwell' := hwell.openClient claims.clientId now
  have hsame := ClientRegistry.sameService_getOrCreate cfg claims.clientId now s
  rw [← entryContent_openClient cfg claims.clientId now s]
  generalize hopen : ClientRegistry.getOrCreate cfg claims.clientId now s = r
    at hopened hwell' hsame
  -- the client's entry is found and bumped
  generalize hbump : ClientRegistry.bumpLastSeen claims.clientId now r.2 = bumped
  have hregistry : bumped.clientRegistry = r.2.clientRegistry := by
    rw [← hbump, clientRegistry_bumpLastSeen]
  have hentry : bumped.entryContent r.1 = r.2.entryContent r.1 := by
    rw [← hbump, ClientRegistry.entryContent_bumpLastSeen]
  have hbumped : bumped.WellFormed cfg := hbump ▸ hwell'.bump claims.clientId now
  have hempty : bumped.serviceContent params.serviceName = [] := by
    have hsame' := ClientRegistry.sameService_bumpLastSeen claims.clientId now r.2
    rw [hbump] at hsame'
    rw [hsame'.content, hsame.content, hcontent]
  have hstart : advance cfg jwt task request .received (.start "") (Clock.constant now) s =
      some (bumped, .postRequestBody params claims r.1 ms) := by
    simp only [advance, dispatch, hroute, orRefuse, hclaims, requireText,
      if_neg hservice, if_neg hid]
    simp only [postRequestToService, hms, Clock.constant, hopen, hbump]
  -- the service queue is found, and empty
  have hqueue := ServiceRegistry.get?_getOrCreate cfg params.serviceName bumped
  have hclients := ServiceRegistry.sameClients_getOrCreate cfg params.serviceName bumped
  have hserviceWell := hbumped.openService params.serviceName
  rw [← serviceContent_openService hbumped params.serviceName params.serviceName] at hempty
  generalize hfind : ServiceRegistry.getOrCreate cfg params.serviceName bumped = q
    at hqueue hclients hserviceWell hempty
  have hbody : advance cfg jwt task request (.postRequestBody params claims r.1 ms) .body
      (Clock.constant now) bumped =
        some (q.2, .postRequestPut params claims r.1 (now + seconds ms) q.1
          (params.pypeReq cfg claims) (now + seconds ms)) := by
    simp only [advance, postRequestBody, Clock.constant, hfind, queuePut,
      remainingMs_seconds (le_of_lt hpos), if_neg (ne_of_gt hpos)]
  rcases putRequest_of_nil task hserviceWell hqueue hempty (params.pypeReq cfg claims) with
    ⟨put, hput, hlast, hkept⟩
  have hserve : advance cfg jwt task request
      (.postRequestPut params claims r.1 (now + seconds ms) q.1
        (params.pypeReq cfg claims) (now + seconds ms)) .serve (Clock.constant now) q.2 =
        some (put, .postRequestPutDone params claims r.1 (now + seconds ms) true) := by
    simp only [advance, hput]
  have hresume : advance cfg jwt task request
      (.postRequestPutDone params claims r.1 (now + seconds ms) true) .resume
        (Clock.constant now) put =
        some (ClientRegistry.bumpLastSeen claims.clientId now put,
          .postRequestGet params claims r.1 (now + seconds ms)) := by
    simp only [advance, postRequestEnqueued, Clock.constant, hblock, Bool.not_true,
      Bool.false_eq_true, if_false, queueGet, remainingMs_seconds (le_of_lt hpos),
      if_neg (ne_of_gt hpos)]
  refine ⟨ClientRegistry.bumpLastSeen claims.clientId now put, r.1, now + seconds ms,
    ?_, ?_, ?_, ?_⟩
  · rw [runStretches_cons hstart, runStretches_cons hbody, runStretches_cons hserve,
      runStretches_cons hresume]
    rfl
  · rw [clientRegistry_bumpLastSeen, hkept.registry, hclients.registry, hregistry, hopened]
  · rw [ClientRegistry.entryContent_bumpLastSeen, hkept.content, hclients.content, hentry]
  · rw [(ClientRegistry.sameService_bumpLastSeen claims.clientId now put).content, hlast]

/-- The wait of a `block=1` POST ends with the response at the head of the queue. -/
theorem wait_runs (task : TaskId) (now : Time) {params : PostRequest}
    {claims : ClientClaims} {entry : Ref} (expires : Time) {x : Posted PypeResponse}
    {rest : List (Posted PypeResponse)}
    (hcontent : s.entryContent entry = x :: rest) :
    exists s', runStretches cfg jwt task request now [.serve, .resume]
        (s, .postRequestGet params claims entry expires) =
      some (s', .done (responseReply x.message)) := by
  rcases takeResponse_of_cons task claims.clientId hcontent with ⟨s', htake, _⟩
  have hserve : advance cfg jwt task request (.postRequestGet params claims entry expires)
      .serve (Clock.constant now) s =
        some (s', .postRequestGetDone (some x.message)) := by
    simp only [advance, htake]
  refine ⟨s'.record (.answered task (responseReply x.message)), ?_⟩
  rw [runStretches_cons hserve]
  rfl

/-- A worker's POST puts its response on the queue of a client that is empty. -/
theorem respond_runs (task : TaskId) (now : Time) {params : PostResponse}
    {claims : ServiceClaims} {entry : Ref}
    (hwell : s.WellFormed cfg) (hroute : request.endpoint = .postResponse params)
    (hclaims : serviceClaims jwt request.authorization = .ok claims)
    (hclient : params.clientId ≠ "") (hid : params.requestId ≠ "")
    (hpatient : Patient cfg params.timeout)
    (hentry : s.clientRegistry.get? params.clientId = some entry)
    (hcontent : s.entryContent entry = []) :
    exists s', runStretches cfg jwt task request now [.start "", .body, .serve, .resume]
        (s, .received) = some (s', .done (emptyReply 202)) ∧
      s'.clientRegistry = s.clientRegistry ∧
        s'.entryContent entry = [⟨task, params.pypeResp cfg⟩] := by
  rcases hpatient with ⟨ms, hms, hpos⟩
  have hopen : ClientRegistry.getOrCreate cfg params.clientId now s = (entry, s) := by
    rw [ClientRegistry.getOrCreate, hentry]
  have hstart : advance cfg jwt task request .received (.start "") (Clock.constant now) s =
      some (s, .postResponseBody params entry ms) := by
    simp only [advance, dispatch, hroute, orRefuse, hclaims, requireText,
      if_neg hclient, if_neg hid]
    simp only [postResponseToClient, hms, Clock.constant, hopen]
  have hbody : advance cfg jwt task request (.postResponseBody params entry ms) .body
      (Clock.constant now) s =
        some (s, .postResponsePut params entry (params.pypeResp cfg)
          (now + seconds ms)) := by
    simp only [advance, postResponseBody, queuePut, if_neg (ne_of_gt hpos)]
    rfl
  rcases putResponse_of_nil task (hwell.client _ _ hentry) hcontent
    (params.pypeResp cfg) with ⟨put, hput, hlast, hregistry, _⟩
  have hserve : advance cfg jwt task request
      (.postResponsePut params entry (params.pypeResp cfg) (now + seconds ms)) .serve
        (Clock.constant now) s = some (put, .postResponsePutDone true) := by
    simp only [advance, hput]
  refine ⟨put.record (.answered task (emptyReply 202)), ?_, hregistry, hlast⟩
  rw [runStretches_cons hstart, runStretches_cons hbody, runStretches_cons hserve]
  rfl

end

end Server
end Pype
