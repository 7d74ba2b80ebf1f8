import Pype.System.Provenance

/-!
# End-to-end correlation

A response that a client returns is followed back through the queues to the worker
that sent it, to the request that the worker answered with it, and to the call of the
client that carried that request.
-/

namespace Pype
namespace Server

open Foundation Store

namespace App

variable {cfg : Settings} {jwt : Jwt} {s : App}

theorem Invariant.unique_answer (h : Invariant cfg jwt s) {task : TaskId}
    {reply reply' : HttpReply} (hr : .answered task reply ∈ s.store.history)
    (hr' : .answered task reply' ∈ s.store.history) : reply' = reply := by
  rcases h.of_answered hr with ⟨t, _, hfinished, _⟩
  exact hfinished.answered (Store.mem_recordsOf.mpr ⟨hr', rfl⟩)

theorem Invariant.taken_once (h : Invariant cfg jwt s)
    (haccount : ServiceAccount s.store) {poster task task' : TaskId}
    {serviceName serviceName' : String} {queue queue' : Ref}
    {item item' : PypeRequest}
    (hr : .requestDequeued task serviceName queue ⟨poster, item⟩ ∈ s.store.history)
    (hr' : .requestDequeued task' serviceName' queue' ⟨poster, item'⟩ ∈
      s.store.history) : task = task' := by
  rcases h.posted_of_taken haccount hr with
    ⟨t, params, claims, ht, hwho, rfl, hitem⟩
  rcases h.posted_of_taken haccount hr' with
    ⟨t', params', claims', ht', hwho', rfl, hitem'⟩
  dsimp only at ht ht' hitem hitem'
  rw [ht] at ht'
  cases ht'
  rcases hwho.unique hwho' with ⟨rfl, rfl⟩
  subst hitem hitem'
  have hin : (task, (⟨poster, params.pypeReq cfg claims⟩ : Posted PypeRequest)) ∈
      s.store.dequeuedRequests params.serviceName :=
    List.mem_filterMap.mpr ⟨_, hr, by simp [Record.requestDequeued?]⟩
  have hin' : (task', (⟨poster, params.pypeReq cfg claims⟩ : Posted PypeRequest)) ∈
      s.store.dequeuedRequests params.serviceName :=
    List.mem_filterMap.mpr ⟨_, hr', by simp [Record.requestDequeued?]⟩
  have hpair := List.inj_on_of_nodup_map
    (h.conserved haccount params.serviceName).deliveredOnce hin hin' rfl
  exact congrArg Prod.fst hpair

theorem Invariant.received_once (h : Invariant cfg jwt s)
    (haccount : ClientAccount s.store) {poster task task' : TaskId}
    {clientId clientId' : String} {entry entry' : Ref} {item item' : PypeResponse}
    (hr : .responseDequeued task clientId entry ⟨poster, item⟩ ∈ s.store.history)
    (hr' : .responseDequeued task' clientId' entry' ⟨poster, item'⟩ ∈
      s.store.history) : task = task' := by
  have hin : task ∈ s.store.takersOf poster :=
    List.mem_filterMap.mpr ⟨_, hr, by simp [Record.responseTaker?]⟩
  have hin' : task' ∈ s.store.takersOf poster :=
    List.mem_filterMap.mpr ⟨_, hr', by simp [Record.responseTaker?]⟩
  have hlength := h.length_takersOf_le_one haccount poster
  cases htakers : s.store.takersOf poster with
  | nil =>
      rw [htakers] at hin
      cases hin
  | cons taker rest =>
      rw [htakers, List.length_cons] at hlength
      have hrest : rest = [] := List.eq_nil_of_length_eq_zero (by omega)
      rw [htakers, hrest, List.mem_singleton] at hin hin'
      rw [hin, hin']

end App

end Server

namespace System

open Foundation Server

/-!
## What is read from a reply
-/

theorem read_of_responseReply {message : PypeResponse} {default : String}
    {source : TaskId} {r : Client.ServiceResponse}
    (hstatus : (responseReply message).status = 200)
    (h : Client.ClientConnection.readResponse (responseReply message) default source =
      some r) :
    r.payload = message.payload ∧
      (HeaderText.Faithful message.requestId -> r.requestId = message.requestId) := by
  rcases messageReply_of_ok hstatus with ⟨_, _, hid, hcontent⟩
  rcases Option.map_eq_some_iff.mp h with ⟨bytes, hbytes, rfl⟩
  constructor
  · show Client.replyPayload (responseReply message) = _
    unfold Client.replyPayload responseReply
    rw [hcontent]
  · intro hfaithful
    exact hfaithful.decode (hid.symm.trans hbytes)

theorem read_of_requestReply {message : PypeRequest} {name : String}
    {source : TaskId} {q : Client.ClientRequest}
    (hstatus : (requestReply message).status = 200)
    (h : Client.ServiceConnection.readRequest (requestReply message) name source =
      some q) :
    q.payload = message.payload ∧
      (HeaderText.Faithful message.clientId -> q.clientId = message.clientId) ∧
        (HeaderText.Faithful message.requestId -> q.requestId = message.requestId) := by
  rcases messageReply_of_ok hstatus with ⟨_, hclient, hid, hcontent⟩
  unfold Client.ServiceConnection.readRequest at h
  split at h
  · rename_i clientId requestId hclientId hrequestId
    cases h
    refine ⟨?_, ?_, ?_⟩
    · show Client.replyPayload (requestReply message) = _
      unfold Client.replyPayload requestReply
      rw [hcontent]
    · intro hfaithful
      exact hfaithful.decode (hclient.symm.trans hclientId)
    · intro hfaithful
      exact hfaithful.decode (hid.symm.trans hrequestId)
  · cases h

/-!
## Whose exchange it is
-/

section

variable {caller worker : Type} {d : Deployment caller worker}

theorem moves_of_endpointOf {header : HeaderTransport} {call : Client.HttpCall}
    {endpoint : Endpoint} (h : endpointOf header call = some endpoint)
    (hmethod : call.method ≠ .delete) : endpoint.Moves := by
  unfold endpointOf at h
  split at h
  · rcases Option.map_eq_some_iff.mp h with ⟨_, _, rfl⟩
    trivial
  · cases h
    trivial
  · rcases Option.map_eq_some_iff.mp h with ⟨_, _, rfl⟩
    trivial
  · cases h
    trivial
  · rename_i hdelete _ _ _
    exact absurd hdelete hmethod
  · cases h

theorem of_requestFor_client {k : caller} {call : Client.HttpCall}
    {request : HttpRequest} (h : d.requestFor (.client k call) = some request) :
    endpointOf d.header call = some request.endpoint ∧
      ActsFor d.jwt request.authorization (d.client k).clientId := by
  rcases Option.map_eq_some_iff.mp h with ⟨endpoint, hendpoint, rfl⟩
  exact ⟨hendpoint, (d.client k).actsFor⟩

theorem of_requestFor_worker {w : worker}
    {operation : Client.ServiceConnection.Operation} {call : Client.HttpCall}
    {request : HttpRequest}
    (h : d.requestFor (.worker w operation call) = some request) :
    endpointOf d.header call = some request.endpoint ∧
      IsService d.jwt request.authorization := by
  rcases Option.map_eq_some_iff.mp h with ⟨endpoint, hendpoint, rfl⟩
  exact ⟨hendpoint, (d.service w).serves.isService⟩

theorem not_moves_of_administers {endpoint : Endpoint} (h : Administers endpoint) :
    ¬ endpoint.Moves := by
  intro hmoves
  cases endpoint <;> first | exact h | exact hmoves

variable {s : State caller worker}

theorem Provenance.sender (h : Provenance d s) {task : TaskId} {serviceName : String}
    {queue : Ref} {sent : TaskId} {message : PypeRequest}
    (haccount : ServiceAccount s.server.store)
    (hr : .requestDequeued task serviceName queue ⟨sent, message⟩ ∈
      s.server.store.history) :
    exists k call, s.exchanges[sent]? = some (.client k call) ∧
      SendsRequest call message.requestId ∧ message.payload = call.body ∧
        message.clientId = (d.client k).clientId ∧
          HeaderText.Faithful message.requestId := by
  rcases h.server.invariant.posted_of_taken haccount hr with
    ⟨t, params, claims, ht, hwho, _, rfl⟩
  rcases h.server.requests sent t ht with ⟨x, hx, hrequest⟩
  cases x with
  | client k call =>
      rcases of_requestFor_client hrequest with ⟨hendpoint, hacts⟩
      rw [hwho.left] at hendpoint
      rcases sends_of_postRequest hendpoint with ⟨hsends, hbody⟩
      rcases (h.callers k).minted sent call hx hsends.left with ⟨i, _, hid⟩
      have hminted : params.requestId = toString i :=
        Option.some.inj (hsends.right.symm.trans hid)
      refine ⟨k, call, hx, hsends, hbody, hwho.actsFor.unique hacts, ?_⟩
      show HeaderText.Faithful params.requestId
      rw [hminted]
      exact faithful_toString i
  | worker w operation call =>
      rcases of_requestFor_worker hrequest with ⟨_, hservice⟩
      exact absurd hservice hwho.actsFor.not_isService
  | visitor request =>
      cases hrequest
      have hnot := not_moves_of_administers (h.visitors sent t.request hx)
      rw [hwho.left] at hnot
      exact absurd trivial hnot

theorem Provenance.responder (h : Provenance d s)
    (haccount : ClientAccount s.server.store) {task : TaskId} {clientId : String}
    {entry : Ref} {answer : TaskId} {message : PypeResponse}
    (hr : .responseDequeued task clientId entry ⟨answer, message⟩ ∈
      s.server.store.history) :
    exists w q payload contentType timeout call,
      s.exchanges[answer]? =
          some (.worker w (.sendResponse q payload contentType timeout) call) ∧
        q.clientId = clientId ∧ message.requestId = q.requestId ∧
          message.payload = payload.body := by
  rcases h.server.invariant.of_responseEnqueued (haccount.put_of_take hr) with
    ⟨t, params, ht, hwho, rfl, hmessage⟩
  dsimp only at hmessage
  subst hmessage
  rcases h.server.requests answer t ht with ⟨x, hx, hrequest⟩
  cases x with
  | client k call =>
      rcases of_requestFor_client hrequest with ⟨_, hacts⟩
      exact absurd hwho.right hacts.not_isService
  | worker w operation call =>
      rcases of_requestFor_worker hrequest with ⟨hendpoint, _⟩
      rw [hwho.left] at hendpoint
      rcases posts_of_postResponse hendpoint with ⟨hmethod, hpath, hid, hbody⟩
      have hmakes := (h.desks w).makes answer operation call hx
      cases operation with
      | sendResponse q payload contentType timeout =>
          rcases hmakes with ⟨_, hpath', hid', hbody'⟩
          have hclient : params.clientId = q.clientId := by
            simpa using hpath.symm.trans hpath'
          have hrequest : params.requestId = q.requestId := by
            simpa using hid.symm.trans hid'
          exact ⟨w, q, payload, contentType, timeout, call, hx, hclient.symm, hrequest,
            hbody.trans hbody'⟩
      | getRequest timeout =>
          cases hmethod.symm.trans hmakes
      | close => cases hmakes
  | visitor request =>
      cases hrequest
      have hnot := not_moves_of_administers (h.visitors answer t.request hx)
      rw [hwho.left] at hnot
      exact absurd trivial hnot

theorem Provenance.taken (h : Provenance d s) {k : caller}
    {r : Client.ServiceResponse}
    (hr : FromReply s.exchanges s.server.store.history k r) :
    exists entry answer message,
      .responseDequeued r.source (d.client k).clientId entry ⟨answer, message⟩ ∈
          s.server.store.history ∧
        r.payload = message.payload ∧
          (HeaderText.Faithful message.requestId ->
            r.requestId = message.requestId) := by
  rcases hr with ⟨call, reply, default, hcall, hmethod, hanswer, hstatus, hread⟩
  rcases h.server.invariant.of_answered hanswer with ⟨t, ht, hfinished, _⟩
  rcases h.server.requests r.source t ht with ⟨x, hx, hrequest⟩
  cases hcall.symm.trans hx
  rcases of_requestFor_client hrequest with ⟨hendpoint, hacts⟩
  have htaken := hfinished.taken_of_client (moves_of_endpointOf hendpoint hmethod) hacts
    hstatus
  rcases htaken with ⟨entry, ⟨answer, message⟩, hmem, rfl⟩
  rcases read_of_responseReply hstatus hread with ⟨hpayload, hid⟩
  exact ⟨entry, answer, message, (Store.mem_recordsOf.mp hmem).left, hpayload, hid⟩

theorem Provenance.pulled (h : Provenance d s) {w : worker} {name : String}
    {q : Client.ClientRequest}
    (hq : FromPull name s.exchanges s.server.store.history w q) :
    exists serviceName queue sent message,
      .requestDequeued q.source serviceName queue ⟨sent, message⟩ ∈
          s.server.store.history ∧
        q.payload = message.payload ∧
          (HeaderText.Faithful message.clientId -> q.clientId = message.clientId) ∧
            (HeaderText.Faithful message.requestId ->
              q.requestId = message.requestId) := by
  rcases hq with ⟨operation, call, reply, hcall, hanswer, hstatus, hread⟩
  rcases h.server.invariant.of_answered hanswer with ⟨t, ht, hfinished, _⟩
  rcases h.server.requests q.source t ht with ⟨x, hx, hrequest⟩
  cases hcall.symm.trans hx
  rcases of_requestFor_worker hrequest with ⟨hendpoint, hservice⟩
  have hmethod : call.method ≠ .delete := by
    have hmakes := (h.desks w).makes q.source operation call hcall
    intro hdelete
    cases operation with
    | getRequest timeout => cases hdelete.symm.trans hmakes
    | sendResponse forRequest payload contentType timeout =>
        cases hdelete.symm.trans hmakes.left
    | close => cases hmakes
  have htaken := hfinished.taken_of_service (moves_of_endpointOf hendpoint hmethod)
    hservice hstatus
  rcases htaken with ⟨serviceName, queue, ⟨sent, message⟩, hmem, rfl⟩
  rcases read_of_requestReply hstatus hread with ⟨hpayload, hclient, hid⟩
  exact ⟨serviceName, queue, sent, message, (Store.mem_recordsOf.mp hmem).left,
    hpayload, hclient, hid⟩

end

/-!
## Correlation
-/

section

variable {caller worker : Type}

/-- A response answers the request that a client sent under an id: the exchange in
which the client sent it, the worker that pulled it and the request as it was pulled,
and the exchange in which the worker answered it. -/
structure Correlates (d : Deployment caller worker) (s : State caller worker)
    (k : caller) (key : String) (r : Client.ServiceResponse) (sent : TaskId)
    (w : worker) (q : Client.ClientRequest) (answer : TaskId) : Prop where
  /-- The client sent the request under the id, and the worker pulled it as it was
  sent. -/
  request : exists call, s.exchanges[sent]? = some (.client k call) ∧
    SendsRequest call key ∧ q.payload = call.body
  /-- The client sent no other request under the id. -/
  unique : forall (other : TaskId) call,
    s.exchanges[other]? = some (.client k call) -> SendsRequest call key ->
      other = sent
  pulled : q ∈ (s.desks w).pulled
  addressed : q.clientId = (d.client k).clientId ∧ q.requestId = key
  /-- The pull took this very request off its queue. -/
  delivered : exists serviceName queue message,
    .requestDequeued q.source serviceName queue ⟨sent, message⟩ ∈
      s.server.store.history
  /-- The worker sent the response for this request. -/
  response : exists payload contentType timeout call,
    s.exchanges[answer]? =
        some (.worker w (.sendResponse q payload contentType timeout) call) ∧
      r.payload = payload.body
  /-- What the client received is this very response. -/
  received : exists entry message,
    .responseDequeued r.source (d.client k).clientId entry ⟨answer, message⟩ ∈
      s.server.store.history
  requestId : r.requestId = key

variable {d : Deployment caller worker} {s : State caller worker}

theorem correlates_of_received (h : Provenance d s)
    (hservices : ServiceAccount s.server.store)
    (hclients : ClientAccount s.server.store) {k : caller}
    {r : Client.ServiceResponse}
    (hr : FromReply s.exchanges s.server.store.history k r) :
    exists sent w q answer, Correlates d s k r.requestId r sent w q answer := by
  rcases h.taken hr with ⟨entry, answer, message, htaken, hpayload, hid⟩
  rcases h.responder hclients htaken with
    ⟨w, q, payload, contentType, timeout, call, hanswer, hclient, hrequest, hbody⟩
  have hin := ((h.desks w).answers answer _ call q hanswer rfl).left
  rcases h.pulled ((h.desks w).pulled q hin) with
    ⟨serviceName, queue, sent, message', hpulled, hpayload', hclient', hid'⟩
  rcases h.sender hservices hpulled with
    ⟨k', call', hsent, hsends, hbody', howner, hfaithful⟩
  -- the request is one of this client's
  have hplain : HeaderText.Faithful message'.clientId := by
    rw [howner]
    exact (d.client k').plain.faithful
  have hsame : k' = k := by
    apply d.distinct
    rw [← howner, ← hclient' hplain, hclient]
  subst hsame
  have hkey : q.requestId = message'.requestId := hid' hfaithful
  have hkey' : r.requestId = message'.requestId := by
    rw [hrequest, hkey] at hid
    exact hid hfaithful
  refine ⟨sent, w, q, answer, ?_⟩
  constructor
  · refine ⟨call', hsent, ?_, hpayload'.trans hbody'⟩
    rw [hkey']
    exact hsends
  · intro other call'' hother hsends'
    rw [hkey'] at hsends'
    exact (h.callers k').mintedOnce other sent call'' call' _ hother hsent hsends'
      hsends
  · exact hin
  · exact ⟨hclient, hkey.trans hkey'.symm⟩
  · exact ⟨serviceName, queue, message', hpulled⟩
  · exact ⟨payload, contentType, timeout, call, hanswer, hpayload.trans hbody⟩
  · exact ⟨entry, message, htaken⟩
  · rfl

theorem source_unique (h : Provenance d s) (hservices : ServiceAccount s.server.store)
    (hclients : ClientAccount s.server.store) {k : caller} {key : String}
    {r r' : Client.ServiceResponse} {sent sent' : TaskId} {w w' : worker}
    {q q' : Client.ClientRequest} {answer answer' : TaskId}
    (hr : Correlates d s k key r sent w q answer)
    (hr' : Correlates d s k key r' sent' w' q' answer') : r.source = r'.source := by
  have hinv := h.server.invariant
  -- one request was sent under the id
  rcases hr'.request with ⟨call, hcall, hsends, _⟩
  have hsent : sent' = sent := hr.unique sent' call hcall hsends
  subst hsent
  -- it was pulled once, by one worker
  rcases hr.delivered with ⟨serviceName, queue, message, hpulled⟩
  rcases hr'.delivered with ⟨serviceName', queue', message', hpulled'⟩
  have hsource : q.source = q'.source := hinv.taken_once hservices hpulled hpulled'
  rcases (h.desks w).pulled q hr.pulled with
    ⟨operation, pull, reply, hpull, hanswered, _, hread⟩
  rcases (h.desks w').pulled q' hr'.pulled with
    ⟨operation', pull', reply', hpull', hanswered', _, hread'⟩
  rw [← hsource] at hpull' hanswered' hread'
  cases hpull.symm.trans hpull'
  cases hinv.unique_answer hanswered hanswered'
  have hq : q = q' := Option.some.inj (hread.symm.trans hread')
  subst hq
  -- it was answered once, and the answer was taken once
  rcases hr.response with ⟨_, _, _, call', hcall', _⟩
  rcases hr'.response with ⟨_, _, _, call'', hcall'', _⟩
  have hanswer : answer = answer' := (h.desks w).once answer answer' _ _ call' call'' q
    hcall' hcall'' rfl rfl
  subst hanswer
  rcases hr.received with ⟨entry, item, htaken⟩
  rcases hr'.received with ⟨entry', item', htaken'⟩
  exact hinv.received_once hclients htaken htaken'

variable [DecidableEq caller] [DecidableEq worker]

/-- In every run of every deployment, each response that a client returns to its
caller under an id is one that a worker sent for the very request that the client sent
under this id, and no id is returned twice. -/
theorem responses_correlated (d : Deployment caller worker)
    (moves : List (Move caller worker)) (k : caller) :
    (forall key r,
      (key, r) ∈ ((d.reached moves).callers k).connection.returnedResponses ->
        exists sent w q answer,
          Correlates d (d.reached moves) k key r sent w q answer) ∧
      (((d.reached moves).callers k).connection.returnedResponses.map
        Prod.fst).Nodup := by
  have h := provenance_reached d moves
  have hbooks := (h.callers k).books
  rcases h.server.ran with ⟨es, hes⟩
  have hservices : ServiceAccount (d.reached moves).server.store := by
    rw [hes]
    exact (serviceAccount_storeInvariant d.cfg d.jwt).reached serviceAccount_initial es
  have hclients : ClientAccount (d.reached moves).server.store := by
    rw [hes]
    exact App.clientAccount_reached d.cfg d.jwt es
  have hcorrelates : forall key r,
      (key, r) ∈ ((d.reached moves).callers k).connection.returnedResponses ->
        exists sent w q answer,
          Correlates d (d.reached moves) k key r sent w q answer := by
    intro key r hr
    rcases hbooks.received_of_returned hr with ⟨hreceived, rfl⟩
    exact correlates_of_received h hservices hclients
      ((h.callers k).received r hreceived)
  refine ⟨hcorrelates, hbooks.nodup_returnedKeys ?_⟩
  intro key r r' hr hr'
  rcases hcorrelates key r hr with ⟨sent, w, q, answer, hr⟩
  rcases hcorrelates key r' hr' with ⟨sent', w', q', answer', hr'⟩
  exact source_unique h hservices hclients hr hr'

end

def pair : Deployment Unit Unit where
  cfg := Server.Settings.default "10.0.0.1"
  jwt := Jwt.ofPair "c" "s"
  settings := Client.Settings.default
  header := some
  client := fun _ =>
    { name := "caller"
      clientId := "c"
      accessToken := "client"
      plain := by decide +kernel
      issued := ⟨by decide, splitAtBlank_bearer _, rfl⟩ }
  service := fun _ =>
    { name := "s"
      serviceSecret := "secret"
      accessToken := "service"
      plain := by decide +kernel
      issued := ⟨by decide, splitAtBlank_bearer _, rfl⟩ }
  distinct := fun _ _ _ => rfl

def stretches (task : TaskId) (actions : List Action) : List (Move Unit Unit) :=
  actions.map fun action => .serve task action (Clock.constant 0)

def answeredCall : List (Move Unit Unit) :=
  [.ask () (.call "s" (.raw [1]) "text/plain" none) (Clock.constant 0)] ++
    stretches 0 [.start "", .body, .serve, .resume] ++
    [.work () (.getRequest none)] ++
    stretches 1 [.start "", .serve, .resume] ++
    [.replyToWork (),
      .work () (.sendResponse ⟨"c", "1", "text/plain; charset=utf-8", [1], "s", 1⟩
        (.raw [2]) "text/plain" none)] ++
    stretches 2 [.start "", .body, .serve, .resume] ++
    [.replyToWork ()] ++
    stretches 0 [.serve, .resume] ++
    [.reply () (Clock.constant 0)]

example :
    ((pair.reached answeredCall).callers ()).connection.returnedResponses.map
      (fun item => (item.1, item.2.payload)) = [("1", [2])] := by
  decide +kernel

end System
end Pype
