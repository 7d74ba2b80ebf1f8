import Pype.Server.WellFormed
import Pype.Server.App

/-!
# The conduct of a handler

For every phase a handler can be in, what its request is, which objects it
holds, and which messages it has moved so far.  A finished handler has one of
the few transcripts of its route.
-/

namespace Pype
namespace Server

open Foundation Store

section

variable (cfg : Settings) (jwt : Jwt) (task : TaskId) (request : HttpRequest)

inductive Finished : List Record -> HttpReply -> Prop where
  | refused {reply : HttpReply}
      (hstatus : reply.status = 400 ∨ reply.status = 401 ∨ reply.status = 403 ∨
        reply.status = 422) :
      Finished [.answered task reply] reply
  | requestNotTaken {params : PostRequest} {claims : ClientClaims}
      (hwho : Posts jwt request params claims) :
      Finished [.answered task (emptyReply 503)] (emptyReply 503)
  | requestAccepted {params : PostRequest} {claims : ClientClaims} {queue : Ref}
      (hwho : Posts jwt request params claims) :
      Finished
        [.requestEnqueued task params.serviceName queue (params.pypeReq cfg claims),
          .answered task (emptyReply 202)] (emptyReply 202)
  | requestResponded {params : PostRequest} {claims : ClientClaims} {queue entry : Ref}
      {posted : Posted PypeResponse}
      (hwho : Posts jwt request params claims) (hblock : params.block = true) :
      Finished
        [.requestEnqueued task params.serviceName queue (params.pypeReq cfg claims),
          .responseDequeued task claims.clientId entry posted,
          .answered task (responseReply posted.message)]
        (responseReply posted.message)
  | noRequest {serviceName : String} (hwho : Pulls jwt request serviceName) :
      Finished [.answered task (emptyReply 204)] (emptyReply 204)
  | requestDelivered {serviceName : String} {queue : Ref}
      {posted : Posted PypeRequest} (hwho : Pulls jwt request serviceName) :
      Finished
        [.requestDequeued task serviceName queue posted,
          .answered task (requestReply posted.message)]
        (requestReply posted.message)
  | responseNotTaken {params : PostResponse} (hwho : Responds jwt request params) :
      Finished [.answered task (emptyReply 503)] (emptyReply 503)
  | responseAccepted {params : PostResponse} {entry : Ref}
      (hwho : Responds jwt request params) :
      Finished
        [.responseEnqueued task params.clientId entry (params.pypeResp cfg),
          .answered task (emptyReply 202)] (emptyReply 202)
  | noResponse {clientId : String} (hwho : Polls jwt request clientId) :
      Finished [.answered task (emptyReply 204)] (emptyReply 204)
  | responseDelivered {clientId : String} {entry : Ref}
      {posted : Posted PypeResponse} (hwho : Polls jwt request clientId) :
      Finished
        [.responseDequeued task clientId entry posted,
          .answered task (responseReply posted.message)]
        (responseReply posted.message)
  | administered {reply : HttpReply}
      (hroute : request.endpoint = .clientLogoff ∨
        (exists name, request.endpoint = .serviceAuth name) ∨
        (exists name, request.endpoint = .clientAuth name) ∨
        request.endpoint = .servicesLoad) :
      Finished [.answered task reply] reply

/-- What is known of a handler in a phase. -/
def PhaseOk (s : Store) : Phase -> Prop
  | .received => s.recordsOf task = []
  | .postRequestBody params claims entry totalTimeoutMs =>
      Posts jwt request params claims ∧
        s.ownerOf entry = some claims.clientId ∧
        (0 ≤ totalTimeoutMs ∧ totalTimeoutMs ≤ cfg.maxTimeoutMs) ∧
        s.recordsOf task = []
  | .postRequestPut params claims entry _ queue pypeReq _ =>
      Posts jwt request params claims ∧
        s.ownerOf entry = some claims.clientId ∧
        s.serviceRegistry.get? params.serviceName = some queue ∧
        pypeReq = params.pypeReq cfg claims ∧
        s.recordsOf task = []
  | .postRequestPutDone params claims entry _ enqueued =>
      Posts jwt request params claims ∧
        s.ownerOf entry = some claims.clientId ∧
        exists queue, s.serviceRegistry.get? params.serviceName = some queue ∧
          s.recordsOf task = if enqueued then
            [.requestEnqueued task params.serviceName queue
              (params.pypeReq cfg claims)] else []
  | .postRequestGet params claims entry _ =>
      Posts jwt request params claims ∧ params.block = true ∧
        s.ownerOf entry = some claims.clientId ∧
        exists queue, s.serviceRegistry.get? params.serviceName = some queue ∧
          s.recordsOf task =
            [.requestEnqueued task params.serviceName queue
              (params.pypeReq cfg claims)]
  | .postRequestGetDone response =>
      exists params claims queue,
        Posts jwt request params claims ∧ params.block = true ∧
        match response with
        | none =>
            s.recordsOf task =
              [.requestEnqueued task params.serviceName queue
                (params.pypeReq cfg claims)]
        | some response =>
            exists entry poster, s.recordsOf task =
              [.requestEnqueued task params.serviceName queue
                (params.pypeReq cfg claims),
              .responseDequeued task claims.clientId entry ⟨poster, response⟩]
  | .getRequestGet serviceName queue _ =>
      Pulls jwt request serviceName ∧
        s.serviceRegistry.get? serviceName = some queue ∧
        s.recordsOf task = []
  | .getRequestGetDone item =>
      exists serviceName, Pulls jwt request serviceName ∧
        match item with
        | none => s.recordsOf task = []
        | some item =>
            exists queue poster, s.recordsOf task =
              [.requestDequeued task serviceName queue ⟨poster, item⟩]
  | .postResponseBody params entry timeoutMs =>
      Responds jwt request params ∧
        s.ownerOf entry = some params.clientId ∧
        (0 ≤ timeoutMs ∧ timeoutMs ≤ cfg.maxTimeoutMs) ∧
        s.recordsOf task = []
  | .postResponsePut params entry pypeResp _ =>
      Responds jwt request params ∧
        s.ownerOf entry = some params.clientId ∧
        pypeResp = params.pypeResp cfg ∧
        s.recordsOf task = []
  | .postResponsePutDone enqueued =>
      exists params, Responds jwt request params ∧
        if enqueued then
          exists entry, s.recordsOf task =
            [.responseEnqueued task params.clientId entry (params.pypeResp cfg)]
        else s.recordsOf task = []
  | .getResponseGet clientId entry _ =>
      Polls jwt request clientId ∧ s.ownerOf entry = some clientId ∧
        s.recordsOf task = []
  | .getResponseGetDone clientId item =>
      Polls jwt request clientId ∧
        match item with
        | none => s.recordsOf task = []
        | some item =>
            exists entry poster, s.recordsOf task =
              [.responseDequeued task clientId entry ⟨poster, item⟩]
  | .done reply => Finished cfg jwt task request (s.recordsOf task) reply
  | .closed none => s.recordsOf task = []
  | .closed (some reply) => Finished cfg jwt task request (s.recordsOf task) reply

/-- What one stretch of a handler guarantees: it only has effects its request
allows, and it ends in a phase whose description holds. -/
def Good (s : Store) (r : Store × Phase) : Prop :=
  Effects cfg jwt task request s r.1 ∧ PhaseOk cfg jwt task request r.1 r.2

end

section

variable {cfg : Settings} {jwt : Jwt} {task : TaskId} {request : HttpRequest}

/-- A phase stays well described when the store grows and nothing is recorded
about its handler. -/
theorem PhaseOk.of_extends {s s' : Store} {phase : Phase}
    (h : PhaseOk cfg jwt task request s phase) (hext : Extends s s')
    (hrec : s'.recordsOf task = s.recordsOf task) :
    PhaseOk cfg jwt task request s' phase := by
  cases phase with
  | received =>
      rw [PhaseOk, hrec]
      exact h
  | postRequestBody params claims entry total =>
      rcases h with ⟨hwho, howner, hrange, hempty⟩
      exact ⟨hwho, hext.owner _ _ howner, hrange, hrec.trans hempty⟩
  | postRequestPut params claims entry deadline queue pypeReq expires =>
      rcases h with ⟨hwho, howner, hqueue, hreq, hempty⟩
      exact ⟨hwho, hext.owner _ _ howner, hext.service _ _ hqueue, hreq,
        hrec.trans hempty⟩
  | postRequestPutDone params claims entry deadline enqueued =>
      rcases h with ⟨hwho, howner, queue, hqueue, hrecords⟩
      exact ⟨hwho, hext.owner _ _ howner, queue, hext.service _ _ hqueue,
        hrec.trans hrecords⟩
  | postRequestGet params claims entry expires =>
      rcases h with ⟨hwho, hblock, howner, queue, hqueue, hrecords⟩
      exact ⟨hwho, hblock, hext.owner _ _ howner, queue,
        hext.service _ _ hqueue, hrec.trans hrecords⟩
  | postRequestGetDone response =>
      rcases h with ⟨params, claims, queue, hwho, hblock, hrecords⟩
      refine ⟨params, claims, queue, hwho, hblock, ?_⟩
      cases response <;> simpa only [hrec] using hrecords
  | getRequestGet serviceName queue expires =>
      rcases h with ⟨hwho, hqueue, hempty⟩
      exact ⟨hwho, hext.service _ _ hqueue, hrec.trans hempty⟩
  | getRequestGetDone item =>
      rcases h with ⟨serviceName, hwho, hrecords⟩
      refine ⟨serviceName, hwho, ?_⟩
      cases item <;> simpa only [hrec] using hrecords
  | postResponseBody params entry timeoutMs =>
      rcases h with ⟨hwho, howner, hrange, hempty⟩
      exact ⟨hwho, hext.owner _ _ howner, hrange, hrec.trans hempty⟩
  | postResponsePut params entry pypeResp expires =>
      rcases h with ⟨hwho, howner, hresp, hempty⟩
      exact ⟨hwho, hext.owner _ _ howner, hresp, hrec.trans hempty⟩
  | postResponsePutDone enqueued =>
      rcases h with ⟨params, hwho, hrecords⟩
      refine ⟨params, hwho, ?_⟩
      cases enqueued <;> simpa only [hrec] using hrecords
  | getResponseGet clientId entry expires =>
      rcases h with ⟨hwho, howner, hempty⟩
      exact ⟨hwho, hext.owner _ _ howner, hrec.trans hempty⟩
  | getResponseGetDone clientId item =>
      rcases h with ⟨hwho, hrecords⟩
      constructor
      · exact hwho
      · cases item <;> simpa only [hrec] using hrecords
  | done reply =>
      rw [PhaseOk, hrec]
      exact h
  | closed reply =>
      cases reply <;> rw [PhaseOk, hrec] <;> exact h

/-!
## Stretches
-/

theorem Good.after {s t : Store} {r : Store × Phase}
    (heffect : Effect cfg jwt task request s t)
    (h : Good cfg jwt task request t r) : Good cfg jwt task request s r :=
  ⟨Relation.ReflTransGen.head heffect h.left, h.right⟩

theorem Good.here {s : Store} {phase : Phase}
    (h : PhaseOk cfg jwt task request s phase) :
    Good cfg jwt task request s (s, phase) :=
  ⟨Relation.ReflTransGen.refl, h⟩

theorem recordsOf_answered (reply : HttpReply) (s : Store) :
    (s.record (.answered task reply)).recordsOf task =
      s.recordsOf task ++ [.answered task reply] := by
  exact recordsOf_of_snoc rfl rfl

theorem good_answer {reply : HttpReply} {s : Store}
    (h : Finished cfg jwt task request
      (s.recordsOf task ++ [.answered task reply]) reply) :
    Good cfg jwt task request s (answer task reply s) := by
  refine Good.after (Effect.answer reply s) (Good.here ?_)
  rw [PhaseOk, recordsOf_answered]
  exact h

theorem good_refuse {reply : HttpReply} {s : Store}
    (hempty : s.recordsOf task = [])
    (hstatus : reply.status = 400 ∨ reply.status = 401 ∨ reply.status = 403 ∨
      reply.status = 422) :
    Good cfg jwt task request s (answer task reply s) := by
  apply good_answer
  rw [hempty]
  exact Finished.refused hstatus

theorem good_error {e : PypeError} {s : Store} (hempty : s.recordsOf task = []) :
    Good cfg jwt task request s (answer task e.reply s) := by
  apply good_refuse hempty
  rcases e.statusCode_mem with h | h | h
  · exact Or.inl h
  · exact Or.inr (Or.inl h)
  · exact Or.inr (Or.inr (Or.inl h))

theorem recordsOf_openService (serviceName : String) (s : Store) :
    (ServiceRegistry.getOrCreate cfg serviceName s).2.recordsOf task =
      s.recordsOf task := by
  rcases ServiceRegistry.history_getOrCreate cfg serviceName s with
    ⟨added, hhist, hnone⟩
  exact recordsOf_eq_of_history hhist
    fun r hr heq => by rw [hnone r hr] at heq; cases heq

theorem recordsOf_openClient (clientId : String) (createdAt : Time) (s : Store) :
    (ClientRegistry.getOrCreate cfg clientId createdAt s).2.recordsOf task =
      s.recordsOf task := by
  rcases ClientRegistry.history_getOrCreate cfg clientId createdAt s with
    ⟨added, hhist, hnone⟩
  exact recordsOf_eq_of_history hhist
    fun r hr heq => by rw [hnone r hr] at heq; cases heq

theorem recordsOf_bump (clientId : String) (now : Time) (s : Store) :
    (ClientRegistry.bumpLastSeen clientId now s).recordsOf task =
      s.recordsOf task := by
  unfold Store.recordsOf
  rw [ClientRegistry.history_bumpLastSeen]

theorem PhaseOk.bump {s : Store} {phase : Phase}
    (h : PhaseOk cfg jwt task request s phase) (clientId : String) (now : Time) :
    PhaseOk cfg jwt task request
      (ClientRegistry.bumpLastSeen clientId now s) phase :=
  h.of_extends (ClientRegistry.extends_bumpLastSeen clientId now s)
    (recordsOf_bump clientId now s)

theorem openClient_facts {s : Store} (hwell : s.WellFormed cfg)
    (hempty : s.recordsOf task = []) (clientId : String) (createdAt : Time) :
    (ClientRegistry.getOrCreate cfg clientId createdAt s).2.ownerOf
        (ClientRegistry.getOrCreate cfg clientId createdAt s).1 = some clientId ∧
      (ClientRegistry.getOrCreate cfg clientId createdAt s).2.recordsOf task = [] :=
  ⟨(hwell.openClient clientId createdAt).client _ _
      (ClientRegistry.get?_getOrCreate cfg clientId createdAt s),
    (recordsOf_openClient clientId createdAt s).trans hempty⟩

theorem openClient_bump {s : Store} (hwell : s.WellFormed cfg)
    (hempty : s.recordsOf task = []) (clientId : String) (createdAt now : Time) :
    (ClientRegistry.bumpLastSeen clientId now
        (ClientRegistry.getOrCreate cfg clientId createdAt s).2).ownerOf
        (ClientRegistry.getOrCreate cfg clientId createdAt s).1 = some clientId ∧
      (ClientRegistry.bumpLastSeen clientId now
        (ClientRegistry.getOrCreate cfg clientId createdAt s).2).recordsOf task =
        [] := by
  rcases openClient_facts hwell hempty clientId createdAt with ⟨howner, hrec⟩
  rw [ClientRegistry.ownerOf_bumpLastSeen, recordsOf_bump]
  exact ⟨howner, hrec⟩

/-!
### Moving messages
-/

theorem putRequest_good {params : PostRequest} {claims : ClientClaims}
    {entry queue : Ref} {deadline expires : Time} {pypeReq : PypeRequest}
    {s s' : Store}
    (h : PhaseOk cfg jwt task request s
      (.postRequestPut params claims entry deadline queue pypeReq expires))
    (hput : s.putRequest task params.serviceName queue pypeReq = some s') :
    Effect cfg jwt task request s s' ∧
      PhaseOk cfg jwt task request s'
        (.postRequestPutDone params claims entry deadline true) := by
  rcases h with ⟨hwho, howner, hqueue, rfl, hempty⟩
  refine ⟨Effect.putRequest hwho hqueue hput, ?_⟩
  have hext := extends_putRequest hput
  refine ⟨hwho, hext.owner _ _ howner, queue, hext.service _ _ hqueue, ?_⟩
  rcases putRequest_eq_some hput with ⟨q, q', _, _, rfl⟩
  exact (recordsOf_of_snoc rfl rfl).trans (by rw [hempty]; rfl)

theorem takeRequest_good {serviceName : String} {queue : Ref} {expires : Time}
    {item : PypeRequest} {s s' : Store}
    (h : PhaseOk cfg jwt task request s (.getRequestGet serviceName queue expires))
    (htake : s.takeRequest task serviceName queue = some (item, s')) :
    Effect cfg jwt task request s s' ∧
      PhaseOk cfg jwt task request s' (.getRequestGetDone (some item)) := by
  rcases h with ⟨hwho, hqueue, hempty⟩
  refine ⟨Effect.takeRequest hwho hqueue htake, serviceName, hwho, queue, ?_⟩
  rcases takeRequest_eq_some htake with ⟨q, posted, q', _, _, rfl, rfl⟩
  refine ⟨posted.poster, ?_⟩
  exact (recordsOf_of_snoc rfl rfl).trans (by rw [hempty]; rfl)

theorem putResponse_good {params : PostResponse} {entry : Ref} {expires : Time}
    {pypeResp : PypeResponse} {s s' : Store}
    (h : PhaseOk cfg jwt task request s
      (.postResponsePut params entry pypeResp expires))
    (hput : s.putResponse task params.clientId entry pypeResp = some s') :
    Effect cfg jwt task request s s' ∧
      PhaseOk cfg jwt task request s' (.postResponsePutDone true) := by
  rcases h with ⟨hwho, howner, rfl, hempty⟩
  refine ⟨Effect.putResponse hwho howner hput, params, hwho, ?_⟩
  rw [if_pos rfl]
  refine ⟨entry, ?_⟩
  rcases putResponse_eq_some hput with ⟨e, q', _, _, rfl⟩
  exact (recordsOf_of_snoc rfl rfl).trans (by rw [hempty]; rfl)

theorem takeResponse_records {clientId : String} {entry : Ref}
    {item : PypeResponse} {s s' : Store}
    (htake : s.takeResponse task clientId entry = some (item, s')) :
    exists poster, s'.recordsOf task = s.recordsOf task ++
      [.responseDequeued task clientId entry ⟨poster, item⟩] := by
  rcases takeResponse_eq_some htake with ⟨e, posted, q', _, _, rfl, rfl⟩
  refine ⟨posted.poster, ?_⟩
  exact recordsOf_of_snoc rfl rfl

/-!
### Waiting, or not
-/

/-- A put ends well if the stretch after it does, with and without success, and
if the wait is well described. -/
theorem good_queuePut {timeoutMs : Int} {put : Store -> Option Store}
    {resume : Bool -> Store -> Store × Phase} {wait : Phase} {s : Store}
    (hput : forall s', put s = some s' ->
      Good cfg jwt task request s (resume true s'))
    (hfull : Good cfg jwt task request s (resume false s))
    (hwait : PhaseOk cfg jwt task request s wait) :
    Good cfg jwt task request s (queuePut timeoutMs put resume wait s) := by
  unfold queuePut
  split
  · split
    · rename_i s' heq
      exact hput s' heq
    · exact hfull
  · exact Good.here hwait

theorem good_queueGet {item : Type} {timeoutMs : Int}
    {get : Store -> Option (item × Store)}
    {resume : Option item -> Store -> Store × Phase} {wait : Phase} {s : Store}
    (hget : forall x s', get s = some (x, s') ->
      Good cfg jwt task request s (resume (some x) s'))
    (hempty : Good cfg jwt task request s (resume none s))
    (hwait : PhaseOk cfg jwt task request s wait) :
    Good cfg jwt task request s (queueGet timeoutMs get resume wait s) := by
  unfold queueGet
  split
  · split
    · rename_i x s' heq
      exact hget x s' heq
    · exact hempty
  · exact Good.here hwait

/-!
### `POST /services/service_name`
-/

theorem good_postRequestResponded {response : Option PypeResponse} {s : Store}
    (h : PhaseOk cfg jwt task request s (.postRequestGetDone response)) :
    Good cfg jwt task request s (postRequestResponded task response s) := by
  rcases h with ⟨params, claims, queue, hwho, hblock, hrecords⟩
  cases response with
  | none =>
      apply good_answer
      rw [show s.recordsOf task = _ from hrecords]
      exact Finished.requestAccepted hwho
  | some response =>
      rcases hrecords with ⟨entry, poster, hrecords⟩
      apply good_answer
      rw [hrecords]
      change Finished cfg jwt task request _
        (responseReply (Posted.mk poster response).message)
      exact Finished.requestResponded hwho hblock

theorem postRequestGet_good {params : PostRequest} {claims : ClientClaims}
    {entry : Ref} {expires : Time} {response : PypeResponse} {s s' : Store}
    (h : PhaseOk cfg jwt task request s (.postRequestGet params claims entry expires))
    (htake : s.takeResponse task claims.clientId entry = some (response, s')) :
    Effect cfg jwt task request s s' ∧
      PhaseOk cfg jwt task request s' (.postRequestGetDone (some response)) := by
  rcases h with ⟨hwho, hblock, howner, queue, hqueue, hrecords⟩
  have hreceives : Receives jwt request claims.clientId :=
    Or.inr ⟨params, claims, hwho, hblock, rfl⟩
  refine ⟨Effect.takeResponse hreceives howner htake,
    params, claims, queue, hwho, hblock, entry, ?_⟩
  rcases takeResponse_records htake with ⟨poster, hrec⟩
  exact ⟨poster, by rw [hrec, hrecords]; rfl⟩

theorem postRequestGet_expired {params : PostRequest} {claims : ClientClaims}
    {entry : Ref} {expires : Time} {s : Store}
    (h : PhaseOk cfg jwt task request s (.postRequestGet params claims entry expires)) :
    PhaseOk cfg jwt task request s (.postRequestGetDone none) := by
  rcases h with ⟨hwho, hblock, _, queue, _, hrecords⟩
  exact ⟨params, claims, queue, hwho, hblock, hrecords⟩

theorem good_postRequestEnqueued {params : PostRequest} {claims : ClientClaims}
    {entry : Ref} {deadline bumpedAt remainingAt : Time} {enqueued : Bool}
    {s : Store}
    (h : PhaseOk cfg jwt task request s
      (.postRequestPutDone params claims entry deadline enqueued)) :
    Good cfg jwt task request s
      (postRequestEnqueued task params claims entry deadline bumpedAt
        remainingAt enqueued s) := by
  apply Good.after (Effect.bump bumpedAt s h.left.actsFor)
  rcases h.bump claims.clientId bumpedAt with
    ⟨hwho, howner, queue, hqueue, hrecords⟩
  unfold postRequestEnqueued
  dsimp only
  cases enqueued with
  | false =>
      rw [if_pos (by rfl)]
      apply good_answer
      rw [show _ = _ from hrecords]
      exact Finished.requestNotTaken hwho
  | true =>
      rw [if_neg (by simp)]
      by_cases hblock : params.block = true
      · rw [if_neg (by simp [hblock])]
        have hget : forall expires, PhaseOk cfg jwt task request
            (ClientRegistry.bumpLastSeen claims.clientId bumpedAt s)
            (.postRequestGet params claims entry expires) :=
          fun _ => ⟨hwho, hblock, howner, queue, hqueue, hrecords⟩
        refine good_queueGet ?_ ?_ (hget _)
        · intro response s' htake
          rcases postRequestGet_good (hget bumpedAt) htake with
            ⟨heffect, hphase⟩
          exact Good.after heffect (good_postRequestResponded hphase)
        · exact good_postRequestResponded (postRequestGet_expired (hget bumpedAt))
      · rw [if_pos (by simp [hblock])]
        apply good_answer
        rw [show _ = _ from hrecords]
        exact Finished.requestAccepted hwho

theorem postRequestPut_expired {params : PostRequest} {claims : ClientClaims}
    {entry queue : Ref} {deadline expires : Time} {pypeReq : PypeRequest} {s : Store}
    (h : PhaseOk cfg jwt task request s
      (.postRequestPut params claims entry deadline queue pypeReq expires)) :
    PhaseOk cfg jwt task request s
      (.postRequestPutDone params claims entry deadline false) := by
  rcases h with ⟨hwho, howner, hqueue, _, hempty⟩
  exact ⟨hwho, howner, queue, hqueue, hempty⟩

theorem good_postRequestBody {params : PostRequest} {claims : ClientClaims}
    {entry : Ref} {totalTimeoutMs : Int} {clock : Clock} {s : Store}
    (h : PhaseOk cfg jwt task request s
      (.postRequestBody params claims entry totalTimeoutMs)) :
    Good cfg jwt task request s
      (postRequestBody cfg task params claims entry totalTimeoutMs clock s) := by
  apply Good.after (Effect.openService params.serviceName s)
  have hqueue := ServiceRegistry.get?_getOrCreate cfg params.serviceName s
  rcases h.of_extends
      (ServiceRegistry.extends_getOrCreate cfg params.serviceName s)
      (recordsOf_openService params.serviceName s) with
    ⟨hwho, howner, _, hempty⟩
  unfold postRequestBody
  dsimp only
  have hwait : forall deadline expires, PhaseOk cfg jwt task request
      (ServiceRegistry.getOrCreate cfg params.serviceName s).2
      (.postRequestPut params claims entry deadline
        (ServiceRegistry.getOrCreate cfg params.serviceName s).1
        (params.pypeReq cfg claims) expires) :=
    fun _ _ => ⟨hwho, howner, hqueue, rfl, hempty⟩
  refine good_queuePut ?_ ?_ (hwait _ _)
  · intro s' hput
    rcases putRequest_good (hwait _ 0) hput with ⟨heffect, hphase⟩
    exact Good.after heffect (good_postRequestEnqueued hphase)
  · exact good_postRequestEnqueued (postRequestPut_expired (hwait _ 0))

theorem good_postRequestToService {params : PostRequest} {claims : ClientClaims}
    {clock : Clock} {s : Store} (hwell : s.WellFormed cfg)
    (hwho : Posts jwt request params claims) (hempty : s.recordsOf task = []) :
    Good cfg jwt task request s
      (postRequestToService cfg task params claims clock s) := by
  refine Good.after
    (Effect.openClient (clock.reading 0) s (Or.inl hwho.actsFor)) ?_
  apply Good.after (Effect.bump (clock.reading 1) _ hwho.actsFor)
  rcases openClient_bump hwell hempty claims.clientId (clock.reading 0)
    (clock.reading 1) with ⟨howner, hrec⟩
  unfold postRequestToService
  dsimp only
  split
  · exact good_error hrec
  · rename_i totalTimeoutMs htimeout
    apply Good.here
    exact ⟨hwho, howner, normalizeTimeout_ok cfg.maxTimeoutMs_nonneg htimeout, hrec⟩

/-!
### `GET /services/service_name`
-/

theorem good_getRequestDequeued {item : Option PypeRequest} {s : Store}
    (h : PhaseOk cfg jwt task request s (.getRequestGetDone item)) :
    Good cfg jwt task request s (getRequestDequeued task item s) := by
  rcases h with ⟨serviceName, hwho, hrecords⟩
  cases item with
  | none =>
      apply good_answer
      rw [show s.recordsOf task = _ from hrecords]
      exact Finished.noRequest hwho
  | some item =>
      rcases hrecords with ⟨queue, poster, hrecords⟩
      apply good_answer
      rw [hrecords]
      change Finished cfg jwt task request _
        (requestReply (Posted.mk poster item).message)
      exact Finished.requestDelivered hwho

theorem good_getRequestForService {serviceName : String} {timeout : Option Int}
    {claims : ServiceClaims} {clock : Clock} {s : Store}
    (hroute : request.endpoint = .getRequest serviceName timeout)
    (hclaims : serviceClaims jwt request.authorization = .ok claims)
    (hempty : s.recordsOf task = []) :
    Good cfg jwt task request s
      (getRequestForService cfg task serviceName timeout claims clock s) := by
  unfold getRequestForService
  split
  · exact good_error hempty
  · rename_i hname
    have hwho : Pulls jwt request serviceName := by
      refine ⟨⟨timeout, hroute⟩, ?_⟩
      rw [← not_not.mp hname]
      exact serves_of_serviceClaims hclaims
    split
    · exact good_error hempty
    · apply Good.after (Effect.openService serviceName s)
      have hwait : forall expires, PhaseOk cfg jwt task request
          (ServiceRegistry.getOrCreate cfg serviceName s).2
          (.getRequestGet serviceName
            (ServiceRegistry.getOrCreate cfg serviceName s).1 expires) :=
        fun _ => ⟨hwho, ServiceRegistry.get?_getOrCreate cfg serviceName s,
          (recordsOf_openService serviceName s).trans hempty⟩
      refine good_queueGet ?_ ?_ (hwait _)
      · intro item s' htake
        rcases takeRequest_good (hwait 0) htake with ⟨heffect, hphase⟩
        exact Good.after heffect (good_getRequestDequeued hphase)
      · exact good_getRequestDequeued ⟨serviceName, hwho, (hwait 0).right.right⟩

/-!
### `POST /clients/client_id`
-/

theorem good_postResponseEnqueued {enqueued : Bool} {s : Store}
    (h : PhaseOk cfg jwt task request s (.postResponsePutDone enqueued)) :
    Good cfg jwt task request s (postResponseEnqueued task enqueued s) := by
  rcases h with ⟨params, hwho, hrecords⟩
  cases enqueued with
  | false =>
      apply good_answer
      rw [show s.recordsOf task = [] by simpa using hrecords]
      exact Finished.responseNotTaken hwho
  | true =>
      rw [if_pos rfl] at hrecords
      rcases hrecords with ⟨entry, hrecords⟩
      apply good_answer
      rw [hrecords]
      exact Finished.responseAccepted hwho

theorem postResponsePut_expired {params : PostResponse} {entry : Ref}
    {pypeResp : PypeResponse} {expires : Time} {s : Store}
    (h : PhaseOk cfg jwt task request s
      (.postResponsePut params entry pypeResp expires)) :
    PhaseOk cfg jwt task request s (.postResponsePutDone false) := by
  rcases h with ⟨hwho, _, _, hempty⟩
  exact ⟨params, hwho, hempty⟩

theorem good_postResponseBody {params : PostResponse} {entry : Ref}
    {timeoutMs : Int} {clock : Clock} {s : Store}
    (h : PhaseOk cfg jwt task request s (.postResponseBody params entry timeoutMs)) :
    Good cfg jwt task request s
      (postResponseBody cfg task params entry timeoutMs clock s) := by
  rcases h with ⟨hwho, howner, _, hempty⟩
  have hwait : forall expires, PhaseOk cfg jwt task request s
      (.postResponsePut params entry (params.pypeResp cfg) expires) :=
    fun _ => ⟨hwho, howner, rfl, hempty⟩
  refine good_queuePut ?_ ?_ (hwait _)
  · intro s' hput
    rcases putResponse_good (hwait 0) hput with ⟨heffect, hphase⟩
    exact Good.after heffect (good_postResponseEnqueued hphase)
  · exact good_postResponseEnqueued (postResponsePut_expired (hwait 0))

theorem good_postResponseToClient {params : PostResponse} {clock : Clock} {s : Store}
    (hwell : s.WellFormed cfg) (hwho : Responds jwt request params)
    (hempty : s.recordsOf task = []) :
    Good cfg jwt task request s
      (postResponseToClient cfg task params clock s) := by
  refine Good.after
    (Effect.openClient (clock.reading 0) s (Or.inr ⟨params, hwho, rfl⟩)) ?_
  rcases openClient_facts hwell hempty params.clientId (clock.reading 0) with
    ⟨howner, hrec⟩
  unfold postResponseToClient
  dsimp only
  split
  · exact good_error hrec
  · rename_i timeoutMs htimeout
    apply Good.here
    exact ⟨hwho, howner, normalizeTimeout_ok cfg.maxTimeoutMs_nonneg htimeout, hrec⟩

/-!
### `GET /clients/client_id`
-/

theorem getResponseGet_good {clientId : String} {entry : Ref} {expires : Time}
    {item : PypeResponse} {s s' : Store}
    (h : PhaseOk cfg jwt task request s (.getResponseGet clientId entry expires))
    (htake : s.takeResponse task clientId entry = some (item, s')) :
    Effect cfg jwt task request s s' ∧
      PhaseOk cfg jwt task request s' (.getResponseGetDone clientId (some item)) := by
  rcases h with ⟨hwho, howner, hempty⟩
  refine ⟨Effect.takeResponse (Or.inl hwho) howner htake, hwho, entry, ?_⟩
  rcases takeResponse_records htake with ⟨poster, hrec⟩
  exact ⟨poster, by rw [hrec, hempty]; rfl⟩

theorem good_getResponseDequeued {clientId : String} {bumpedAt : Time}
    {item : Option PypeResponse} {s : Store}
    (h : PhaseOk cfg jwt task request s (.getResponseGetDone clientId item)) :
    Good cfg jwt task request s
      (getResponseDequeued task clientId bumpedAt item s) := by
  apply Good.after (Effect.bump bumpedAt s h.left.right)
  rcases h.bump clientId bumpedAt with ⟨hwho, hrecords⟩
  cases item with
  | none =>
      apply good_answer
      rw [show _ = _ from hrecords]
      exact Finished.noResponse hwho
  | some item =>
      rcases hrecords with ⟨entry, poster, hrecords⟩
      apply good_answer
      rw [hrecords]
      change Finished cfg jwt task request _
        (responseReply (Posted.mk poster item).message)
      exact Finished.responseDelivered hwho

theorem good_getResponseForClient {clientId : String} {timeout : Option Int}
    {claims : ClientClaims} {clock : Clock} {s : Store} (hwell : s.WellFormed cfg)
    (hroute : request.endpoint = .getResponse clientId timeout)
    (hclaims : clientClaims jwt request.authorization = .ok claims)
    (hempty : s.recordsOf task = []) :
    Good cfg jwt task request s
      (getResponseForClient cfg task clientId timeout claims clock s) := by
  unfold getResponseForClient
  split
  · exact good_error hempty
  · rename_i hid
    have hwho : Polls jwt request clientId := by
      refine ⟨⟨timeout, hroute⟩, ?_⟩
      rw [← not_not.mp hid]
      exact actsFor_of_clientClaims hclaims
    refine Good.after
      (Effect.openClient (clock.reading 0) s (Or.inl hwho.right)) ?_
    apply Good.after (Effect.bump (clock.reading 1) _ hwho.right)
    rcases openClient_bump hwell hempty clientId (clock.reading 0)
      (clock.reading 1) with ⟨howner, hrec⟩
    dsimp only
    split
    · exact good_error hrec
    · have hwait : forall expires, PhaseOk cfg jwt task request
          (ClientRegistry.bumpLastSeen clientId (clock.reading 1)
            (ClientRegistry.getOrCreate cfg clientId (clock.reading 0) s).2)
          (.getResponseGet clientId
            (ClientRegistry.getOrCreate cfg clientId (clock.reading 0) s).1 expires) :=
        fun _ => ⟨hwho, howner, hrec⟩
      refine good_queueGet ?_ ?_ (hwait _)
      · intro item s' htake
        rcases getResponseGet_good (hwait 0) htake with ⟨heffect, hphase⟩
        exact Good.after heffect (good_getResponseDequeued hphase)
      · exact good_getResponseDequeued ⟨hwho, hrec⟩

/-!
### Dispatch
-/

theorem good_dispatch {secret : String} {clock : Clock} {s : Store}
    (hwell : s.WellFormed cfg) (hempty : s.recordsOf task = []) :
    Good cfg jwt task request s
      (dispatch cfg jwt task request secret clock s) := by
  generalize hstretch : dispatch cfg jwt task request secret clock s = r
  cases dispatched_of_dispatch hstretch with
  | refused e => exact good_error hempty
  | unprocessable => exact good_refuse hempty (by simp [frameworkReply])
  | postRequest hroute hclaims =>
      exact good_postRequestToService hwell ⟨hroute, hclaims⟩ hempty
  | getRequest hroute hclaims =>
      exact good_getRequestForService hroute hclaims hempty
  | postResponse hroute hclaims =>
      exact good_postResponseToClient hwell
        ⟨hroute, (serves_of_serviceClaims hclaims).isService⟩ hempty
  | getResponse hroute hclaims =>
      exact good_getResponseForClient hwell hroute hclaims hempty
  | clientLogoff hroute hclaims =>
      apply Good.after (Effect.logoff s hroute (actsFor_of_clientClaims hclaims))
      apply good_answer
      rw [ClientRegistry.recordsOf_remove, hempty]
      exact Finished.administered (Or.inl hroute)
  | @serviceAuth serviceName hroute =>
      apply Good.after (Effect.openService serviceName s)
      apply good_answer
      rw [recordsOf_openService, hempty]
      exact Finished.administered (Or.inr (Or.inl ⟨serviceName, hroute⟩))
  | @clientAuth name hroute =>
      apply good_answer
      rw [hempty]
      exact Finished.administered (Or.inr (Or.inr (Or.inl ⟨name, hroute⟩)))
  | servicesLoad hroute =>
      apply good_answer
      rw [hempty]
      exact Finished.administered (Or.inr (Or.inr (Or.inr hroute)))

theorem good_advance {phase : Phase} {action : Action} {clock : Clock}
    {s : Store} {r : Store × Phase} (hwell : s.WellFormed cfg)
    (h : PhaseOk cfg jwt task request s phase)
    (hadvance : advance cfg jwt task request phase action clock s = some r) :
    Good cfg jwt task request s r := by
  cases stretch_of_advance hadvance with
  | start => exact good_dispatch hwell h
  | startClosed => exact Good.here h
  | postRequestBody => exact good_postRequestBody h
  | postRequestBodyClosed => exact Good.here h.right.right.right
  | postRequestPutServed hput =>
      rcases putRequest_good h hput with ⟨heffect, hphase⟩
      exact Good.after heffect (Good.here hphase)
  | postRequestPutExpired => exact Good.here (postRequestPut_expired h)
  | postRequestPutDone => exact good_postRequestEnqueued h
  | postRequestGetServed htake =>
      rcases postRequestGet_good h htake with ⟨heffect, hphase⟩
      exact Good.after heffect (Good.here hphase)
  | postRequestGetExpired => exact Good.here (postRequestGet_expired h)
  | postRequestGetDone => exact good_postRequestResponded h
  | getRequestGetServed htake =>
      rcases takeRequest_good h htake with ⟨heffect, hphase⟩
      exact Good.after heffect (Good.here hphase)
  | getRequestGetExpired => exact Good.here ⟨_, h.left, h.right.right⟩
  | getRequestGetDone => exact good_getRequestDequeued h
  | postResponseBody => exact good_postResponseBody h
  | postResponseBodyClosed => exact Good.here h.right.right.right
  | postResponsePutServed hput =>
      rcases putResponse_good h hput with ⟨heffect, hphase⟩
      exact Good.after heffect (Good.here hphase)
  | postResponsePutExpired => exact Good.here (postResponsePut_expired h)
  | postResponsePutDone => exact good_postResponseEnqueued h
  | getResponseGetServed htake =>
      rcases getResponseGet_good h htake with ⟨heffect, hphase⟩
      exact Good.after heffect (Good.here hphase)
  | getResponseGetExpired => exact Good.here ⟨h.left, h.right.right⟩
  | getResponseGetDone => exact good_getResponseDequeued h
  | doneClosed => exact Good.here h

end

end Server
end Pype
