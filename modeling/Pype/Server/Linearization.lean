import Pype.Foundation.Linearizability
import Pype.Server.Authority
import Pype.Server.Progress

/-!
# The queue of a service as one object

Seen from outside, POSTs and GETs on one service overlap in any way, wait and expire.
The queue behaves as if they came one at a time: every history of requests and replies
is that of a bounded queue that is put to and taken from in some order which respects
the order of calls that do not overlap.  A call with a zero timeout only fails if the
queue was full, respectively empty, at its moment.
-/

namespace Pype
namespace Server

open Foundation Store

/-!
## The sequential object
-/

/-- What is asked of the queue; a call with a zero timeout does not wait. -/
inductive QueueInput where
  | put (posted : Posted PypeRequest) (nonblocking : Bool)
  | take (nonblocking : Bool)

/-- What comes of it. -/
inductive QueueOutput where
  | accepted
  | delivered (posted : Posted PypeRequest)
  /-- There was no room, or no request, until the timeout. -/
  | unavailable
  /-- The call is refused, whatever is on the queue. -/
  | refused

inductive QueueMay (maxsize : Nat) : List (Posted PypeRequest) -> QueueInput ->
    QueueOutput -> List (Posted PypeRequest) -> Prop where
  | put {items : List (Posted PypeRequest)} {posted : Posted PypeRequest}
      {nonblocking : Bool} (hroom : items.length < maxsize) :
      QueueMay maxsize items (.put posted nonblocking) .accepted (items ++ [posted])
  | putFails {items : List (Posted PypeRequest)} {posted : Posted PypeRequest}
      {nonblocking : Bool} (hfull : nonblocking = true -> items.length = maxsize) :
      QueueMay maxsize items (.put posted nonblocking) .unavailable items
  | take {items : List (Posted PypeRequest)} {posted : Posted PypeRequest}
      {nonblocking : Bool} :
      QueueMay maxsize (posted :: items) (.take nonblocking) (.delivered posted) items
  | takeFails {items : List (Posted PypeRequest)} {nonblocking : Bool}
      (hempty : nonblocking = true -> items = []) :
      QueueMay maxsize items (.take nonblocking) .unavailable items
  | refuse {items : List (Posted PypeRequest)} {input : QueueInput} :
      QueueMay maxsize items input .refused items

def QueueOutput.Shows : QueueOutput -> HttpReply -> Prop
  | .accepted, reply => reply.accepts = true
  | .delivered posted, reply => reply = requestReply posted.message
  | .unavailable, reply => reply.status = 503 ∨ reply.status = 204
  | .refused, reply => reply.status = 400 ∨ reply.status = 401 ∨ reply.status = 403 ∨
      reply.status = 422

def serviceObject (cfg : Settings) :
    SequentialObject (List (Posted PypeRequest)) QueueInput QueueOutput HttpReply where
  initial := []
  may := QueueMay cfg.serviceQueueMaxSize
  shows := QueueOutput.Shows

/-!
## What is seen
-/

/-- What a request asks of the queue of a service.  A POST without a client's token
has no message to put. -/
def operationOn (cfg : Settings) (jwt : Jwt) (serviceName : String) (task : TaskId)
    (request : HttpRequest) : Option QueueInput :=
  match request.endpoint with
  | .postRequest params =>
      if params.serviceName = serviceName then
        match clientClaims jwt request.authorization with
        | .ok claims =>
            some (.put ⟨task, params.pypeReq cfg claims⟩
              (decide (params.timeout = some 0)))
        | .error _ => none
      else none
  | .getRequest name timeout =>
      if name = serviceName then some (.take (decide (timeout = some 0))) else none
  | _ => none

/-- The answer that the handler of an exchange has given and that is still to be
sent. -/
def App.answerOf (task : TaskId) (s : App) : Option HttpReply :=
  match s.tasks.get? task with
  | none => none
  | some t =>
      match t.phase with
      | .done reply => some reply
      | _ => none

theorem App.answerOf_eq_some {task : TaskId} {s : App} {reply : HttpReply}
    (h : s.answerOf task = some reply) :
    exists t, s.tasks.get? task = some t ∧ t.phase = .done reply := by
  unfold App.answerOf at h
  split at h
  · cases h
  · rename_i t ht
    split at h
    · rename_i answered hphase
      cases h
      exact ⟨t, ht, hphase⟩
    · cases h

/-- The application, with what has been seen of the calls on a service. -/
structure Observed where
  app : App
  history : List (Observation TaskId QueueInput HttpReply)

namespace Observed

def initial : Observed where
  app := App.initial
  history := []

/-- What an event shows of the calls on a service: that one has come, or that one is
answered. -/
def observe (cfg : Settings) (jwt : Jwt) (serviceName : String) (s s' : App) :
    Event -> List (Observation TaskId QueueInput HttpReply)
  | .connect task request =>
      match s.tasks.get? task, operationOn cfg jwt serviceName task request with
      | none, some input => [.invoked task input]
      | _, _ => []
  | .run task _ _ =>
      match s.tasks.get? task, s.answerOf task, s'.answerOf task with
      | some t, none, some reply =>
          match operationOn cfg jwt serviceName task t.request with
          | some _ => [.answered task reply]
          | none => []
      | _, _, _ => []
  | .tick _ => []

def step (cfg : Settings) (jwt : Jwt) (serviceName : String) (s : Observed)
    (e : Event) : Observed where
  app := App.step cfg jwt s.app e
  history := s.history ++ observe cfg jwt serviceName s.app (App.step cfg jwt s.app e) e

abbrev reached (cfg : Settings) (jwt : Jwt) (serviceName : String) (es : List Event) :
    Observed :=
  run (step cfg jwt serviceName) initial es

end Observed

/-!
## What one stretch does to the queue
-/

inductive Moved where
  | put (posted : Posted PypeRequest)
  | take (posted : Posted PypeRequest)

def Record.moved? (serviceName : String) : Record -> Option Moved
  | .requestEnqueued task name _ request =>
      if name = serviceName then some (.put ⟨task, request⟩) else none
  | .requestDequeued _ name _ posted =>
      if name = serviceName then some (.take posted) else none
  | _ => none

def Moved.put? : Moved -> Option (Posted PypeRequest)
  | .put posted => some posted
  | .take _ => none

def Moved.take? : Moved -> Option (Posted PypeRequest)
  | .put _ => none
  | .take posted => some posted

theorem bind_moved?_put? (serviceName : String) (r : Record) :
    (r.moved? serviceName).bind Moved.put? = r.requestEnqueued? serviceName := by
  cases r <;> simp only [Record.moved?, Record.requestEnqueued?, Option.bind_none]
  all_goals split <;> rfl

theorem bind_moved?_take? (serviceName : String) (r : Record) :
    (r.moved? serviceName).bind Moved.take? =
      (r.requestDequeued? serviceName).map Prod.snd := by
  cases r <;> simp only [Record.moved?, Record.requestDequeued?, Option.bind_none,
    Option.map_none]
  all_goals split <;> rfl

section

variable {s s' : Store} {serviceName : String} {added : List Record}

theorem balance_of_added (serviceName : String) (h : ServiceAccount s)
    (h' : ServiceAccount s')
    (hhist : s'.history = s.history ++ added) :
    s.serviceContent serviceName ++
        (added.filterMap (Record.moved? serviceName)).filterMap Moved.put? =
      (added.filterMap (Record.moved? serviceName)).filterMap Moved.take? ++
        s'.serviceContent serviceName := by
  have hput : (added.filterMap (Record.moved? serviceName)).filterMap Moved.put? =
      added.filterMap (Record.requestEnqueued? serviceName) := by
    rw [List.filterMap_filterMap]
    exact List.filterMap_congr fun r _ => bind_moved?_put? serviceName r
  have htake : (added.filterMap (Record.moved? serviceName)).filterMap Moved.take? =
      (added.filterMap (Record.requestDequeued? serviceName)).map Prod.snd := by
    rw [List.filterMap_filterMap, List.map_filterMap]
    exact List.filterMap_congr fun r _ => bind_moved?_take? serviceName r
  have hbefore := h.balance serviceName
  have hafter := h'.balance serviceName
  unfold enqueuedRequests dequeuedRequests at hbefore hafter
  rw [hhist, List.filterMap_append, List.filterMap_append, hbefore, List.map_append,
    List.append_assoc, List.append_assoc] at hafter
  rw [hput, htake]
  exact List.append_cancel_left hafter

theorem content_of_nothing (h : ServiceAccount s) (h' : ServiceAccount s')
    (hhist : s'.history = s.history ++ added)
    (hmoved : added.filterMap (Record.moved? serviceName) = []) :
    s'.serviceContent serviceName = s.serviceContent serviceName := by
  have hbalance := balance_of_added serviceName h h' hhist
  rw [hmoved] at hbalance
  simpa using hbalance.symm

theorem content_of_put (h : ServiceAccount s) (h' : ServiceAccount s')
    (hhist : s'.history = s.history ++ added) {posted : Posted PypeRequest}
    (hmoved : added.filterMap (Record.moved? serviceName) = [.put posted]) :
    s'.serviceContent serviceName = s.serviceContent serviceName ++ [posted] := by
  have hbalance := balance_of_added serviceName h h' hhist
  rw [hmoved] at hbalance
  exact hbalance.symm

theorem content_of_take (h : ServiceAccount s) (h' : ServiceAccount s')
    (hhist : s'.history = s.history ++ added) {posted : Posted PypeRequest}
    (hmoved : added.filterMap (Record.moved? serviceName) = [.take posted]) :
    s.serviceContent serviceName = posted :: s'.serviceContent serviceName := by
  have hbalance := balance_of_added serviceName h h' hhist
  rw [hmoved] at hbalance
  exact (List.append_nil _).symm.trans hbalance

end

/-!
## What a transcript says about a call
-/

/-- What has come of a call, by the first thing that is recorded of its handler. -/
def settlement : List Record -> Option QueueOutput
  | .requestEnqueued .. :: _ => some .accepted
  | .requestDequeued _ _ _ posted :: _ => some (.delivered posted)
  | .answered _ reply :: _ =>
      if reply.status = 503 ∨ reply.status = 204 then some .unavailable else some .refused
  | _ => none

section

variable {cfg : Settings} {jwt : Jwt} {task : TaskId} {request : HttpRequest}
  {serviceName : String} {input : QueueInput}

theorem operationOn_cases
    (h : operationOn cfg jwt serviceName task request = some input) :
    (exists params claims, Posts jwt request params claims ∧
      params.serviceName = serviceName ∧
      input = .put ⟨task, params.pypeReq cfg claims⟩
        (decide (params.timeout = some 0))) ∨
    (exists timeout, request.endpoint = .getRequest serviceName timeout ∧
      input = .take (decide (timeout = some 0))) := by
  unfold operationOn at h
  split at h
  · rename_i params hroute
    split at h
    · rename_i hname
      split at h
      · rename_i claims hclaims
        cases h
        exact Or.inl ⟨params, claims, ⟨hroute, hclaims⟩, hname, rfl⟩
      · cases h
    · cases h
  · rename_i name timeout hroute
    split at h
    · rename_i hname
      subst hname
      cases h
      exact Or.inr ⟨timeout, hroute, rfl⟩
    · cases h
  · cases h

theorem operationOn_of_posts {params : PostRequest} {claims : ClientClaims}
    (hwho : Posts jwt request params claims) :
    operationOn cfg jwt params.serviceName task request =
      some (.put ⟨task, params.pypeReq cfg claims⟩
        (decide (params.timeout = some 0))) := by
  unfold operationOn
  rw [hwho.left]
  dsimp only
  rw [if_pos rfl, hwho.right]

theorem operationOn_of_pulls (hwho : Pulls jwt request serviceName) :
    exists input, operationOn cfg jwt serviceName task request = some input := by
  rcases hwho.left with ⟨timeout, hroute⟩
  unfold operationOn
  rw [hroute]
  dsimp only
  rw [if_pos rfl]
  exact ⟨_, rfl⟩

theorem not_client_of_operationOn
    (h : operationOn cfg jwt serviceName task request = some input) :
    (forall params, ¬ Responds jwt request params) ∧
      (forall clientId, ¬ Polls jwt request clientId) ∧
      request.endpoint.Moves := by
  rcases operationOn_cases h with ⟨params, claims, hwho, _, _⟩ | ⟨timeout, hroute, _⟩
  · refine ⟨fun params' hresponds => hresponds.not_posts hwho,
      fun clientId hpolls => hwho.not_polls hpolls, ?_⟩
    rw [hwho.left]
    trivial
  · refine ⟨?_, ?_, ?_⟩
    · intro params hex
      rcases hex with ⟨hroute', _⟩
      rw [hroute] at hroute'
      cases hroute'
    · intro clientId hex
      rcases hex with ⟨⟨timeout', hroute'⟩, _⟩
      rw [hroute] at hroute'
      cases hroute'
    · rw [hroute]
      trivial

theorem Underway.of_operation {moved : List Record}
    (hop : operationOn cfg jwt serviceName task request = some input)
    (h : Underway cfg jwt task request moved) :
    (moved = [] ∨
      exists posted nonblocking queue rest, input = .put posted nonblocking ∧
        moved = .requestEnqueued task serviceName queue posted.message :: rest ∧
        posted.poster = task ∧ rest.filterMap (Record.moved? serviceName) = []) ∨
      exists nonblocking queue posted, input = .take nonblocking ∧
        moved = [.requestDequeued task serviceName queue posted] := by
  rcases not_client_of_operationOn hop with ⟨hresponds, hpolls, _⟩
  have enqueued : forall {params : PostRequest} {claims : ClientClaims},
      Posts jwt request params claims -> params.serviceName = serviceName ∧
        input = .put ⟨task, params.pypeReq cfg claims⟩
          (decide (params.timeout = some 0)) := by
    intro params claims hwho
    rcases operationOn_cases hop with
      ⟨params', claims', hwho', hname, hinput⟩ | ⟨timeout, hroute, _⟩
    · rcases hwho.unique hwho' with ⟨rfl, rfl⟩
      exact ⟨hname, hinput⟩
    · rw [hwho.left] at hroute
      cases hroute
  cases h with
  | silent => exact Or.inl (Or.inl rfl)
  | requestEnqueued hwho =>
      rcases enqueued hwho with ⟨rfl, hinput⟩
      exact Or.inl (Or.inr ⟨_, _, _, _, hinput, rfl, rfl, rfl⟩)
  | responseTaken hwho hblock =>
      rcases enqueued hwho with ⟨rfl, hinput⟩
      exact Or.inl (Or.inr ⟨_, _, _, _, hinput, rfl, rfl, rfl⟩)
  | requestTaken hwho =>
      right
      rcases operationOn_cases hop with
        ⟨params, claims, hwho', _, _⟩ | ⟨timeout, hroute, hinput⟩
      · exact absurd hwho hwho'.not_pulls
      · rcases hwho.left with ⟨timeout', hroute'⟩
        rw [hroute] at hroute'
        cases hroute'
        exact ⟨_, _, _, hinput, rfl⟩
  | responseEnqueued hwho => exact absurd hwho (hresponds _)
  | responsePolled hwho => exact absurd hwho (hpolls _)

inductive Settles (serviceName : String) (task : TaskId) :
    QueueInput -> List Record -> QueueOutput -> List Moved -> Prop where
  | put {posted : Posted PypeRequest} {nonblocking : Bool} {records : List Record} :
      Settles serviceName task (.put posted nonblocking) records .accepted [.put posted]
  | take {posted : Posted PypeRequest} {nonblocking : Bool} {records : List Record} :
      Settles serviceName task (.take nonblocking) records (.delivered posted)
        [.take posted]
  | unavailable {input : QueueInput} {reply : HttpReply}
      (hstatus : reply.status = 503 ∨ reply.status = 204) :
      Settles serviceName task input [.answered task reply] .unavailable []
  | refused {input : QueueInput} {reply : HttpReply} :
      Settles serviceName task input [.answered task reply] .refused []

theorem Transcript.settles {records : List Record}
    (hop : operationOn cfg jwt serviceName task request = some input)
    (h : Transcript cfg jwt task request records) (hne : records ≠ []) :
    exists output, settlement records = some output ∧
      Settles serviceName task input records output
        (records.filterMap (Record.moved? serviceName)) := by
  rcases h with ⟨moved, hunderway, hrecords⟩
  have answer_moves : forall reply : HttpReply,
      (Record.answered task reply).moved? serviceName = none := fun _ => rfl
  rcases hunderway.of_operation hop with
    (rfl | ⟨posted, nonblocking, queue, rest, rfl, rfl, hposter, hrest⟩) |
    ⟨nonblocking, queue, posted, rfl, rfl⟩
  · rcases hrecords with rfl | ⟨reply, rfl⟩
    · exact absurd rfl hne
    · by_cases hstatus : reply.status = 503 ∨ reply.status = 204
      · exact ⟨.unavailable, if_pos hstatus, Settles.unavailable hstatus⟩
      · exact ⟨.refused, if_neg hstatus, Settles.refused⟩
  · have hmoved : (Record.requestEnqueued task serviceName queue posted.message).moved?
        serviceName = some (.put posted) := by
      rw [Record.moved?, if_pos rfl, ← hposter]
    refine ⟨.accepted, ?_, ?_⟩
    · rcases hrecords with rfl | ⟨reply, rfl⟩ <;> rfl
    · have hall : records.filterMap (Record.moved? serviceName) = [.put posted] := by
        rcases hrecords with rfl | ⟨reply, rfl⟩
        · rw [List.filterMap_cons_some hmoved, hrest]
        · rw [List.cons_append, List.filterMap_cons_some hmoved, List.filterMap_append,
            hrest, List.filterMap_cons_none (answer_moves reply)]
          rfl
      rw [hall]
      exact Settles.put
  · have hmoved : (Record.requestDequeued task serviceName queue posted).moved?
        serviceName = some (.take posted) := by
      rw [Record.moved?, if_pos rfl]
    refine ⟨.delivered posted, ?_, ?_⟩
    · rcases hrecords with rfl | ⟨reply, rfl⟩ <;> rfl
    · have hall : records.filterMap (Record.moved? serviceName) = [.take posted] := by
        rcases hrecords with rfl | ⟨reply, rfl⟩
        · rw [List.filterMap_cons_some hmoved]
          rfl
        · rw [List.cons_append, List.filterMap_cons_some hmoved, List.nil_append,
            List.filterMap_cons_none (answer_moves reply)]
          rfl
      rw [hall]
      exact Settles.take

theorem Transcript.settled {before added : List Record}
    (hop : operationOn cfg jwt serviceName task request = some input)
    (h : Transcript cfg jwt task request (before ++ added)) (hne : before ≠ []) :
    settlement (before ++ added) = settlement before ∧
      added.filterMap (Record.moved? serviceName) = [] := by
  rcases List.exists_cons_of_ne_nil hne with ⟨r, rest, rfl⟩
  constructor
  · cases r <;> rfl
  · have htail : (rest ++ added).filterMap (Record.moved? serviceName) = [] := by
      rcases h with ⟨moved, hunderway, hrecords⟩
      rw [List.cons_append] at hrecords
      rcases hunderway.of_operation hop with
        (rfl | ⟨posted, nonblocking, queue, rest', _, rfl, _, hrest⟩) |
        ⟨nonblocking, queue, posted, _, rfl⟩
      · rcases hrecords with hnil | ⟨reply, hcons⟩
        · cases hnil
        · rw [(List.cons.inj hcons).right]
          rfl
      · rcases hrecords with hcons | ⟨reply, hcons⟩
        · rw [(List.cons.inj hcons).right]
          exact hrest
        · rw [(List.cons.inj (hcons.trans (List.cons_append ..))).right,
            List.filterMap_append, hrest]
          rfl
      · rcases hrecords with hcons | ⟨reply, hcons⟩
        · rw [(List.cons.inj hcons).right]
          rfl
        · rw [(List.cons.inj hcons).right]
          rfl
    rw [List.filterMap_append] at htail
    exact (List.append_eq_nil_iff.mp htail).right

theorem Finished.shows {records : List Record} {reply : HttpReply} {output : QueueOutput}
    (hop : operationOn cfg jwt serviceName task request = some input)
    (h : Finished cfg jwt task request records reply)
    (hsettled : settlement records = some output) : output.Shows reply := by
  cases h with
  | refused hstatus =>
      have hother : ¬ (reply.status = 503 ∨ reply.status = 204) := by omega
      have hrefused : settlement [.answered task reply] = some .refused := if_neg hother
      rw [hrefused] at hsettled
      cases hsettled
      exact hstatus
  | requestNotTaken _ | responseNotTaken _ =>
      cases hsettled
      exact Or.inl rfl
  | noRequest _ | noResponse _ =>
      cases hsettled
      exact Or.inr rfl
  | requestAccepted _ =>
      cases hsettled
      rfl
  | requestResponded _ _ =>
      cases hsettled
      exact responseReply_accepts _
  | requestDelivered _ =>
      cases hsettled
      rfl
  | responseAccepted _ | responseDelivered _ => cases hsettled
  | administered hroute =>
      exact absurd (not_client_of_operationOn hop).right.right
        (not_moves_of_administered hroute)

/-!
## Calls that do not wait
-/

theorem length_of_full {s : Store} (hwell : s.WellFormed cfg) {queue : Ref}
    (hqueue : s.serviceRegistry.get? serviceName = some queue) {item : PypeRequest}
    (hput : s.putRequest task serviceName queue item = none) :
    (s.serviceContent serviceName).length = cfg.serviceQueueMaxSize := by
  rcases hwell.service serviceName queue hqueue with ⟨q, hq, hmax⟩
  have hfull : q.Full := by
    unfold putRequest at hput
    rw [hq] at hput
    dsimp only at hput
    split at hput
    · rename_i hnone
      exact BoundedQueue.putNowait_eq_none_iff.mp hnone
    · cases hput
  apply le_antisymm (length_serviceContent_le hwell serviceName)
  rw [serviceContent_of_get? hqueue hq, ← hmax]
  exact hfull.right

theorem content_of_empty {s : Store} (hwell : s.WellFormed cfg) {queue : Ref}
    (hqueue : s.serviceRegistry.get? serviceName = some queue)
    (htake : s.takeRequest task serviceName queue = none) :
    s.serviceContent serviceName = [] := by
  rcases hwell.service serviceName queue hqueue with ⟨q, hq, _⟩
  rw [serviceContent_of_get? hqueue hq]
  unfold takeRequest at htake
  rw [hq] at htake
  dsimp only at htake
  split at htake
  · rename_i hnone
    unfold BoundedQueue.getNowait at hnone
    split at hnone
    · assumption
    · cases hnone
  · cases htake

theorem status_postRequestEnqueued {params : PostRequest} {claims : ClientClaims}
    {entry : Ref} {deadline bumpedAt remainingAt : Time} {s : Store} {reply : HttpReply}
    (h : (postRequestEnqueued task params claims entry deadline bumpedAt remainingAt true
      s).2 = .done reply) :
    reply.status = 202 ∨ reply.status = 200 ∨ reply.status = 500 := by
  unfold postRequestEnqueued at h
  dsimp only at h
  rw [if_neg (by simp)] at h
  split at h
  · cases h
    exact Or.inl rfl
  · unfold queueGet at h
    split at h
    · split at h
      · cases h
        exact Or.inr (messageReply_status _ _ _ _)
      · cases h
        exact Or.inl rfl
    · cases h

theorem full_of_postRequestBody {params : PostRequest} {claims : ClientClaims}
    {entry : Ref} {clock : Clock} {s : Store} {reply : HttpReply}
    (hwell : s.WellFormed cfg)
    (h : (postRequestBody cfg task params claims entry 0 clock s).2 = .done reply)
    (hstatus : reply.status = 503 ∨ reply.status = 204) :
    (s.serviceContent params.serviceName).length = cfg.serviceQueueMaxSize := by
  have hwell' := hwell.openService params.serviceName
  have hqueue := ServiceRegistry.get?_getOrCreate cfg params.serviceName s
  rw [← serviceContent_openService hwell params.serviceName params.serviceName]
  unfold postRequestBody queuePut at h
  dsimp only at h
  rw [if_pos (remainingMs_seconds_zero (clock.mono (Nat.zero_le 1)))] at h
  split at h
  · have hother := status_postRequestEnqueued h
    omega
  · rename_i hput
    exact length_of_full hwell' hqueue hput

theorem empty_of_getRequestForService {claims : ServiceClaims} {clock : Clock} {s : Store}
    {reply : HttpReply} (hwell : s.WellFormed cfg)
    (h : (getRequestForService cfg task serviceName (some 0) claims clock s).2 =
      .done reply) (hstatus : reply.status = 503 ∨ reply.status = 204) :
    s.serviceContent serviceName = [] := by
  have hwell' := hwell.openService serviceName
  have hqueue := ServiceRegistry.get?_getOrCreate cfg serviceName s
  rw [← serviceContent_openService hwell serviceName serviceName]
  unfold getRequestForService queueGet at h
  rw [normalizeTimeout_zero] at h
  split at h
  · cases h
    simp [PypeError.statusCode] at hstatus
  · dsimp only at h
    rw [if_pos rfl] at h
    split at h
    · cases h
      rename_i item _ _
      rcases messageReply_status item.payload item.contentType (some item.clientId)
        item.requestId with hcode | hcode
      · rw [requestReply, hcode] at hstatus
        simp at hstatus
      · rw [requestReply, hcode] at hstatus
        simp at hstatus
    · rename_i htake
      exact content_of_empty hwell' hqueue htake

theorem refusal_ne_unavailable {reply : HttpReply}
    (hstatus : reply.status = 503 ∨ reply.status = 204) (e : PypeError) (s : Store) :
    (answer task e.reply s).2 ≠ .done reply := by
  intro h
  cases h
  have hcode := e.statusCode_mem
  rw [PypeError.reply_status] at hstatus
  omega

theorem full_of_prompt {params : PostRequest} {claims : ClientClaims} {phase : Phase}
    {action : Action} {clock : Clock} {s : Store} {r : Store × Phase} {reply : HttpReply}
    (hwell : s.WellFormed cfg) (hphase : PhaseOk cfg jwt task request s phase)
    (hwho : Posts jwt request params claims) (hprompt : phase.Prompt)
    (hadvance : advance cfg jwt task request phase action clock s = some r)
    (hdone : r.2 = .done reply) (hstatus : reply.status = 503 ∨ reply.status = 204) :
    (s.serviceContent params.serviceName).length = cfg.serviceQueueMaxSize := by
  cases stretch_of_advance hadvance with
  | start =>
      generalize hstretch : dispatch cfg jwt task request _ clock s = r at hdone
      cases dispatched_of_dispatch hstretch with
      | refused e => exact absurd hdone (refusal_ne_unavailable hstatus e s)
      | unprocessable =>
          cases hdone
          simp [frameworkReply] at hstatus
      | postRequest =>
          unfold postRequestToService at hdone
          dsimp only at hdone
          split at hdone
          · exact absurd hdone (refusal_ne_unavailable hstatus _ _)
          · cases hdone
      | getRequest hroute | postResponse hroute | getResponse hroute
      | clientLogoff hroute | serviceAuth hroute | clientAuth hroute
      | servicesLoad hroute =>
          rw [hwho.left] at hroute
          cases hroute
  | @postRequestBody params' claims' entry totalTimeoutMs =>
      rcases hwho.unique hphase.left with ⟨rfl, _⟩
      have htotal : totalTimeoutMs = 0 := hprompt
      subst htotal
      exact full_of_postRequestBody hwell hdone hstatus
  | postResponseBody => exact absurd hwho hphase.left.not_posts
  | startClosed | postRequestBodyClosed | postResponseBodyClosed | doneClosed =>
      cases hdone
  | postRequestPutServed _ | postRequestPutExpired _ | postRequestPutDone
  | postRequestGetServed _ | postRequestGetExpired _ | postRequestGetDone
  | getRequestGetServed _ | getRequestGetExpired _ | getRequestGetDone
  | postResponsePutServed _ | postResponsePutExpired _ | postResponsePutDone
  | getResponseGetServed _ | getResponseGetExpired _ | getResponseGetDone =>
      exact hprompt.elim

theorem empty_of_prompt {phase : Phase} {action : Action} {clock : Clock} {s : Store}
    {r : Store × Phase} {reply : HttpReply} (hwell : s.WellFormed cfg)
    (hphase : PhaseOk cfg jwt task request s phase)
    (hroute : request.endpoint = .getRequest serviceName (some 0)) (hprompt : phase.Prompt)
    (hadvance : advance cfg jwt task request phase action clock s = some r)
    (hdone : r.2 = .done reply) (hstatus : reply.status = 503 ∨ reply.status = 204) :
    s.serviceContent serviceName = [] := by
  cases stretch_of_advance hadvance with
  | start =>
      generalize hstretch : dispatch cfg jwt task request _ clock s = r at hdone
      cases dispatched_of_dispatch hstretch with
      | refused e => exact absurd hdone (refusal_ne_unavailable hstatus e s)
      | unprocessable =>
          cases hdone
          simp [frameworkReply] at hstatus
      | getRequest hroute' =>
          rw [hroute] at hroute'
          cases hroute'
          exact empty_of_getRequestForService hwell hdone hstatus
      | postRequest hroute' | postResponse hroute' | getResponse hroute'
      | clientLogoff hroute' | serviceAuth hroute' | clientAuth hroute'
      | servicesLoad hroute' =>
          rw [hroute] at hroute'
          cases hroute'
  | postRequestBody =>
      have hroute' := hphase.left.left
      rw [hroute] at hroute'
      cases hroute'
  | postResponseBody =>
      have hroute' := hphase.left.left
      rw [hroute] at hroute'
      cases hroute'
  | startClosed | postRequestBodyClosed | postResponseBodyClosed | doneClosed =>
      cases hdone
  | postRequestPutServed _ | postRequestPutExpired _ | postRequestPutDone
  | postRequestGetServed _ | postRequestGetExpired _ | postRequestGetDone
  | getRequestGetServed _ | getRequestGetExpired _ | getRequestGetDone
  | postResponsePutServed _ | postResponsePutExpired _ | postResponsePutDone
  | getResponseGetServed _ | getResponseGetExpired _ | getResponseGetDone =>
      exact hprompt.elim

theorem unavailable_of_prompt {phase : Phase} {action : Action} {clock : Clock}
    {s : Store} {r : Store × Phase} {reply : HttpReply} (hwell : s.WellFormed cfg)
    (hphase : PhaseOk cfg jwt task request s phase)
    (hprompt : request.endpoint.timeout? = some 0 -> phase.Prompt)
    (hadvance : advance cfg jwt task request phase action clock s = some r)
    (hdone : r.2 = .done reply) (hstatus : reply.status = 503 ∨ reply.status = 204)
    (hop : operationOn cfg jwt serviceName task request = some input) :
    QueueMay cfg.serviceQueueMaxSize (s.serviceContent serviceName) input .unavailable
      (s.serviceContent serviceName) := by
  rcases operationOn_cases hop with
    ⟨params, claims, hwho, rfl, rfl⟩ | ⟨timeout, hroute, rfl⟩
  · apply QueueMay.putFails
    intro hnonblocking
    have hzero : request.endpoint.timeout? = some 0 := by
      rw [hwho.left]
      exact of_decide_eq_true hnonblocking
    exact full_of_prompt hwell hphase hwho (hprompt hzero) hadvance hdone hstatus
  · apply QueueMay.takeFails
    intro hnonblocking
    have htimeout : timeout = some 0 := of_decide_eq_true hnonblocking
    subst htimeout
    have hzero : request.endpoint.timeout? = some 0 := by
      rw [hroute]
      rfl
    exact empty_of_prompt hwell hphase hroute (hprompt hzero) hadvance hdone hstatus

end

/-!
## Every history is explained
-/

namespace Observed

/-- The order explains what has been seen, and every call whose handler has recorded
something is in it, with what has come of it. -/
structure Explains (cfg : Settings) (jwt : Jwt) (serviceName : String) (s : Observed)
    (order : List (Completed TaskId QueueInput QueueOutput)) : Prop where
  linearizes : Linearizes (serviceObject cfg) s.history order
    (s.app.store.serviceContent serviceName)
  invoked : forall task input, .invoked task input ∈ s.history <->
    exists t, s.app.tasks.get? task = some t ∧
      operationOn cfg jwt serviceName task t.request = some input
  settled : forall op, op ∈ order ->
    settlement (s.app.store.recordsOf op.ident) = some op.output
  complete : forall task t input, s.app.tasks.get? task = some t ->
    operationOn cfg jwt serviceName task t.request = some input ->
    s.app.store.recordsOf task ≠ [] -> task ∈ order.map Completed.ident

variable {cfg : Settings} {jwt : Jwt} {serviceName : String} {s : Observed}
  {order : List (Completed TaskId QueueInput QueueOutput)}

theorem explains_initial (cfg : Settings) (jwt : Jwt) (serviceName : String) :
    Explains cfg jwt serviceName initial [] where
  linearizes := Linearizes.nil
  invoked := by
    intro task input
    constructor
    · intro h
      cases h
    · intro hex
      rcases hex with ⟨t, ht, _⟩
      cases ht
  settled := by
    intro op hop
    cases hop
  complete := by
    intro task t input ht
    cases ht

theorem Explains.not_mem (h : Explains cfg jwt serviceName s order) {task : TaskId}
    (hsilent : s.app.store.recordsOf task = []) :
    task ∉ order.map Completed.ident := by
  intro hmem
  rcases List.mem_map.mp hmem with ⟨op, hop, rfl⟩
  have hsettled := h.settled op hop
  rw [hsilent] at hsettled
  cases hsettled

theorem Explains.connect (h : Explains cfg jwt serviceName s order)
    (hinv : s.app.Invariant cfg jwt) {task : TaskId} {request : HttpRequest}
    (hnone : s.app.tasks.get? task = none) :
    Explains cfg jwt serviceName (step cfg jwt serviceName s (.connect task request))
      order := by
  have happ : App.step cfg jwt s.app (.connect task request) =
      { s.app with tasks := s.app.tasks.set task ⟨request, .received⟩ } := by
    simp only [App.step, App.connect, hnone]
  have hfresh : forall input, .invoked task input ∉ s.history := by
    intro input hmem
    rcases (h.invoked task input).mp hmem with ⟨t, ht, _⟩
    rw [hnone] at ht
    cases ht
  have hcomplete : forall other t input,
      (s.app.tasks.set task ⟨request, .received⟩).get? other = some t ->
        operationOn cfg jwt serviceName other t.request = some input ->
          s.app.store.recordsOf other ≠ [] -> other ∈ order.map Completed.ident := by
    intro other t input ht hop hne
    rw [Dict.get?_set] at ht
    split at ht
    · rename_i heq
      subst heq
      exact absurd (hinv.silent task hnone) hne
    · exact h.complete other t input ht hop hne
  unfold step
  rw [happ]
  cases hop : operationOn cfg jwt serviceName task request with
  | none =>
      simp only [observe, hnone, hop, List.append_nil]
      refine ⟨h.linearizes, ?_, h.settled, hcomplete⟩
      intro other input
      dsimp only
      rw [h.invoked, Dict.get?_set]
      split
      · rename_i heq
        subst heq
        rw [hnone]
        constructor
        · intro hex
          rcases hex with ⟨t, ht, _⟩
          cases ht
        · intro hex
          rcases hex with ⟨t, ht, hop'⟩
          cases ht
          rw [hop] at hop'
          cases hop'
      · exact Iff.rfl
  | some input =>
      simp only [observe, hnone, hop]
      refine ⟨h.linearizes.invoke hfresh, ?_, h.settled, hcomplete⟩
      intro other input'
      dsimp only
      rw [List.mem_append, h.invoked, List.mem_singleton, Dict.get?_set]
      split
      · rename_i heq
        subst heq
        rw [hnone]
        constructor
        · intro hex
          rcases hex with ⟨t, ht, _⟩ | heq
          · cases ht
          · cases heq
            exact ⟨_, rfl, hop⟩
        · intro hex
          rcases hex with ⟨t, ht, hop'⟩
          cases ht
          rw [hop] at hop'
          cases hop'
          exact Or.inr rfl
      · rename_i hne
        constructor
        · intro hex
          rcases hex with hold | heq
          · exact hold
          · cases heq
            exact absurd rfl hne
        · exact Or.inl

theorem Explains.keep (h : Explains cfg jwt serviceName s order) {app : App}
    (hcontent : app.store.serviceContent serviceName =
      s.app.store.serviceContent serviceName)
    (htasks : forall task input,
      (exists t, app.tasks.get? task = some t ∧
        operationOn cfg jwt serviceName task t.request = some input) <->
      exists t, s.app.tasks.get? task = some t ∧
        operationOn cfg jwt serviceName task t.request = some input)
    (hrecords : forall task t input, app.tasks.get? task = some t ->
      operationOn cfg jwt serviceName task t.request = some input ->
        (app.store.recordsOf task ≠ [] -> s.app.store.recordsOf task ≠ []) ∧
        (s.app.store.recordsOf task ≠ [] ->
          settlement (app.store.recordsOf task) =
            settlement (s.app.store.recordsOf task))) :
    Explains cfg jwt serviceName ⟨app, s.history⟩ order where
  linearizes := by
    show Linearizes _ _ _ (app.store.serviceContent serviceName)
    rw [hcontent]
    exact h.linearizes
  invoked := by
    intro task input
    rw [h.invoked]
    exact (htasks task input).symm
  settled := by
    intro op hop
    have hold := h.settled op hop
    have hinvoked := (h.invoked _ _).mp (h.linearizes.invoked op hop)
    rcases (htasks _ _).mpr hinvoked with ⟨t, ht, htop⟩
    rw [← hold]
    apply (hrecords op.ident t op.input ht htop).right
    intro hnil
    rw [hnil] at hold
    cases hold
  complete := by
    intro task t input ht hop hne
    rcases (htasks task input).mp ⟨t, ht, hop⟩ with ⟨t', ht', hop'⟩
    exact h.complete task t' input ht' hop' ((hrecords task t input ht hop).left hne)

theorem Explains.answer {app app' : App}
    {history : List (Observation TaskId QueueInput HttpReply)}
    (h : Explains cfg jwt serviceName ⟨app', history⟩ order)
    (hinv : app'.Invariant cfg jwt) {task : TaskId} {t : Task} {phase : Phase}
    {action : Action} {clock : Clock} (ht : app.tasks.get? task = some t)
    (ht' : app'.tasks.get? task = some { t with phase := phase }) :
    Explains cfg jwt serviceName
      ⟨app', history ++ observe cfg jwt serviceName app app' (.run task action clock)⟩
      order := by
  generalize hobs : observe cfg jwt serviceName app app' (.run task action clock) = obs
  simp only [observe, ht] at hobs
  split at hobs
  · rename_i t₀ reply heq _ hanswer
    cases heq
    cases hop : operationOn cfg jwt serviceName task t.request with
    | none =>
        rw [hop] at hobs
        subst hobs
        rw [List.append_nil]
        exact h
    | some input =>
        rw [hop] at hobs
        subst hobs
        have hfinished : Finished cfg jwt task t.request (app'.store.recordsOf task)
            reply := by
          rcases App.answerOf_eq_some hanswer with ⟨t', ht'', hphase⟩
          have hconduct := hinv.conduct task t' ht''
          rw [hphase] at hconduct
          rw [ht'] at ht''
          cases ht''
          exact hconduct
        have hne : app'.store.recordsOf task ≠ [] := by
          intro hnil
          rw [hnil] at hfinished
          cases hfinished
        rcases List.mem_map.mp (h.complete task _ input ht' hop hne) with
          ⟨op, hmem, rfl⟩
        have hshows := hfinished.shows hop (h.settled op hmem)
        refine ⟨h.linearizes.answer hmem hshows, ?_, h.settled, h.complete⟩
        intro other input'
        dsimp only
        rw [List.mem_append, List.mem_singleton]
        constructor
        · intro hex
          rcases hex with hold | heq
          · exact (h.invoked other input').mp hold
          · cases heq
        · exact fun hold => Or.inl ((h.invoked other input').mpr hold)
  · subst hobs
    rw [List.append_nil]
    exact h

theorem effects_history {task : TaskId} {request : HttpRequest} {s s' : Store}
    (h : Effects cfg jwt task request s s') :
    exists added, s'.history = s.history ++ added ∧
      forall r, r ∈ added -> r.task? = none ∨ r.task? = some task := by
  induction h with
  | refl => exact ⟨[], (List.append_nil _).symm, by simp⟩
  | tail _ heffect ih =>
      rcases ih with ⟨added, hhist, hadded⟩
      rcases heffect.history with ⟨added', hhist', hadded'⟩
      refine ⟨added ++ added', ?_, ?_⟩
      · rw [hhist', hhist, List.append_assoc]
      · intro r hr
        rcases List.mem_append.mp hr with hr | hr
        · exact hadded r hr
        · exact hadded' r hr

theorem filterMap_moved?_filter (serviceName : String) {task : TaskId}
    {added : List Record}
    (hadded : forall r, r ∈ added -> r.task? = none ∨ r.task? = some task) :
    (added.filter fun r => decide (r.task? = some task)).filterMap
        (Record.moved? serviceName) =
      added.filterMap (Record.moved? serviceName) := by
  rw [List.filterMap_filter]
  apply List.filterMap_congr
  intro r hr
  rcases hadded r hr with hnone | hsome
  · cases r <;> simp [Record.task?] at hnone <;> rfl
  · rw [if_pos (decide_eq_true hsome)]

theorem operationOn_of_moved {app : App} (hinv : app.Invariant cfg jwt) {task : TaskId}
    {t : Task} (ht : app.tasks.get? task = some t) {r : Record}
    (hr : r ∈ app.store.history) (htask : r.task? = some task) {moved : Moved}
    (hmoved : r.moved? serviceName = some moved) :
    exists input, operationOn cfg jwt serviceName task t.request = some input := by
  cases r <;> simp only [Record.moved?, reduceCtorEq] at hmoved
  · split at hmoved
    · rename_i hname
      subst hname
      cases htask
      rcases hinv.of_requestEnqueued hr with ⟨t', params, claims, ht', hwho, rfl, _⟩
      rw [ht] at ht'
      cases ht'
      exact ⟨_, operationOn_of_posts hwho⟩
    · cases hmoved
  · split at hmoved
    · rename_i hname
      subst hname
      cases htask
      rcases hinv.of_requestDequeued hr with ⟨t', ht', hwho⟩
      rw [ht] at ht'
      cases ht'
      exact operationOn_of_pulls hwho
    · cases hmoved

theorem may_of_settles {app : App} (hinv : app.Invariant cfg jwt)
    (haccount : ServiceAccount app.store) (hprompt : app.AllPrompt) {task : TaskId}
    {t : Task} {action : Action} {clock : Clock} {store : Store} {phase : Phase}
    (ht : app.tasks.get? task = some t)
    (hadvance : advance cfg jwt task t.request t.phase action clock app.store =
      some (store, phase))
    (hwell' : store.WellFormed cfg) (haccount' : ServiceAccount store)
    {added : List Record} (hhist : store.history = app.store.history ++ added)
    (hsilent : app.store.recordsOf task = []) {input : QueueInput}
    (hop : operationOn cfg jwt serviceName task t.request = some input)
    {output : QueueOutput} {moved : List Moved}
    (hmoved : added.filterMap (Record.moved? serviceName) = moved)
    (h : Settles serviceName task input (store.recordsOf task) output moved) :
    QueueMay cfg.serviceQueueMaxSize (app.store.serviceContent serviceName) input output
      (store.serviceContent serviceName) := by
  have hphase := (hinv.good ht hadvance).right
  generalize hrecords : store.recordsOf task = records at h
  cases h with
  | put =>
      have hcontent := content_of_put haccount haccount' hhist hmoved
      have hbound := length_serviceContent_le hwell' serviceName
      rw [hcontent, List.length_append] at hbound
      rw [hcontent]
      exact QueueMay.put hbound
  | take =>
      rw [content_of_take haccount haccount' hhist hmoved]
      exact QueueMay.take
  | refused =>
      rw [content_of_nothing haccount haccount' hhist hmoved]
      exact QueueMay.refuse
  | @unavailable _ reply hstatus =>
      rw [content_of_nothing haccount haccount' hhist hmoved]
      have hmem : .answered task reply ∈ store.recordsOf task := by
        rw [hrecords]
        exact List.mem_singleton_self _
      rcases (hphase.of_answered hmem).right with hdone | hclosed
      · exact unavailable_of_prompt hinv.wellFormed (hinv.conduct task t ht)
          (hprompt task t ht) hadvance hdone hstatus hop
      · -- closing an exchange records nothing
        have hsame : store = app.store := store_of_closed hadvance hclosed
        rw [hsame, hsilent] at hmem
        cases hmem

theorem operations_set {app app' : App} {task : TaskId} {t : Task} {phase : Phase}
    (ht : app.tasks.get? task = some t)
    (htasks : app'.tasks = app.tasks.set task { t with phase := phase }) (other : TaskId)
    (input : QueueInput) :
    (exists u, app'.tasks.get? other = some u ∧
        operationOn cfg jwt serviceName other u.request = some input) <->
      exists u, app.tasks.get? other = some u ∧
        operationOn cfg jwt serviceName other u.request = some input := by
  rw [htasks, Dict.get?_set]
  split
  · rename_i heq
    subst heq
    rw [ht]
    constructor
    · intro hex
      rcases hex with ⟨u, hu, hop⟩
      cases hu
      exact ⟨t, rfl, hop⟩
    · intro hex
      rcases hex with ⟨u, hu, hop⟩
      cases hu
      exact ⟨_, rfl, hop⟩
  · exact Iff.rfl

theorem moved_of_no_operation {app : App} (hinv : app.Invariant cfg jwt) {task : TaskId}
    {t : Task} (ht : app.tasks.get? task = some t)
    (hop : operationOn cfg jwt serviceName task t.request = none) {added : List Record}
    (hadded : forall r, r ∈ added -> r ∈ app.store.history ∧ r.task? = some task) :
    added.filterMap (Record.moved? serviceName) = [] := by
  rw [List.filterMap_eq_nil_iff]
  intro r hr
  rcases hadded r hr with ⟨hmem, htask⟩
  cases hr' : r.moved? serviceName with
  | none => rfl
  | some moved =>
      rcases operationOn_of_moved hinv ht hmem htask hr' with ⟨input, hsome⟩
      rw [hop] at hsome
      cases hsome

theorem Explains.settle (h : Explains cfg jwt serviceName s order) {task : TaskId}
    {t : Task} {app : App} {input : QueueInput} {output : QueueOutput}
    (ht : s.app.tasks.get? task = some t)
    (hop : operationOn cfg jwt serviceName task t.request = some input)
    (hsilent : s.app.store.recordsOf task = [])
    (htasks : forall other input',
      (exists u, app.tasks.get? other = some u ∧
        operationOn cfg jwt serviceName other u.request = some input') <->
      exists u, s.app.tasks.get? other = some u ∧
        operationOn cfg jwt serviceName other u.request = some input')
    (hframe : forall other, other ≠ task ->
      app.store.recordsOf other = s.app.store.recordsOf other)
    (hsettled : settlement (app.store.recordsOf task) = some output)
    (hmay : QueueMay cfg.serviceQueueMaxSize (s.app.store.serviceContent serviceName)
      input output (app.store.serviceContent serviceName)) :
    Explains cfg jwt serviceName ⟨app, s.history⟩ (order ++ [⟨task, input, output⟩]) where
  linearizes := by
    apply h.linearizes.effect
    · exact (h.invoked task input).mpr ⟨t, ht, hop⟩
    · exact h.not_mem hsilent
    · exact hmay
  invoked := by
    intro other input'
    rw [h.invoked]
    exact (htasks other input').symm
  settled := by
    intro op hmem
    rcases List.mem_append.mp hmem with hmem | hmem
    · have hold := h.settled op hmem
      have hne : op.ident ≠ task := by
        intro heq
        rw [heq, hsilent] at hold
        cases hold
      show settlement (app.store.recordsOf op.ident) = some op.output
      rw [hframe op.ident hne]
      exact hold
    · rw [List.mem_singleton.mp hmem]
      exact hsettled
  complete := by
    intro other u input' hu huop hne
    rw [List.map_append, List.mem_append]
    by_cases heq : other = task
    · subst heq
      exact Or.inr (List.mem_singleton_self _)
    · left
      rcases (htasks other input').mp ⟨u, hu, huop⟩ with ⟨u', hu', huop'⟩
      apply h.complete other u' input' hu' huop'
      rw [← hframe other heq]
      exact hne

theorem Explains.effect (h : Explains cfg jwt serviceName s order)
    (hinv : s.app.Invariant cfg jwt) (haccount : ServiceAccount s.app.store)
    (hprompt : s.app.AllPrompt) {task : TaskId} {t : Task} {action : Action}
    {clock : Clock} {store : Store} {phase : Phase} {app : App}
    (ht : s.app.tasks.get? task = some t)
    (hadvance : advance cfg jwt task t.request t.phase action clock s.app.store =
      some (store, phase))
    (hinv' : app.Invariant cfg jwt) (haccount' : ServiceAccount app.store)
    (hstore : app.store = store)
    (htasks : app.tasks = s.app.tasks.set task { t with phase := phase }) :
    exists order', Explains cfg jwt serviceName ⟨app, s.history⟩ order' := by
  subst hstore
  have heffects := (hinv.good ht hadvance).left
  rcases effects_history heffects with ⟨added, hhist, hadded⟩
  have hframe := (App.effects_frame hinv.wellFormed heffects).right.right
  have hrecords := Store.recordsOf_of_history hhist task
  have hmoved := filterMap_moved?_filter serviceName hadded
  have hmine : forall r, r ∈ (added.filter fun r => decide (r.task? = some task)) ->
      r ∈ app.store.history ∧ r.task? = some task := by
    intro r hr
    rcases List.mem_filter.mp hr with ⟨hr, htask⟩
    rw [hhist]
    exact ⟨List.mem_append_right _ hr, of_decide_eq_true htask⟩
  generalize (added.filter fun r => decide (r.task? = some task)) = mine
    at hrecords hmoved hmine
  have ht' : app.tasks.get? task = some { t with phase := phase } := by
    rw [htasks, Dict.get?_set_self]
  have htasks' := @operations_set cfg jwt serviceName _ _ _ _ _ ht htasks
  -- what a stretch of another handler leaves as it was
  have hothers : forall other, other ≠ task ->
      (app.store.recordsOf other ≠ [] -> s.app.store.recordsOf other ≠ []) ∧
        (s.app.store.recordsOf other ≠ [] ->
          settlement (app.store.recordsOf other) =
            settlement (s.app.store.recordsOf other)) := by
    intro other hne
    rw [hframe other hne]
    exact ⟨id, fun _ => rfl⟩
  cases hop : operationOn cfg jwt serviceName task t.request with
  | none =>
      have hnothing := moved_of_no_operation hinv' ht' hop hmine
      rw [hmoved] at hnothing
      refine ⟨order, h.keep (content_of_nothing haccount haccount' hhist hnothing)
        htasks' ?_⟩
      intro other u input hu huop
      apply hothers
      intro heq
      subst heq
      rw [ht'] at hu
      cases hu
      rw [hop] at huop
      cases huop
  | some input =>
      have htranscript := (hinv'.conduct task _ ht').transcript
      dsimp only at htranscript
      rw [hrecords] at htranscript
      by_cases hsilent : s.app.store.recordsOf task = []
      · rw [hsilent, List.nil_append] at hrecords htranscript
        by_cases hstill : mine = []
        · -- nothing is recorded of the handler
          rw [hstill] at hmoved hrecords
          refine ⟨order, h.keep (content_of_nothing haccount haccount' hhist hmoved.symm)
            htasks' ?_⟩
          intro other u input' hu huop
          by_cases heq : other = task
          · subst heq
            rw [hrecords, hsilent]
            exact ⟨id, fun _ => rfl⟩
          · exact hothers other heq
        · -- the call takes effect
          rcases htranscript.settles hop hstill with ⟨output, hsettled, hsettles⟩
          rw [hmoved] at hsettles
          rw [← hrecords] at hsettled hsettles
          exact ⟨_, h.settle ht hop hsilent htasks' hframe hsettled
            (may_of_settles hinv haccount hprompt ht hadvance hinv'.wellFormed haccount'
              hhist hsilent hop rfl hsettles)⟩
      · -- the call has taken effect before
        rcases htranscript.settled hop hsilent with ⟨hsame, hnothing⟩
        rw [hmoved] at hnothing
        refine ⟨order, h.keep (content_of_nothing haccount haccount' hhist hnothing)
          htasks' ?_⟩
        intro other u input' hu huop
        by_cases heq : other = task
        · subst heq
          rw [hrecords]
          exact ⟨fun _ => hsilent, fun _ => hsame⟩
        · exact hothers other heq

structure Explained (cfg : Settings) (jwt : Jwt) (serviceName : String) (s : Observed) :
    Prop where
  invariant : s.app.Invariant cfg jwt
  account : ServiceAccount s.app.store
  prompt : s.app.AllPrompt
  order : exists order, Explains cfg jwt serviceName s order

/-- An event that changes nothing shows nothing of a handler. -/
theorem observe_run_same (app : App) (task : TaskId) (action : Action) (clock : Clock) :
    observe cfg jwt serviceName app app (.run task action clock) = [] := by
  unfold observe
  dsimp only
  cases app.tasks.get? task with
  | none => rfl
  | some t => cases app.answerOf task <;> rfl

theorem Explains.run (h : Explains cfg jwt serviceName s order)
    (hs : Explained cfg jwt serviceName s) (task : TaskId) (action : Action)
    (clock : Clock) :
    exists order', Explains cfg jwt serviceName
      (step cfg jwt serviceName s (.run task action clock)) order' := by
  have hinv' := hs.invariant.step (.run task action clock)
  have haccount' := (serviceAccount_storeInvariant cfg jwt).step hs.invariant hs.account
    (.run task action clock)
  unfold step
  rcases App.step_cases cfg jwt s.app (.run task action clock) with
    hsame | ⟨_, _, he, _⟩ |
    ⟨_, t, _, _, store, phase, he, ht, _, hadvance, hstep⟩ | ⟨_, he, _⟩
  · rw [hsame, observe_run_same, List.append_nil]
    exact ⟨order, h⟩
  · cases he
  · cases he
    rw [hstep] at hinv' haccount' ⊢
    rcases h.effect hs.invariant hs.account hs.prompt ht hadvance hinv' haccount' rfl rfl
      with ⟨order', heffect⟩
    exact ⟨order', heffect.answer hinv' ht (Dict.get?_set_self _ _ _)⟩
  · cases he

theorem Explains.tick (h : Explains cfg jwt serviceName s order)
    (hinv : s.app.Invariant cfg jwt) (now : Time) :
    Explains cfg jwt serviceName (step cfg jwt serviceName s (.tick now)) order := by
  unfold step
  show Explains cfg jwt serviceName ⟨_, s.history ++ []⟩ order
  rw [List.append_nil]
  rcases App.step_cases cfg jwt s.app (.tick now) with
    hsame | ⟨_, _, he, _⟩ | ⟨_, _, _, _, _, _, he, _⟩ | ⟨_, he, _, hstep⟩
  · rw [hsame]
    exact h
  · cases he
  · cases he
  · cases he
    rw [hstep]
    apply h.keep
    · exact ClientQueueReaper.serviceContent_tick cfg now _ _ serviceName
    · exact fun _ _ => Iff.rfl
    · intro task t input _ _
      dsimp only
      rw [(App.tick_frame hinv.wellFormed s.app.reaper now).right.right task]
      exact ⟨id, fun _ => rfl⟩

theorem Explained.step (h : Explained cfg jwt serviceName s) (e : Event) :
    Explained cfg jwt serviceName (step cfg jwt serviceName s e) where
  invariant := h.invariant.step e
  account := (serviceAccount_storeInvariant cfg jwt).step h.invariant h.account e
  prompt := h.prompt.step e
  order := by
    rcases h.order with ⟨order, hexplains⟩
    cases e with
    | connect task request =>
        cases hnone : s.app.tasks.get? task with
        | none => exact ⟨order, hexplains.connect h.invariant hnone⟩
        | some t =>
            -- the exchange is there already
            have happ : App.step cfg jwt s.app (.connect task request) = s.app := by
              simp only [App.step, App.connect, hnone]
            refine ⟨order, ?_⟩
            unfold Observed.step
            rw [happ]
            simp only [observe, hnone, List.append_nil]
            exact hexplains
    | run task action clock => exact hexplains.run h task action clock
    | tick now => exact ⟨order, hexplains.tick h.invariant now⟩

theorem explained_reached (cfg : Settings) (jwt : Jwt) (serviceName : String)
    (es : List Event) :
    Explained cfg jwt serviceName (reached cfg jwt serviceName es) := by
  apply run_invariant (Explained cfg jwt serviceName) (fun _ e h => h.step e)
  constructor
  · exact App.invariant_initial cfg jwt
  · exact serviceAccount_initial
  · exact App.allTasks_initial _
  · exact ⟨[], explains_initial cfg jwt serviceName⟩

theorem app_reached (cfg : Settings) (jwt : Jwt) (serviceName : String)
    (es : List Event) :
    (reached cfg jwt serviceName es).app = App.reached cfg jwt es := by
  have happ : forall s : Observed, (run (Observed.step cfg jwt serviceName) s es).app =
      App.runFrom cfg jwt s.app es := by
    induction es with
    | nil => exact fun _ => rfl
    | cons e rest ih => exact fun s => ih (Observed.step cfg jwt serviceName s e)
  exact happ initial

/-- Whatever the order in which requests come, handlers run and the reaper ticks, what
is seen of the calls on a service is a linearizable history of a bounded queue, which
ends with what is on the queue of the server. -/
theorem service_linearizable (cfg : Settings) (jwt : Jwt) (serviceName : String)
    (es : List Event) :
    (reached cfg jwt serviceName es).app = App.reached cfg jwt es ∧
    exists order, Linearizes (serviceObject cfg) (reached cfg jwt serviceName es).history
      order ((App.reached cfg jwt es).store.serviceContent serviceName) := by
  constructor
  · exact app_reached cfg jwt serviceName es
  · rcases (explained_reached cfg jwt serviceName es).order with ⟨order, h⟩
    have hlinearizes := h.linearizes
    rw [app_reached] at hlinearizes
    exact ⟨order, hlinearizes⟩

end Observed

end Server
end Pype
