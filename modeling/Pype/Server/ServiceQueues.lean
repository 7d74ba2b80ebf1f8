import Pype.Server.Transcripts

/-!
# Conservation on service queues

What was put on a service's queue is what was taken from it, in the same order,
followed by what is still on it.
-/

namespace Pype
namespace Server

open Foundation Store

/-!
## The account of a service queue
-/

def Record.serviceCreated? : Record -> Option String
  | .serviceQueueCreated serviceName _ => some serviceName
  | _ => none

/-- The records about service queues. -/
def Record.onService : Record -> Bool
  | .serviceQueueCreated .. => true
  | .requestEnqueued .. => true
  | .requestDequeued .. => true
  | _ => false

namespace Store

def enqueuedRequests (serviceName : String) (s : Store) :
    List (Posted PypeRequest) :=
  s.history.filterMap (Record.requestEnqueued? serviceName)

/-- The requests that were taken from the queue of a service, in order, each with
the handler that took it. -/
def dequeuedRequests (serviceName : String) (s : Store) :
    List (TaskId × Posted PypeRequest) :=
  s.history.filterMap (Record.requestDequeued? serviceName)

def createdServices (s : Store) : List String :=
  s.history.filterMap Record.serviceCreated?

def serviceContent (serviceName : String) (s : Store) : List (Posted PypeRequest) :=
  match s.serviceRegistry.get? serviceName with
  | some queue => (s.serviceQueues[queue]?.map BoundedQueue.items).getD []
  | none => []

structure SameService (s s' : Store) : Prop where
  queues : s'.serviceQueues = s.serviceQueues
  registry : s'.serviceRegistry = s.serviceRegistry
  history : s'.history.filter Record.onService = s.history.filter Record.onService

theorem sameService_of_added {s s' : Store} {added : List Record}
    (hqueues : s'.serviceQueues = s.serviceQueues)
    (hregistry : s'.serviceRegistry = s.serviceRegistry)
    (hhist : s'.history = s.history ++ added)
    (hnone : forall r, r ∈ added -> r.onService = false) : SameService s s' where
  queues := hqueues
  registry := hregistry
  history := filter_eq_of_added hhist hnone

theorem SameService.refl (s : Store) : SameService s s := ⟨rfl, rfl, rfl⟩

theorem SameService.enqueued {s s' : Store} (h : SameService s s')
    (serviceName : String) :
    s'.enqueuedRequests serviceName = s.enqueuedRequests serviceName :=
  filterMap_eq_of_filter h.history
    (by intro r hr; cases r <;> first | rfl | cases hr)

theorem SameService.dequeued {s s' : Store} (h : SameService s s')
    (serviceName : String) :
    s'.dequeuedRequests serviceName = s.dequeuedRequests serviceName :=
  filterMap_eq_of_filter h.history
    (by intro r hr; cases r <;> first | rfl | cases hr)

theorem SameService.created {s s' : Store} (h : SameService s s') :
    s'.createdServices = s.createdServices :=
  filterMap_eq_of_filter h.history
    (by intro r hr; cases r <;> first | rfl | cases hr)

theorem SameService.content {s s' : Store} (h : SameService s s')
    (serviceName : String) :
    s'.serviceContent serviceName = s.serviceContent serviceName := by
  unfold serviceContent
  rw [h.registry, h.queues]

end Store

theorem ClientRegistry.sameService_getOrCreate (cfg : Settings) (clientId : String)
    (createdAt : Time) (s : Store) :
    SameService s (getOrCreate cfg clientId createdAt s).2 := by
  rcases getOrCreate_cases cfg clientId createdAt s with
    ⟨entry, _, heq⟩ | ⟨_, heq⟩
  · rw [heq]
    exact SameService.refl s
  · rw [heq]
    exact sameService_of_added rfl rfl rfl (by simp [Record.onService])

theorem ClientRegistry.sameService_bumpLastSeen (clientId : String) (now : Time)
    (s : Store) : SameService s (bumpLastSeen clientId now s) := by
  unfold bumpLastSeen
  split <;> exact ⟨rfl, rfl, rfl⟩

theorem ClientRegistry.sameService_remove (remover : Remover) (clientId : String)
    (s : Store) : SameService s (remove remover clientId s) := by
  unfold remove
  split
  · exact sameService_of_added rfl rfl rfl (by simp [Record.onService])
  · exact SameService.refl s

theorem Effect.onService {cfg : Settings} {jwt : Jwt} {task : TaskId}
    {request : HttpRequest} {s s' : Store}
    (h : Effect cfg jwt task request s s') :
    SameService s s' ∨
      (exists serviceName, s' = (ServiceRegistry.getOrCreate cfg serviceName s).2) ∨
      (exists serviceName queue item,
        s.serviceRegistry.get? serviceName = some queue ∧
          s.putRequest task serviceName queue item = some s') ∨
      (exists serviceName queue item,
        s.serviceRegistry.get? serviceName = some queue ∧
          s.takeRequest task serviceName queue = some (item, s')) := by
  cases h with
  | openService serviceName => exact Or.inr (Or.inl ⟨serviceName, rfl⟩)
  | openClient createdAt =>
      exact Or.inl (ClientRegistry.sameService_getOrCreate cfg _ createdAt s)
  | bump now => exact Or.inl (ClientRegistry.sameService_bumpLastSeen _ now s)
  | logoff => exact Or.inl (ClientRegistry.sameService_remove _ _ s)
  | putRequest _ hqueue hput =>
      exact Or.inr (Or.inr (Or.inl ⟨_, _, _, hqueue, hput⟩))
  | takeRequest _ hqueue htake =>
      exact Or.inr (Or.inr (Or.inr ⟨_, _, _, hqueue, htake⟩))
  | putResponse _ _ hput =>
      rcases putResponse_eq_some hput with ⟨e, q', _, _, rfl⟩
      exact Or.inl (sameService_of_added rfl rfl rfl (by simp [Record.onService]))
  | takeResponse _ _ htake =>
      rcases takeResponse_eq_some htake with ⟨e, posted, q', _, _, _, rfl⟩
      exact Or.inl (sameService_of_added rfl rfl rfl (by simp [Record.onService]))
  | answer reply =>
      exact Or.inl (sameService_of_added rfl rfl rfl (by simp [Record.onService]))

/-!
## The balance
-/

/-- The books of the service side. -/
structure ServiceAccount (s : Store) : Prop where
  balance : forall serviceName,
    s.enqueuedRequests serviceName =
      (s.dequeuedRequests serviceName).map Prod.snd ++ s.serviceContent serviceName
  created : s.createdServices = s.serviceRegistry.keys

theorem serviceAccount_initial : ServiceAccount Store.initial where
  balance := fun _ => rfl
  created := rfl

theorem ServiceAccount.of_same {s s' : Store} (h : ServiceAccount s)
    (hsame : SameService s s') : ServiceAccount s' where
  balance := by
    intro n
    rw [hsame.enqueued, hsame.dequeued, hsame.content]
    exact h.balance n
  created := by
    rw [hsame.created, hsame.registry]
    exact h.created

theorem serviceContent_set {cfg : Settings} {s : Store} (hwell : s.WellFormed cfg)
    {serviceName : String} {queue : Ref}
    (hqueue : s.serviceRegistry.get? serviceName = some queue)
    (q : BoundedQueue (Posted PypeRequest)) (history : List Record)
    (other : String) :
    serviceContent other
        { s with serviceQueues := s.serviceQueues.set queue q, history := history } =
      if serviceName = other then q.items else s.serviceContent other := by
  unfold serviceContent
  dsimp only
  by_cases heq : serviceName = other
  · subst heq
    rw [if_pos rfl, hqueue]
    dsimp only
    rw [List.getElem?_set_self (hwell.service_lt hqueue)]
    rfl
  · rw [if_neg heq]
    split
    · rename_i queue' hqueue'
      have hne' : queue ≠ queue' := by
        rintro rfl
        exact heq (hwell.distinct _ _ _ hqueue hqueue')
      rw [List.getElem?_set_ne hne']
    · rfl

theorem serviceContent_of_get? {s : Store} {serviceName : String} {queue : Ref}
    {q : BoundedQueue (Posted PypeRequest)}
    (hqueue : s.serviceRegistry.get? serviceName = some queue)
    (hq : s.serviceQueues[queue]? = some q) :
    s.serviceContent serviceName = q.items := by
  unfold serviceContent
  rw [hqueue]
  dsimp only
  rw [hq]
  rfl

theorem serviceContent_openService {cfg : Settings} {s : Store}
    (hwell : s.WellFormed cfg) (serviceName other : String) :
    serviceContent other (ServiceRegistry.getOrCreate cfg serviceName s).2 =
      s.serviceContent other := by
  rcases ServiceRegistry.getOrCreate_cases cfg serviceName s with
    ⟨queue, _, heq⟩ | ⟨hnone, heq⟩
  · rw [heq]
  · rw [heq]
    unfold serviceContent
    dsimp only [ServiceRegistry.create]
    by_cases hn : serviceName = other
    · subst hn
      rw [Dict.get?_set_self, hnone]
      simp [BoundedQueue.empty]
    · rw [Dict.get?_set_of_ne _ _ hn]
      split
      · rename_i queue hqueue
        rw [List.getElem?_append_left (hwell.service_lt hqueue)]
      · rfl

theorem ServiceAccount.openService {cfg : Settings} {s : Store}
    (h : ServiceAccount s) (hwell : s.WellFormed cfg) (serviceName : String) :
    ServiceAccount (ServiceRegistry.getOrCreate cfg serviceName s).2 := by
  rcases ServiceRegistry.getOrCreate_cases cfg serviceName s with
    ⟨queue, _, heq⟩ | ⟨hnone, heq⟩
  · rw [heq]
    exact h
  · rw [heq]
    have henq : forall n,
        (ServiceRegistry.create cfg serviceName s).enqueuedRequests n =
          s.enqueuedRequests n := by
      intro n
      simp [enqueuedRequests, ServiceRegistry.create, Record.requestEnqueued?]
    have hdeq : forall n,
        (ServiceRegistry.create cfg serviceName s).dequeuedRequests n =
          s.dequeuedRequests n := by
      intro n
      simp [dequeuedRequests, ServiceRegistry.create, Record.requestDequeued?]
    have hcontent : forall n,
        (ServiceRegistry.create cfg serviceName s).serviceContent n =
          s.serviceContent n := by
      intro n
      have hsame := serviceContent_openService hwell serviceName n
      rw [heq] at hsame
      exact hsame
    constructor
    · intro n
      rw [henq, hdeq, hcontent]
      exact h.balance n
    · dsimp only [ServiceRegistry.create, createdServices]
      rw [List.filterMap_append, Dict.keys_set_of_get?_eq_none _ hnone]
      congr 1
      exact h.created

theorem ServiceAccount.putRequest {cfg : Settings} {task : TaskId} {s s' : Store}
    {serviceName : String} {queue : Ref} {item : PypeRequest}
    (h : ServiceAccount s) (hwell : s.WellFormed cfg)
    (hqueue : s.serviceRegistry.get? serviceName = some queue)
    (hput : s.putRequest task serviceName queue item = some s') :
    ServiceAccount s' := by
  rcases putRequest_eq_some hput with ⟨q, q', hq, hq', rfl⟩
  constructor
  · intro n
    have hbalance := h.balance n
    rw [serviceContent_set hwell hqueue]
    dsimp only [enqueuedRequests, dequeuedRequests] at hbalance ⊢
    rw [filterMap_snoc, filterMap_snoc, hbalance]
    by_cases heq : serviceName = n
    · subst heq
      rw [serviceContent_of_get? hqueue hq, if_pos rfl,
        BoundedQueue.items_putNowait hq']
      simp [Record.requestEnqueued?, Record.requestDequeued?]
    · simp [Record.requestEnqueued?, Record.requestDequeued?, heq]
  · dsimp only [createdServices]
    rw [filterMap_snoc]
    exact (List.append_nil _).trans h.created

theorem ServiceAccount.takeRequest {cfg : Settings} {task : TaskId} {s s' : Store}
    {serviceName : String} {queue : Ref} {item : PypeRequest}
    (h : ServiceAccount s) (hwell : s.WellFormed cfg)
    (hqueue : s.serviceRegistry.get? serviceName = some queue)
    (htake : s.takeRequest task serviceName queue = some (item, s')) :
    ServiceAccount s' := by
  rcases takeRequest_eq_some htake with ⟨q, posted, q', hq, hq', _, rfl⟩
  constructor
  · intro n
    have hbalance := h.balance n
    rw [serviceContent_set hwell hqueue]
    dsimp only [enqueuedRequests, dequeuedRequests] at hbalance ⊢
    rw [filterMap_snoc, filterMap_snoc, hbalance]
    by_cases heq : serviceName = n
    · subst heq
      rw [serviceContent_of_get? hqueue hq, if_pos rfl,
        BoundedQueue.items_getNowait hq']
      simp [Record.requestEnqueued?, Record.requestDequeued?]
    · simp [Record.requestEnqueued?, Record.requestDequeued?, heq]
  · dsimp only [createdServices]
    rw [filterMap_snoc]
    exact (List.append_nil _).trans h.created

theorem serviceAccount_storeInvariant (cfg : Settings) (jwt : Jwt) :
    App.StoreInvariant cfg jwt ServiceAccount where
  effect := by
    intro task request s s' hwell heffect h
    rcases heffect.onService with
      hsame | ⟨serviceName, rfl⟩ | ⟨serviceName, queue, item, hqueue, hput⟩ |
      ⟨serviceName, queue, item, hqueue, htake⟩
    · exact h.of_same hsame
    · exact h.openService hwell serviceName
    · exact h.putRequest hwell hqueue hput
    · exact h.takeRequest hwell hqueue htake
  evict := by
    intro now clientId s entry _ _ _ h
    exact h.of_same (ClientRegistry.sameService_remove _ _ s)

/-!
## The queue of a service
-/

/-- The service and the queue of a record that moves a request. -/
def Record.movedOn? : Record -> Option (String × Ref)
  | .requestEnqueued _ serviceName queue _ => some (serviceName, queue)
  | .requestDequeued _ serviceName queue _ => some (serviceName, queue)
  | _ => none

def KeyedByService (s : Store) : Prop :=
  forall r serviceName queue, r ∈ s.history ->
    r.movedOn? = some (serviceName, queue) ->
      s.serviceRegistry.get? serviceName = some queue

theorem keyedByService_initial : KeyedByService Store.initial := by
  intro r serviceName queue hr
  cases hr

theorem KeyedByService.of_added {s s' : Store} (h : KeyedByService s)
    (hext : Extends s s') {added : List Record}
    (hhist : s'.history = s.history ++ added)
    (hadded : forall r serviceName queue, r ∈ added ->
      r.movedOn? = some (serviceName, queue) ->
        s.serviceRegistry.get? serviceName = some queue) : KeyedByService s' := by
  intro r serviceName queue hr hmoved
  apply hext.service
  rw [hhist] at hr
  rcases List.mem_append.mp hr with hr | hr
  · exact h r serviceName queue hr hmoved
  · exact hadded r serviceName queue hr hmoved

theorem KeyedByService.of_same {s s' : Store} (h : KeyedByService s)
    (hsame : SameService s s') : KeyedByService s' := by
  intro r serviceName queue hr hmoved
  have hkind : r.onService = true := by
    cases r <;> first | rfl | cases hmoved
  have hfilter : r ∈ s'.history.filter Record.onService :=
    List.mem_filter.mpr ⟨hr, hkind⟩
  rw [hsame.history] at hfilter
  rw [hsame.registry]
  exact h r serviceName queue (List.mem_of_mem_filter hfilter) hmoved

theorem keyedByService_storeInvariant (cfg : Settings) (jwt : Jwt) :
    App.StoreInvariant cfg jwt KeyedByService where
  effect := by
    intro task request s s' _ heffect h
    have hext := heffect.extends
    rcases heffect.onService with
      hsame | ⟨serviceName, rfl⟩ | ⟨serviceName, queue, item, hqueue, hput⟩ |
      ⟨serviceName, queue, item, hqueue, htake⟩
    · exact h.of_same hsame
    · rcases ServiceRegistry.history_getOrCreate cfg serviceName s with
        ⟨added, hhist, hnone⟩
      apply h.of_added hext hhist
      intro r other queue hr hmoved
      have hr' := hnone r hr
      cases r <;> simp only [Record.movedOn?, Record.task?, reduceCtorEq] at hmoved hr'
    · rcases putRequest_eq_some hput with ⟨q, q', _, _, rfl⟩
      apply h.of_added hext rfl
      intro r other queue' hr hmoved
      rw [List.mem_singleton] at hr
      subst hr
      cases hmoved
      exact hqueue
    · rcases takeRequest_eq_some htake with ⟨q, posted, q', _, _, _, rfl⟩
      apply h.of_added hext rfl
      intro r other queue' hr hmoved
      rw [List.mem_singleton] at hr
      subst hr
      cases hmoved
      exact hqueue
  evict := by
    intro now clientId s entry _ _ _ h
    exact h.of_same (ClientRegistry.sameService_remove _ _ s)

/-!
## The load report
-/

theorem length_serviceContent_le {cfg : Settings} {s : Store}
    (hwell : s.WellFormed cfg) (serviceName : String) :
    (s.serviceContent serviceName).length ≤ cfg.serviceQueueMaxSize := by
  unfold serviceContent
  split
  · rename_i queue hqueue
    rcases hwell.service _ _ hqueue with ⟨q, hq, hmax⟩
    rw [hq, ← hmax]
    exact q.qsize_le_maxsize (by rw [hmax]; exact cfg.serviceQueueMaxSize_pos)
  · exact Nat.zero_le _

theorem ServiceRegistry.map_fst_snapshotLoads (s : Store) :
    (snapshotLoads s).map Prod.fst = s.serviceRegistry.keys := by
  unfold snapshotLoads Dict.keys
  rw [List.map_map]
  rfl

theorem ServiceRegistry.load_eq {s : Store} {serviceName : String} {load : Nat}
    (h : (serviceName, load) ∈ snapshotLoads s) :
    load = (s.serviceContent serviceName).length := by
  unfold snapshotLoads at h
  rcases List.mem_map.mp h with ⟨⟨name, queue⟩, hmem, heq⟩
  cases heq
  have hget := Dict.mem_entries_iff.mp hmem
  unfold serviceContent
  rw [hget]
  dsimp only
  cases s.serviceQueues[queue]? <;> rfl

/-!
## Which POSTs contribute
-/

def HttpReply.accepts (reply : HttpReply) : Bool :=
  !decide (reply.status ∈ [400, 401, 403, 422, 503])

/-- The handler of a POST to a service got past the enqueue. -/
def Phase.pastEnqueue : Phase -> Bool
  | .postRequestPutDone _ _ _ _ enqueued => enqueued
  | .postRequestGet .. => true
  | .postRequestGetDone _ => true
  | .done reply => reply.accepts
  | .closed (some reply) => reply.accepts
  | _ => false

theorem responseReply_accepts (response : PypeResponse) :
    (responseReply response).accepts = true := by
  unfold HttpReply.accepts
  rcases messageReply_status response.payload response.contentType none
    response.requestId with h | h
  · simp [responseReply, h]
  · simp [responseReply, h]

section

variable {cfg : Settings} {jwt : Jwt} {task : TaskId} {request : HttpRequest}

def contribution (cfg : Settings) (task : TaskId) (params : PostRequest)
    (claims : ClientClaims) (past : Bool) (serviceName : String) :
    List (Posted PypeRequest) :=
  if past = true ∧ params.serviceName = serviceName then
    [⟨task, params.pypeReq cfg claims⟩] else []

theorem filterMap_requestEnqueued (params : PostRequest) (claims : ClientClaims)
    (queue : Ref) (serviceName : String) :
    [Record.requestEnqueued task params.serviceName queue
        (params.pypeReq cfg claims)].filterMap (Record.requestEnqueued? serviceName) =
      contribution cfg task params claims true serviceName := by
  unfold contribution
  by_cases h : params.serviceName = serviceName <;>
    simp [Record.requestEnqueued?, h]

theorem Finished.contribution {params : PostRequest} {claims : ClientClaims}
    {records : List Record} {reply : HttpReply}
    (hwho : Posts jwt request params claims)
    (h : Finished cfg jwt task request records reply) (serviceName : String) :
    records.filterMap (Record.requestEnqueued? serviceName) =
      contribution cfg task params claims reply.accepts serviceName := by
  cases h with
  | refused hstatus =>
      have hrefuses : reply.accepts = false := by
        rcases hstatus with h | h | h | h <;> simp [HttpReply.accepts, h]
      rw [hrefuses]
      rfl
  | requestNotTaken _ => rfl
  | requestAccepted hwho' =>
      rcases hwho.unique hwho' with ⟨rfl, rfl⟩
      exact filterMap_requestEnqueued params claims _ serviceName
  | requestResponded hwho' _ =>
      rcases hwho.unique hwho' with ⟨rfl, rfl⟩
      rw [responseReply_accepts]
      exact filterMap_requestEnqueued params claims _ serviceName
  | noRequest hwho' | requestDelivered hwho' => exact absurd hwho' hwho.not_pulls
  | responseNotTaken hwho' | responseAccepted hwho' =>
      exact absurd hwho hwho'.not_posts
  | noResponse hwho' | responseDelivered hwho' =>
      exact absurd hwho' hwho.not_polls
  | administered hroute =>
      rw [hwho.left] at hroute
      simp at hroute

/-- A POST contributes its request once it is past the enqueue, and nothing
before. -/
theorem PhaseOk.contribution {params : PostRequest} {claims : ClientClaims}
    {s : Store} {phase : Phase} (hwho : Posts jwt request params claims)
    (h : PhaseOk cfg jwt task request s phase) (serviceName : String) :
    (s.recordsOf task).filterMap (Record.requestEnqueued? serviceName) =
      contribution cfg task params claims phase.pastEnqueue serviceName := by
  have silent : s.recordsOf task = [] ->
      (s.recordsOf task).filterMap (Record.requestEnqueued? serviceName) =
        Server.contribution cfg task params claims false serviceName := by
    intro hempty
    rw [hempty]
    rfl
  cases phase with
  | received => exact silent h
  | postRequestBody => exact silent h.right.right.right
  | postRequestPut => exact silent h.right.right.right.right
  | postRequestPutDone params' claims' entry deadline enqueued =>
      rcases h with ⟨hwho', _, queue, _, hrecords⟩
      rcases hwho.unique hwho' with ⟨rfl, rfl⟩
      cases enqueued with
      | false => exact silent hrecords
      | true =>
          rw [hrecords]
          exact filterMap_requestEnqueued params claims _ serviceName
  | postRequestGet params' claims' entry expires =>
      rcases h with ⟨hwho', _, _, queue, _, hrecords⟩
      rcases hwho.unique hwho' with ⟨rfl, rfl⟩
      rw [hrecords]
      exact filterMap_requestEnqueued params claims _ serviceName
  | postRequestGetDone response =>
      rcases h with ⟨params', claims', queue, hwho', hblock, hrecords⟩
      rcases hwho.unique hwho' with ⟨rfl, rfl⟩
      cases response with
      | none =>
          rw [hrecords]
          exact filterMap_requestEnqueued params claims _ serviceName
      | some response =>
          rcases hrecords with ⟨entry, poster, hrecords⟩
          rw [hrecords]
          exact filterMap_requestEnqueued params claims _ serviceName
  | getRequestGet => exact absurd h.left hwho.not_pulls
  | getRequestGetDone item => exact absurd h.choose_spec.left hwho.not_pulls
  | postResponseBody => exact absurd hwho h.left.not_posts
  | postResponsePut => exact absurd hwho h.left.not_posts
  | postResponsePutDone => exact absurd hwho h.choose_spec.left.not_posts
  | getResponseGet => exact absurd h.left hwho.not_polls
  | getResponseGetDone => exact absurd h.left hwho.not_polls
  | done reply => exact Finished.contribution hwho h serviceName
  | closed reply =>
      cases reply with
      | none => exact silent h
      | some reply => exact Finished.contribution hwho h serviceName

end

namespace App

variable {cfg : Settings} {jwt : Jwt}

theorem Invariant.mem_posters_iff {s : App} (h : Invariant cfg jwt s)
    {task : TaskId} {t : Task} {params : PostRequest} {claims : ClientClaims}
    (ht : s.tasks.get? task = some t) (hwho : Posts jwt t.request params claims)
    (serviceName : String) :
    (⟨task, params.pypeReq cfg claims⟩ : Posted PypeRequest) ∈
        s.store.enqueuedRequests serviceName <->
      params.serviceName = serviceName ∧ t.phase.pastEnqueue = true := by
  have hmine := (h.conduct task t ht).contribution hwho serviceName
  constructor
  · intro hmem
    rcases List.mem_filterMap.mp hmem with ⟨r, hr, hsome⟩
    have hrecord : r ∈ s.store.recordsOf task :=
      Store.mem_recordsOf.mpr ⟨hr, Record.task?_of_requestEnqueued? hsome⟩
    have hmem' := List.mem_filterMap.mpr ⟨r, hrecord, hsome⟩
    rw [hmine, contribution] at hmem'
    split at hmem'
    · rename_i hpast
      exact ⟨hpast.right, hpast.left⟩
    · cases hmem'
  · rintro ⟨hname, hpast⟩
    have hmem : (⟨task, params.pypeReq cfg claims⟩ : Posted PypeRequest) ∈
        (s.store.recordsOf task).filterMap (Record.requestEnqueued? serviceName) := by
      rw [hmine, contribution, if_pos ⟨hpast, hname⟩]
      exact List.mem_singleton.mpr rfl
    rcases List.mem_filterMap.mp hmem with ⟨r, hr, hsome⟩
    exact List.mem_filterMap.mpr ⟨r, (Store.mem_recordsOf.mp hr).left, hsome⟩

theorem Invariant.nodup_posters {s : App} (h : Invariant cfg jwt s)
    (serviceName : String) :
    ((s.store.enqueuedRequests serviceName).map Posted.poster).Nodup :=
  Store.nodup_movers (fun _ _ hr => Record.task?_of_requestEnqueued? hr)
    (h.length_filterMap_le_one _ (fun _ _ => rfl)
      (fun _ _ _ _ _ _ _ => Or.inr rfl))

theorem Invariant.nodup_takers {s : App} (h : Invariant cfg jwt s)
    (serviceName : String) :
    ((s.store.dequeuedRequests serviceName).map Prod.fst).Nodup :=
  Store.nodup_movers (fun _ _ hr => Record.task?_of_requestDequeued? hr)
    (h.length_filterMap_le_one _ (fun _ _ => rfl)
      (fun _ _ _ _ _ _ _ => Or.inr rfl))

structure RequestsConserved (cfg : Settings) (jwt : Jwt) (s : App)
    (serviceName : String) : Prop where
  /-- In order, what was enqueued is what was dequeued and then the content. -/
  balance : s.store.enqueuedRequests serviceName =
    (s.store.dequeuedRequests serviceName).map Prod.snd ++
      s.store.serviceContent serviceName
  /-- The contributions are the requests of the POSTs past the enqueue. -/
  contributors : forall posted,
    posted ∈ s.store.enqueuedRequests serviceName <->
      exists t params claims, s.tasks.get? posted.poster = some t ∧
        Posts jwt t.request params claims ∧ params.serviceName = serviceName ∧
        t.phase.pastEnqueue = true ∧ posted.message = params.pypeReq cfg claims
  /-- Every POST contributes once. -/
  contributedOnce : ((s.store.enqueuedRequests serviceName).map Posted.poster).Nodup
  /-- What is dequeued is dequeued by a GET of this service. -/
  consumers : forall item, item ∈ s.store.dequeuedRequests serviceName ->
    exists t, s.tasks.get? item.1 = some t ∧ Pulls jwt t.request serviceName
  /-- A GET dequeues once. -/
  consumedOnce : ((s.store.dequeuedRequests serviceName).map Prod.fst).Nodup
  /-- A request is dequeued once. -/
  deliveredOnce : ((s.store.dequeuedRequests serviceName).map Prod.snd).Nodup
  /-- A POST answered 503 or refused contributes nothing. -/
  refused : forall task reply, .answered task reply ∈ s.store.history ->
    reply.accepts = false ->
      forall posted, posted ∈ s.store.enqueuedRequests serviceName ->
        posted.poster ≠ task
  bounded : (s.store.serviceContent serviceName).length ≤ cfg.serviceQueueMaxSize

theorem Invariant.contributors {s : App} (h : Invariant cfg jwt s)
    (serviceName : String) (posted : Posted PypeRequest) :
    posted ∈ s.store.enqueuedRequests serviceName <->
      exists t params claims, s.tasks.get? posted.poster = some t ∧
        Posts jwt t.request params claims ∧ params.serviceName = serviceName ∧
        t.phase.pastEnqueue = true ∧ posted.message = params.pypeReq cfg claims := by
  constructor
  · intro hmem
    rcases List.mem_filterMap.mp hmem with ⟨r, hr, hsome⟩
    cases r <;> simp only [Record.requestEnqueued?, reduceCtorEq] at hsome
    split at hsome
    · rename_i hname
      subst hname
      cases hsome
      rcases h.of_requestEnqueued hr with ⟨t, params, claims, ht, hwho, hname, rfl⟩
      have hpast := (h.mem_posters_iff ht hwho _).mp hmem
      exact ⟨t, params, claims, ht, hwho, hname, hpast.right, rfl⟩
    · cases hsome
  · rintro ⟨t, params, claims, ht, hwho, hname, hpast, hmessage⟩
    have hmem := (h.mem_posters_iff ht hwho serviceName).mpr ⟨hname, hpast⟩
    rw [← hmessage] at hmem
    exact hmem

theorem Invariant.conserved {s : App} (h : Invariant cfg jwt s)
    (haccount : ServiceAccount s.store) (serviceName : String) :
    RequestsConserved cfg jwt s serviceName where
  balance := haccount.balance serviceName
  contributors := h.contributors serviceName
  contributedOnce := h.nodup_posters serviceName
  consumers := by
    intro item hitem
    rcases List.mem_filterMap.mp hitem with ⟨r, hr, hsome⟩
    cases r <;> simp only [Record.requestDequeued?, reduceCtorEq] at hsome
    split at hsome
    · rename_i hname
      subst hname
      cases hsome
      exact h.of_requestDequeued hr
    · cases hsome
  consumedOnce := h.nodup_takers serviceName
  deliveredOnce := by
    have hnodup := (h.nodup_posters serviceName).of_map
    rw [haccount.balance serviceName] at hnodup
    exact hnodup.of_append_left
  refused := by
    intro task reply hr hrefuses posted hposted htask
    rcases (h.contributors serviceName posted).mp hposted with
      ⟨t, params, claims, ht, _, _, hpast, _⟩
    rcases h.of_answered hr with ⟨t', ht', _, hphase⟩
    rw [htask, ht'] at ht
    cases ht
    rcases hphase with hphase | hphase
    · rw [hphase, Phase.pastEnqueue, hrefuses] at hpast
      cases hpast
    · rw [hphase, Phase.pastEnqueue, hrefuses] at hpast
      cases hpast
  bounded := length_serviceContent_le h.wellFormed serviceName

theorem Invariant.posted_of_taken {s : App} (h : Invariant cfg jwt s)
    (haccount : ServiceAccount s.store) {task : TaskId} {serviceName : String}
    {queue : Ref} {posted : Posted PypeRequest}
    (hr : .requestDequeued task serviceName queue posted ∈ s.store.history) :
    exists t params claims, s.tasks.get? posted.poster = some t ∧
      Posts jwt t.request params claims ∧ params.serviceName = serviceName ∧
        posted.message = params.pypeReq cfg claims := by
  have hdeq : (task, posted) ∈ s.store.dequeuedRequests serviceName :=
    List.mem_filterMap.mpr ⟨_, hr, by simp [Record.requestDequeued?]⟩
  have henq : posted ∈ s.store.enqueuedRequests serviceName := by
    rw [haccount.balance serviceName]
    exact List.mem_append_left _ (List.mem_map.mpr ⟨_, hdeq, rfl⟩)
  rcases (h.contributors serviceName posted).mp henq with
    ⟨t, params, claims, ht, hwho, hname, _, hmessage⟩
  exact ⟨t, params, claims, ht, hwho, hname, hmessage⟩

/-- In every reachable state every service queue conserves requests, and the load
report lists each created queue once, with what was enqueued less what was
dequeued. -/
theorem requests_conserved (cfg : Settings) (jwt : Jwt) (es : List Event) :
    (forall serviceName,
      RequestsConserved cfg jwt (reached cfg jwt es) serviceName) ∧
    (ServiceRegistry.snapshotLoads (reached cfg jwt es).store).map Prod.fst =
      (reached cfg jwt es).store.createdServices ∧
    (reached cfg jwt es).store.createdServices.Nodup ∧
    forall serviceName load,
      (serviceName, load) ∈
        ServiceRegistry.snapshotLoads (reached cfg jwt es).store ->
      load + ((reached cfg jwt es).store.dequeuedRequests serviceName).length =
        ((reached cfg jwt es).store.enqueuedRequests serviceName).length := by
  have hinv := invariant_reached cfg jwt es
  have haccount := (serviceAccount_storeInvariant cfg jwt).reached
    serviceAccount_initial es
  refine ⟨fun n => hinv.conserved haccount n, ?_, ?_, ?_⟩
  · rw [ServiceRegistry.map_fst_snapshotLoads, haccount.created]
  · rw [haccount.created]
    exact Dict.keys_nodup _
  · intro n load hload
    rw [ServiceRegistry.load_eq hload, haccount.balance n, List.length_append,
      List.length_map, Nat.add_comm]

end App

end Server
end Pype
