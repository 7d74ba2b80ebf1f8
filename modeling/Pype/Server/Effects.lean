import Mathlib.Logic.Relation
import Pype.Server.Routers

/-!
# What a request may do to the store

Whoever sends a request is known by its verified claims.  The claims and the
route decide which operations its handler may perform; everything a handler
does to the store is a sequence of the effects listed here.
-/

namespace Pype
namespace Server

open Foundation Store

/-!
## The parts a request can play
-/

/-- A client's POST to a service. -/
def Posts (jwt : Jwt) (request : HttpRequest) (params : PostRequest)
    (claims : ClientClaims) : Prop :=
  request.endpoint = .postRequest params ∧
    clientClaims jwt request.authorization = .ok claims

/-- A service's GET on its own name. -/
def Pulls (jwt : Jwt) (request : HttpRequest) (serviceName : String) : Prop :=
  (exists timeout, request.endpoint = .getRequest serviceName timeout) ∧
    Serves jwt request.authorization serviceName

/-- A service's POST to a client. -/
def Responds (jwt : Jwt) (request : HttpRequest) (params : PostResponse) : Prop :=
  request.endpoint = .postResponse params ∧ IsService jwt request.authorization

instance (jwt : Jwt) (request : HttpRequest) (params : PostResponse) :
    Decidable (Responds jwt request params) := instDecidableAnd

/-- A client's GET on its own id. -/
def Polls (jwt : Jwt) (request : HttpRequest) (clientId : String) : Prop :=
  (exists timeout, request.endpoint = .getResponse clientId timeout) ∧
    ActsFor jwt request.authorization clientId

/-- A request that takes a response from a client's queue: a GET by the client,
or the second phase of its `block=1` POST. -/
def Receives (jwt : Jwt) (request : HttpRequest) (clientId : String) : Prop :=
  Polls jwt request clientId ∨
    exists params claims, Posts jwt request params claims ∧
      params.block = true ∧ claims.clientId = clientId

theorem exists_posts {jwt : Jwt} {request : HttpRequest} {params : PostRequest}
    (hroute : request.endpoint = .postRequest params)
    (hok : (clientClaims jwt request.authorization).isOk = true) :
    exists claims, Posts jwt request params claims := by
  cases hclaims : clientClaims jwt request.authorization with
  | error e =>
      rw [hclaims] at hok
      cases hok
  | ok claims => exact ⟨claims, hroute, hclaims⟩

theorem Posts.actsFor {jwt : Jwt} {request : HttpRequest} {params : PostRequest}
    {claims : ClientClaims} (h : Posts jwt request params claims) :
    ActsFor jwt request.authorization claims.clientId :=
  actsFor_of_clientClaims h.right

theorem Receives.actsFor {jwt : Jwt} {request : HttpRequest} {clientId : String}
    (h : Receives jwt request clientId) :
    ActsFor jwt request.authorization clientId := by
  rcases h with hpolls | ⟨params, claims, hposts, _, rfl⟩
  · exact hpolls.right
  · exact hposts.actsFor

theorem Posts.unique {jwt : Jwt} {request : HttpRequest}
    {params params' : PostRequest} {claims claims' : ClientClaims}
    (h : Posts jwt request params claims) (h' : Posts jwt request params' claims') :
    params = params' ∧ claims = claims' := by
  rcases h with ⟨hroute, hclaims⟩
  rcases h' with ⟨hroute', hclaims'⟩
  rw [hroute] at hroute'
  rw [hclaims] at hclaims'
  cases hroute'
  cases hclaims'
  exact ⟨rfl, rfl⟩

theorem Posts.not_pulls {jwt : Jwt} {request : HttpRequest} {params : PostRequest}
    {claims : ClientClaims} (h : Posts jwt request params claims)
    {serviceName : String} : ¬ Pulls jwt request serviceName := by
  rintro ⟨⟨timeout, hroute⟩, _⟩
  rw [h.left] at hroute
  cases hroute

theorem Posts.not_polls {jwt : Jwt} {request : HttpRequest} {params : PostRequest}
    {claims : ClientClaims} (h : Posts jwt request params claims)
    {clientId : String} : ¬ Polls jwt request clientId := by
  rintro ⟨⟨timeout, hroute⟩, _⟩
  rw [h.left] at hroute
  cases hroute

theorem Polls.not_pulls {jwt : Jwt} {request : HttpRequest} {clientId : String}
    (h : Polls jwt request clientId) {serviceName : String} :
    ¬ Pulls jwt request serviceName := by
  rcases h with ⟨⟨timeout, hroute⟩, _⟩
  rintro ⟨⟨timeout', hroute'⟩, _⟩
  rw [hroute] at hroute'
  cases hroute'

theorem Responds.not_posts {jwt : Jwt} {request : HttpRequest}
    {params : PostResponse} (h : Responds jwt request params)
    {params' : PostRequest} {claims : ClientClaims} :
    ¬ Posts jwt request params' claims := by
  rintro ⟨hroute, _⟩
  rw [h.left] at hroute
  cases hroute

theorem Responds.not_pulls {jwt : Jwt} {request : HttpRequest}
    {params : PostResponse} (h : Responds jwt request params)
    {serviceName : String} : ¬ Pulls jwt request serviceName := by
  rintro ⟨⟨timeout, hroute⟩, _⟩
  rw [h.left] at hroute
  cases hroute

theorem Responds.not_polls {jwt : Jwt} {request : HttpRequest}
    {params : PostResponse} (h : Responds jwt request params)
    {clientId : String} : ¬ Polls jwt request clientId := by
  rintro ⟨⟨timeout, hroute⟩, _⟩
  rw [h.left] at hroute
  cases hroute

/-!
## Effects
-/

inductive Effect (cfg : Settings) (jwt : Jwt) (task : TaskId)
    (request : HttpRequest) : Store -> Store -> Prop where
  | openService (serviceName : String) (s : Store) :
      Effect cfg jwt task request s
        (ServiceRegistry.getOrCreate cfg serviceName s).2
  | openClient {clientId : String} (createdAt : Time) (s : Store)
      (hwho : ActsFor jwt request.authorization clientId ∨
        exists params, Responds jwt request params ∧ params.clientId = clientId) :
      Effect cfg jwt task request s
        (ClientRegistry.getOrCreate cfg clientId createdAt s).2
  | bump {clientId : String} (now : Time) (s : Store)
      (hwho : ActsFor jwt request.authorization clientId) :
      Effect cfg jwt task request s (ClientRegistry.bumpLastSeen clientId now s)
  | logoff {clientId : String} (s : Store)
      (hroute : request.endpoint = .clientLogoff)
      (hwho : ActsFor jwt request.authorization clientId) :
      Effect cfg jwt task request s
        (ClientRegistry.remove (.logoff task) clientId s)
  | putRequest {params : PostRequest} {claims : ClientClaims} {queue : Ref}
      {s s' : Store} (hwho : Posts jwt request params claims)
      (hqueue : s.serviceRegistry.get? params.serviceName = some queue)
      (hput : s.putRequest task params.serviceName queue
        (params.pypeReq cfg claims) = some s') :
      Effect cfg jwt task request s s'
  | takeRequest {serviceName : String} {queue : Ref} {item : PypeRequest}
      {s s' : Store} (hwho : Pulls jwt request serviceName)
      (hqueue : s.serviceRegistry.get? serviceName = some queue)
      (htake : s.takeRequest task serviceName queue = some (item, s')) :
      Effect cfg jwt task request s s'
  | putResponse {params : PostResponse} {entry : Ref} {s s' : Store}
      (hwho : Responds jwt request params)
      (hentry : s.ownerOf entry = some params.clientId)
      (hput : s.putResponse task params.clientId entry
        (params.pypeResp cfg) = some s') :
      Effect cfg jwt task request s s'
  | takeResponse {clientId : String} {entry : Ref} {item : PypeResponse}
      {s s' : Store} (hwho : Receives jwt request clientId)
      (hentry : s.ownerOf entry = some clientId)
      (htake : s.takeResponse task clientId entry = some (item, s')) :
      Effect cfg jwt task request s s'
  | answer (reply : HttpReply) (s : Store) :
      Effect cfg jwt task request s (s.record (.answered task reply))

abbrev Effects (cfg : Settings) (jwt : Jwt) (task : TaskId)
    (request : HttpRequest) : Store -> Store -> Prop :=
  Relation.ReflTransGen (Effect cfg jwt task request)

theorem Effect.extends {cfg : Settings} {jwt : Jwt} {task : TaskId}
    {request : HttpRequest} {s s' : Store}
    (h : Effect cfg jwt task request s s') : Extends s s' := by
  cases h with
  | openService serviceName => exact ServiceRegistry.extends_getOrCreate cfg _ s
  | openClient createdAt => exact ClientRegistry.extends_getOrCreate cfg _ _ s
  | bump now => exact ClientRegistry.extends_bumpLastSeen _ now s
  | logoff => exact ClientRegistry.extends_remove _ _ s
  | putRequest _ _ hput => exact extends_putRequest hput
  | takeRequest _ _ htake => exact extends_takeRequest htake
  | putResponse _ _ hput => exact extends_putResponse hput
  | takeResponse _ _ htake => exact extends_takeResponse htake
  | answer reply => exact extends_record _ s

/-!
## The records of one handler
-/

/-- The handler that a record tells about, if it tells about messages or
answers. -/
def Record.task? : Record -> Option TaskId
  | .serviceQueueCreated .. => none
  | .requestEnqueued task .. => some task
  | .requestDequeued task .. => some task
  | .clientEntryCreated .. => none
  | .clientEntryRemoved .. => none
  | .responseEnqueued task .. => some task
  | .responseDequeued task .. => some task
  | .answered task _ => some task

/-- The messages that a handler moved and the answers it gave, in order. -/
def Store.recordsOf (task : TaskId) (s : Store) : List Record :=
  s.history.filter fun r => decide (r.task? = some task)

theorem Store.recordsOf_of_history {s s' : Store} {added : List Record}
    (h : s'.history = s.history ++ added) (task : TaskId) :
    s'.recordsOf task =
      s.recordsOf task ++ added.filter fun r => decide (r.task? = some task) := by
  unfold Store.recordsOf
  rw [h, List.filter_append]

theorem Store.recordsOf_of_snoc {s s' : Store} {r : Record} {task : TaskId}
    (h : s'.history = s.history ++ [r]) (htask : r.task? = some task) :
    s'.recordsOf task = s.recordsOf task ++ [r] := by
  rw [Store.recordsOf_of_history h]
  simp [htask]

theorem ServiceRegistry.history_getOrCreate (cfg : Settings)
    (serviceName : String) (s : Store) :
    exists added, (getOrCreate cfg serviceName s).2.history = s.history ++ added ∧
      forall r, r ∈ added -> r.task? = none := by
  rcases getOrCreate_cases cfg serviceName s with
    ⟨queue, _, heq⟩ | ⟨_, heq⟩
  · exact ⟨[], by rw [heq]; exact (List.append_nil _).symm, by simp⟩
  · exact ⟨_, by rw [heq]; rfl, by simp [Record.task?]⟩

theorem ClientRegistry.history_getOrCreate (cfg : Settings) (clientId : String)
    (createdAt : Time) (s : Store) :
    exists added, (getOrCreate cfg clientId createdAt s).2.history = s.history ++ added ∧
      forall r, r ∈ added -> r.task? = none := by
  rcases getOrCreate_cases cfg clientId createdAt s with
    ⟨entry, _, heq⟩ | ⟨_, heq⟩
  · exact ⟨[], by rw [heq]; exact (List.append_nil _).symm, by simp⟩
  · exact ⟨_, by rw [heq]; rfl, by simp [Record.task?]⟩

theorem ClientRegistry.history_remove (remover : Remover) (clientId : String)
    (s : Store) :
    exists added, (remove remover clientId s).history = s.history ++ added ∧
      forall r, r ∈ added -> r.task? = none := by
  unfold remove
  split
  · exact ⟨_, rfl, by simp [Record.task?]⟩
  · exact ⟨[], (List.append_nil _).symm, by simp⟩

theorem ClientRegistry.history_bumpLastSeen (clientId : String) (now : Time)
    (s : Store) : (bumpLastSeen clientId now s).history = s.history := by
  unfold bumpLastSeen
  split <;> rfl

theorem Effect.history {cfg : Settings} {jwt : Jwt} {task : TaskId}
    {request : HttpRequest} {s s' : Store}
    (h : Effect cfg jwt task request s s') :
    exists added, s'.history = s.history ++ added ∧
      forall r, r ∈ added -> r.task? = none ∨ r.task? = some task := by
  have weaken : forall {t : Store},
      (exists added, t.history = s.history ++ added ∧ forall r, r ∈ added -> r.task? = none) ->
        exists added, t.history = s.history ++ added ∧
          forall r, r ∈ added -> r.task? = none ∨ r.task? = some task := by
    rintro t ⟨added, hhist, hnone⟩
    exact ⟨added, hhist, fun r hr => Or.inl (hnone r hr)⟩
  cases h with
  | openService serviceName =>
      exact weaken (ServiceRegistry.history_getOrCreate cfg _ s)
  | openClient createdAt =>
      exact weaken (ClientRegistry.history_getOrCreate cfg _ _ s)
  | bump now =>
      exact ⟨[], by
        rw [ClientRegistry.history_bumpLastSeen, List.append_nil],
        by simp⟩
  | logoff => exact weaken (ClientRegistry.history_remove _ _ s)
  | putRequest _ _ hput =>
      rcases putRequest_eq_some hput with ⟨q, q', _, _, rfl⟩
      exact ⟨_, rfl, by simp [Record.task?]⟩
  | takeRequest _ _ htake =>
      rcases takeRequest_eq_some htake with ⟨q, posted, q', _, _, _, rfl⟩
      exact ⟨_, rfl, by simp [Record.task?]⟩
  | putResponse _ _ hput =>
      rcases putResponse_eq_some hput with ⟨e, q', _, _, rfl⟩
      exact ⟨_, rfl, by simp [Record.task?]⟩
  | takeResponse _ _ htake =>
      rcases takeResponse_eq_some htake with ⟨e, posted, q', _, _, _, rfl⟩
      exact ⟨_, rfl, by simp [Record.task?]⟩
  | answer reply => exact ⟨_, rfl, by simp [Record.task?]⟩

/-- Records that are not about a handler do not change what is recorded of it. -/
theorem Store.recordsOf_eq_of_history {s s' : Store} {added : List Record}
    {task : TaskId} (hhist : s'.history = s.history ++ added)
    (hnone : forall r, r ∈ added -> r.task? ≠ some task) :
    s'.recordsOf task = s.recordsOf task := by
  rw [Store.recordsOf_of_history hhist]
  have hfilter : added.filter (fun r => decide (r.task? = some task)) = [] := by
    rw [List.filter_eq_nil_iff]
    intro r hr
    simpa using hnone r hr
  rw [hfilter, List.append_nil]

theorem Effect.recordsOf_of_ne {cfg : Settings} {jwt : Jwt} {task other : TaskId}
    {request : HttpRequest} {s s' : Store}
    (h : Effect cfg jwt task request s s') (hne : other ≠ task) :
    s'.recordsOf other = s.recordsOf other := by
  rcases h.history with ⟨added, hhist, htask⟩
  apply Store.recordsOf_eq_of_history hhist
  intro r hr heq
  rcases htask r hr with hnone | hsome
  · rw [hnone] at heq
    cases heq
  · rw [hsome] at heq
    cases heq
    exact hne rfl

theorem ClientRegistry.recordsOf_remove (remover : Remover) (clientId : String)
    (s : Store) (task : TaskId) :
    (remove remover clientId s).recordsOf task = s.recordsOf task := by
  rcases history_remove remover clientId s with ⟨added, hhist, hnone⟩
  exact Store.recordsOf_eq_of_history hhist
    fun r hr heq => by rw [hnone r hr] at heq; cases heq

end Server
end Pype
