import Pype.Server.Security
import Pype.Server.Queueing

/-!
# The request handlers

A handler is a coroutine.  It runs without interruption from one await to the
next, so it is cut into stretches: each stretch takes the store and the clock
readings of the moment and ends either in an answer or in a phase, which holds
the locals that the handler still needs.  A wait on a queue counts its budget
from the handler's latest clock reading.
-/

namespace Pype
namespace Server

open Foundation

/-- Where a handler stands between two stretches. -/
inductive Phase where
  | received
  | postRequestBody (params : PostRequest) (claims : ClientClaims) (entry : Ref)
      (totalTimeoutMs : Int)
  | postRequestPut (params : PostRequest) (claims : ClientClaims) (entry : Ref)
      (deadline : Time) (queue : Ref) (pypeReq : PypeRequest) (expires : Time)
  | postRequestPutDone (params : PostRequest) (claims : ClientClaims)
      (entry : Ref) (deadline : Time) (enqueued : Bool)
  | postRequestGet (params : PostRequest) (claims : ClientClaims) (entry : Ref)
      (expires : Time)
  | postRequestGetDone (response : Option PypeResponse)
  | getRequestGet (serviceName : String) (queue : Ref) (expires : Time)
  | getRequestGetDone (item : Option PypeRequest)
  | postResponseBody (params : PostResponse) (entry : Ref) (timeoutMs : Int)
  | postResponsePut (params : PostResponse) (entry : Ref)
      (pypeResp : PypeResponse) (expires : Time)
  | postResponsePutDone (enqueued : Bool)
  | getResponseGet (clientId : String) (entry : Ref) (expires : Time)
  | getResponseGetDone (clientId : String) (item : Option PypeResponse)
  | done (reply : HttpReply)
  | closed (reply : Option HttpReply)

def answer (task : TaskId) (reply : HttpReply) (s : Store) : Store × Phase :=
  (s.record (.answered task reply), .done reply)

/-- `content_type or settings.default_content_type`. -/
def effectiveContentType (cfg : Settings) (contentType : Option String) : String :=
  match contentType with
  | none => cfg.defaultContentType
  | some value => if value = "" then cfg.defaultContentType else value

/-!
## `POST /services/service_name`
-/

def PostRequest.pypeReq (cfg : Settings) (params : PostRequest)
    (claims : ClientClaims) : PypeRequest where
  clientId := claims.clientId
  requestId := params.requestId
  contentType := effectiveContentType cfg params.contentType
  payload := params.body

def responseReply (response : PypeResponse) : HttpReply :=
  messageReply response.payload response.contentType none response.requestId

/-- The stretch after the second phase of a `block=1` POST. -/
def postRequestResponded (task : TaskId) (response : Option PypeResponse)
    (s : Store) : Store × Phase :=
  match response with
  | none => answer task (emptyReply 202) s
  | some response => answer task (responseReply response) s

/-- The stretch after the first phase: bump, then answer or wait for a response
within what is left of the deadline. -/
def postRequestEnqueued (task : TaskId) (params : PostRequest)
    (claims : ClientClaims) (entry : Ref) (deadline : Time)
    (bumpedAt remainingAt : Time) (enqueued : Bool) (s : Store) : Store × Phase :=
  let s := ClientRegistry.bumpLastSeen claims.clientId bumpedAt s
  if !enqueued then answer task (emptyReply 503) s
  else if !params.block then answer task (emptyReply 202) s
  else
    let budget := remainingMs deadline remainingAt
    queueGet budget (Store.takeResponse task claims.clientId entry)
      (postRequestResponded task)
      (.postRequestGet params claims entry (remainingAt + seconds budget)) s

/-- The stretch after the body arrived: enqueue onto the service queue. -/
def postRequestBody (cfg : Settings) (task : TaskId) (params : PostRequest)
    (claims : ClientClaims) (entry : Ref) (totalTimeoutMs : Int) (clock : Clock)
    (s : Store) : Store × Phase :=
  let pypeReq := params.pypeReq cfg claims
  let deadline := clock.reading 0 + seconds totalTimeoutMs
  let (queue, s) := ServiceRegistry.getOrCreate cfg params.serviceName s
  let budget := remainingMs deadline (clock.reading 1)
  queuePut budget (Store.putRequest task params.serviceName queue pypeReq)
    (postRequestEnqueued task params claims entry deadline
      (clock.reading 2) (clock.reading 3))
    (.postRequestPut params claims entry deadline queue pypeReq
      (clock.reading 1 + seconds budget)) s

/-- The first stretch: look up the client's entry, bump it, check the timeout. -/
def postRequestToService (cfg : Settings) (task : TaskId) (params : PostRequest)
    (claims : ClientClaims) (clock : Clock) (s : Store) : Store × Phase :=
  let (entry, s) :=
    ClientRegistry.getOrCreate cfg claims.clientId (clock.reading 0) s
  let s := ClientRegistry.bumpLastSeen claims.clientId (clock.reading 1) s
  match normalizeTimeout params.timeout cfg.maxTimeoutMs with
  | .error e => answer task e.reply s
  | .ok totalTimeoutMs =>
      (s, .postRequestBody params claims entry totalTimeoutMs)

/-!
## `GET /services/service_name`
-/

def requestReply (item : PypeRequest) : HttpReply :=
  messageReply item.payload item.contentType (some item.clientId) item.requestId

def getRequestDequeued (task : TaskId) (item : Option PypeRequest) (s : Store) :
    Store × Phase :=
  match item with
  | none => answer task (emptyReply 204) s
  | some item => answer task (requestReply item) s

def getRequestForService (cfg : Settings) (task : TaskId) (serviceName : String)
    (timeout : Option Int) (claims : ServiceClaims) (clock : Clock) (s : Store) :
    Store × Phase :=
  if claims.name ≠ serviceName then
    answer task
      (PypeError.roleMismatchError "token's service name does not match path").reply s
  else
    match normalizeTimeout timeout cfg.maxTimeoutMs with
    | .error e => answer task e.reply s
    | .ok timeoutMs =>
        let (queue, s) := ServiceRegistry.getOrCreate cfg serviceName s
        queueGet timeoutMs (Store.takeRequest task serviceName queue)
          (getRequestDequeued task)
          (.getRequestGet serviceName queue (clock.reading 0 + seconds timeoutMs)) s

/-!
## `POST /clients/client_id`
-/

def PostResponse.pypeResp (cfg : Settings) (params : PostResponse) : PypeResponse where
  requestId := params.requestId
  contentType := effectiveContentType cfg params.contentType
  payload := params.body

def postResponseEnqueued (task : TaskId) (enqueued : Bool) (s : Store) :
    Store × Phase :=
  if !enqueued then answer task (emptyReply 503) s
  else answer task (emptyReply 202) s

def postResponseBody (cfg : Settings) (task : TaskId) (params : PostResponse)
    (entry : Ref) (timeoutMs : Int) (clock : Clock) (s : Store) : Store × Phase :=
  let pypeResp := params.pypeResp cfg
  queuePut timeoutMs (Store.putResponse task params.clientId entry pypeResp)
    (postResponseEnqueued task)
    (.postResponsePut params entry pypeResp
      (clock.reading 0 + seconds timeoutMs)) s

def postResponseToClient (cfg : Settings) (task : TaskId) (params : PostResponse)
    (clock : Clock) (s : Store) : Store × Phase :=
  let (entry, s) :=
    ClientRegistry.getOrCreate cfg params.clientId (clock.reading 0) s
  match normalizeTimeout params.timeout cfg.maxTimeoutMs with
  | .error e => answer task e.reply s
  | .ok timeoutMs => (s, .postResponseBody params entry timeoutMs)

/-!
## `GET /clients/client_id`
-/

/-- The stretch after the wait: bump again, then answer. -/
def getResponseDequeued (task : TaskId) (clientId : String) (bumpedAt : Time)
    (item : Option PypeResponse) (s : Store) : Store × Phase :=
  let s := ClientRegistry.bumpLastSeen clientId bumpedAt s
  match item with
  | none => answer task (emptyReply 204) s
  | some item => answer task (responseReply item) s

def getResponseForClient (cfg : Settings) (task : TaskId) (clientId : String)
    (timeout : Option Int) (claims : ClientClaims) (clock : Clock) (s : Store) :
    Store × Phase :=
  if claims.clientId ≠ clientId then
    answer task
      (PypeError.forbiddenError
        "path client_id does not match token's client_id").reply s
  else
    let (entry, s) := ClientRegistry.getOrCreate cfg clientId (clock.reading 0) s
    let s := ClientRegistry.bumpLastSeen clientId (clock.reading 1) s
    match normalizeTimeout timeout cfg.maxTimeoutMs with
    | .error e => answer task e.reply s
    | .ok timeoutMs =>
        queueGet timeoutMs (Store.takeResponse task clientId entry)
          (getResponseDequeued task clientId (clock.reading 2))
          (.getResponseGet clientId entry (clock.reading 1 + seconds timeoutMs)) s

/-!
## Authentication and load
-/

/-- A JSON reply that also names the server, if its address can be sent. -/
def authReply (cfg : Settings) (value : JsonValue) : HttpReply :=
  match HeaderText.encode cfg.internalIp with
  | some ip => { jsonReply 200 value with xPypeServerIp := some ip }
  | none => internalServerError

def clientLogoff (task : TaskId) (claims : ClientClaims) (s : Store) : Store × Phase :=
  answer task
    (jsonReply 200 (.object
      [("client_id", .string claims.clientId), ("status", .string "logged_off")]))
    (ClientRegistry.remove (.logoff task) claims.clientId s)

def serviceAuth (cfg : Settings) (jwt : Jwt) (task : TaskId)
    (serviceName serviceSecret : String) (s : Store) : Store × Phase :=
  let token := issueServiceJwt jwt serviceName serviceSecret
  let (_, s) := ServiceRegistry.getOrCreate cfg serviceName s
  answer task
    (authReply cfg (.object
      [("access_token", .string token), ("token_type", .string "Bearer"),
        ("role", .string "service"), ("name", .string serviceName),
        ("service_secret", .string serviceSecret)])) s

def clientAuth (cfg : Settings) (jwt : Jwt) (task : TaskId)
    (name clientId : String) (s : Store) : Store × Phase :=
  let token := issueClientJwt jwt name clientId
  answer task
    (authReply cfg (.object
      [("access_token", .string token), ("token_type", .string "Bearer"),
        ("role", .string "client"), ("name", .string name),
        ("client_id", .string clientId)])) s

def servicesLoad (task : TaskId) (s : Store) : Store × Phase :=
  answer task
    (jsonReply 200 (.array ((ServiceRegistry.snapshotLoads s).map fun item =>
      .object [("service_name", .string item.1), ("load", .number item.2)]))) s

/-!
## Dispatch
-/

def orRefuse {value : Type} (task : TaskId) (checked : Except PypeError value)
    (handler : value -> Store -> Store × Phase) (s : Store) : Store × Phase :=
  match checked with
  | .error e => answer task e.reply s
  | .ok v => handler v s

/-- `min_length=1` on a parameter: FastAPI answers an empty text with a 422. -/
def requireText (task : TaskId) (text : String)
    (handler : Store -> Store × Phase) (s : Store) : Store × Phase :=
  if text = "" then answer task (frameworkReply 422) s else handler s

/-- The first stretch of the handler of a route.  The token is checked before the
parameters are.  `secret` is what `generate_secret` returns, if it is called. -/
def dispatch (cfg : Settings) (jwt : Jwt) (task : TaskId) (request : HttpRequest)
    (secret : String) (clock : Clock) (s : Store) : Store × Phase :=
  match request.endpoint with
  | .postRequest params =>
      orRefuse task (clientClaims jwt request.authorization) (fun claims =>
        requireText task params.serviceName (requireText task params.requestId
          (postRequestToService cfg task params claims clock))) s
  | .getRequest serviceName timeout =>
      orRefuse task (serviceClaims jwt request.authorization) (fun claims =>
        requireText task serviceName
          (getRequestForService cfg task serviceName timeout claims clock)) s
  | .postResponse params =>
      orRefuse task (serviceClaims jwt request.authorization) (fun _ =>
        requireText task params.clientId (requireText task params.requestId
          (postResponseToClient cfg task params clock))) s
  | .getResponse clientId timeout =>
      orRefuse task (clientClaims jwt request.authorization) (fun claims =>
        requireText task clientId
          (getResponseForClient cfg task clientId timeout claims clock)) s
  | .clientLogoff =>
      orRefuse task (clientClaims jwt request.authorization)
        (clientLogoff task) s
  | .serviceAuth serviceName =>
      requireText task serviceName
        (serviceAuth cfg jwt task serviceName secret) s
  | .clientAuth name =>
      requireText task name (clientAuth cfg jwt task name secret) s
  | .servicesLoad => servicesLoad task s

section

variable (cfg : Settings) (jwt : Jwt) (task : TaskId) (request : HttpRequest)
  (secret : String) (clock : Clock) (s : Store)

/-- What the first stretch can be: an error reply, or the handler of the route, for
the claims of the token. -/
inductive Dispatched : Store × Phase -> Prop where
  | refused (e : PypeError) : Dispatched (answer task e.reply s)
  | unprocessable : Dispatched (answer task (frameworkReply 422) s)
  | postRequest {params : PostRequest} {claims : ClientClaims}
      (hroute : request.endpoint = .postRequest params)
      (hclaims : clientClaims jwt request.authorization = .ok claims) :
      Dispatched (postRequestToService cfg task params claims clock s)
  | getRequest {serviceName : String} {timeout : Option Int} {claims : ServiceClaims}
      (hroute : request.endpoint = .getRequest serviceName timeout)
      (hclaims : serviceClaims jwt request.authorization = .ok claims) :
      Dispatched (getRequestForService cfg task serviceName timeout claims clock s)
  | postResponse {params : PostResponse} {claims : ServiceClaims}
      (hroute : request.endpoint = .postResponse params)
      (hclaims : serviceClaims jwt request.authorization = .ok claims) :
      Dispatched (postResponseToClient cfg task params clock s)
  | getResponse {clientId : String} {timeout : Option Int} {claims : ClientClaims}
      (hroute : request.endpoint = .getResponse clientId timeout)
      (hclaims : clientClaims jwt request.authorization = .ok claims) :
      Dispatched (getResponseForClient cfg task clientId timeout claims clock s)
  | clientLogoff {claims : ClientClaims}
      (hroute : request.endpoint = .clientLogoff)
      (hclaims : clientClaims jwt request.authorization = .ok claims) :
      Dispatched (clientLogoff task claims s)
  | serviceAuth {serviceName : String}
      (hroute : request.endpoint = .serviceAuth serviceName) :
      Dispatched (serviceAuth cfg jwt task serviceName secret s)
  | clientAuth {name : String} (hroute : request.endpoint = .clientAuth name) :
      Dispatched (clientAuth cfg jwt task name secret s)
  | servicesLoad (hroute : request.endpoint = .servicesLoad) :
      Dispatched (servicesLoad task s)

variable {cfg jwt task request secret clock s}

theorem dispatched_orRefuse {value : Type} {checked : Except PypeError value}
    {handler : value -> Store -> Store × Phase}
    (hhandler : forall v, checked = .ok v ->
      Dispatched cfg jwt task request secret clock s (handler v s)) :
    Dispatched cfg jwt task request secret clock s (orRefuse task checked handler s) := by
  cases checked with
  | error e => exact Dispatched.refused e
  | ok v => exact hhandler v rfl

theorem dispatched_requireText {text : String} {handler : Store -> Store × Phase}
    (hhandler : Dispatched cfg jwt task request secret clock s (handler s)) :
    Dispatched cfg jwt task request secret clock s
      (requireText task text handler s) := by
  unfold requireText
  split
  · exact Dispatched.unprocessable
  · exact hhandler

theorem dispatched_of_dispatch {r : Store × Phase}
    (h : dispatch cfg jwt task request secret clock s = r) :
    Dispatched cfg jwt task request secret clock s r := by
  subst h
  unfold dispatch
  split
  · rename_i params hroute
    apply dispatched_orRefuse
    intro claims hclaims
    apply dispatched_requireText
    apply dispatched_requireText
    exact Dispatched.postRequest hroute hclaims
  · rename_i serviceName timeout hroute
    apply dispatched_orRefuse
    intro claims hclaims
    apply dispatched_requireText
    exact Dispatched.getRequest hroute hclaims
  · rename_i params hroute
    apply dispatched_orRefuse
    intro claims hclaims
    apply dispatched_requireText
    apply dispatched_requireText
    exact Dispatched.postResponse hroute hclaims
  · rename_i clientId timeout hroute
    apply dispatched_orRefuse
    intro claims hclaims
    apply dispatched_requireText
    exact Dispatched.getResponse hroute hclaims
  · rename_i hroute
    apply dispatched_orRefuse
    intro claims hclaims
    exact Dispatched.clientLogoff hroute hclaims
  · rename_i serviceName hroute
    apply dispatched_requireText
    exact Dispatched.serviceAuth hroute
  · rename_i name hroute
    apply dispatched_requireText
    exact Dispatched.clientAuth hroute
  · rename_i hroute
    exact Dispatched.servicesLoad hroute

end

/-!
## Stretches
-/

inductive Action where
  /-- The handler is called. -/
  | start (secret : String)
  /-- The request body is complete. -/
  | body
  /-- The queue operation that the handler waits for is done. -/
  | serve
  /-- The budget of the wait has expired. -/
  | expire
  /-- The handler resumes after the wait. -/
  | resume
  /-- The exchange is over: the reply has left, or the peer has gone. -/
  | close

/-- One stretch of the handler of a request, if the action fits its phase. -/
def advance (cfg : Settings) (jwt : Jwt) (task : TaskId) (request : HttpRequest)
    (phase : Phase) (action : Action) (clock : Clock) (s : Store) :
    Option (Store × Phase) :=
  match phase, action with
  | .received, .start secret =>
      some (dispatch cfg jwt task request secret clock s)
  | .received, .close => some (s, .closed none)
  | .postRequestBody params claims entry totalTimeoutMs, .body =>
      some (postRequestBody cfg task params claims entry totalTimeoutMs clock s)
  | .postRequestBody .., .close => some (s, .closed none)
  | .postRequestPut params claims entry deadline queue pypeReq _, .serve =>
      match s.putRequest task params.serviceName queue pypeReq with
      | some s' => some (s', .postRequestPutDone params claims entry deadline true)
      | none => none
  | .postRequestPut params claims entry deadline _ _ expires, .expire =>
      if expires ≤ clock.reading 0 then
        some (s, .postRequestPutDone params claims entry deadline false)
      else none
  | .postRequestPutDone params claims entry deadline enqueued, .resume =>
      some (postRequestEnqueued task params claims entry deadline
        (clock.reading 0) (clock.reading 1) enqueued s)
  | .postRequestGet _ claims entry _, .serve =>
      match s.takeResponse task claims.clientId entry with
      | some (response, s') => some (s', .postRequestGetDone (some response))
      | none => none
  | .postRequestGet _ _ _ expires, .expire =>
      if expires ≤ clock.reading 0 then some (s, .postRequestGetDone none)
      else none
  | .postRequestGetDone response, .resume =>
      some (postRequestResponded task response s)
  | .getRequestGet serviceName queue _, .serve =>
      match s.takeRequest task serviceName queue with
      | some (item, s') => some (s', .getRequestGetDone (some item))
      | none => none
  | .getRequestGet _ _ expires, .expire =>
      if expires ≤ clock.reading 0 then some (s, .getRequestGetDone none)
      else none
  | .getRequestGetDone item, .resume => some (getRequestDequeued task item s)
  | .postResponseBody params entry timeoutMs, .body =>
      some (postResponseBody cfg task params entry timeoutMs clock s)
  | .postResponseBody .., .close => some (s, .closed none)
  | .postResponsePut params entry pypeResp _, .serve =>
      match s.putResponse task params.clientId entry pypeResp with
      | some s' => some (s', .postResponsePutDone true)
      | none => none
  | .postResponsePut _ _ _ expires, .expire =>
      if expires ≤ clock.reading 0 then some (s, .postResponsePutDone false)
      else none
  | .postResponsePutDone enqueued, .resume =>
      some (postResponseEnqueued task enqueued s)
  | .getResponseGet clientId entry _, .serve =>
      match s.takeResponse task clientId entry with
      | some (item, s') => some (s', .getResponseGetDone clientId (some item))
      | none => none
  | .getResponseGet clientId _ expires, .expire =>
      if expires ≤ clock.reading 0 then some (s, .getResponseGetDone clientId none)
      else none
  | .getResponseGetDone clientId item, .resume =>
      some (getResponseDequeued task clientId (clock.reading 0) item s)
  | .done reply, .close => some (s, .closed (some reply))
  | _, _ => none

section

variable (cfg : Settings) (jwt : Jwt) (task : TaskId) (request : HttpRequest)
  (clock : Clock) (s : Store)

/-- What one stretch can do: a case for every phase and every action that fits it. -/
inductive Stretch : Phase -> Action -> Store × Phase -> Prop where
  | start {secret : String} :
      Stretch .received (.start secret) (dispatch cfg jwt task request secret clock s)
  | startClosed :
      Stretch .received .close (s, .closed none)
  | postRequestBody {params : PostRequest} {claims : ClientClaims} {entry : Ref}
      {totalTimeoutMs : Int} :
      Stretch (.postRequestBody params claims entry totalTimeoutMs) .body
        (postRequestBody cfg task params claims entry totalTimeoutMs clock s)
  | postRequestBodyClosed {params : PostRequest} {claims : ClientClaims} {entry : Ref}
      {totalTimeoutMs : Int} :
      Stretch (.postRequestBody params claims entry totalTimeoutMs) .close
        (s, .closed none)
  | postRequestPutServed {params : PostRequest} {claims : ClientClaims} {entry : Ref}
      {deadline : Time} {queue : Ref} {pypeReq : PypeRequest} {expires : Time}
      {s' : Store}
      (hput : s.putRequest task params.serviceName queue pypeReq = some s') :
      Stretch
        (.postRequestPut params claims entry deadline queue pypeReq expires) .serve
        (s', .postRequestPutDone params claims entry deadline true)
  | postRequestPutExpired {params : PostRequest} {claims : ClientClaims} {entry : Ref}
      {deadline : Time} {queue : Ref} {pypeReq : PypeRequest} {expires : Time}
      (hexpired : expires ≤ clock.reading 0) :
      Stretch
        (.postRequestPut params claims entry deadline queue pypeReq expires) .expire
        (s, .postRequestPutDone params claims entry deadline false)
  | postRequestPutDone {params : PostRequest} {claims : ClientClaims} {entry : Ref}
      {deadline : Time} {enqueued : Bool} :
      Stretch (.postRequestPutDone params claims entry deadline enqueued) .resume
        (postRequestEnqueued task params claims entry deadline (clock.reading 0)
          (clock.reading 1) enqueued s)
  | postRequestGetServed {params : PostRequest} {claims : ClientClaims} {entry : Ref}
      {expires : Time} {response : PypeResponse} {s' : Store}
      (htake : s.takeResponse task claims.clientId entry = some (response, s')) :
      Stretch (.postRequestGet params claims entry expires) .serve
        (s', .postRequestGetDone (some response))
  | postRequestGetExpired {params : PostRequest} {claims : ClientClaims} {entry : Ref}
      {expires : Time} (hexpired : expires ≤ clock.reading 0) :
      Stretch (.postRequestGet params claims entry expires) .expire
        (s, .postRequestGetDone none)
  | postRequestGetDone {response : Option PypeResponse} :
      Stretch (.postRequestGetDone response) .resume
        (postRequestResponded task response s)
  | getRequestGetServed {serviceName : String} {queue : Ref} {expires : Time}
      {item : PypeRequest} {s' : Store}
      (htake : s.takeRequest task serviceName queue = some (item, s')) :
      Stretch (.getRequestGet serviceName queue expires) .serve
        (s', .getRequestGetDone (some item))
  | getRequestGetExpired {serviceName : String} {queue : Ref} {expires : Time}
      (hexpired : expires ≤ clock.reading 0) :
      Stretch (.getRequestGet serviceName queue expires) .expire
        (s, .getRequestGetDone none)
  | getRequestGetDone {item : Option PypeRequest} :
      Stretch (.getRequestGetDone item) .resume (getRequestDequeued task item s)
  | postResponseBody {params : PostResponse} {entry : Ref} {timeoutMs : Int} :
      Stretch (.postResponseBody params entry timeoutMs) .body
        (postResponseBody cfg task params entry timeoutMs clock s)
  | postResponseBodyClosed {params : PostResponse} {entry : Ref} {timeoutMs : Int} :
      Stretch (.postResponseBody params entry timeoutMs) .close (s, .closed none)
  | postResponsePutServed {params : PostResponse} {entry : Ref}
      {pypeResp : PypeResponse} {expires : Time} {s' : Store}
      (hput : s.putResponse task params.clientId entry pypeResp = some s') :
      Stretch (.postResponsePut params entry pypeResp expires) .serve
        (s', .postResponsePutDone true)
  | postResponsePutExpired {params : PostResponse} {entry : Ref}
      {pypeResp : PypeResponse} {expires : Time}
      (hexpired : expires ≤ clock.reading 0) :
      Stretch (.postResponsePut params entry pypeResp expires) .expire
        (s, .postResponsePutDone false)
  | postResponsePutDone {enqueued : Bool} :
      Stretch (.postResponsePutDone enqueued) .resume
        (postResponseEnqueued task enqueued s)
  | getResponseGetServed {clientId : String} {entry : Ref} {expires : Time}
      {item : PypeResponse} {s' : Store}
      (htake : s.takeResponse task clientId entry = some (item, s')) :
      Stretch (.getResponseGet clientId entry expires) .serve
        (s', .getResponseGetDone clientId (some item))
  | getResponseGetExpired {clientId : String} {entry : Ref} {expires : Time}
      (hexpired : expires ≤ clock.reading 0) :
      Stretch (.getResponseGet clientId entry expires) .expire
        (s, .getResponseGetDone clientId none)
  | getResponseGetDone {clientId : String} {item : Option PypeResponse} :
      Stretch (.getResponseGetDone clientId item) .resume
        (getResponseDequeued task clientId (clock.reading 0) item s)
  | doneClosed {reply : HttpReply} :
      Stretch (.done reply) .close (s, .closed (some reply))

end

theorem stretch_of_advance {cfg : Settings} {jwt : Jwt} {task : TaskId}
    {request : HttpRequest} {phase : Phase} {action : Action} {clock : Clock}
    {s : Store} {r : Store × Phase}
    (h : advance cfg jwt task request phase action clock s = some r) :
    Stretch cfg jwt task request clock s phase action r := by
  unfold advance at h
  split at h
  all_goals try split at h
  all_goals cases h
  all_goals constructor
  all_goals assumption

end Server
end Pype
