import Mathlib.Data.List.Dedup
import Pype.Client.Http

/-!
# `ClientConnection`

An operation of the caller's connection runs until it returns, raises, or makes
an HTTP call; when the call is over it resumes with the outcome.  Between the two
it keeps its locals in a frame.  The connection also keeps a journal of the
responses it received, replaced and returned; no operation reads it.
-/

namespace Pype
namespace Client

open Foundation Server

/-- One thing that happened to a received response. -/
inductive Journal where
  | received (response : ServiceResponse)
  | replaced (old new : ServiceResponse)
  | returned (key : String) (response : ServiceResponse)
deriving DecidableEq

structure ClientConnection where
  clientId : String
  accessToken : String
  closed : Bool
  nextRequestId : Nat
  cache : Dict String ServiceResponse
  journal : List Journal

def ClientConnection.open (clientId accessToken : String) : ClientConnection where
  clientId := clientId
  accessToken := accessToken
  closed := false
  nextRequestId := 0
  cache := Dict.empty
  journal := []

/-- `set(request_ids)`: the ids asked for, each once. -/
structure Wanted where
  ids : List String
  nodup : ids.Nodup

def Wanted.ofList (requestIds : List String) : Wanted where
  ids := requestIds.dedup
  nodup := List.nodup_dedup requestIds

/-- The three collectors of responses. -/
inductive Collector where
  | any
  | all
  | quorum (quorum : Int)

inductive Operation where
  | sendRequest (serviceName : String) (request : Payload) (contentType : String)
      (timeout : Option Int)
  | call (serviceName : String) (request : Payload) (contentType : String)
      (timeout : Option Int)
  | getResponse (requestId : String) (timeout : Option Int)
  | collect (collector : Collector) (requestIds : List String) (timeout : Option Int)
  | close

inductive Returned where
  | requestId (requestId : String)
  | response (asked : String) (response : ServiceResponse)
  | responses (responses : Dict String ServiceResponse)
  | nothing

/-- The locals of an operation that waits for its HTTP call. -/
inductive Frame where
  | sendRequest (requestId : String)
  | call (requestId : String) (deadline : Option Time)
  | getResponse (requestId : String) (infinite : Bool) (deadline : Option Time)
  | collect (collector : Collector) (wanted : Wanted) (infinite : Bool)
      (deadline : Option Time)
  | close

abbrev Progress := Turn Frame Returned

namespace ClientConnection

def note (entry : Journal) (conn : ClientConnection) : ClientConnection :=
  { conn with journal := conn.journal ++ [entry] }

/-- `_ensure_open`. -/
def ensureOpen (conn : ClientConnection) : Except PypeError Unit :=
  if conn.closed then .error (.runtimeError "ClientConnection is closed") else .ok ()

/-- `_mint_request_id`. -/
def mintRequestId (conn : ClientConnection) : String × ClientConnection :=
  (toString (conn.nextRequestId + 1),
    { conn with nextRequestId := conn.nextRequestId + 1 })

/-- `self._cache[response.request_id] = response`. -/
def cacheResponse (response : ServiceResponse) (conn : ClientConnection) :
    ClientConnection :=
  { conn with
    cache := conn.cache.set response.requestId response
    journal := conn.journal ++
      (match conn.cache.get? response.requestId with
        | some old => [.replaced old response]
        | none => []) }

def popResponse (requestId : String) (conn : ClientConnection) : ClientConnection :=
  { conn with cache := conn.cache.erase requestId }

/-!
## `_poll_one`
-/

/-- The call of `_poll_one`, or its refusal of a budget that has gone negative. -/
def pollOne (settings : Settings) (remaining : Option Int) (frame : Frame)
    (conn : ClientConnection) : Progress :=
  let call : HttpCall :=
    { method := .get
      path := ["clients", conn.clientId]
      requestId := none
      timeout := remaining
      block := false
      contentType := none
      body := []
      timeoutSeconds := httpTimeoutSeconds remaining settings.networkBufferMs }
  match remaining with
  | some ms =>
      if ms < 0 then .raised (.timeoutError "local deadline elapsed")
      else .blocked call frame
  | none => .blocked call frame

/-- The response in a 200 reply to a poll or to a `block=1` POST. -/
def readResponse (reply : HttpReply) (defaultContentType : String) (source : TaskId) :
    Option ServiceResponse :=
  reply.xPypeRequestId.map fun requestId =>
    { requestId := HeaderText.decode requestId
      contentType := replyContentType reply defaultContentType
      payload := replyPayload reply
      source := source }

/-- What `_poll_one` returns after its call: a response, or none on a 204. -/
def polled (outcome : Outcome) (source : TaskId) :
    Except PypeError (Option ServiceResponse) :=
  match expectReply outcome [200, 204] with
  | .error e => .error e
  | .ok reply =>
      if reply.status = 204 then .ok none
      else
        match readResponse reply "application/json" source with
        | none => .error
            (.protocolError "missing X-Pype-Request-Id header on 200 response")
        | some response => .ok (some response)

/-!
## Sending
-/

/-- The POST of `send_request` and of `call`. -/
def postCall (settings : Settings) (serviceName requestId : String)
    (request : Payload) (contentType : String) (timeout socketTimeout : Option Int)
    (block : Bool) : HttpCall where
  method := .post
  path := ["services", serviceName]
  requestId := some requestId
  timeout := timeout
  block := block
  contentType := some contentType
  body := request.body
  timeoutSeconds := httpTimeoutSeconds socketTimeout settings.networkBufferMs

def sendRequest (settings : Settings) (serviceName : String) (request : Payload)
    (contentType : String) (timeout : Option Int) (conn : ClientConnection) :
    ClientConnection × Progress :=
  match conn.ensureOpen with
  | .error e => (conn, .raised e)
  | .ok _ =>
      let (requestId, conn) := conn.mintRequestId
      (conn, .blocked
        (postCall settings serviceName requestId request contentType timeout
          timeout false)
        (.sendRequest requestId))

def sendRequestSent (requestId : String) (outcome : Outcome)
    (conn : ClientConnection) : ClientConnection × Progress :=
  match expectReply outcome [202] with
  | .error e => (conn, .raised e)
  | .ok _ => (conn, .returned (.requestId requestId))

/-!
## `get_response`
-/

def getResponseLoop (settings : Settings) (requestId : String) (infinite : Bool)
    (deadline : Option Time) (now : Time) (conn : ClientConnection) :
    ClientConnection × Progress :=
  (conn, conn.pollOne settings (remainingMs deadline now)
    (.getResponse requestId infinite deadline))

def getResponse (settings : Settings) (requestId : String) (timeout : Option Int)
    (deadlineAt remainingAt : Time) (conn : ClientConnection) :
    ClientConnection × Progress :=
  match conn.ensureOpen with
  | .error e => (conn, .raised e)
  | .ok _ =>
      match conn.cache.get? requestId with
      | some cached =>
          (conn.popResponse requestId, .returned (.response requestId cached))
      | none =>
          getResponseLoop settings requestId timeout.isNone
            (deadline timeout deadlineAt) remainingAt conn

def getResponsePolled (settings : Settings) (requestId : String) (infinite : Bool)
    (deadline : Option Time) (outcome : Outcome) (source : TaskId) (now : Time)
    (conn : ClientConnection) : ClientConnection × Progress :=
  match polled outcome source with
  | .error e => (conn, .raised e)
  | .ok none =>
      if !infinite then
        (conn, .raised (.timeoutError "server queue empty within timeout"))
      else getResponseLoop settings requestId infinite deadline now conn
  | .ok (some response) =>
      let conn := conn.note (.received response)
      if response.requestId = requestId then
        (conn, .returned (.response requestId response))
      else
        getResponseLoop settings requestId infinite deadline now
          (conn.cacheResponse response)

/-!
## `call`
-/

def call (settings : Settings) (serviceName : String) (request : Payload)
    (contentType : String) (timeout : Option Int) (deadlineAt remainingAt : Time)
    (conn : ClientConnection) : ClientConnection × Progress :=
  match conn.ensureOpen with
  | .error e => (conn, .raised e)
  | .ok _ =>
      let (requestId, conn) := conn.mintRequestId
      let deadline := deadline timeout deadlineAt
      let remaining := remainingMs deadline remainingAt
      (conn, .blocked
        (postCall settings serviceName requestId request contentType
          (remaining.map fun ms => max 0 ms) remaining true)
        (.call requestId deadline))

def callFallback (settings : Settings) (requestId : String) (deadline : Option Time)
    (remainingAt deadlineAt pollAt : Time) (conn : ClientConnection) :
    ClientConnection × Progress :=
  match remainingMs deadline remainingAt with
  | none => getResponse settings requestId none deadlineAt pollAt conn
  | some remaining =>
      if remaining < 0 then
        (conn, .raised
          (.timeoutError "local deadline elapsed before response arrived"))
      else getResponse settings requestId (some remaining) deadlineAt pollAt conn

def callPosted (settings : Settings) (requestId : String) (deadline : Option Time)
    (outcome : Outcome) (source : TaskId) (clock : Clock) (conn : ClientConnection) :
    ClientConnection × Progress :=
  match expectReply outcome [200, 202] with
  | .error e => (conn, .raised e)
  | .ok reply =>
      if reply.status = 200 then
        match readResponse reply "application/octet-stream" source with
        | none => (conn, .raised
            (.protocolError "missing X-Pype-Request-Id header on 200 response"))
        | some response =>
            let conn := conn.note (.received response)
            if response.requestId = requestId then
              (conn, .returned (.response requestId response))
            else
              callFallback settings requestId deadline (clock.reading 0)
                (clock.reading 1) (clock.reading 2) (conn.cacheResponse response)
      else
        callFallback settings requestId deadline (clock.reading 0)
          (clock.reading 1) (clock.reading 2) conn

/-!
## The collectors
-/

end ClientConnection

def Collector.isDone (collector : Collector) (wanted : Wanted)
    (cache : Dict String ServiceResponse) : Bool :=
  match collector with
  | .any => wanted.ids.any fun requestId => (cache.get? requestId).isSome
  | .all => wanted.ids.all fun requestId => (cache.get? requestId).isSome
  | .quorum needed =>
      decide (needed ≤
        (wanted.ids.countP fun requestId => (cache.get? requestId).isSome : Nat))

def Collector.check (collector : Collector) (requestIds : List String) :
    Except PypeError Unit :=
  if requestIds = [] then .error (.valueError "at least one request_id is required")
  else
    match collector with
    | .any => .ok ()
    | .all => .ok ()
    | .quorum needed =>
        if needed < 1 ∨ (requestIds.length : Int) < needed then
          .error (.valueError
            s!"quorum must be in [1, {requestIds.length}]; got {needed}")
        else .ok ()

namespace ClientConnection

/-- `_pop_matching`: the wanted responses that are cached, taken out of the
cache. -/
def popMatching (conn : ClientConnection) :
    List String -> Dict String ServiceResponse ->
      ClientConnection × Dict String ServiceResponse
  | [], out => (conn, out)
  | requestId :: rest, out =>
      match conn.cache.get? requestId with
      | some response =>
          popMatching (conn.popResponse requestId) rest (out.set requestId response)
      | none => popMatching conn rest out

theorem popMatching_keeps {value : Type} (see : ClientConnection -> value)
    (hpop : forall requestId conn, see (popResponse requestId conn) = see conn)
    (wanted : List String) (conn : ClientConnection)
    (out : Dict String ServiceResponse) :
    see (conn.popMatching wanted out).1 = see conn := by
  induction wanted generalizing conn out with
  | nil => rfl
  | cons requestId rest ih =>
      unfold popMatching
      split
      · exact (ih _ _).trans (hpop requestId conn)
      · exact ih _ _

/-- The end of a collector: pop what is wanted and return it. -/
def collected (wanted : Wanted) (conn : ClientConnection) :
    ClientConnection × Progress :=
  let popped := conn.popMatching wanted.ids Dict.empty
  (popped.1, .returned (.responses popped.2))

/-- The loop of `_loop_until`, at its next poll. -/
def collectLoop (settings : Settings) (collector : Collector) (wanted : Wanted)
    (infinite : Bool) (deadline : Option Time) (now : Time)
    (conn : ClientConnection) : ClientConnection × Progress :=
  (conn, conn.pollOne settings (remainingMs deadline now)
    (.collect collector wanted infinite deadline))

/-- `get_any_responses`, `get_all_responses` and `get_response_quorum`. -/
def collect (settings : Settings) (collector : Collector) (requestIds : List String)
    (timeout : Option Int) (deadlineAt remainingAt : Time) (conn : ClientConnection) :
    ClientConnection × Progress :=
  match conn.ensureOpen with
  | .error e => (conn, .raised e)
  | .ok _ =>
      match collector.check requestIds with
      | .error e => (conn, .raised e)
      | .ok _ =>
          let wanted := Wanted.ofList requestIds
          if collector.isDone wanted conn.cache then collected wanted conn
          else
            collectLoop settings collector wanted timeout.isNone
              (deadline timeout deadlineAt) remainingAt conn

def collectPolled (settings : Settings) (collector : Collector)
    (wanted : Wanted) (infinite : Bool) (deadline : Option Time)
    (outcome : Outcome) (source : TaskId) (now : Time) (conn : ClientConnection) :
    ClientConnection × Progress :=
  match polled outcome source with
  | .error e => (conn, .raised e)
  | .ok none =>
      if !infinite then
        (conn, .raised (.timeoutError "server queue empty within timeout"))
      else collectLoop settings collector wanted infinite deadline now conn
  | .ok (some response) =>
      let conn := (conn.note (.received response)).cacheResponse response
      if collector.isDone wanted conn.cache then collected wanted conn
      else collectLoop settings collector wanted infinite deadline now conn

/-!
## `close`
-/

def close (settings : Settings) (conn : ClientConnection) :
    ClientConnection × Progress :=
  if conn.closed then (conn, .returned .nothing)
  else
    ({ conn with closed := true }, .blocked
      { method := .delete
        path := ["auth", "client"]
        requestId := none
        timeout := none
        block := false
        contentType := none
        body := []
        timeoutSeconds := some (seconds settings.authTimeoutMs) }
      .close)

/-!
## Running operations
-/

def start (settings : Settings) (operation : Operation) (clock : Clock)
    (conn : ClientConnection) : ClientConnection × Progress :=
  match operation with
  | .sendRequest serviceName request contentType timeout =>
      conn.sendRequest settings serviceName request contentType timeout
  | .call serviceName request contentType timeout =>
      conn.call settings serviceName request contentType timeout
        (clock.reading 0) (clock.reading 1)
  | .getResponse requestId timeout =>
      conn.getResponse settings requestId timeout
        (clock.reading 0) (clock.reading 1)
  | .collect collector requestIds timeout =>
      conn.collect settings collector requestIds timeout
        (clock.reading 0) (clock.reading 1)
  | .close => conn.close settings

/-- Resume an operation with the outcome of its call; `source` names the
exchange. -/
def resume (settings : Settings) (frame : Frame) (outcome : Outcome)
    (source : TaskId) (clock : Clock) (conn : ClientConnection) :
    ClientConnection × Progress :=
  match frame with
  | .sendRequest requestId => conn.sendRequestSent requestId outcome
  | .call requestId deadline =>
      conn.callPosted settings requestId deadline outcome source clock
  | .getResponse requestId infinite deadline =>
      conn.getResponsePolled settings requestId infinite deadline outcome source
        (clock.reading 0)
  | .collect collector wanted infinite deadline =>
      conn.collectPolled settings collector wanted infinite deadline outcome source
        (clock.reading 0)
  -- failures of the logoff are logged and swallowed
  | .close => (conn, .returned .nothing)

end ClientConnection

end Client
end Pype
