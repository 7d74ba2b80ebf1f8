import Pype.Server.Messages
import Pype.Server.Queueing

/-!
# The client library's HTTP calls

What the library sends, what can come back, and how a status becomes an
exception.  A received message remembers the exchange it came from; no operation
of the library reads that.
-/

namespace Pype
namespace Client

open Foundation Server

structure Settings where
  networkBufferMs : Int
  authTimeoutMs : Int
  networkBufferMs_nonneg : 0 ≤ networkBufferMs
  authTimeoutMs_pos : 1 ≤ authTimeoutMs

def Settings.default : Settings where
  networkBufferMs := 1000
  authTimeoutMs := 5000
  networkBufferMs_nonneg := by decide
  authTimeoutMs_pos := by decide

/-!
## Messages
-/

/-- A payload as the caller passes it: text, or bytes that are sent as they are. -/
inductive Payload where
  | text (value : String)
  | raw (bytes : Bytes)

/-- The bytes sent for a payload; text is encoded as UTF-8. -/
def Payload.body : Payload -> Bytes
  | text value => value.toUTF8.toList
  | raw bytes => bytes

/-- A response pulled by a client. -/
structure ServiceResponse where
  requestId : String
  contentType : String
  payload : Bytes
  source : TaskId
deriving DecidableEq

/-- A request pulled by a service. -/
structure ClientRequest where
  clientId : String
  requestId : String
  contentType : String
  payload : Bytes
  serviceName : String
  source : TaskId
deriving DecidableEq

/-!
## Calls
-/

inductive Method where
  | get
  | post
  | delete
deriving DecidableEq

/-- One HTTP call: the path segments after the base URL, the query parameters,
the headers, the body, and the socket timeout in seconds. -/
structure HttpCall where
  method : Method
  path : List String
  requestId : Option String
  timeout : Option Int
  block : Bool
  contentType : Option String
  body : Bytes
  timeoutSeconds : Option Rat

inductive Outcome where
  | reply (reply : HttpReply)
  | socketTimeout
  | requestException

/-- The exceptions of the library.  One that stands for a status keeps the reply
that its text describes. -/
inductive PypeError where
  | authError (reply : HttpReply)
  | badRequestError (reply : HttpReply)
  | forbiddenError (reply : HttpReply)
  | queueTimeoutError (reply : HttpReply)
  | timeoutError (detail : String)
  | networkError
  | statusProtocolError (reply : HttpReply)
  | protocolError (detail : String)
  | runtimeError (detail : String)
  | valueError (detail : String)

/-- How far an operation of a connection got: it waits for an HTTP call with its
locals in a frame, it returned, or it raised. -/
inductive Turn (frame value : Type) where
  | blocked (call : HttpCall) (frame : frame)
  | returned (value : value)
  | raised (error : PypeError)

/-- `http_timeout_seconds`. -/
def httpTimeoutSeconds (serverTimeoutMs : Option Int) (networkBufferMs : Int) :
    Option Rat :=
  serverTimeoutMs.map fun ms => ((ms + networkBufferMs : Int) : Rat) / 1000

/-- `raise_for_status`. -/
def raiseForStatus (reply : HttpReply) (expectedCodes : List Nat) :
    Except PypeError Unit :=
  if reply.status ∈ expectedCodes then .ok ()
  else if reply.status = 401 then .error (.authError reply)
  else if reply.status = 400 then .error (.badRequestError reply)
  else if reply.status = 403 then .error (.forbiddenError reply)
  else if reply.status = 503 then .error (.queueTimeoutError reply)
  else .error (.statusProtocolError reply)

/-- `call` and then `raise_for_status`: the reply, if its status is expected. -/
def expectReply (outcome : Outcome) (expectedCodes : List Nat) :
    Except PypeError HttpReply :=
  match outcome with
  | .socketTimeout => .error (.timeoutError "local HTTP timeout")
  | .requestException => .error .networkError
  | .reply reply =>
      match raiseForStatus reply expectedCodes with
      | .error e => .error e
      | .ok _ => .ok reply

/-- `resp.content`. -/
def replyPayload (reply : HttpReply) : Bytes :=
  match reply.content with
  | .raw bytes => bytes
  | _ => []

/-- `resp.headers.get("Content-Type", default)`. -/
def replyContentType (reply : HttpReply) (default : String) : String :=
  (reply.contentType.map HeaderText.decode).getD default

/-!
## Deadlines
-/

/-- `_Deadline`: the moment at which the caller's timeout ends, if it does. -/
def deadline (timeoutMs : Option Int) (now : Time) : Option Time :=
  timeoutMs.map fun ms => now + seconds ms

/-- `_Deadline.remaining_ms`, signed. -/
def remainingMs (deadline : Option Time) (now : Time) : Option Int :=
  deadline.map fun time => truncate ((time - now) * 1000)

theorem expectReply_ok {outcome : Outcome} {expectedCodes : List Nat}
    {reply : HttpReply} (h : expectReply outcome expectedCodes = .ok reply) :
    outcome = .reply reply ∧ reply.status ∈ expectedCodes := by
  unfold expectReply at h
  split at h
  · cases h
  · cases h
  · split at h
    · cases h
    · rename_i hraise
      cases h
      constructor
      · rfl
      · unfold raiseForStatus at hraise
        by_contra hnot
        rw [if_neg hnot] at hraise
        repeat' split at hraise
        all_goals cases hraise

end Client
end Pype
