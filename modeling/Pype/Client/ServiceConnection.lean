import Pype.Client.Http

/-!
# `ServiceConnection`

A worker pulls requests for its service and posts responses to them.  As for a
client's connection, an operation runs until it returns, raises or makes an HTTP
call, and resumes with the outcome.
-/

namespace Pype
namespace Client

open Foundation Server

structure ServiceConnection where
  serviceName : String
  accessToken : String
  closed : Bool

def ServiceConnection.open (serviceName accessToken : String) : ServiceConnection where
  serviceName := serviceName
  accessToken := accessToken
  closed := false

namespace ServiceConnection

inductive Operation where
  | getRequest (timeout : Option Int)
  | sendResponse (forRequest : ClientRequest) (response : Payload)
      (contentType : String) (timeout : Option Int)
  | close

/-- The locals of an operation that waits for its HTTP call. -/
inductive Frame where
  | getRequest
  | sendResponse

inductive Returned where
  | request (request : ClientRequest)
  | nothing

abbrev Progress := Turn Frame Returned

/-- `_ensure_open`. -/
def ensureOpen (conn : ServiceConnection) : Except PypeError Unit :=
  if conn.closed then .error (.runtimeError "ServiceConnection is closed") else .ok ()

def getRequest (settings : Settings) (timeout : Option Int)
    (conn : ServiceConnection) : Progress :=
  match conn.ensureOpen with
  | .error e => .raised e
  | .ok _ => .blocked
      { method := .get
        path := ["services", conn.serviceName]
        requestId := none
        timeout := timeout
        block := false
        contentType := none
        body := []
        timeoutSeconds := httpTimeoutSeconds timeout settings.networkBufferMs }
      .getRequest

/-- The request in a 200 reply to a GET on the service. -/
def readRequest (reply : HttpReply) (serviceName : String) (source : TaskId) :
    Option ClientRequest :=
  match reply.xPypeClientId, reply.xPypeRequestId with
  | some clientId, some requestId => some
      { clientId := HeaderText.decode clientId
        requestId := HeaderText.decode requestId
        contentType := replyContentType reply "application/octet-stream"
        payload := replyPayload reply
        serviceName := serviceName
        source := source }
  | _, _ => none

def getRequestPolled (outcome : Outcome) (source : TaskId)
    (conn : ServiceConnection) : Progress :=
  match expectReply outcome [200, 204] with
  | .error e => .raised e
  | .ok reply =>
      if reply.status = 204 then
        .raised (.timeoutError
          s!"no requests available for service '{conn.serviceName}' within timeout")
      else
        match readRequest reply conn.serviceName source with
        | none => .raised (.protocolError "missing X-Pype-* header")
        | some request => .returned (.request request)

/-- `_send_response`. -/
def sendResponse (settings : Settings) (forRequest : ClientRequest)
    (response : Payload) (contentType : String) (timeout : Option Int)
    (conn : ServiceConnection) : Progress :=
  match conn.ensureOpen with
  | .error e => .raised e
  | .ok _ => .blocked
      { method := .post
        path := ["clients", forRequest.clientId]
        requestId := some forRequest.requestId
        timeout := timeout
        block := false
        contentType := some contentType
        body := response.body
        timeoutSeconds := httpTimeoutSeconds timeout settings.networkBufferMs }
      .sendResponse

def sendResponseSent (outcome : Outcome) : Progress :=
  match expectReply outcome [202] with
  | .error e => .raised e
  | .ok _ => .returned .nothing

def start (settings : Settings) (operation : Operation) (conn : ServiceConnection) :
    ServiceConnection × Progress :=
  match operation with
  | .getRequest timeout => (conn, conn.getRequest settings timeout)
  | .sendResponse forRequest response contentType timeout =>
      (conn, conn.sendResponse settings forRequest response contentType timeout)
  | .close => ({ conn with closed := true }, .returned .nothing)

/-- Resume an operation with the outcome of its call; `source` names the
exchange. -/
def resume (frame : Frame) (outcome : Outcome) (source : TaskId)
    (conn : ServiceConnection) : ServiceConnection × Progress :=
  match frame with
  | .getRequest => (conn, conn.getRequestPolled outcome source)
  | .sendResponse => (conn, sendResponseSent outcome)

end ServiceConnection

end Client
end Pype
