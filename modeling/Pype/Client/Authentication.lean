import Pype.Client.ServiceConnection
import Pype.Client.ClientConnection

/-!
# Authentication

`PypeClient` and `ServiceClient` log in with one POST and make a connection of the
reply.  The session of the connection carries the token, and the address that the
server gave; if anything goes wrong the session is closed.
-/

namespace Pype
namespace Server

/-- `data[key]`, if it raises nothing: only dictionaries have text keys, and the last
field of a name counts. -/
def JsonValue.item? (data : JsonValue) (key : String) : Option JsonValue :=
  match data with
  | .object fields => (fields.reverse.find? fun field => field.1 == key).map Prod.snd
  | _ => none

end Server

namespace Client

open Foundation Server

/-- What Python makes of texts and values: `json.loads`, `resp.json()` of a body, also of
one that FastAPI or Starlette wrote for a status, `str` and `repr`. -/
structure Python where
  loads : String -> Option JsonValue
  replyJson : Bytes -> Option JsonValue
  frameworkJson : Nat -> Option JsonValue
  str : JsonValue -> String
  repr : JsonValue -> String
  str_string : forall text, str (.string text) = text

/-- A `requests.Session`: the headers that it adds to its requests. -/
structure HttpSession where
  authorization : Option String
  xPypeServerIp : Option String
  closed : Bool

def HttpSession.initial : HttpSession where
  authorization := none
  xPypeServerIp := none
  closed := false

def HttpSession.close (session : HttpSession) : HttpSession :=
  { session with closed := true }

/-- The POST of a login: the path segments after the base URL, the JSON body and the
socket timeout in seconds. -/
structure AuthCall where
  path : List String
  json : JsonValue
  timeoutSeconds : Rat

/-- What a login raises: an exception of the library, or that of `resp.json()`, which
the library does not wrap. -/
inductive AuthError where
  | pype (error : PypeError)
  | jsonDecodeError

/-- `resp.json()`. -/
def replyJson (python : Python) (reply : HttpReply) : Option JsonValue :=
  match reply.content with
  | .json value => some value
  | .raw bytes => python.replyJson bytes
  | .framework => python.frameworkJson reply.status

def authReply (python : Python) (outcome : Outcome) :
    Except AuthError (HttpReply × JsonValue) :=
  match expectReply outcome [200] with
  | .error e => .error (.pype e)
  | .ok reply =>
      match replyJson python reply with
      | none => .error .jsonDecodeError
      | some data => .ok (reply, data)

def malformed (python : Python) (data : JsonValue) : AuthError :=
  .pype (.protocolError s!"malformed auth response: {python.repr data}")

/-- `resp.headers.get("X-Pype-Server-IP")`. -/
def serverInternalIp (reply : HttpReply) : Option String :=
  reply.xPypeServerIp.map HeaderText.decode

/-- The headers that a session adds after a login. -/
def HttpSession.login (python : Python) (accessToken : JsonValue) (reply : HttpReply)
    (session : HttpSession) : HttpSession :=
  { session with
    authorization := some ("Bearer " ++ python.str accessToken)
    xPypeServerIp :=
      match serverInternalIp reply with
      | none => session.xPypeServerIp
      | some ip => if ip = "" then session.xPypeServerIp else some ip }

/-!
## Clients
-/

namespace PypeClient

/-- A connection as `authenticate` returns it, with what the server said of it. -/
structure Authenticated where
  name : JsonValue
  connection : ClientConnection
  serverInternalIp : Option String

def authCall (settings : Settings) (name : String) : AuthCall where
  path := ["auth", "client"]
  json := .object [("name", .string name)]
  timeoutSeconds := (settings.authTimeoutMs : Rat) / 1000

def fields (data : JsonValue) : Option (JsonValue × String × JsonValue) :=
  match data.item? "access_token", data.item? "client_id", data.item? "name" with
  | some accessToken, some (.string clientId), some name =>
      if clientId = "" then none else some (accessToken, clientId, name)
  | _, _, _ => none

/-- What `authenticate` does once its POST is over. -/
def authenticated (python : Python) (outcome : Outcome) (session : HttpSession) :
    HttpSession × Except AuthError Authenticated :=
  match authReply python outcome with
  | .error e => (session.close, .error e)
  | .ok (reply, data) =>
      match fields data with
      | none => (session.close, .error (malformed python data))
      | some (accessToken, clientId, name) =>
          (session.login python accessToken reply,
            .ok
              { name := name
                connection := ClientConnection.open clientId (python.str accessToken)
                serverInternalIp := Client.serverInternalIp reply })

end PypeClient

/-!
## Services
-/

namespace ServiceClient

structure Authenticated where
  connection : ServiceConnection
  serverInternalIp : Option String

def authCall (settings : Settings) (serviceName : String) : AuthCall where
  path := ["auth", "service"]
  json := .object [("service_name", .string serviceName)]
  timeoutSeconds := (settings.authTimeoutMs : Rat) / 1000

def fields (data : JsonValue) : Option (JsonValue × JsonValue) :=
  match data.item? "access_token", data.item? "name" with
  | some accessToken, some name => some (accessToken, name)
  | _, _ => none

def authenticated (python : Python) (outcome : Outcome) (session : HttpSession) :
    HttpSession × Except AuthError Authenticated :=
  match authReply python outcome with
  | .error e => (session.close, .error e)
  | .ok (reply, data) =>
      match fields data with
      | none => (session.close, .error (malformed python data))
      | some (accessToken, name) =>
          (session.login python accessToken reply,
            .ok
              { connection :=
                  ServiceConnection.open (python.str name) (python.str accessToken)
                serverInternalIp := Client.serverInternalIp reply })

end ServiceClient

end Client
end Pype
