import Mathlib.Algebra.Order.Ring.Rat
import Mathlib.Data.List.Infix
import Mathlib.Order.Monotone.Defs
import Pype.Foundation.Dict
import Pype.Foundation.HeaderText

/-!
# Messages, settings and HTTP exchanges

Requests and responses are opaque payloads with a request id and a content
type.  Clock readings are exact rationals, in seconds.
-/

namespace Pype
namespace Server

open Foundation

/-- A reading of the monotonic clock, in seconds. -/
abbrev Time := Rat

abbrev Bytes := List UInt8

/-- Identity of a queue or client-entry object on the heap. -/
abbrev Ref := Nat

/-- Identity of one HTTP exchange and of the coroutine that handles it. -/
abbrev TaskId := Nat

structure PypeRequest where
  clientId : String
  requestId : String
  contentType : String
  payload : Bytes
deriving DecidableEq, Repr

structure PypeResponse where
  requestId : String
  contentType : String
  payload : Bytes
deriving DecidableEq, Repr

/-- A message object, identified by the handler that created it.  No handler
reads the identity. -/
structure Posted (message : Type) where
  poster : TaskId
  message : message
deriving DecidableEq, Repr

/-- The server settings that the handlers and the reaper read. -/
structure Settings where
  maxTimeoutMs : Int
  clientQueueMaxSize : Nat
  serviceQueueMaxSize : Nat
  clientReaperPeriodSeconds : Time
  clientReaperBatchSize : Nat
  clientReaperTargetSweepSeconds : Time
  clientInactivityThresholdSeconds : Time
  defaultContentType : String
  internalIp : String
  maxTimeoutMs_pos : 1 ≤ maxTimeoutMs
  clientQueueMaxSize_pos : 1 ≤ clientQueueMaxSize
  serviceQueueMaxSize_pos : 1 ≤ serviceQueueMaxSize
  clientReaperPeriodSeconds_pos : 0 < clientReaperPeriodSeconds
  clientReaperBatchSize_pos : 1 ≤ clientReaperBatchSize
  clientReaperTargetSweepSeconds_pos : 0 < clientReaperTargetSweepSeconds
  clientInactivityThresholdSeconds_pos : 0 < clientInactivityThresholdSeconds

/-- The default settings, on a host with the given address. -/
def Settings.default (internalIp : String) : Settings where
  maxTimeoutMs := 480000
  clientQueueMaxSize := 8
  serviceQueueMaxSize := 8000
  clientReaperPeriodSeconds := 60
  clientReaperBatchSize := 1000
  clientReaperTargetSweepSeconds := 600
  clientInactivityThresholdSeconds := 600
  defaultContentType := "application/json"
  internalIp := internalIp
  maxTimeoutMs_pos := by decide
  clientQueueMaxSize_pos := by decide
  serviceQueueMaxSize_pos := by decide
  clientReaperPeriodSeconds_pos := by decide +kernel
  clientReaperBatchSize_pos := by decide
  clientReaperTargetSweepSeconds_pos := by decide +kernel
  clientInactivityThresholdSeconds_pos := by decide +kernel

theorem Settings.maxTimeoutMs_nonneg (cfg : Settings) : 0 ≤ cfg.maxTimeoutMs :=
  le_trans Int.one_nonneg cfg.maxTimeoutMs_pos

/-- A JSON value, as found in token claims and in reply bodies. -/
inductive JsonValue where
  | null
  | bool (value : Bool)
  | number (value : Rat)
  | string (value : String)
  | array (values : List JsonValue)
  | object (fields : List (String × JsonValue))

/-- The readings that the clock gives to one uninterrupted stretch of a handler,
in the order in which they are taken. -/
structure Clock where
  reading : Nat -> Time
  mono : Monotone reading

def Clock.constant (t : Time) : Clock where
  reading := fun _ => t
  mono := monotone_const

/-!
## Requests
-/

/-- `POST /services/service_name`: path, query, content type and body. -/
structure PostRequest where
  serviceName : String
  requestId : String
  timeout : Option Int
  block : Bool
  contentType : Option String
  body : Bytes
deriving DecidableEq

/-- `POST /clients/client_id`: path, query, content type and body. -/
structure PostResponse where
  clientId : String
  requestId : String
  timeout : Option Int
  contentType : Option String
  body : Bytes
deriving DecidableEq

/-- The routes of the server, with the parameters each one reads. -/
inductive Endpoint where
  | postRequest (params : PostRequest)
  | getRequest (serviceName : String) (timeout : Option Int)
  | postResponse (params : PostResponse)
  | getResponse (clientId : String) (timeout : Option Int)
  | clientLogoff
  | serviceAuth (serviceName : String)
  | clientAuth (name : String)
  | servicesLoad
deriving DecidableEq

structure HttpRequest where
  authorization : Option String
  endpoint : Endpoint
deriving DecidableEq

/-!
## Replies
-/

/-- A reply body: raw bytes, a value serialized as JSON, or what FastAPI or Starlette
writes when it answers for the application. -/
inductive Content where
  | raw (bytes : Bytes)
  | json (value : JsonValue)
  | framework

/-- A reply with the headers that the application sets, as latin-1 bytes. -/
structure HttpReply where
  status : Nat
  contentType : Option Bytes
  xPypeClientId : Option Bytes
  xPypeRequestId : Option Bytes
  xPypeServerIp : Option Bytes
  content : Content

def emptyReply (status : Nat) : HttpReply where
  status := status
  contentType := none
  xPypeClientId := none
  xPypeRequestId := none
  xPypeServerIp := none
  content := Content.raw []

def jsonReply (status : Nat) (value : JsonValue) : HttpReply where
  status := status
  contentType := HeaderText.encode "application/json"
  xPypeClientId := none
  xPypeRequestId := none
  xPypeServerIp := none
  content := Content.json value

/-- A reply of FastAPI or Starlette.  Only its status is known here; the entity is
theirs. -/
def frameworkReply (status : Nat) : HttpReply where
  status := status
  contentType := none
  xPypeClientId := none
  xPypeRequestId := none
  xPypeServerIp := none
  content := Content.framework

/-- What the server sends for an exception that no handler catches. -/
def internalServerError : HttpReply :=
  frameworkReply 500

def occursIn (part whole : String) : Bool :=
  decide (part.toList <:+: whole.toList)

/-- The value that `Response` sends as `Content-Type` for a media
type: text types without a character set get one. -/
def mediaTypeHeader (mediaType : String) : String :=
  if "text/".toList.isPrefixOf mediaType.toList
      && !occursIn "charset=" mediaType then
    mediaType ++ "; charset=utf-8"
  else mediaType

/-- The reply that carries a dequeued message.  Header values are encoded while
the reply is built, so a value that cannot be sent makes the handler fail. -/
def messageReply (payload : Bytes) (mediaType : String)
    (clientId : Option String) (requestId : String) : HttpReply :=
  match HeaderText.encode (mediaTypeHeader mediaType),
      clientId.map HeaderText.encode, HeaderText.encode requestId with
  | some contentType, none, some rid =>
      { status := 200
        contentType := some contentType
        xPypeClientId := none
        xPypeRequestId := some rid
        xPypeServerIp := none
        content := Content.raw payload }
  | some contentType, some (some cid), some rid =>
      { status := 200
        contentType := some contentType
        xPypeClientId := some cid
        xPypeRequestId := some rid
        xPypeServerIp := none
        content := Content.raw payload }
  | _, _, _ => internalServerError

theorem messageReply_status (payload : Bytes) (mediaType : String)
    (clientId : Option String) (requestId : String) :
    (messageReply payload mediaType clientId requestId).status = 200 ∨
      (messageReply payload mediaType clientId requestId).status = 500 := by
  unfold messageReply
  split
  · exact Or.inl rfl
  · exact Or.inl rfl
  · exact Or.inr rfl

theorem messageReply_ok_iff {payload : Bytes} {mediaType : String}
    {clientId : Option String} {requestId : String} :
    (messageReply payload mediaType clientId requestId).status = 200 <->
      HeaderText.Encodable (mediaTypeHeader mediaType) ∧
        (forall value, clientId = some value -> HeaderText.Encodable value) ∧
        HeaderText.Encodable requestId := by
  rw [← HeaderText.encode_isSome_iff, ← HeaderText.encode_isSome_iff]
  unfold messageReply
  constructor
  · intro h
    split at h
    · rename_i hcontent hclient hrequest
      rw [hcontent, hrequest, Option.map_eq_none_iff.mp hclient]
      simp
    · rename_i hcontent hclient hrequest
      rcases Option.map_eq_some_iff.mp hclient with ⟨value, rfl, hvalue⟩
      rw [hcontent, hrequest]
      refine ⟨rfl, ?_, rfl⟩
      intro value' heq
      cases heq
      rw [← HeaderText.encode_isSome_iff, hvalue]
      rfl
    · cases h
  · rintro ⟨hcontent, hclient, hrequest⟩
    rcases Option.isSome_iff_exists.mp hcontent with ⟨contentType, hcontent⟩
    rcases Option.isSome_iff_exists.mp hrequest with ⟨rid, hrequest⟩
    rw [hcontent, hrequest]
    cases clientId with
    | none => rfl
    | some value =>
        have hvalue := HeaderText.encode_isSome_iff.mpr (hclient value rfl)
        rcases Option.isSome_iff_exists.mp hvalue with ⟨cid, hcid⟩
        simp [hcid]

theorem messageReply_of_ok {payload : Bytes} {mediaType : String}
    {clientId : Option String} {requestId : String}
    (h : (messageReply payload mediaType clientId requestId).status = 200) :
    (messageReply payload mediaType clientId requestId).contentType =
        HeaderText.encode (mediaTypeHeader mediaType) ∧
      (messageReply payload mediaType clientId requestId).xPypeClientId =
        clientId.bind HeaderText.encode ∧
      (messageReply payload mediaType clientId requestId).xPypeRequestId =
        HeaderText.encode requestId ∧
      (messageReply payload mediaType clientId requestId).content =
        Content.raw payload := by
  unfold messageReply at h ⊢
  split at h
  · rename_i hcontent hclient hrequest
    rw [hcontent, hrequest, Option.map_eq_none_iff.mp hclient]
    exact ⟨rfl, rfl, rfl, rfl⟩
  · rename_i hcontent hclient hrequest
    rcases Option.map_eq_some_iff.mp hclient with ⟨value, rfl, hvalue⟩
    rw [hcontent, hrequest]
    exact ⟨rfl, hvalue.symm, rfl, rfl⟩
  · cases h

/-!
## Errors
-/

/-- The exceptions that the application turns into error replies. -/
inductive PypeError where
  | authError (detail : String)
  | roleMismatchError (detail : String)
  | forbiddenError (detail : String)
  | timeoutOutOfRangeError (detail : String)
deriving DecidableEq

namespace PypeError

def statusCode : PypeError -> Nat
  | authError _ => 401
  | roleMismatchError _ => 400
  | forbiddenError _ => 403
  | timeoutOutOfRangeError _ => 400

def code : PypeError -> String
  | authError _ => "UNAUTHENTICATED"
  | roleMismatchError _ => "ROLE_MISMATCH"
  | forbiddenError _ => "FORBIDDEN"
  | timeoutOutOfRangeError _ => "TIMEOUT_OUT_OF_RANGE"

def detail : PypeError -> String
  | authError detail => detail
  | roleMismatchError detail => detail
  | forbiddenError detail => detail
  | timeoutOutOfRangeError detail => detail

/-- The reply of the application's exception handler. -/
def reply (error : PypeError) : HttpReply :=
  jsonReply error.statusCode
    (JsonValue.object
      [("detail", JsonValue.string error.detail),
        ("code", JsonValue.string error.code)])

@[simp] theorem reply_status (error : PypeError) :
    error.reply.status = error.statusCode := rfl

theorem statusCode_mem (error : PypeError) :
    error.statusCode = 400 ∨ error.statusCode = 401 ∨ error.statusCode = 403 := by
  cases error <;> simp [statusCode]

end PypeError

end Server
end Pype
