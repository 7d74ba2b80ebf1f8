import Pype.Server.ResponseQueues
import Pype.Server.ServiceQueues
import Pype.Client.ClientConnection
import Pype.Client.ServiceConnection

/-!
# Delivery of a message

A message is taken off its queue before its reply is built, and it travels out
in header values, which carry less than a message may hold.  Here is exactly
which messages arrive as they were posted.
-/

namespace Pype
namespace System

open Foundation Server Store

/-!
## Header values
-/

/-- The reply carries the payload and, as its reader sees it, the request id. -/
def DeliversExactly (reply : HttpReply) (payload : Bytes) (requestId : String) :
    Prop :=
  reply.status = 200 ∧ reply.content = Content.raw payload ∧
    reply.xPypeRequestId.map HeaderText.decode = some requestId

def ReadsContentType (reply : HttpReply) (contentType : String) : Prop :=
  reply.contentType.map HeaderText.decode = some contentType

/-- A media type to which a character set is added. -/
def GetsCharset (mediaType : String) : Prop :=
  "text/".toList.isPrefixOf mediaType.toList = true ∧
    occursIn "charset=" mediaType = false

instance (mediaType : String) : Decidable (GetsCharset mediaType) :=
  instDecidableAnd

/-- A media type that arrives as it is: no character set is added, and there are no
blanks at its ends. -/
def KeepsContentType (mediaType : String) : Prop :=
  ¬ GetsCharset mediaType ∧ HeaderText.Trimmed mediaType

theorem mediaTypeHeader_of_gets {mediaType : String} (h : GetsCharset mediaType) :
    mediaTypeHeader mediaType = mediaType ++ "; charset=utf-8" := by
  unfold mediaTypeHeader
  rw [h.left, h.right]
  rfl

theorem mediaTypeHeader_of_not_gets {mediaType : String}
    (h : ¬ GetsCharset mediaType) : mediaTypeHeader mediaType = mediaType := by
  unfold mediaTypeHeader
  split
  · rename_i hboth
    rw [Bool.and_eq_true, Bool.not_eq_true'] at hboth
    exact absurd hboth h
  · rfl

theorem encodable_mediaTypeHeader_iff {mediaType : String} :
    HeaderText.Encodable (mediaTypeHeader mediaType) <->
      HeaderText.Encodable mediaType := by
  by_cases h : GetsCharset mediaType
  · rw [mediaTypeHeader_of_gets h]
    unfold HeaderText.Encodable
    rw [String.toList_append]
    constructor
    · intro hall c hc
      exact hall c (List.mem_append_left _ hc)
    · intro hall c hc
      rcases List.mem_append.mp hc with hc | hc
      · exact hall c hc
      · have hcharset : HeaderText.Encodable "; charset=utf-8" := by decide
        exact hcharset c hc
  · rw [mediaTypeHeader_of_not_gets h]

theorem trimmed_of_gets {mediaType : String} (h : GetsCharset mediaType) :
    HeaderText.Trimmed (mediaType ++ "; charset=utf-8") := by
  rcases List.isPrefixOf_iff_prefix.mp h.left with ⟨rest, hrest⟩
  have hchars : (mediaType ++ "; charset=utf-8").toList =
      't' :: ("ext/".toList ++ rest ++ "; charset=utf-".toList) ++ ['8'] := by
    rw [String.toList_append, ← hrest]
    simp
  have hfirst : ¬ HeaderText.IsBlank 't' := by decide
  have hlast : ¬ HeaderText.IsBlank '8' := by decide
  unfold HeaderText.Trimmed HeaderText.trim
  rw [hchars, List.cons_append, List.dropWhile_cons_of_neg (by simpa using hfirst),
    ← List.cons_append, List.rdropWhile_concat_neg _ _ _ (by simpa using hlast)]

theorem decode_mediaTypeHeader_iff {mediaType : String} {bytes : List UInt8}
    (h : HeaderText.encode (mediaTypeHeader mediaType) = some bytes) :
    HeaderText.decode bytes = mediaType <-> KeepsContentType mediaType := by
  by_cases hgets : GetsCharset mediaType
  · rw [mediaTypeHeader_of_gets hgets] at h
    have hread := (HeaderText.decode_eq_iff h).mpr (trimmed_of_gets hgets)
    rw [hread]
    constructor
    · intro heq
      have hlength := congrArg (fun s : String => s.toList.length) heq
      simp [String.toList_append] at hlength
    · intro hkeeps
      exact absurd hgets hkeeps.left
  · rw [mediaTypeHeader_of_not_gets hgets] at h
    rw [HeaderText.decode_eq_iff h]
    constructor
    · intro htrimmed
      exact ⟨hgets, htrimmed⟩
    · exact fun hkeeps => hkeeps.right

/-!
## Message replies
-/

/-- The messages that a reply can carry: all their texts can be sent as header
values, and the request id comes back unchanged. -/
def Sendable (contentType : String) (clientId : Option String)
    (requestId : String) : Prop :=
  HeaderText.Encodable contentType ∧
    (forall value, clientId = some value -> HeaderText.Encodable value) ∧
    HeaderText.Faithful requestId

theorem deliversExactly_iff {payload : Bytes} {mediaType : String}
    {clientId : Option String} {requestId : String} :
    DeliversExactly (messageReply payload mediaType clientId requestId) payload
        requestId <->
      Sendable mediaType clientId requestId := by
  constructor
  · rintro ⟨hstatus, _, hid⟩
    rcases messageReply_ok_iff.mp hstatus with ⟨hcontent, hclient, hrequest⟩
    refine ⟨encodable_mediaTypeHeader_iff.mp hcontent, hclient, hrequest, ?_⟩
    rw [(messageReply_of_ok hstatus).right.right.left] at hid
    rcases HeaderText.exists_encode_of_encodable hrequest with ⟨bytes, hbytes⟩
    rw [hbytes] at hid
    exact (HeaderText.decode_eq_iff hbytes).mp (Option.some.inj hid)
  · rintro ⟨hcontent, hclient, hrequest, htrimmed⟩
    have hstatus : (messageReply payload mediaType clientId requestId).status =
        200 :=
      messageReply_ok_iff.mpr
        ⟨encodable_mediaTypeHeader_iff.mpr hcontent, hclient, hrequest⟩
    rcases messageReply_of_ok hstatus with ⟨_, _, hid, hpayload⟩
    refine ⟨hstatus, hpayload, ?_⟩
    rcases HeaderText.exists_encode_of_encodable hrequest with ⟨bytes, hbytes⟩
    rw [hid, hbytes]
    exact congrArg some ((HeaderText.decode_eq_iff hbytes).mpr htrimmed)

theorem readsContentType_iff {payload : Bytes} {mediaType : String}
    {clientId : Option String} {requestId : String}
    (hstatus : (messageReply payload mediaType clientId requestId).status = 200) :
    ReadsContentType (messageReply payload mediaType clientId requestId) mediaType <->
      KeepsContentType mediaType := by
  have hencodable := (messageReply_ok_iff.mp hstatus).left
  rcases HeaderText.exists_encode_of_encodable hencodable with ⟨bytes, hbytes⟩
  unfold ReadsContentType
  rw [(messageReply_of_ok hstatus).left, hbytes, ← decode_mediaTypeHeader_iff hbytes]
  constructor
  · exact fun h => Option.some.inj h
  · exact fun h => congrArg some h

theorem contentType_of_readRequest {reply : HttpReply} {name : String}
    {source : TaskId} {request : Client.ClientRequest}
    (h : Client.ServiceConnection.readRequest reply name source = some request) :
    request.contentType =
      Client.replyContentType reply "application/octet-stream" := by
  unfold Client.ServiceConnection.readRequest at h
  split at h
  · cases h
    rfl
  · cases h

theorem contentType_of_readResponse {reply : HttpReply} {default : String}
    {source : TaskId} {response : Client.ServiceResponse}
    (h : Client.ClientConnection.readResponse reply default source = some response) :
    response.contentType = Client.replyContentType reply default := by
  rcases Option.map_eq_some_iff.mp h with ⟨_, _, rfl⟩
  rfl

/-!
## The handler that takes a message answers with it
-/

section

variable {cfg : Server.Settings} {jwt : Jwt} {task : TaskId} {request : HttpRequest}

/-- A handler that only has to build its answer. -/
def Answering : Phase -> Prop
  | .getRequestGetDone _ => True
  | .postRequestGetDone _ => True
  | .getResponseGetDone _ _ => True
  | _ => False

def Takes : Record -> Prop
  | .requestDequeued .. => True
  | .responseDequeued .. => True
  | _ => False

theorem answers_of_answering {phase : Phase} (h : Answering phase) (clock : Clock)
    (s : Store) :
    exists reply s', advance cfg jwt task request phase .resume clock s =
      some (answer task reply s') := by
  cases phase with
  | getRequestGetDone item =>
      cases item with
      | none => exact ⟨_, _, rfl⟩
      | some item => exact ⟨_, _, rfl⟩
  | postRequestGetDone response =>
      cases response with
      | none => exact ⟨_, _, rfl⟩
      | some response => exact ⟨_, _, rfl⟩
  | getResponseGetDone clientId item =>
      cases item with
      | none => exact ⟨_, _, rfl⟩
      | some item => exact ⟨_, _, rfl⟩
  | received | postRequestBody | postRequestPut | postRequestPutDone
  | postRequestGet | getRequestGet | postResponseBody | postResponsePut
  | postResponsePutDone | getResponseGet | done | closed => cases h

theorem answered_of_finished {records : List Record} {reply : HttpReply}
    (h : Finished cfg jwt task request records reply) :
    .answered task reply ∈ records := by
  cases h <;> simp

theorem answering_of_takes {s : Store} {phase : Phase} {r : Record}
    (h : PhaseOk cfg jwt task request s phase) (hr : r ∈ s.recordsOf task)
    (htakes : Takes r) :
    Answering phase ∨ exists reply, .answered task reply ∈ s.recordsOf task := by
  have silent : s.recordsOf task ≠ [] := List.ne_nil_of_mem hr
  cases phase with
  | getRequestGetDone | postRequestGetDone | getResponseGetDone =>
      exact Or.inl trivial
  | done reply => exact Or.inr ⟨reply, answered_of_finished h⟩
  | closed closing =>
      cases closing with
      | none => exact absurd h silent
      | some reply => exact Or.inr ⟨reply, answered_of_finished h⟩
  | received => exact absurd h silent
  | postRequestBody => exact absurd h.right.right.right silent
  | postRequestPut => exact absurd h.right.right.right.right silent
  | postRequestPutDone params claims entry deadline enqueued =>
      rcases h with ⟨_, _, queue, _, hrecords⟩
      rw [hrecords] at hr
      cases enqueued <;> simp only [if_true, Bool.false_eq_true, if_false,
        List.mem_cons, List.not_mem_nil, or_false] at hr
      rw [hr] at htakes
      cases htakes
  | postRequestGet params claims entry expires =>
      rcases h with ⟨_, _, _, queue, _, hrecords⟩
      rw [hrecords, List.mem_singleton] at hr
      rw [hr] at htakes
      cases htakes
  | getRequestGet => exact absurd h.right.right silent
  | postResponseBody => exact absurd h.right.right.right silent
  | postResponsePut => exact absurd h.right.right.right silent
  | postResponsePutDone enqueued =>
      rcases h with ⟨params, _, hrecords⟩
      cases enqueued with
      | false => exact absurd (by simpa using hrecords) silent
      | true =>
          rcases hrecords with ⟨entry, hrecords⟩
          rw [hrecords, List.mem_singleton] at hr
          rw [hr] at htakes
          cases htakes
  | getResponseGet => exact absurd h.right.right silent

end

/-!
## Runs
-/

section

variable {cfg : Server.Settings} {jwt : Jwt}

theorem answers_after_taking {s : App} (h : s.Invariant cfg jwt) {task : TaskId}
    {r : Record} (hr : r ∈ s.store.history) (htask : r.task? = some task)
    (htakes : Takes r) :
    (exists reply, .answered task reply ∈ s.store.history) ∨
      forall clock : Clock, s.now ≤ clock.reading 0 ->
        exists reply, .answered task reply ∈
          (App.step cfg jwt s (.run task .resume clock)).store.history := by
  rcases h.transcript hr htask with ⟨t, ht, _⟩
  rcases answering_of_takes (h.conduct task t ht)
    (Store.mem_recordsOf.mpr ⟨hr, htask⟩) htakes with hanswering | ⟨reply, hreply⟩
  · right
    intro clock hclock
    have hanswers : exists reply s', advance cfg jwt task t.request t.phase .resume
        clock s.store = some (answer task reply s') :=
      answers_of_answering hanswering clock s.store
    rcases hanswers with ⟨reply, s', hadvance⟩
    refine ⟨reply, ?_⟩
    simp [App.step, App.runTask, ht, hclock, hadvance, answer, Store.record]
  · exact Or.inl ⟨reply, (Store.mem_recordsOf.mp hreply).left⟩

theorem request_of_taken {s : App} (h : s.Invariant cfg jwt)
    (haccount : ServiceAccount s.store) {poster task : TaskId} {u : Server.Task}
    {params : PostRequest} {claims : ClientClaims} {serviceName : String}
    {queue : Ref} {item : PypeRequest} (hu : s.tasks.get? poster = some u)
    (hwho : Posts jwt u.request params claims)
    (hr : .requestDequeued task serviceName queue ⟨poster, item⟩ ∈
      s.store.history) :
    item = params.pypeReq cfg claims := by
  rcases h.posted_of_taken haccount hr with
    ⟨u', params', claims', hu', hwho', _, hmessage⟩
  rw [hu] at hu'
  cases hu'
  rcases hwho.unique hwho' with ⟨rfl, rfl⟩
  exact hmessage

theorem response_of_taken {s : App} (h : s.Invariant cfg jwt)
    (haccount : ClientAccount s.store) {poster task : TaskId} {u : Server.Task}
    {params : PostResponse} {clientId : String} {entry : Ref} {item : PypeResponse}
    (hu : s.tasks.get? poster = some u) (hwho : Responds jwt u.request params)
    (hr : .responseDequeued task clientId entry ⟨poster, item⟩ ∈
      s.store.history) :
    item = params.pypeResp cfg := by
  rcases h.of_responseEnqueued (haccount.put_of_take hr) with
    ⟨u', params', hu', hwho', _, hmessage⟩
  rw [hu] at hu'
  cases hu'
  have hroute := hwho.left.symm.trans hwho'.left
  cases hroute
  exact hmessage

theorem finished_of_answered {s : App} (h : s.Invariant cfg jwt) {task : TaskId}
    {r : Record} {reply : HttpReply} (hr : r ∈ s.store.history)
    (htask : r.task? = some task)
    (hanswer : .answered task reply ∈ s.store.history) :
    exists t : Server.Task, r ∈ s.store.recordsOf task ∧
      Finished cfg jwt task t.request (s.store.recordsOf task) reply := by
  rcases h.of_answered hanswer with ⟨t, _, hfinished, _⟩
  exact ⟨t, Store.mem_recordsOf.mpr ⟨hr, htask⟩, hfinished⟩

theorem request_reply {s : App} (h : s.Invariant cfg jwt)
    (haccount : ServiceAccount s.store) {poster task : TaskId} {u : Server.Task}
    {params : PostRequest} {claims : ClientClaims} {serviceName : String}
    {queue : Ref} {item : PypeRequest} {reply : HttpReply}
    (hu : s.tasks.get? poster = some u) (hwho : Posts jwt u.request params claims)
    (hr : .requestDequeued task serviceName queue ⟨poster, item⟩ ∈ s.store.history)
    (hanswer : .answered task reply ∈ s.store.history) :
    reply = requestReply (params.pypeReq cfg claims) := by
  have hitem : item = params.pypeReq cfg claims :=
    request_of_taken h haccount hu hwho hr
  have htask : (Record.requestDequeued task serviceName queue
      ⟨poster, item⟩).task? = some task := rfl
  rcases finished_of_answered h hr htask hanswer with ⟨t, hmem, hfinished⟩
  have hreply := hfinished.reply_of_taken hmem
  rw [hreply]
  exact congrArg requestReply hitem

theorem response_reply {s : App} (h : s.Invariant cfg jwt)
    (haccount : ClientAccount s.store) {poster task : TaskId} {u : Server.Task}
    {params : PostResponse} {clientId : String} {entry : Ref} {item : PypeResponse}
    {reply : HttpReply} (hu : s.tasks.get? poster = some u)
    (hwho : Responds jwt u.request params)
    (hr : .responseDequeued task clientId entry ⟨poster, item⟩ ∈ s.store.history)
    (hanswer : .answered task reply ∈ s.store.history) :
    reply = responseReply (params.pypeResp cfg) := by
  have hitem : item = params.pypeResp cfg :=
    response_of_taken h haccount hu hwho hr
  have htask : (Record.responseDequeued task clientId entry
      ⟨poster, item⟩).task? = some task := rfl
  rcases finished_of_answered h hr htask hanswer with ⟨t, hmem, hfinished⟩
  have hreply := hfinished.reply_of_received hmem
  rw [hreply]
  exact congrArg responseReply hitem

/-- Every taken message is delivered with the payload and the request id it was
posted with. -/
structure DeliveredWhole (cfg : Server.Settings) (jwt : Jwt) (s : App) : Prop where
  requests : forall poster u params claims task serviceName queue item reply,
    s.tasks.get? poster = some u -> Posts jwt u.request params claims ->
    .requestDequeued task serviceName queue ⟨poster, item⟩ ∈ s.store.history ->
    .answered task reply ∈ s.store.history ->
      DeliversExactly reply params.body params.requestId
  responses : forall poster u params task clientId entry item reply,
    s.tasks.get? poster = some u -> Responds jwt u.request params ->
    .responseDequeued task clientId entry ⟨poster, item⟩ ∈ s.store.history ->
    .answered task reply ∈ s.store.history ->
      DeliversExactly reply params.body params.requestId

/-- In every run, whoever takes a message answers, and its reply delivers the
message exactly if the message is sendable. -/
theorem message_delivered_iff (cfg : Server.Settings) (jwt : Jwt)
    (es : List Event) :
    (forall task r, r ∈ (App.reached cfg jwt es).store.history ->
      r.task? = some task -> Takes r ->
      (exists reply,
        .answered task reply ∈ (App.reached cfg jwt es).store.history) ∨
      forall clock : Clock, (App.reached cfg jwt es).now ≤ clock.reading 0 ->
        exists reply, .answered task reply ∈
          (App.reached cfg jwt (es ++ [.run task .resume clock])).store.history) ∧
    (forall poster u params claims task serviceName queue item reply,
      (App.reached cfg jwt es).tasks.get? poster = some u ->
      Posts jwt u.request params claims ->
      .requestDequeued task serviceName queue ⟨poster, item⟩ ∈
        (App.reached cfg jwt es).store.history ->
      .answered task reply ∈ (App.reached cfg jwt es).store.history ->
        (DeliversExactly reply params.body params.requestId <->
          Sendable (effectiveContentType cfg params.contentType)
            (some claims.clientId) params.requestId)) ∧
    forall poster u params task clientId entry item reply,
      (App.reached cfg jwt es).tasks.get? poster = some u ->
      Responds jwt u.request params ->
      .responseDequeued task clientId entry ⟨poster, item⟩ ∈
        (App.reached cfg jwt es).store.history ->
      .answered task reply ∈ (App.reached cfg jwt es).store.history ->
        (DeliversExactly reply params.body params.requestId <->
          Sendable (effectiveContentType cfg params.contentType) none
            params.requestId) := by
  have hinv := App.invariant_reached cfg jwt es
  refine ⟨?_, ?_, ?_⟩
  · intro task r hr htask htakes
    rcases answers_after_taking hinv hr htask htakes with hanswered | hnext
    · exact Or.inl hanswered
    · right
      intro clock hclock
      rw [App.reached, App.runFrom, run_append]
      exact hnext clock hclock
  · intro poster u params claims task serviceName queue item reply hu hwho hr hanswer
    have haccount := (serviceAccount_storeInvariant cfg jwt).reached
      serviceAccount_initial es
    have hreply := request_reply hinv haccount hu hwho hr hanswer
    subst hreply
    exact deliversExactly_iff
  · intro poster u params task clientId entry item reply hu hwho hr hanswer
    have hreply := response_reply hinv (App.clientAccount_reached cfg jwt es)
      hu hwho hr hanswer
    subst hreply
    exact deliversExactly_iff

def unsendableId : List Event :=
  [.connect 0 ⟨some "Bearer client", .postRequest ⟨"s", "✓", some 0, false, none, []⟩⟩,
    .run 0 (.start "") (Clock.constant 0),
    .run 0 .body (Clock.constant 0),
    .connect 1 ⟨some "Bearer service", .getRequest "s" (some 0)⟩,
    .run 1 (.start "") (Clock.constant 0)]

/-- The GET that takes the request removes it and then fails to answer with it. -/
theorem unsendableId_wasted :
    ¬ DeliveredWhole (Server.Settings.default "10.0.0.1") (Jwt.ofPair "c" "s")
      (App.reached (Server.Settings.default "10.0.0.1") (Jwt.ofPair "c" "s")
        unsendableId) := by
  intro h
  have htask : ((App.reached (Server.Settings.default "10.0.0.1")
      (Jwt.ofPair "c" "s") unsendableId).tasks.get? 0).map Server.Task.request =
      some ⟨some "Bearer client",
        .postRequest ⟨"s", "✓", some 0, false, none, []⟩⟩ := by
    decide +kernel
  rcases Option.map_eq_some_iff.mp htask with ⟨u, hu, hrequest⟩
  have hposts : exists claims, Posts (Jwt.ofPair "c" "s") u.request
      ⟨"s", "✓", some 0, false, none, []⟩ claims := by
    rw [hrequest]
    exact exists_posts rfl (by decide +kernel)
  rcases hposts with ⟨claims, hwho⟩
  have htaken : (App.reached (Server.Settings.default "10.0.0.1")
      (Jwt.ofPair "c" "s") unsendableId).store.history.any
      (Record.takesRequestOf 1 0) = true := by
    decide +kernel
  rcases Record.exists_of_any_takesRequestOf htaken with ⟨n, q, item, hr⟩
  have hanswer : (App.reached (Server.Settings.default "10.0.0.1")
      (Jwt.ofPair "c" "s") unsendableId).store.history.any
      (Record.answers 1 500) = true := by
    decide +kernel
  rcases Record.exists_of_any_answers hanswer with ⟨reply, hreply, hstatus⟩
  have hwhole := h.requests 0 u _ claims 1 n q item reply hu hwho hr hreply
  rw [hwhole.left] at hstatus
  cases hstatus

/-- Every delivered message arrives with the content type it was posted with, or
with the default one. -/
structure ContentTypeKept (cfg : Server.Settings) (jwt : Jwt) (s : App) : Prop where
  requests : forall poster u params claims task serviceName queue item reply,
    s.tasks.get? poster = some u -> Posts jwt u.request params claims ->
    .requestDequeued task serviceName queue ⟨poster, item⟩ ∈ s.store.history ->
    .answered task reply ∈ s.store.history -> reply.status = 200 ->
      ReadsContentType reply (effectiveContentType cfg params.contentType)
  responses : forall poster u params task clientId entry item reply,
    s.tasks.get? poster = some u -> Responds jwt u.request params ->
    .responseDequeued task clientId entry ⟨poster, item⟩ ∈ s.store.history ->
    .answered task reply ∈ s.store.history -> reply.status = 200 ->
      ReadsContentType reply (effectiveContentType cfg params.contentType)

theorem replyContentType_eq {reply : HttpReply} {contentType default : String}
    (hheader : reply.contentType.isSome = true) :
    Client.replyContentType reply default = contentType <->
      ReadsContentType reply contentType := by
  unfold Client.replyContentType ReadsContentType
  rcases Option.isSome_iff_exists.mp hheader with ⟨bytes, hbytes⟩
  rw [hbytes]
  simp

theorem contentType_isSome {payload : Bytes} {mediaType : String}
    {clientId : Option String} {requestId : String}
    (hstatus : (messageReply payload mediaType clientId requestId).status = 200) :
    (messageReply payload mediaType clientId requestId).contentType.isSome = true := by
  rw [(messageReply_of_ok hstatus).left]
  exact HeaderText.encode_isSome_iff.mpr (messageReply_ok_iff.mp hstatus).left

/-- In every run a delivered message arrives with its content type, at the server's
reply and at the receiving library alike, exactly if the content type keeps. -/
theorem contentType_kept_iff (cfg : Server.Settings) (jwt : Jwt)
    (es : List Event) :
    (forall poster u params claims task serviceName queue item reply,
      (App.reached cfg jwt es).tasks.get? poster = some u ->
      Posts jwt u.request params claims ->
      .requestDequeued task serviceName queue ⟨poster, item⟩ ∈
        (App.reached cfg jwt es).store.history ->
      .answered task reply ∈ (App.reached cfg jwt es).store.history ->
      reply.status = 200 ->
        (ReadsContentType reply (effectiveContentType cfg params.contentType) <->
          KeepsContentType (effectiveContentType cfg params.contentType)) ∧
        forall name source request,
          Client.ServiceConnection.readRequest reply name source = some request ->
            (request.contentType = effectiveContentType cfg params.contentType <->
              KeepsContentType (effectiveContentType cfg params.contentType))) ∧
    forall poster u params task clientId entry item reply,
      (App.reached cfg jwt es).tasks.get? poster = some u ->
      Responds jwt u.request params ->
      .responseDequeued task clientId entry ⟨poster, item⟩ ∈
        (App.reached cfg jwt es).store.history ->
      .answered task reply ∈ (App.reached cfg jwt es).store.history ->
      reply.status = 200 ->
        (ReadsContentType reply (effectiveContentType cfg params.contentType) <->
          KeepsContentType (effectiveContentType cfg params.contentType)) ∧
        forall default source response,
          Client.ClientConnection.readResponse reply default source =
              some response ->
            (response.contentType = effectiveContentType cfg params.contentType <->
              KeepsContentType (effectiveContentType cfg params.contentType)) := by
  have hinv := App.invariant_reached cfg jwt es
  constructor
  · intro poster u params claims task serviceName queue item reply hu hwho hr
      hanswer hstatus
    have haccount := (serviceAccount_storeInvariant cfg jwt).reached
      serviceAccount_initial es
    have hreply := request_reply hinv haccount hu hwho hr hanswer
    subst hreply
    have hiff := readsContentType_iff hstatus
    constructor
    · exact hiff
    · intro name source request hread
      rw [contentType_of_readRequest hread]
      exact (replyContentType_eq (contentType_isSome hstatus)).trans hiff
  · intro poster u params task clientId entry item reply hu hwho hr hanswer hstatus
    have hreply := response_reply hinv (App.clientAccount_reached cfg jwt es)
      hu hwho hr hanswer
    subst hreply
    have hiff := readsContentType_iff hstatus
    constructor
    · exact hiff
    · intro default source response hread
      rw [contentType_of_readResponse hread]
      exact (replyContentType_eq (contentType_isSome hstatus)).trans hiff

def plainText : List Event :=
  [.connect 0 ⟨some "Bearer client",
      .postRequest ⟨"s", "1", some 0, false, some "text/plain", []⟩⟩,
    .run 0 (.start "") (Clock.constant 0),
    .run 0 .body (Clock.constant 0),
    .connect 1 ⟨some "Bearer service", .getRequest "s" (some 0)⟩,
    .run 1 (.start "") (Clock.constant 0)]

/-- The request arrives with a character set that the client did not send. -/
theorem plainText_rewritten :
    ¬ ContentTypeKept (Server.Settings.default "10.0.0.1") (Jwt.ofPair "c" "s")
      (App.reached (Server.Settings.default "10.0.0.1") (Jwt.ofPair "c" "s")
        plainText) := by
  intro h
  have htask : ((App.reached (Server.Settings.default "10.0.0.1")
      (Jwt.ofPair "c" "s") plainText).tasks.get? 0).map Server.Task.request =
      some ⟨some "Bearer client",
        .postRequest ⟨"s", "1", some 0, false, some "text/plain", []⟩⟩ := by
    decide +kernel
  rcases Option.map_eq_some_iff.mp htask with ⟨u, hu, hrequest⟩
  have hposts : exists claims, Posts (Jwt.ofPair "c" "s") u.request
      ⟨"s", "1", some 0, false, some "text/plain", []⟩ claims := by
    rw [hrequest]
    exact exists_posts rfl (by decide +kernel)
  rcases hposts with ⟨claims, hwho⟩
  have htaken : (App.reached (Server.Settings.default "10.0.0.1")
      (Jwt.ofPair "c" "s") plainText).store.history.any
      (Record.takesRequestOf 1 0) = true := by
    decide +kernel
  rcases Record.exists_of_any_takesRequestOf htaken with ⟨n, q, item, hr⟩
  have hanswer : (App.reached (Server.Settings.default "10.0.0.1")
      (Jwt.ofPair "c" "s") plainText).store.history.any
      (Record.answers 1 200) = true := by
    decide +kernel
  rcases Record.exists_of_any_answers hanswer with ⟨reply, hreply, hstatus⟩
  have hkept := h.requests 0 u _ claims 1 n q item reply hu hwho hr hreply hstatus
  have heq := request_reply (App.invariant_reached _ _ plainText)
    ((serviceAccount_storeInvariant _ _).reached serviceAccount_initial plainText)
    hu hwho hr hreply
  rw [heq] at hstatus hkept
  have hkeeps := (readsContentType_iff hstatus).mp hkept
  have hgets : GetsCharset "text/plain" := by decide +kernel
  exact hkeeps.left hgets

end

end System
end Pype
