import Pype.Client.Loops

/-!
# One round trip and two

`call` sends a request and reads its response in one round trip, if all goes well.  Its
callers need not care: they get what `send_request` and `get_response` would have got,
and the connection is left in the same state.
-/

namespace Pype
namespace Client

open Foundation Server

/-- The answers to a plain POST and to the poll after it, for the answer to a POST that
blocks. -/
def Answer.unblocked (answer : Answer) : List Answer :=
  match answer.outcome with
  | .reply reply =>
      if reply.status = 200 then
        [{ answer with outcome := .reply (emptyReply 202) }, answer]
      else if reply.status = 202 then [answer, Answer.nothing answer.source]
      else [answer]
  | .socketTimeout => [answer]
  | .requestException => [answer]

/-- A reply with a message says what type it has. -/
def Answer.Typed (answer : Answer) : Prop :=
  forall reply, answer.outcome = .reply reply -> reply.status = 200 ->
    reply.contentType.isSome = true

def ClientConnection.upcoming (conn : ClientConnection) : String :=
  conn.mintRequestId.1

/-- Two invocations end in the same way, with the same connection and the same answers
left, and make the same calls once the request is sent. -/
structure Invocation.Shortens (i j : Invocation) : Prop where
  connection : i.connection = j.connection
  unused : i.unused = j.unused
  ending : i.ending = j.ending
  calls : i.calls.tail = j.calls.drop 2

namespace ClientConnection

/-- `send_request`, and then `get_response` with the id that it returns. -/
def sendThenGet (settings : Settings) (serviceName : String) (request : Payload)
    (contentType : String) (clock : Clock) (answers : List Answer)
    (conn : ClientConnection) : Invocation :=
  let sent := conn.invoke settings (.sendRequest serviceName request contentType none)
    clock answers
  match sent.progress with
  | .returned (.requestId requestId) =>
      (sent.connection.invoke settings (.getResponse requestId none) clock
        sent.unused).after sent.calls
  | _ => sent

section

variable {settings : Settings} {serviceName : String} {request : Payload}
  {contentType : String} {clock : Clock} {conn : ClientConnection}

def sending (settings : Settings) (serviceName : String) (request : Payload)
    (contentType : String) (block : Bool) (conn : ClientConnection) : HttpCall :=
  postCall settings serviceName conn.upcoming request contentType none none block

theorem start_call (hopen : conn.ensureOpen = .ok ()) :
    conn.start settings (.call serviceName request contentType none) clock =
      (conn.mintRequestId.2,
        .blocked (conn.sending settings serviceName request contentType true)
          (.call conn.upcoming none)) := by
  unfold start ClientConnection.call
  rw [hopen]
  rfl

theorem start_sendRequest (hopen : conn.ensureOpen = .ok ()) :
    conn.start settings (.sendRequest serviceName request contentType none) clock =
      (conn.mintRequestId.2,
        .blocked (conn.sending settings serviceName request contentType false)
          (.sendRequest conn.upcoming)) := by
  unfold start sendRequest
  rw [hopen]
  rfl

theorem callFallback_forever (requestId : String) (clock : Clock) :
    conn.callFallback settings requestId none (clock.reading 0) (clock.reading 1)
        (clock.reading 2) =
      conn.getResponse settings requestId none 0 0 := rfl

theorem getResponse_of_uncached {requestId : String} (hopen : conn.ensureOpen = .ok ())
    (hget : conn.cache.get? requestId = none) (deadlineAt remainingAt : Time) :
    conn.getResponse settings requestId none deadlineAt remainingAt =
      (conn, .blocked (conn.pollCall settings none)
        (.getResponse requestId true none)) := by
  unfold getResponse
  rw [hopen, hget]
  rfl

theorem readResponse_typed {reply : HttpReply} (h : reply.contentType.isSome = true)
    (default default' : String) (source : TaskId) :
    readResponse reply default source = readResponse reply default' source := by
  rcases Option.isSome_iff_exists.mp h with ⟨value, hvalue⟩
  simp only [readResponse, replyContentType, hvalue, Option.map_some, Option.getD_some]

theorem expectReply_of_mem {reply : HttpReply} {expectedCodes : List Nat}
    (h : reply.status ∈ expectedCodes) :
    expectReply (.reply reply) expectedCodes = .ok reply := by
  simp only [expectReply, raiseForStatus, if_pos h]

theorem expectReply_of_not_mem {outcome : Outcome} {expectedCodes expectedCodes' : List Nat}
    (h : forall reply, outcome = .reply reply -> reply.status ∉ expectedCodes)
    (h' : forall reply, outcome = .reply reply -> reply.status ∉ expectedCodes') :
    exists e, expectReply outcome expectedCodes = .error e ∧
      expectReply outcome expectedCodes' = .error e := by
  cases outcome with
  | socketTimeout => exact ⟨_, rfl, rfl⟩
  | requestException => exact ⟨_, rfl, rfl⟩
  | reply reply =>
      have hsame : raiseForStatus reply expectedCodes' =
          raiseForStatus reply expectedCodes := by
        unfold raiseForStatus
        rw [if_neg (h reply rfl), if_neg (h' reply rfl)]
      cases hraise : expectReply (.reply reply) expectedCodes with
      | error e =>
          refine ⟨e, rfl, ?_⟩
          rw [← hraise]
          unfold expectReply
          dsimp only
          rw [hsame]
      | ok reply' =>
          rcases expectReply_ok hraise with ⟨heq, hmem⟩
          cases heq
          exact absurd hmem (h reply rfl)

theorem invoke_call (hopen : conn.ensureOpen = .ok ()) (answer : Answer)
    (rest : List Answer) :
    conn.invoke settings (.call serviceName request contentType none) clock
        (answer :: rest) =
      (follow settings rest
        (conn.mintRequestId.2.callPosted settings conn.upcoming none answer.outcome
          answer.source answer.clock)).after
        [conn.sending settings serviceName request contentType true] := by
  unfold invoke
  rw [start_call hopen, follow_cons]
  rfl

theorem sendThenGet_accepted (hopen : conn.ensureOpen = .ok ())
    (hfresh : conn.cache.get? conn.upcoming = none) {reply : HttpReply}
    (hstatus : reply.status = 202) (source : TaskId) (clock' : Clock) (answer : Answer)
    (rest : List Answer) :
    conn.sendThenGet settings serviceName request contentType clock
        (⟨.reply reply, source, clock'⟩ :: answer :: rest) =
      (follow settings rest
        (conn.mintRequestId.2.getResponsePolled settings conn.upcoming true none
          answer.outcome answer.source (answer.clock.reading 0))).after
        [conn.sending settings serviceName request contentType false,
          conn.mintRequestId.2.pollCall settings none] := by
  have hsent : conn.mintRequestId.2.sendRequestSent conn.upcoming (.reply reply) =
      (conn.mintRequestId.2, .returned (.requestId conn.upcoming)) := by
    unfold sendRequestSent
    rw [expectReply_of_mem (by simp [hstatus])]
  have hinvoke : conn.invoke settings
      (.sendRequest serviceName request contentType none) clock
        (⟨.reply reply, source, clock'⟩ :: answer :: rest) =
      ⟨[conn.sending settings serviceName request contentType false],
        conn.mintRequestId.2, .returned (.requestId conn.upcoming), answer :: rest⟩ := by
    unfold invoke
    rw [start_sendRequest hopen, follow_cons]
    show (follow settings _ (conn.mintRequestId.2.sendRequestSent _ _)).after _ = _
    rw [hsent, follow_returned]
    rfl
  have hpoll : conn.mintRequestId.2.start settings
      (.getResponse conn.upcoming none) clock =
      (conn.mintRequestId.2, .blocked (conn.mintRequestId.2.pollCall settings none)
        (.getResponse conn.upcoming true none)) :=
    @getResponse_of_uncached settings conn.mintRequestId.2 _ hopen hfresh _ _
  unfold sendThenGet
  rw [hinvoke]
  dsimp only
  unfold invoke
  rw [hpoll, follow_cons, Invocation.after_after]
  rfl

theorem shortens_after {i : Invocation} (post post' poll : HttpCall) :
    (i.after [post]).Shortens (i.after [post', poll]) where
  connection := rfl
  unused := rfl
  ending := rfl
  calls := rfl

theorem shortens_response (hopen : conn.ensureOpen = .ok ())
    (hfresh : conn.cache.get? conn.upcoming = none) {answer : Answer} {reply : HttpReply}
    (houtcome : answer.outcome = .reply reply) (hstatus : reply.status = 200)
    (htyped : reply.contentType.isSome = true) (rest : List Answer) :
    (conn.invoke settings (.call serviceName request contentType none) clock
        (answer :: rest)).Shortens
      (conn.sendThenGet settings serviceName request contentType clock
        (answer.unblocked ++ rest)) := by
  have hunblocked : answer.unblocked ++ rest =
      ⟨.reply (emptyReply 202), answer.source, answer.clock⟩ :: answer :: rest := by
    unfold Answer.unblocked
    rw [houtcome]
    dsimp only
    rw [if_pos hstatus]
    rfl
  rw [hunblocked, invoke_call hopen, sendThenGet_accepted hopen hfresh rfl]
  have hsame : conn.mintRequestId.2.callPosted settings conn.upcoming none answer.outcome
      answer.source answer.clock =
      conn.mintRequestId.2.getResponsePolled settings conn.upcoming true none
        answer.outcome answer.source (answer.clock.reading 0) := by
    unfold callPosted getResponsePolled polled
    rw [houtcome, expectReply_of_mem (by simp [hstatus]),
      expectReply_of_mem (by simp [hstatus])]
    dsimp only
    rw [if_pos hstatus, if_neg (by rw [hstatus]; decide),
      readResponse_typed htyped "application/octet-stream" "application/json"]
    cases readResponse reply "application/json" answer.source with
    | none => rfl
    | some response =>
        dsimp only
        by_cases hid : response.requestId = conn.upcoming
        · rw [if_pos hid, if_pos hid]
        · rw [if_neg hid, if_neg hid, callFallback_forever]
          -- the response is cached under another id, so the fallback polls
          have huncached : ((conn.mintRequestId.2.note (.received response)).cacheResponse
              response).cache.get? conn.upcoming = none := by
            show (conn.cache.set response.requestId response).get? conn.upcoming = none
            rw [Dict.get?_set_of_ne _ _ hid]
            exact hfresh
          exact @getResponse_of_uncached settings
            ((conn.mintRequestId.2.note (.received response)).cacheResponse response) _
            hopen huncached _ _
  rw [hsame]
  exact shortens_after _ _ _

theorem shortens_accepted (hopen : conn.ensureOpen = .ok ())
    (hfresh : conn.cache.get? conn.upcoming = none) {answer : Answer} {reply : HttpReply}
    (houtcome : answer.outcome = .reply reply) (hstatus : reply.status = 202)
    (rest : List Answer) :
    (conn.invoke settings (.call serviceName request contentType none) clock
        (answer :: rest)).Shortens
      (conn.sendThenGet settings serviceName request contentType clock
        (answer.unblocked ++ rest)) := by
  have hunblocked : answer.unblocked ++ rest =
      ⟨.reply reply, answer.source, answer.clock⟩ ::
        Answer.nothing answer.source :: rest := by
    unfold Answer.unblocked
    rcases answer with ⟨outcome, source, clock'⟩
    dsimp only at houtcome
    subst houtcome
    dsimp only
    rw [if_neg (by rw [hstatus]; decide), if_pos hstatus]
    rfl
  rw [hunblocked, invoke_call hopen, sendThenGet_accepted hopen hfresh hstatus]
  have hsame : conn.mintRequestId.2.callPosted settings conn.upcoming none answer.outcome
      answer.source answer.clock =
      conn.mintRequestId.2.getResponsePolled settings conn.upcoming true none
        (Answer.nothing answer.source).outcome answer.source 0 := by
    unfold callPosted
    rw [houtcome, expectReply_of_mem (by simp [hstatus])]
    dsimp only
    rw [if_neg (by rw [hstatus]; decide), callFallback_forever]
    exact @getResponse_of_uncached settings conn.mintRequestId.2 _ hopen hfresh _ _
  rw [hsame]
  exact shortens_after _ _ _

theorem shortens_failed (hopen : conn.ensureOpen = .ok ()) {answer : Answer}
    (hfailed : forall reply, answer.outcome = .reply reply ->
      reply.status ≠ 200 ∧ reply.status ≠ 202) (rest : List Answer) :
    (conn.invoke settings (.call serviceName request contentType none) clock
        (answer :: rest)).Shortens
      (conn.sendThenGet settings serviceName request contentType clock
        (answer.unblocked ++ rest)) := by
  have hunblocked : answer.unblocked ++ rest = answer :: rest := by
    unfold Answer.unblocked
    split
    · rename_i reply houtcome
      rw [if_neg (hfailed reply houtcome).left, if_neg (hfailed reply houtcome).right]
      rfl
    · rfl
    · rfl
  have hraises : exists e, expectReply answer.outcome [200, 202] = .error e ∧
      expectReply answer.outcome [202] = .error e := by
    apply expectReply_of_not_mem
    · intro reply houtcome
      simpa using hfailed reply houtcome
    · intro reply houtcome
      simpa using (hfailed reply houtcome).right
  rcases hraises with ⟨e, hcall, hsend⟩
  have hsent : conn.invoke settings
      (.sendRequest serviceName request contentType none) clock (answer :: rest) =
      ⟨[conn.sending settings serviceName request contentType false],
        conn.mintRequestId.2, .raised e, rest⟩ := by
    unfold invoke
    rw [start_sendRequest hopen, follow_cons]
    show (follow settings _ (conn.mintRequestId.2.sendRequestSent _ _)).after _ = _
    unfold sendRequestSent
    rw [hsend, follow_raised]
    rfl
  rw [hunblocked, invoke_call hopen]
  unfold callPosted sendThenGet
  rw [hcall, hsent]
  dsimp only
  rw [follow_raised]
  exact ⟨rfl, rfl, rfl, rfl⟩

/-- Without a deadline, `call` is `send_request` and then `get_response` with one round
trip less: on corresponding answers both end in the same way and leave the same
connection, and they make the same calls after the first response is due. -/
theorem call_shortens (settings : Settings) (serviceName : String) (request : Payload)
    (contentType : String) (clock : Clock) (answer : Answer) (rest : List Answer)
    (conn : ClientConnection) (hopen : conn.closed = false)
    (hfresh : conn.cache.get? conn.upcoming = none) (htyped : answer.Typed) :
    (conn.invoke settings (.call serviceName request contentType none) clock
        (answer :: rest)).Shortens
      (conn.sendThenGet settings serviceName request contentType clock
        (answer.unblocked ++ rest)) := by
  have hopen' : conn.ensureOpen = .ok () := by
    unfold ensureOpen
    rw [hopen]
    rfl
  by_cases hresponse : exists reply, answer.outcome = .reply reply ∧ reply.status = 200
  · rcases hresponse with ⟨reply, houtcome, hstatus⟩
    exact shortens_response hopen' hfresh houtcome hstatus
      (htyped reply houtcome hstatus) rest
  · by_cases haccepted : exists reply, answer.outcome = .reply reply ∧ reply.status = 202
    · rcases haccepted with ⟨reply, houtcome, hstatus⟩
      exact shortens_accepted hopen' hfresh houtcome hstatus rest
    · apply shortens_failed hopen'
      intro reply houtcome
      exact ⟨fun h => hresponse ⟨reply, houtcome, h⟩,
        fun h => haccepted ⟨reply, houtcome, h⟩⟩

def stale : Answer where
  outcome := .reply
    { emptyReply 200 with xPypeRequestId := some [50], contentType := some [] }
  source := 0
  clock := Clock.constant 0

theorem call_shortens_stale :
    ((ClientConnection.open "c" "t").invoke Settings.default
        (.call "s" (.raw []) "text/plain" none) (Clock.constant 0)
        [stale, .bringing [49] 1]).Shortens
      ((ClientConnection.open "c" "t").sendThenGet Settings.default "s" (.raw [])
        "text/plain" (Clock.constant 0) (stale.unblocked ++ [.bringing [49] 1])) :=
  call_shortens Settings.default "s" (.raw []) "text/plain" (Clock.constant 0) stale
    [.bringing [49] 1] (ClientConnection.open "c" "t") rfl rfl
    (by
      intro reply houtcome _
      cases houtcome
      rfl)

end

end ClientConnection

end Client
end Pype
