import Pype.Client.ClientConnection

/-!
# Turns

A turn of a client's connection is a stretch from a call of its caller, or from the
outcome of an HTTP call, to the next HTTP call or to the end of the operation.  What a
turn can do is said here once, and what holds of a connection is derived from it.
-/

namespace Pype
namespace Client

open Foundation Server

/-!
## Calls and frames
-/

def Operation.Sends (operation : Operation) (name : String) : Prop :=
  match operation with
  | .sendRequest serviceName _ _ _ => name = serviceName
  | .call serviceName _ _ _ => name = serviceName
  | _ => False

structure HttpCall.IsPoll (clientId : String) (call : HttpCall) : Prop where
  method : call.method = .get
  path : call.path = ["clients", clientId]
  requestId : call.requestId = none
  contentType : call.contentType = none

structure HttpCall.IsPost (services : String -> Prop) (call : HttpCall) : Prop where
  method : call.method = .post
  path : exists serviceName, services serviceName ∧ call.path = ["services", serviceName]
  requestId : exists n : Nat, call.requestId = some (toString n)
  contentType : call.contentType.isSome = true

structure HttpCall.IsLogoff (call : HttpCall) : Prop where
  method : call.method = .delete
  path : call.path = ["auth", "client"]
  requestId : call.requestId = none
  contentType : call.contentType = none
  timeout : call.timeout = none

def HttpCall.Waits (call : HttpCall) : Prop :=
  call.method = .get ∨ call.block = true

/-- The call that an operation waits for in a frame. -/
def Frame.Fits (call : HttpCall) : Frame -> Prop
  | .sendRequest _ => call.method = .post ∧ call.block = false
  | .call .. => call.method = .post ∧ call.block = true
  | .getResponse .. => call.method = .get
  | .collect .. => call.method = .get
  | .close => call.method = .delete ∧ call.block = false

/-- The statuses that an operation expects in a frame. -/
def Frame.expectedCodes : Frame -> List Nat
  | .sendRequest _ => [202]
  | .call .. => [200, 202]
  | .getResponse .. => [200, 204]
  | .collect .. => [200, 204]
  | .close => []

/-- An operation in the frame is after a response. -/
def Frame.Waits : Frame -> Prop
  | .call .. => True
  | .getResponse .. => True
  | .collect .. => True
  | _ => False

def Frame.Polls : Frame -> Prop
  | .getResponse .. => True
  | .collect .. => True
  | _ => False

theorem Frame.Polls.fits {frame : Frame} {call : HttpCall} (h : frame.Polls)
    (hmethod : call.method = .get) : frame.Fits call := by
  cases frame with
  | getResponse requestId infinite deadline => exact hmethod
  | collect collector wanted infinite deadline => exact hmethod
  | sendRequest _ | call _ _ | close => cases h

theorem Frame.Fits.waits {frame : Frame} {call : HttpCall} (h : frame.Fits call)
    (hwaits : frame.Waits) : call.Waits := by
  cases frame with
  | call requestId deadline => exact Or.inr h.right
  | getResponse requestId infinite deadline => exact Or.inl h
  | collect collector wanted infinite deadline => exact Or.inl h
  | sendRequest _ | close => cases hwaits

/-!
## What comes in
-/

/-- The response in a 200, if the reply says which request it answers. -/
def Outcome.response? (defaultContentType : String) (source : TaskId) :
    Outcome -> Option ServiceResponse
  | .reply answer =>
      if answer.status = 200 then
        ClientConnection.readResponse answer defaultContentType source
      else none
  | .socketTimeout => none
  | .requestException => none

/-- The response that the outcome of a call brings: only a poll and a `block=1` POST are
answered with one. -/
def HttpCall.response? (call : HttpCall) (outcome : Outcome) (source : TaskId) :
    Option ServiceResponse :=
  if call.method = .get then outcome.response? "application/json" source
  else if call.block then outcome.response? "application/octet-stream" source
  else none

/-- The response that a frame receives with an outcome. -/
def Frame.response? (frame : Frame) (outcome : Outcome) (source : TaskId) :
    Option ServiceResponse :=
  match frame with
  | .call .. => outcome.response? "application/octet-stream" source
  | .getResponse .. => outcome.response? "application/json" source
  | .collect .. => outcome.response? "application/json" source
  | _ => none

/-- A frame receives what the outcome of its call brings. -/
theorem Frame.Fits.response? {frame : Frame} {call : HttpCall} (h : frame.Fits call)
    (outcome : Outcome) (source : TaskId) :
    frame.response? outcome source = call.response? outcome source := by
  cases frame with
  | sendRequest requestId => simp [Frame.response?, HttpCall.response?, h.left, h.right]
  | call requestId deadline => simp [Frame.response?, HttpCall.response?, h.left, h.right]
  | getResponse requestId infinite deadline =>
      have hmethod : call.method = .get := h
      simp [Frame.response?, HttpCall.response?, hmethod]
  | collect collector wanted infinite deadline =>
      have hmethod : call.method = .get := h
      simp [Frame.response?, HttpCall.response?, hmethod]
  | close => simp [Frame.response?, HttpCall.response?, h.left, h.right]

theorem Frame.response?_some {frame : Frame} {outcome : Outcome} {source : TaskId}
    {r : ServiceResponse} (h : frame.response? outcome source = some r) :
    frame.Waits ∧ exists reply default, outcome = .reply reply ∧ reply.status = 200 ∧
      ClientConnection.readResponse reply default source = some r := by
  have hread : forall {default}, outcome.response? default source = some r ->
      exists reply default, outcome = .reply reply ∧ reply.status = 200 ∧
        ClientConnection.readResponse reply default source = some r := by
    intro default hsome
    cases outcome with
    | reply reply =>
        simp only [Outcome.response?] at hsome
        split at hsome
        · rename_i hstatus
          exact ⟨reply, default, rfl, hstatus, hsome⟩
        · cases hsome
    | socketTimeout => cases hsome
    | requestException => cases hsome
  cases frame with
  | call requestId deadline => exact ⟨trivial, hread h⟩
  | getResponse requestId infinite deadline => exact ⟨trivial, hread h⟩
  | collect collector wanted infinite deadline => exact ⟨trivial, hread h⟩
  | sendRequest _ | close => cases h

theorem Frame.response?_of_not_waits {frame : Frame} (h : ¬ frame.Waits)
    (outcome : Outcome) (source : TaskId) : frame.response? outcome source = none := by
  rw [Option.eq_none_iff_forall_ne_some]
  intro r hr
  exact h (Frame.response?_some hr).left

theorem Frame.response?_source {frame : Frame} {outcome : Outcome} {source : TaskId}
    {r : ServiceResponse} (h : frame.response? outcome source = some r) :
    r.source = source := by
  rcases Frame.response?_some h with ⟨_, reply, default, _, _, hread⟩
  rcases Option.map_eq_some_iff.mp hread with ⟨_, _, rfl⟩
  rfl

/-- What a frame raises for an outcome: the status is not expected, or a response does
not say which request it answers. -/
inductive Frame.Refuses (frame : Frame) (outcome : Outcome) : PypeError -> Prop where
  | status {error : PypeError}
      (h : expectReply outcome frame.expectedCodes = .error error) :
      Refuses frame outcome error
  | header {reply : HttpReply} {detail : String} (houtcome : outcome = .reply reply)
      (hstatus : reply.status = 200) (hheader : reply.xPypeRequestId = none) :
      Refuses frame outcome (.protocolError detail)

theorem Frame.Refuses.response? {frame : Frame} {outcome : Outcome} {error : PypeError}
    (h : frame.Refuses outcome error) (source : TaskId) :
    frame.response? outcome source = none := by
  rw [Option.eq_none_iff_forall_ne_some]
  intro r hsome
  rcases Frame.response?_some hsome with ⟨hwaits, reply, default, rfl, hstatus, hread⟩
  cases h with
  | status herror =>
      have hexpected : reply.status ∈ frame.expectedCodes := by
        cases frame with
        | sendRequest _ | close => cases hwaits
        | call _ _ | getResponse _ _ _ | collect _ _ _ _ =>
            rw [hstatus]
            exact List.mem_cons_self
      simp [expectReply, raiseForStatus, hexpected] at herror
  | header houtcome _ hheader =>
      cases houtcome
      simp [ClientConnection.readResponse, hheader] at hread

/-- The responses that an operation is about to return, each with its id. -/
def Returned.responsesOf : Returned -> List (String × ServiceResponse)
  | .requestId _ => []
  | .response asked value => [(asked, value)]
  | .responses values => values.entries
  | .nothing => []

def Progress.pending : Progress -> List (String × ServiceResponse)
  | .returned value => value.responsesOf
  | _ => []

namespace ClientConnection

/-- The connection after it has cached what came in. -/
def takeIn (conn : ClientConnection) : Option ServiceResponse -> ClientConnection
  | none => conn
  | some response => (conn.note (.received response)).cacheResponse response

/-!
## What a turn can do
-/

/-- What a turn does once nothing more comes in: it looks into the cache and, unless it
is too late, polls. -/
inductive Searches (conn : ClientConnection) : ClientConnection × Progress -> Prop where
  | polls {call : HttpCall} {frame : Frame} (hcall : call.IsPoll conn.clientId)
      (hframe : frame.Polls) : Searches conn (conn, .blocked call frame)
  | popped {key : String} {response : ServiceResponse}
      (hget : conn.cache.get? key = some response) :
      Searches conn (conn.popResponse key, .returned (.response key response))
  | collected (wanted : Wanted) : Searches conn (conn.collected wanted)
  | late (detail : String) : Searches conn (conn, .raised (.timeoutError detail))
  | closed {error : PypeError} (hclosed : conn.closed = true) :
      Searches conn (conn, .raised error)

/-- What the first turn of an operation does. -/
inductive Starts (operation : Operation) (conn : ClientConnection) :
    ClientConnection × Progress -> Prop where
  | refuses (error : PypeError) : Starts operation conn (conn, .raised error)
  | searches {result : ClientConnection × Progress} (h : Searches conn result) :
      Starts operation conn result
  | posts {call : HttpCall} {frame : Frame} (hopen : conn.closed = false)
      (hcall : call.IsPost operation.Sends) (hframe : frame.Fits call)
      (hid : call.requestId = some conn.mintRequestId.1) :
      Starts operation conn (conn.mintRequestId.2, .blocked call frame)
  | leaves {call : HttpCall} (hopen : conn.closed = false) (hcall : call.IsLogoff)
      (hframe : Frame.Fits call .close) :
      Starts operation conn ({ conn with closed := true }, .blocked call .close)
  | left : Starts operation conn (conn, .returned .nothing)

/-- What a later turn of an operation does. -/
inductive Resumes (frame : Frame) (outcome : Outcome) (source : TaskId)
    (conn : ClientConnection) : ClientConnection × Progress -> Prop where
  | refuses {error : PypeError} (h : frame.Refuses outcome error) :
      Resumes frame outcome source conn (conn, .raised error)
  | returns {value : Returned} (hframe : ¬ frame.Waits)
      (hvalue : value.responsesOf = []) :
      Resumes frame outcome source conn (conn, .returned value)
  | answers {response : ServiceResponse}
      (h : frame.response? outcome source = some response) :
      Resumes frame outcome source conn
        (conn.note (.received response),
          .returned (.response response.requestId response))
  | searches {reply : HttpReply} {result : ClientConnection × Progress}
      (hframe : frame.Waits) (hreply : expectReply outcome frame.expectedCodes = .ok reply)
      (h : Searches (conn.takeIn (frame.response? outcome source)) result) :
      Resumes frame outcome source conn result

section

variable {settings : Settings} {conn : ClientConnection}

theorem ensureOpen_ok {u : Unit} (h : conn.ensureOpen = .ok u) : conn.closed = false := by
  unfold ensureOpen at h
  split at h
  · cases h
  · rename_i hopen
    exact Bool.eq_false_of_not_eq_true hopen

theorem ensureOpen_error {e : PypeError} (h : conn.ensureOpen = .error e) :
    conn.closed = true := by
  unfold ensureOpen at h
  split at h
  · rename_i hclosed
    exact hclosed
  · cases h

/-!
## Polls
-/

def pollCall (settings : Settings) (remaining : Option Int)
    (conn : ClientConnection) : HttpCall where
  method := .get
  path := ["clients", conn.clientId]
  requestId := none
  timeout := remaining
  block := false
  contentType := none
  body := []
  timeoutSeconds := httpTimeoutSeconds remaining settings.networkBufferMs

/-- A poll is made, unless its budget has gone negative. -/
theorem pollOne_cases (settings : Settings) (remaining : Option Int) (frame : Frame)
    (conn : ClientConnection) :
    ((forall ms, ms ∈ remaining -> 0 ≤ ms) ∧
        conn.pollOne settings remaining frame =
          .blocked (conn.pollCall settings remaining) frame) ∨
      (exists ms, remaining = some ms ∧ ms < 0 ∧
        conn.pollOne settings remaining frame =
          .raised (.timeoutError "local deadline elapsed")) := by
  cases remaining with
  | none =>
      refine Or.inl ⟨?_, rfl⟩
      intro ms hms
      cases hms
  | some ms =>
      by_cases hneg : ms < 0
      · refine Or.inr ⟨ms, rfl, hneg, ?_⟩
        unfold pollOne
        exact if_pos hneg
      · refine Or.inl ⟨?_, ?_⟩
        · intro ms' hms'
          cases hms'
          exact not_lt.mp hneg
        · unfold pollOne
          exact if_neg hneg

theorem searches_pollOne (remaining : Option Int) {frame : Frame} (hframe : frame.Polls) :
    Searches conn (conn, conn.pollOne settings remaining frame) := by
  rcases pollOne_cases settings remaining frame conn with
    ⟨_, heq⟩ | ⟨ms, _, _, heq⟩
  · rw [heq]
    exact Searches.polls ⟨rfl, rfl, rfl, rfl⟩ hframe
  · rw [heq]
    exact Searches.late _

theorem searches_getResponse (requestId : String) (timeout : Option Int)
    (deadlineAt remainingAt : Time) :
    Searches conn
      (conn.getResponse settings requestId timeout deadlineAt remainingAt) := by
  unfold getResponse
  split
  · rename_i hensure
    exact Searches.closed (ensureOpen_error hensure)
  · split
    · rename_i hget
      exact Searches.popped hget
    · exact searches_pollOne _ trivial

theorem searches_callFallback (requestId : String) (deadline : Option Time)
    (remainingAt deadlineAt pollAt : Time) :
    Searches conn (conn.callFallback settings requestId deadline remainingAt
      deadlineAt pollAt) := by
  unfold callFallback
  split
  · exact searches_getResponse _ _ _ _
  · split
    · exact Searches.late _
    · exact searches_getResponse _ _ _ _

/-!
## The two cases lemmas
-/

theorem start_cases (operation : Operation) (clock : Clock) :
    Starts operation conn (conn.start settings operation clock) := by
  cases operation with
  | sendRequest serviceName request contentType timeout =>
      unfold start sendRequest
      dsimp only
      split
      · exact Starts.refuses _
      · rename_i hensure
        exact Starts.posts (ensureOpen_ok hensure)
          ⟨rfl, ⟨serviceName, rfl, rfl⟩, ⟨conn.nextRequestId + 1, rfl⟩, rfl⟩
          ⟨rfl, rfl⟩ rfl
  | call serviceName request contentType timeout =>
      unfold start ClientConnection.call
      dsimp only
      split
      · exact Starts.refuses _
      · rename_i hensure
        exact Starts.posts (ensureOpen_ok hensure)
          ⟨rfl, ⟨serviceName, rfl, rfl⟩, ⟨conn.nextRequestId + 1, rfl⟩, rfl⟩
          ⟨rfl, rfl⟩ rfl
  | getResponse requestId timeout =>
      exact Starts.searches (searches_getResponse requestId timeout _ _)
  | collect collector requestIds timeout =>
      unfold start collect
      dsimp only
      split
      · exact Starts.refuses _
      · split
        · exact Starts.refuses _
        · apply Starts.searches
          split
          · exact Searches.collected _
          · exact searches_pollOne _ trivial
  | close =>
      unfold start close
      dsimp only
      split
      · exact Starts.left
      · rename_i hopen
        exact Starts.leaves (Bool.eq_false_of_not_eq_true hopen)
          ⟨rfl, rfl, rfl, rfl, rfl⟩ ⟨rfl, rfl⟩

theorem polled_cases (frame : Frame) (outcome : Outcome) (source : TaskId)
    (hframe : frame.Polls) :
    (exists error, polled outcome source = .error error ∧ frame.Refuses outcome error) ∨
      (exists reply, expectReply outcome frame.expectedCodes = .ok reply ∧
        polled outcome source = .ok (frame.response? outcome source)) := by
  have hcodes : frame.expectedCodes = [200, 204] := by
    cases frame with
    | getResponse _ _ _ | collect _ _ _ _ => rfl
    | sendRequest _ | call _ _ | close => cases hframe
  have hresponse : frame.response? outcome source =
      outcome.response? "application/json" source := by
    cases frame with
    | getResponse _ _ _ | collect _ _ _ _ => rfl
    | sendRequest _ | call _ _ | close => cases hframe
  unfold polled
  rw [hcodes, hresponse]
  cases hreply : expectReply outcome [200, 204] with
  | error error =>
      left
      refine ⟨error, rfl, Frame.Refuses.status ?_⟩
      rw [hcodes]
      exact hreply
  | ok reply =>
      rcases expectReply_ok hreply with ⟨rfl, hstatus⟩
      dsimp only
      by_cases h204 : reply.status = 204
      · right
        exact ⟨reply, rfl, by simp [Outcome.response?, h204]⟩
      · have h200 : reply.status = 200 := by simpa [h204] using hstatus
        rw [if_neg h204]
        cases hread : readResponse reply "application/json" source with
        | none =>
            left
            refine ⟨_, rfl, Frame.Refuses.header rfl h200 ?_⟩
            exact Option.map_eq_none_iff.mp hread
        | some response =>
            right
            exact ⟨reply, rfl, by simp [Outcome.response?, h200, hread]⟩

theorem resume_cases (frame : Frame) (outcome : Outcome) (source : TaskId)
    (clock : Clock) :
    Resumes frame outcome source conn
      (conn.resume settings frame outcome source clock) := by
  cases frame with
  | sendRequest requestId =>
      unfold resume sendRequestSent
      dsimp only
      split
      · rename_i hreply
        exact Resumes.refuses (Frame.Refuses.status hreply)
      · exact Resumes.returns id rfl
  | call requestId deadline =>
      have hwaits : Frame.Waits (.call requestId deadline) := trivial
      unfold resume callPosted
      dsimp only
      cases hreply : expectReply outcome [200, 202] with
      | error error => exact Resumes.refuses (Frame.Refuses.status hreply)
      | ok reply =>
          rcases expectReply_ok hreply with ⟨rfl, _⟩
          dsimp only
          split
          · rename_i hstatus
            split
            · rename_i hread
              apply Resumes.refuses
              exact Frame.Refuses.header rfl hstatus (Option.map_eq_none_iff.mp hread)
            · rename_i response hread
              have hsome : Frame.response? (.call requestId deadline) (.reply reply)
                  source = some response := by
                simp [Frame.response?, Outcome.response?, hstatus, hread]
              split
              · rename_i hid
                subst hid
                exact Resumes.answers hsome
              · apply Resumes.searches hwaits hreply
                rw [hsome]
                exact searches_callFallback _ _ _ _ _
          · rename_i hstatus
            have hnone : Frame.response? (.call requestId deadline) (.reply reply)
                source = none := by
              simp [Frame.response?, Outcome.response?, hstatus]
            apply Resumes.searches hwaits hreply
            rw [hnone]
            exact searches_callFallback _ _ _ _ _
  | getResponse requestId infinite deadline =>
      have hwaits : Frame.Waits (.getResponse requestId infinite deadline) := trivial
      unfold resume getResponsePolled
      dsimp only
      rcases polled_cases (.getResponse requestId infinite deadline) outcome source
          trivial with
        ⟨error, hpolled, herror⟩ | ⟨reply, hreply, hpolled⟩
      · rw [hpolled]
        exact Resumes.refuses herror
      · rw [hpolled]
        cases hsome : Frame.response? (.getResponse requestId infinite deadline) outcome
            source with
        | none =>
            apply Resumes.searches hwaits hreply
            rw [hsome]
            dsimp only
            split
            · exact Searches.late _
            · exact searches_pollOne _ trivial
        | some response =>
            dsimp only
            split
            · rename_i hid
              subst hid
              exact Resumes.answers hsome
            · apply Resumes.searches hwaits hreply
              rw [hsome]
              exact searches_pollOne _ trivial
  | collect collector wanted infinite deadline =>
      have hwaits : Frame.Waits (.collect collector wanted infinite deadline) := trivial
      unfold resume collectPolled
      dsimp only
      rcases polled_cases (.collect collector wanted infinite deadline) outcome source
          trivial with
        ⟨error, hpolled, herror⟩ | ⟨reply, hreply, hpolled⟩
      · rw [hpolled]
        exact Resumes.refuses herror
      · rw [hpolled]
        apply Resumes.searches hwaits hreply
        cases Frame.response? (.collect collector wanted infinite deadline) outcome
            source with
        | none =>
            dsimp only
            split
            · exact Searches.late _
            · exact searches_pollOne _ trivial
        | some response =>
            dsimp only
            split
            · exact Searches.collected _
            · exact searches_pollOne _ trivial
  | close => exact Resumes.returns id rfl

/-!
## What a search leaves alone
-/

theorem Searches.keeps {result : ClientConnection × Progress} (h : Searches conn result)
    {value : Type} (see : ClientConnection -> value)
    (hpop : forall requestId conn, see (popResponse requestId conn) = see conn) :
    see result.1 = see conn := by
  cases h with
  | polls hcall hframe => rfl
  | popped hget => exact hpop _ _
  | collected wanted => exact popMatching_keeps see hpop wanted.ids conn Dict.empty
  | late detail => rfl
  | closed hclosed => rfl

theorem Searches.blocked {result : ClientConnection × Progress} (h : Searches conn result)
    {call : HttpCall} {frame : Frame} (hblocked : result.2 = .blocked call frame) :
    call.IsPoll conn.clientId ∧ frame.Polls := by
  cases h with
  | polls hcall hframe =>
      cases hblocked
      exact ⟨hcall, hframe⟩
  | popped hget => cases hblocked
  | collected wanted => cases hblocked
  | late detail => cases hblocked
  | closed hclosed => cases hblocked

theorem Starts.keeps {operation : Operation} {result : ClientConnection × Progress}
    (h : Starts operation conn result) {value : Type} (see : ClientConnection -> value)
    (hpop : forall requestId conn, see (popResponse requestId conn) = see conn)
    (hmint : forall conn, see (mintRequestId conn).2 = see conn)
    (hclose : forall conn, see { conn with closed := true } = see conn) :
    see result.1 = see conn := by
  cases h with
  | refuses error => rfl
  | searches h => exact h.keeps see hpop
  | posts hopen hcall hframe hid => exact hmint conn
  | leaves hopen hcall hframe => exact hclose conn
  | left => rfl

theorem takeIn_keeps (conn : ClientConnection) (came : Option ServiceResponse)
    {value : Type} (see : ClientConnection -> value)
    (hcache : forall response conn,
      see ((note (.received response) conn).cacheResponse response) = see conn) :
    see (conn.takeIn came) = see conn := by
  cases came with
  | none => rfl
  | some response => exact hcache response conn

/-- Any later turn leaves alone what caching and popping leave alone, and what it waits
for is a poll. -/
theorem Resumes.keeps {frame : Frame} {outcome : Outcome} {source : TaskId}
    {result : ClientConnection × Progress} (h : Resumes frame outcome source conn result)
    {value : Type} (see : ClientConnection -> value)
    (hpop : forall requestId conn, see (popResponse requestId conn) = see conn)
    (hnote : forall entry conn, see (note entry conn) = see conn)
    (hcache : forall response conn, see (cacheResponse response conn) = see conn) :
    see result.1 = see conn := by
  cases h with
  | refuses h => rfl
  | returns hframe hvalue => rfl
  | answers h => exact hnote _ conn
  | searches hframe hreply h =>
      rw [h.keeps see hpop, takeIn_keeps conn _ see]
      intro response conn
      rw [hcache, hnote]

theorem Resumes.blocked {frame : Frame} {outcome : Outcome} {source : TaskId}
    {result : ClientConnection × Progress} (h : Resumes frame outcome source conn result)
    {call : HttpCall} {frame' : Frame} (hblocked : result.2 = .blocked call frame') :
    call.IsPoll conn.clientId ∧ frame'.Polls := by
  cases h with
  | refuses h => cases hblocked
  | returns hframe hvalue => cases hblocked
  | answers h => cases hblocked
  | searches hframe hreply h =>
      have hpoll := h.blocked hblocked
      rw [takeIn_keeps conn _ ClientConnection.clientId (fun _ _ => rfl)] at hpoll
      exact hpoll

/-- A turn that waits for a call waits in a frame that fits it. -/
def Fitting (progress : Progress) : Prop :=
  forall call frame, progress = .blocked call frame -> frame.Fits call

theorem fitting_start (operation : Operation) (clock : Clock) :
    Fitting (conn.start settings operation clock).2 := by
  intro call frame hblocked
  have hcases := @start_cases settings conn operation clock
  generalize conn.start settings operation clock = result at hcases hblocked
  cases hcases with
  | refuses error => cases hblocked
  | searches hsearch =>
      rcases hsearch.blocked hblocked with ⟨hcall, hframe⟩
      exact hframe.fits hcall.method
  | posts hopen hcall hframe hid =>
      cases hblocked
      exact hframe
  | leaves hopen hcall hframe =>
      cases hblocked
      exact hframe
  | left => cases hblocked

theorem fitting_resume (frame : Frame) (outcome : Outcome) (source : TaskId)
    (clock : Clock) : Fitting (conn.resume settings frame outcome source clock).2 := by
  intro call frame' hblocked
  rcases (resume_cases frame outcome source clock).blocked hblocked with ⟨hcall, hframe⟩
  exact hframe.fits hcall.method

end

end ClientConnection

end Client
end Pype
