import Pype.Client.Errors
import Pype.System.Parties

/-!
# What a reply can raise

When the reply to a call of a client or a worker arrives, the operation that waits for it
raises few of the exceptions that the library knows: the server refuses no token, expects
no other path, and sends every header that the library reads.
-/

namespace Pype
namespace System

open Foundation Server

def InRange (cfg : Server.Settings) (timeout : Option Int) : Prop :=
  forall ms, timeout = some ms -> 0 ≤ ms ∧ ms ≤ cfg.maxTimeoutMs

inductive Told (cfg : Server.Settings) (call : Client.HttpCall) (reply : HttpReply) :
    Client.PypeError -> Prop where
  | outOfRange {ms : Int} (hasked : call.timeout = some ms)
      (hrange : ms < 0 ∨ cfg.maxTimeoutMs < ms)
      (htext : forall python text, Client.describe python text reply =
        "400 " ++ s!"timeout must be in [0, {cfg.maxTimeoutMs}] ms; got {ms}") :
      Told cfg call reply (.badRequestError reply)
  | full (hrange : InRange cfg call.timeout) (hposts : call.method = .post) :
      Told cfg call reply (.queueTimeoutError reply)
  | unsendable (hrange : InRange cfg call.timeout) (hwaits : call.Waits)
      (hstatus : reply.status = 500) :
      Told cfg call reply (.statusProtocolError reply)
  | late {detail : String} (hrange : InRange cfg call.timeout) (hwaits : call.Waits) :
      Told cfg call reply (.timeoutError detail)

theorem refuseTimeout_cases (cfg : Server.Settings) (timeout : Option Int) :
    (exists ms, timeout = some ms ∧ (ms < 0 ∨ cfg.maxTimeoutMs < ms) ∧
      refuseTimeout cfg timeout = .refused (.timeoutOutOfRangeError
        s!"timeout must be in [0, {cfg.maxTimeoutMs}] ms; got {ms}")) ∨
    (InRange cfg timeout ∧ refuseTimeout cfg timeout = .admitted) := by
  cases timeout with
  | none =>
      refine Or.inr ⟨?_, rfl⟩
      intro ms h
      cases h
  | some ms =>
      by_cases hrange : ms < 0 ∨ cfg.maxTimeoutMs < ms
      · refine Or.inl ⟨ms, rfl, hrange, ?_⟩
        rw [refuseTimeout, normalizeTimeout]
        simp only [if_pos hrange]
      · refine Or.inr ⟨?_, ?_⟩
        · intro ms' h
          cases h
          omega
        · rw [refuseTimeout, normalizeTimeout]
          simp only [if_neg hrange]

/-!
## What the server answers
-/

def Reaches (call : Client.HttpCall) : Endpoint -> Prop
  | .postRequest params => call.method = .post ∧ params.block = call.block
  | .getRequest .. => call.AsksForRequest
  | .postResponse _ => call.method = .post
  | .getResponse .. => call.method = .get ∧ ¬ call.AsksForRequest
  | .clientLogoff => call.method = .delete
  | .serviceAuth _ | .clientAuth _ | .servicesLoad => False

theorem reaches_of_endpointOf {header : HeaderTransport} {call : Client.HttpCall}
    {endpoint : Endpoint} (h : endpointOf header call = some endpoint) :
    Reaches call endpoint := by
  unfold endpointOf at h
  split at h
  · rename_i hmethod _ _ _
    rcases Option.map_eq_some_iff.mp h with ⟨_, _, rfl⟩
    exact ⟨hmethod, rfl⟩
  · rename_i hmethod hpath _ _
    cases h
    exact ⟨hmethod, by rw [hpath]; rfl⟩
  · rename_i hmethod _ _ _
    rcases Option.map_eq_some_iff.mp h with ⟨_, _, rfl⟩
    exact hmethod
  · rename_i hmethod hpath _ _
    cases h
    constructor
    · exact hmethod
    · intro hasks
      rw [Client.HttpCall.AsksForRequest, hpath] at hasks
      simp at hasks
  · rename_i hmethod _ _ _
    cases h
    exact hmethod
  · cases h

inductive Answer (call : Client.HttpCall) : HttpReply -> Prop where
  | accepted (hmethod : call.method = .post) : Answer call (emptyReply 202)
  | full (hmethod : call.method = .post) : Answer call (emptyReply 503)
  | nothing (hmethod : call.method = .get) : Answer call (emptyReply 204)
  | request {item : PypeRequest} (hasks : call.AsksForRequest) :
      Answer call (requestReply item)
  | response {item : PypeResponse} (hwaits : call.Waits)
      (hnot : ¬ call.AsksForRequest) : Answer call (responseReply item)
  | loggedOff {reply : HttpReply} (hmethod : call.method = .delete) : Answer call reply

theorem answer_of_finished {cfg : Server.Settings} {jwt : Jwt} {task : TaskId}
    {request : HttpRequest} {records : List Record} {reply : HttpReply}
    {call : Client.HttpCall} (hreaches : Reaches call request.endpoint)
    (h : Finished cfg jwt task request records reply) (hadmits : Admits reply) :
    Answer call reply := by
  cases h with
  | refused hstatus =>
      unfold Admits at hadmits
      rcases hstatus with hstatus | hstatus | hstatus | hstatus <;>
        simp [hstatus] at hadmits
  | requestNotTaken hwho =>
      rw [hwho.left] at hreaches
      exact .full hreaches.left
  | requestAccepted hwho =>
      rw [hwho.left] at hreaches
      exact .accepted hreaches.left
  | requestResponded hwho hblock =>
      rw [hwho.left] at hreaches
      refine .response (Or.inr (hreaches.right.symm.trans hblock)) ?_
      intro hasks
      cases hreaches.left.symm.trans hasks.left
  | noRequest hwho =>
      rcases hwho.left with ⟨timeout, hendpoint⟩
      rw [hendpoint] at hreaches
      exact .nothing hreaches.left
  | requestDelivered hwho =>
      rcases hwho.left with ⟨timeout, hendpoint⟩
      rw [hendpoint] at hreaches
      exact .request hreaches
  | responseNotTaken hwho =>
      rw [hwho.left] at hreaches
      exact .full hreaches
  | responseAccepted hwho =>
      rw [hwho.left] at hreaches
      exact .accepted hreaches
  | noResponse hwho =>
      rcases hwho.left with ⟨timeout, hendpoint⟩
      rw [hendpoint] at hreaches
      exact .nothing hreaches.left
  | responseDelivered hwho =>
      rcases hwho.left with ⟨timeout, hendpoint⟩
      rw [hendpoint] at hreaches
      exact .response (Or.inl hreaches.left) hreaches.right
  | administered hroute =>
      rcases hroute with hroute | ⟨name, hroute⟩ | ⟨name, hroute⟩ | hroute <;>
        rw [hroute] at hreaches
      · exact .loggedOff hreaches
      · exact hreaches.elim
      · exact hreaches.elim
      · exact hreaches.elim

/-!
## What a reply tells
-/

/-- The statuses that an operation must expect for its call. -/
structure Expects (call : Client.HttpCall) (expectedCodes : List Nat) : Prop where
  stays : call.method ≠ .delete
  posts : call.method = .post -> 202 ∈ expectedCodes
  polls : call.method = .get -> 204 ∈ expectedCodes
  waits : call.Waits -> 200 ∈ expectedCodes
  refused : 400 ∉ expectedCodes

theorem expects_of_fits {frame : Client.Frame} {call : Client.HttpCall}
    (hfits : frame.Fits call) (hframe : frame ≠ .close) :
    Expects call frame.expectedCodes := by
  cases frame with
  | sendRequest requestId =>
      constructor <;>
        simp [Client.Frame.expectedCodes, Client.HttpCall.Waits, hfits.left, hfits.right]
  | call requestId deadline =>
      constructor <;>
        simp [Client.Frame.expectedCodes, hfits.left]
  | getResponse requestId infinite deadline =>
      have hmethod : call.method = .get := hfits
      constructor <;> simp [Client.Frame.expectedCodes, hmethod]
  | collect collector wanted infinite deadline =>
      have hmethod : call.method = .get := hfits
      constructor <;> simp [Client.Frame.expectedCodes, hmethod]
  | close => exact absurd rfl hframe

theorem expects_of_fits_worker {frame : Client.ServiceConnection.Frame}
    {call : Client.HttpCall} (hfits : frame.Fits call) :
    Expects call frame.expectedCodes := by
  cases frame with
  | getRequest =>
      constructor <;> simp [Client.ServiceConnection.Frame.expectedCodes, hfits.left]
  | sendResponse =>
      constructor <;>
        simp [Client.ServiceConnection.Frame.expectedCodes, Client.HttpCall.Waits,
          hfits.left, hfits.right]

theorem Answer.headers {call : Client.HttpCall} {reply : HttpReply}
    (h : Answer call reply) (hstays : call.method ≠ .delete)
    (hstatus : reply.status = 200) :
    reply.xPypeRequestId ≠ none ∧ (call.AsksForRequest -> reply.xPypeClientId ≠ none) := by
  cases h with
  | accepted | full | nothing => simp [emptyReply] at hstatus
  | @request item hasks =>
      have hencodable := (messageReply_ok_iff.mp hstatus).right
      rcases HeaderText.exists_encode_of_encodable hencodable.right with ⟨id, hid⟩
      rcases HeaderText.exists_encode_of_encodable
        (hencodable.left item.clientId rfl) with ⟨client, hclient⟩
      rcases messageReply_of_ok hstatus with ⟨_, hclientId, hrequestId, _⟩
      rw [requestReply, hclientId, hrequestId, hid, Option.bind_some, hclient]
      simp
  | @response item hwaits hnot =>
      have hencodable := (messageReply_ok_iff.mp hstatus).right
      rcases HeaderText.exists_encode_of_encodable hencodable.right with ⟨id, hid⟩
      rcases messageReply_of_ok hstatus with ⟨_, _, hrequestId, _⟩
      rw [responseReply, hrequestId, hid]
      exact ⟨by simp, fun hasks => absurd hasks hnot⟩
  | loggedOff hmethod => exact absurd hmethod hstays

theorem Answer.unexpected {call : Client.HttpCall} {reply : HttpReply}
    {expectedCodes : List Nat} (h : Answer call reply)
    (hexpects : Expects call expectedCodes) (hstatus : reply.status ∉ expectedCodes) :
    (call.method = .post ∧ reply.status = 503) ∨
      (call.Waits ∧ reply.status = 500) := by
  cases h with
  | accepted hmethod => exact absurd (hexpects.posts hmethod) hstatus
  | full hmethod => exact Or.inl ⟨hmethod, rfl⟩
  | nothing hmethod => exact absurd (hexpects.polls hmethod) hstatus
  | @request item hasks =>
      have hwaits : call.Waits := Or.inl hasks.left
      rcases messageReply_status item.payload item.contentType (some item.clientId)
        item.requestId with hcode | hcode
      · rw [requestReply, hcode] at hstatus
        exact absurd (hexpects.waits hwaits) hstatus
      · exact Or.inr ⟨hwaits, hcode⟩
  | @response item hwaits hnot =>
      rcases messageReply_status item.payload item.contentType none
        item.requestId with hcode | hcode
      · rw [responseReply, hcode] at hstatus
        exact absurd (hexpects.waits hwaits) hstatus
      · exact Or.inr ⟨hwaits, hcode⟩
  | loggedOff hmethod => exact absurd hmethod hexpects.stays

theorem raiseForStatus_unexpected {reply : HttpReply} {expectedCodes : List Nat}
    {error : Client.PypeError}
    (h : Client.raiseForStatus reply expectedCodes = .error error) :
    reply.status ∉ expectedCodes := by
  intro hmem
  rw [Client.raiseForStatus, if_pos hmem] at h
  cases h

theorem told_of_raises {cfg : Server.Settings} {call : Client.HttpCall}
    {expectedCodes : List Nat} {reply : HttpReply} {error : Client.PypeError}
    (hexpects : Expects call expectedCodes)
    (hfollows : reply.Follows (refuseTimeout cfg call.timeout))
    (hanswer : Admits reply -> Answer call reply)
    (h : Client.Raises call expectedCodes reply error) : Told cfg call reply error := by
  rcases refuseTimeout_cases cfg call.timeout with
    ⟨ms, hasked, hrange, hrefused⟩ | ⟨hrange, hrefused⟩
  · rw [hrefused] at hfollows
    have hstatus : reply.status = 400 := by
      rw [show reply = _ from hfollows]
      rfl
    cases h with
    | status hraise =>
        have herror : error = .badRequestError reply := by
          rw [Client.raiseForStatus, hstatus, if_neg hexpects.refused] at hraise
          simpa using hraise.symm
        rw [herror]
        apply Told.outOfRange hasked hrange
        intro python text
        rw [show reply = _ from hfollows, Client.describe_reply]
        have hstart : toString 400 ++ " " = "400 " := by decide +kernel
        exact congrArg (· ++ _) hstart
    | header hok _ => simp [hstatus] at hok
    | timeout _ hmem =>
        rw [hstatus] at hmem
        exact absurd hmem hexpects.refused
  · rw [hrefused] at hfollows
    have hanswer' := hanswer hfollows
    cases h with
    | status hraise =>
        have hstatus := raiseForStatus_unexpected hraise
        rw [Client.raiseForStatus, if_neg hstatus] at hraise
        rcases hanswer'.unexpected hexpects hstatus with ⟨hposts, hcode⟩ | ⟨hwaits, hcode⟩
        · simp only [hcode] at hraise
          cases hraise
          exact Told.full hrange hposts
        · simp only [hcode] at hraise
          cases hraise
          exact Told.unsendable hrange hwaits hcode
    | header hok hmissing =>
        rcases hanswer'.headers hexpects.stays hok with ⟨hid, hclient⟩
        rcases hmissing with hnone | ⟨hasks, hnone⟩
        · exact absurd hnone hid
        · exact absurd hnone (hclient hasks)
    | timeout hwaits _ => exact Told.late hrange hwaits

/-!
## The frames of the parties
-/

section

variable {caller worker : Type} {d : Deployment caller worker}
  {s s' : State caller worker} {k : caller} {w : worker}

/-- Each party waits for a call that fits the frame in which it waits. -/
structure FramesFit (s : State caller worker) : Prop where
  callers : forall k task frame, (s.callers k).waiting = some (task, frame) ->
    exists call, s.exchanges[task]? = some (.client k call) ∧ frame.Fits call
  desks : forall w task frame, (s.desks w).waiting = some (task, frame) ->
    exists operation call, s.exchanges[task]? = some (.worker w operation call) ∧
      frame.Fits call

theorem framesFit_initial (d : Deployment caller worker) : FramesFit d.initial where
  callers := by
    intro k task frame hwaits
    cases hwaits
  desks := by
    intro w task frame hwaits
    cases hwaits

theorem FramesFit.grow (h : FramesFit s) (hcallers : s'.callers = s.callers)
    (hdesks : s'.desks = s.desks)
    (hgrows : forall (task : TaskId) x, s.exchanges[task]? = some x ->
      s'.exchanges[task]? = some x) : FramesFit s' where
  callers := by
    intro k task frame hwaits
    rw [hcallers] at hwaits
    rcases h.callers k task frame hwaits with ⟨call, hcall, hfits⟩
    exact ⟨call, hgrows task _ hcall, hfits⟩
  desks := by
    intro w task frame hwaits
    rw [hdesks] at hwaits
    rcases h.desks w task frame hwaits with ⟨operation, call, hcall, hfits⟩
    exact ⟨operation, call, hgrows task _ hcall, hfits⟩

theorem FramesFit.setCaller [DecidableEq caller] (h : FramesFit s) {c : Caller}
    (hfits : forall task frame, c.waiting = some (task, frame) ->
      exists call, s.exchanges[task]? = some (.client k call) ∧ frame.Fits call) :
    FramesFit (s.setCaller k c) where
  callers := by
    intro k' task frame hwaits
    by_cases hk : k' = k
    · subst hk
      simp only [State.setCaller, Function.update_self] at hwaits
      exact hfits task frame hwaits
    · simp only [State.setCaller, Function.update_of_ne hk] at hwaits
      exact h.callers k' task frame hwaits
  desks := h.desks

theorem FramesFit.setDesk [DecidableEq worker] (h : FramesFit s) {desk : Desk}
    (hfits : forall task frame, desk.waiting = some (task, frame) ->
      exists operation call, s.exchanges[task]? = some (.worker w operation call) ∧
        frame.Fits call) :
    FramesFit (s.setDesk w desk) where
  callers := h.callers
  desks := by
    intro w' task frame hwaits
    by_cases hw : w' = w
    · subst hw
      simp only [State.setDesk, Function.update_self] at hwaits
      exact hfits task frame hwaits
    · simp only [State.setDesk, Function.update_of_ne hw] at hwaits
      exact h.desks w' task frame hwaits

theorem FramesFit.issue (h : FramesFit s) (x : Exchange caller worker) :
    FramesFit (d.issue x s) :=
  h.grow rfl rfl fun _ _ hx => (@grows_snoc _ _ s.exchanges [] x).exchange _ _ hx

theorem FramesFit.settle [DecidableEq caller] (h : FramesFit s)
    {result : Client.ClientConnection × Client.Progress}
    (hfitting : Client.ClientConnection.Fitting result.2) :
    FramesFit (d.settle k result s) := by
  rcases result with ⟨conn, progress⟩
  cases progress with
  | blocked call frame =>
      have hissued : FramesFit (d.issue (.client k call) s) := h.issue _
      refine @FramesFit.setCaller _ _ _ k _ hissued
        ⟨conn.noteReturned [], some (s.exchanges.length, frame)⟩ ?_
      intro task frame' hwaits
      cases hwaits
      exact ⟨call, List.getElem?_concat_length, hfitting call frame rfl⟩
  | returned value =>
      apply h.setCaller
      intro task frame hwaits
      cases hwaits
  | raised error =>
      apply h.setCaller
      intro task frame hwaits
      cases hwaits

theorem FramesFit.begin [DecidableEq worker] (h : FramesFit s)
    (operation : Client.ServiceConnection.Operation) :
    FramesFit (d.begin w operation s) := by
  unfold Deployment.begin
  dsimp only
  split
  · rename_i call frame hblocked
    have hissued : FramesFit (d.issue (.worker w operation call) s) := h.issue _
    apply @FramesFit.setDesk _ _ _ w _ hissued
    intro task frame' hwaits
    cases hwaits
    exact ⟨operation, call, List.getElem?_concat_length,
      Client.ServiceConnection.fits_start hblocked⟩
  · apply h.setDesk
    intro task frame hwaits
    cases hwaits

theorem FramesFit.finish [DecidableEq worker] (h : FramesFit s)
    (result : Client.ServiceConnection × Client.ServiceConnection.Progress) :
    FramesFit (Deployment.finish w result s) := by
  apply h.setDesk
  intro task frame hwaits
  cases hwaits

theorem FramesFit.handle (h : FramesFit s) (e : Server.Event) :
    FramesFit (d.handle e s) :=
  h.grow rfl rfl fun _ _ hx => hx

section

variable [DecidableEq caller] [DecidableEq worker]

theorem FramesFit.step (h : FramesFit s) (move : Move caller worker) :
    FramesFit (d.step s move) := by
  have hcases := d.step_cases s move
  generalize d.step s move = s' at hcases ⊢
  have hends : forall {task outcome t}, Deployment.Ends d s task outcome t ->
      FramesFit t := by
    intro task outcome t hends
    cases hends with
    | replied hready => exact h.handle _
    | failed timedOut => exact h
  cases hcases with
  | idles => exact h
  | asks hasks => exact h.settle (Client.ClientConnection.fitting_start _ _)
  | resumes hwaits hover =>
      exact (hends hover).settle (Client.ClientConnection.fitting_resume _ _ _ _)
  | works hmay => exact h.begin _
  | finishes hwaits hover => exact (hends hover).finish _
  | visits hvisit => exact h.issue _
  | handles hconnect => exact h.handle _

theorem framesFit_reached (d : Deployment caller worker)
    (moves : List (Move caller worker)) : FramesFit (d.reached moves) :=
  run_invariant FramesFit (fun _ move h => h.step move) (framesFit_initial d) moves

end

/-!
## Every reply
-/

def Raised (d : Deployment caller worker) (s : State caller worker) (task : TaskId)
    (reply : HttpReply) (error : Client.PypeError) : Exchange caller worker -> Prop
  | .client k _ => exists frame clock, (s.callers k).waiting = some (task, frame) ∧
      ((s.callers k).connection.resume d.settings frame (.reply reply) task clock).2 =
        .raised error
  | .worker w _ _ => exists frame, (s.desks w).waiting = some (task, frame) ∧
      ((s.desks w).connection.resume frame (.reply reply) task).2 = .raised error
  | .visitor _ => False

theorem Raised.raises (hcalls : PartyCalls d s) (hfits : FramesFit s) {task : TaskId}
    {x : Exchange caller worker} {call : Client.HttpCall} {reply : HttpReply}
    {error : Client.PypeError} (hexchange : s.exchanges[task]? = some x)
    (hcall : x.call? = some call) (h : Raised d s task reply error x) :
    exists expectedCodes, Expects call expectedCodes ∧
      Client.Raises call expectedCodes reply error := by
  cases x with
  | client k made =>
      cases hcall
      rcases h with ⟨frame, clock, hwaits, hraised⟩
      rcases hfits.callers k task frame hwaits with ⟨call', hcall', hframe⟩
      cases hexchange.symm.trans hcall'
      have hne : frame ≠ .close := by
        intro hclose
        rw [hclose] at hraised
        cases hraised
      refine ⟨frame.expectedCodes, expects_of_fits hframe hne, ?_⟩
      exact Client.ClientConnection.raises_resume hframe
        ((hcalls.callers k).waits task frame hwaits) hraised
  | worker w operation made =>
      cases hcall
      rcases h with ⟨frame, hwaits, hraised⟩
      rcases hfits.desks w task frame hwaits with ⟨operation', call', hcall', hframe⟩
      cases hexchange.symm.trans hcall'
      exact ⟨frame.expectedCodes, expects_of_fits_worker hframe,
        Client.ServiceConnection.raises_resume hframe hraised⟩
  | visitor request => cases hcall

theorem Provenance.answer (h : Provenance d s) {task : TaskId}
    {x : Exchange caller worker} {call : Client.HttpCall} {reply : HttpReply}
    (hexchange : s.exchanges[task]? = some x) (hcall : x.call? = some call)
    (hanswered : .answered task reply ∈ s.server.store.history) (hadmits : Admits reply) :
    Answer call reply := by
  rcases h.server.invariant.of_answered hanswered with ⟨t, ht, hfinished, _⟩
  rcases h.server.requests task t ht with ⟨x', hx', hrequest⟩
  cases hexchange.symm.trans hx'
  have hreaches : Reaches call t.request.endpoint := by
    cases x with
    | client k made =>
        cases hcall
        exact reaches_of_endpointOf (of_requestFor_client hrequest).left
    | worker w operation made =>
        cases hcall
        exact reaches_of_endpointOf (of_requestFor_worker hrequest).left
    | visitor request => cases hcall
  exact answer_of_finished hreaches hfinished hadmits

section

variable [DecidableEq caller] [DecidableEq worker]

/-- In every run of every deployment, the reply to a call makes the operation that waits
for it raise nothing but: the bad request of a timeout that is out of range, with its
text; the timeout of a full queue, to a POST; the protocol error of a message that cannot
be sent, or a timeout, to a call that waits. -/
theorem replies_understood (d : Deployment caller worker)
    (moves : List (Move caller worker)) (task : TaskId) (x : Exchange caller worker)
    (call : Client.HttpCall) (reply : HttpReply) (error : Client.PypeError)
    (hexchange : (d.reached moves).exchanges[task]? = some x)
    (hcall : x.call? = some call)
    (hready : replyTo? (d.reached moves).server task = some reply)
    (hraised : Raised d (d.reached moves) task reply error x) :
    Told d.cfg call reply error := by
  rcases partyCalls_reached d moves with ⟨h, hcalls⟩
  have hanswered := answered_of_replyTo? h.server.invariant hready
  rcases Raised.raises hcalls (framesFit_reached d moves) hexchange hcall hraised with
    ⟨expectedCodes, hexpects, hraises⟩
  exact told_of_raises hexpects (h.follows hcalls hexchange hcall hanswered)
    (h.answer hexchange hcall hanswered) hraises

end

end

def sending? (c : Caller) : Option TaskId :=
  match c.waiting with
  | some (task, .sendRequest _) => some task
  | _ => none

theorem exists_of_sending? {c : Caller} {task : TaskId} (h : sending? c = some task) :
    exists requestId, c.waiting = some (task, .sendRequest requestId) := by
  unfold sending? at h
  split at h
  · rename_i hwaits
    cases h
    exact ⟨_, hwaits⟩
  · cases h

theorem replies_understood_impatient :
    exists call reply, (pair.reached (impatient.take 2)).exchanges[0]? =
        some (.client () call) ∧
      Told pair.cfg call reply (.badRequestError reply) := by
  have hpost : (pair.reached (impatient.take 2)).exchanges[0]?.bind clientMethod? =
      some .post := by
    decide +kernel
  have hsending : sending? ((pair.reached (impatient.take 2)).callers ()) = some 0 := by
    decide +kernel
  have hdone : (replyTo? (pair.reached (impatient.take 2)).server 0).map
      HttpReply.status = some 400 := by
    decide +kernel
  rcases exists_of_clientMethod? hpost with ⟨call, hcall, _⟩
  rcases exists_of_sending? hsending with ⟨requestId, hwaits⟩
  rcases Option.map_eq_some_iff.mp hdone with ⟨reply, hready, hstatus⟩
  refine ⟨call, reply, hcall, ?_⟩
  apply replies_understood pair (impatient.take 2) 0 _ call reply _ hcall rfl hready
  refine ⟨.sendRequest requestId, Clock.constant 0, hwaits, ?_⟩
  simp [Client.ClientConnection.resume, Client.ClientConnection.sendRequestSent,
    Client.expectReply, Client.raiseForStatus, hstatus]

end System
end Pype
