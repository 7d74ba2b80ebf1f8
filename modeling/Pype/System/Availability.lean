import Mathlib.Data.Fintype.EquivFin
import Pype.System.Moves

/-!
# A call can always be answered

Whatever clients, workers, the network and the reaper did before: as long as a client
and a worker are logged in, the system can go on so that the next call of the client is
answered by that worker.  Requests and responses that were left behind do not stand in
the way, since each poll takes one of them off its queue.
-/

namespace Pype
namespace System

open Foundation Server

section

variable {caller worker : Type} {d : Deployment caller worker}
  {s s' : State caller worker} {k : caller} {w : worker}

/-!
## Parties that wait for nothing
-/

structure CallerFree (k : caller) (s : State caller worker) : Prop where
  waits : (s.callers k).waiting = none
  opened : (s.callers k).connection.closed = false

structure DeskFree (w : worker) (s : State caller worker) : Prop where
  waits : (s.desks w).waiting = none
  opened : (s.desks w).connection.closed = false

theorem DeskFree.of_desks (h : DeskFree w s) (hdesks : s'.desks = s.desks) :
    DeskFree w s' := by
  constructor
  · rw [hdesks]
    exact h.waits
  · rw [hdesks]
    exact h.opened

theorem CallerFree.of_callers (h : CallerFree k s) (hcallers : s'.callers = s.callers) :
    CallerFree k s' := by
  constructor
  · rw [hcallers]
    exact h.waits
  · rw [hcallers]
    exact h.opened

/-!
## A call under way
-/

/-- A worker pulled the request at the head of its service queue. -/
structure Pulls (d : Deployment caller worker) (w : worker) (x : Posted PypeRequest)
    (rest : List (Posted PypeRequest)) (s s' : State caller worker) : Prop where
  callers : s'.callers = s.callers
  desk : s'.desks w =
    ⟨(s.desks w).connection, none,
      (s.desks w).pulled ++ pulledBy ((s.desks w).connection.getRequestPolled
        (.reply (requestReply x.message)) s.exchanges.length),
      (s.desks w).answered⟩
  exchanges : s.exchanges.length ≤ s'.exchanges.length
  others : forall task, task < s.exchanges.length ->
    s'.server.tasks.get? task = s.server.tasks.get? task
  content : s'.server.store.serviceContent (d.service w).name = rest
  registry : s'.server.store.clientRegistry = s.server.store.clientRegistry
  entries : forall entry,
    s'.server.store.entryContent entry = s.server.store.entryContent entry

/-- A client waits for the reply to its `call`, whose handler waits for a response. -/
structure Underway (d : Deployment caller worker) (k : caller) (task : TaskId)
    (requestId : String) (deadline : Option Time) (entry : Ref)
    (responses : List (Posted PypeResponse)) (s : State caller worker) : Prop where
  waits : (s.callers k).waiting = some (task, .call requestId deadline)
  handler : exists request params claims expires,
    s.server.tasks.get? task = some ⟨request, .postRequestGet params claims entry expires⟩
  begun : task < s.exchanges.length
  registered :
    s.server.store.clientRegistry.get? (d.client k).clientId = some entry
  content : s.server.store.entryContent entry = responses

theorem Underway.pulls {task : TaskId} {requestId : String} {deadline : Option Time}
    {entry : Ref} {x : Posted PypeRequest} {rest : List (Posted PypeRequest)}
    {responses : List (Posted PypeResponse)}
    (h : Underway d k task requestId deadline entry responses s)
    (hpulls : Pulls d w x rest s s') :
    Underway d k task requestId deadline entry responses s' where
  waits := by
    rw [hpulls.callers]
    exact h.waits
  handler := by
    rw [hpulls.others task h.begun]
    exact h.handler
  begun := lt_of_lt_of_le h.begun hpulls.exchanges
  registered := by
    rw [hpulls.registry]
    exact h.registered
  content := by
    rw [hpulls.entries]
    exact h.content

end

section

variable {caller worker : Type} [DecidableEq caller] [DecidableEq worker]
  {d : Deployment caller worker} {s s' : State caller worker} {k : caller} {w : worker}

theorem leads_callerFree (hopen : (s.callers k).connection.closed = false) :
    Leads d.step (fun s' => CallerFree k s' ∧ s'.desks = s.desks) s := by
  cases hwaits : (s.callers k).waiting with
  | none => exact Leads.here ⟨⟨hwaits, hopen⟩, rfl⟩
  | some waits =>
      rcases waits with ⟨task, frame⟩
      have hover : Over ((s.callers k).connection.resume d.settings frame
          .requestException task (Clock.constant 0)).2 :=
        over_of_failed frame task (Clock.constant 0) (s.callers k).connection
      have hclosed : ((s.callers k).connection.resume d.settings frame
          .requestException task (Clock.constant 0)).1.closed = false :=
        (Client.ClientConnection.minds_resume _ _ _ _).closed.trans hopen
      apply Leads.next (.fail k false (Clock.constant 0))
      apply Leads.here
      rw [step_fail hwaits, failure, if_neg (by decide), settle_over hover]
      refine ⟨⟨?_, ?_⟩, rfl⟩
      · simp [State.setCaller]
      · simp only [State.setCaller, Function.update_self]
        exact hclosed

theorem leads_deskFree (hopen : (s.desks w).connection.closed = false) :
    Leads d.step (fun s' => DeskFree w s' ∧ s'.callers = s.callers) s := by
  cases hwaits : (s.desks w).waiting with
  | none => exact Leads.here ⟨⟨hwaits, hopen⟩, rfl⟩
  | some waits =>
      rcases waits with ⟨task, frame⟩
      apply Leads.next (.failWork w false)
      apply Leads.here
      rw [step_failWork hwaits, Deployment.finish]
      refine ⟨⟨?_, ?_⟩, rfl⟩
      · simp [State.setDesk]
      · simp only [State.setDesk, Function.update_self]
        cases frame <;> exact hopen

/-!
## A worker pulls
-/

theorem leads_pulls (h : Provenance d s) (hfree : DeskFree w s) {x : Posted PypeRequest}
    {rest : List (Posted PypeRequest)}
    (hcontent : s.server.store.serviceContent (d.service w).name = x :: rest) :
    Leads d.step (Pulls d w x rest s) s := by
  have hname : (s.desks w).connection.serviceName = (d.service w).name :=
    (h.desks w).named
  let call : Client.HttpCall :=
    { method := .get
      path := ["services", (d.service w).name]
      requestId := none
      timeout := none
      block := false
      contentType := none
      body := []
      timeoutSeconds := Client.httpTimeoutSeconds none d.settings.networkBufferMs }
  let t : State caller worker :=
    s.setDesk w ⟨(s.desks w).connection, some (s.exchanges.length, .getRequest),
      (s.desks w).pulled, (s.desks w).answered⟩
  have hstart : (s.desks w).connection.start d.settings (.getRequest none) =
      ((s.desks w).connection, .blocked call .getRequest) := by
    simp [Client.ServiceConnection.start, Client.ServiceConnection.getRequest,
      Client.ServiceConnection.ensureOpen, hfree.opened, hname, call]
  have hbegin : d.step s (.work w (.getRequest none)) =
      d.issue (.worker w (.getRequest none) call) t := by
    have hmay : MayWork (s.desks w) (.getRequest none) := trivial
    rw [step_work hfree.waits hmay]
    unfold Deployment.begin
    dsimp only
    rw [hstart]
  let request : HttpRequest :=
    ⟨some (bearer (d.service w).accessToken), .getRequest (d.service w).name none⟩
  have hroute : request.endpoint = .getRequest (d.service w).name none := rfl
  have hclaims : serviceClaims d.jwt request.authorization =
      .ok ⟨(d.service w).name, (d.service w).serviceSecret⟩ :=
    serviceClaims_bearer (d.service w).issued
  have hrequest : d.requestFor (.worker w (.getRequest none) call) = some request := rfl
  rcases pull_runs s.exchanges.length s.server.now h.server.invariant.wellFormed hroute
    hclaims rfl (d.service w).plain.left.left (patient_none d.cfg) hcontent with
    ⟨store, hruns, hrest, hregistry, hentries⟩
  apply Leads.next (.work w (.getRequest none))
  rw [hbegin]
  apply (leads_handled (s := t) h.fresh hrequest hruns).bind
  intro u hu
  have hwaits : (u.desks w).waiting = some (s.exchanges.length, .getRequest) := by
    rw [hu.desks]
    simp [t, State.setDesk]
  have hdesk : u.desks w = ⟨(s.desks w).connection, some (s.exchanges.length, .getRequest),
      (s.desks w).pulled, (s.desks w).answered⟩ := by
    rw [hu.desks]
    simp [t, State.setDesk]
  apply Leads.next (.replyToWork w)
  apply Leads.here
  rw [step_replyToWork hwaits hu.ran]
  constructor
  · exact hu.callers
  · rw [finish_eq]
    simp only [State.setDesk, hdesk, Function.update_self,
      Client.ServiceConnection.resume]
  · show s.exchanges.length ≤ u.exchanges.length
    rw [hu.exchanges]
    exact (List.prefix_append _ _).length_le
  · intro task hlt
    show (Dict.set _ _ _).get? task = _
    rw [Dict.get?_set_of_ne _ _ (Nat.ne_of_gt hlt)]
    exact hu.others task hlt
  · show u.server.store.serviceContent _ = _
    rw [hu.store, hrest]
  · show u.server.store.clientRegistry = _
    rw [hu.store, hregistry]
  · intro entry
    show u.server.store.entryContent entry = _
    rw [hu.store, hentries]

/-!
## A client clears its queue
-/

theorem remainingMs_deadline (timeout : Option Int) (now : Time) :
    Client.remainingMs (Client.deadline timeout now) now = timeout := by
  cases timeout with
  | none => rfl
  | some ms => exact congrArg some (truncate_seconds now ms)

theorem exists_uncached (conn : Client.ClientConnection) :
    exists requestId, conn.cache.get? requestId = none := by
  rcases Infinite.exists_notMem_finset conn.cache.keys.toFinset with ⟨requestId, h⟩
  exact ⟨requestId, Dict.get?_eq_none_iff.mpr (by simpa using h)⟩

theorem over_of_late {settings : Client.Settings} {requestId : String}
    {deadline : Option Time} {outcome : Client.Outcome} {source : TaskId} {now : Time}
    {ms : Int} (hlate : Client.remainingMs deadline now = some ms) (hneg : ms < 0)
    (conn : Client.ClientConnection) :
    Over (conn.getResponsePolled settings requestId false deadline outcome source now).2 := by
  intro call f
  unfold Client.ClientConnection.getResponsePolled
  split
  · simp
  · simp
  · split
    · simp
    · simp [Client.ClientConnection.getResponseLoop, Client.ClientConnection.pollOne,
        hlate, hneg]

theorem closed_noteReturned (conn : Client.ClientConnection)
    (pending : List (String × Client.ServiceResponse)) :
    (conn.noteReturned pending).closed = conn.closed := rfl

theorem leads_polls (h : Provenance d s) (hcalls : CallerCalls d s k)
    (hfree : CallerFree k s) {x : Posted PypeResponse} {rest : List (Posted PypeResponse)}
    (hcontent : s.server.store.clientContent (d.client k).clientId = x :: rest) :
    Leads d.step (fun s' => CallerFree k s' ∧ s'.desks = s.desks ∧
      s'.server.store.clientContent (d.client k).clientId = rest) s := by
  rcases exists_uncached (s.callers k).connection with ⟨requestId, hnone⟩
  let call : Client.HttpCall :=
    { method := .get
      path := ["clients", (d.client k).clientId]
      requestId := none
      timeout := some 1
      block := false
      contentType := none
      body := []
      timeoutSeconds := Client.httpTimeoutSeconds (some 1) d.settings.networkBufferMs }
  let frame : Client.Frame := .getResponse requestId false (Client.deadline (some 1) 0)
  have hstart : (s.callers k).connection.start d.settings (.getResponse requestId (some 1))
      (Clock.constant 0) = ((s.callers k).connection, .blocked call frame) := by
    simp only [Client.ClientConnection.start, Client.ClientConnection.getResponse,
      Client.ClientConnection.ensureOpen, hfree.opened, hnone, Clock.constant,
      Client.ClientConnection.getResponseLoop, remainingMs_deadline,
      Client.ClientConnection.pollOne, hcalls.clientId]
    rfl
  let t : State caller worker :=
    s.setCaller k ⟨(s.callers k).connection.noteReturned [],
      some (s.exchanges.length, frame)⟩
  have hask : d.step s (.ask k (.getResponse requestId (some 1)) (Clock.constant 0)) =
      d.issue (.client k call) t := by
    have hplain : AsksPlain (.getResponse requestId (some 1)) := trivial
    rw [step_ask hfree.waits hplain, hstart]
    rfl
  let request : HttpRequest :=
    ⟨some (bearer (d.client k).accessToken),
      .getResponse (d.client k).clientId (some 1)⟩
  have hroute : request.endpoint = .getResponse (d.client k).clientId (some 1) := rfl
  have hclaims := clientClaims_bearer (d.client k).issued
    (d.client k).plain.left.left
  have hrequest : d.requestFor (.client k call) = some request := rfl
  rcases poll_runs s.exchanges.length s.server.now hroute hclaims rfl
    (patient_one d.cfg) hcontent with ⟨store, hruns, hrest⟩
  apply Leads.next (.ask k (.getResponse requestId (some 1)) (Clock.constant 0))
  rw [hask]
  have hfresh : t.server.tasks.get? t.exchanges.length = none := h.fresh
  apply (leads_handled hfresh hrequest hruns).bind
  intro u hu
  have hcaller : u.callers k = ⟨(s.callers k).connection.noteReturned [],
      some (s.exchanges.length, frame)⟩ := by
    rw [hu.callers]
    simp [t, State.setCaller]
  have hwaits : (u.callers k).waiting = some (s.exchanges.length, frame) := by
    rw [hcaller]
  have hlate : Client.remainingMs (Client.deadline (some 1) 0) 1 = some (-999) := by
    decide +kernel
  have hover : Over ((u.callers k).connection.resume d.settings frame
      (.reply (responseReply x.message)) s.exchanges.length (Clock.constant 1)).2 :=
    over_of_late hlate (by decide) _
  have hclosed : ((u.callers k).connection.resume d.settings frame
      (.reply (responseReply x.message)) s.exchanges.length
        (Clock.constant 1)).1.closed = false := by
    rw [(Client.ClientConnection.minds_resume _ _ _ _).closed, hcaller]
    exact hfree.opened
  apply Leads.next (.reply k (Clock.constant 1))
  apply Leads.here
  rw [step_reply hwaits hu.ran, settle_over hover]
  refine ⟨⟨?_, ?_⟩, hu.desks, ?_⟩
  · simp [State.setCaller]
  · simp only [State.setCaller, Function.update_self, closed_noteReturned]
    exact hclosed
  · show u.server.store.clientContent _ = _
    rw [hu.store, hrest]

/-!
## Nothing is left behind
-/

/-- Both parties are free, and nothing is queued for either. -/
structure Ready (d : Deployment caller worker) (k : caller) (w : worker)
    (s : State caller worker) : Prop where
  caller : CallerFree k s
  desk : DeskFree w s
  responses : s.server.store.clientContent (d.client k).clientId = []
  requests : s.server.store.serviceContent (d.service w).name = []

theorem clientContent_of_same {s t : Store} {clientId : String}
    (hregistry : t.clientRegistry = s.clientRegistry)
    (hentries : forall entry, t.entryContent entry = s.entryContent entry) :
    t.clientContent clientId = s.clientContent clientId := by
  unfold Store.clientContent
  rw [hregistry]
  split
  · exact hentries _
  · rfl

theorem leads_ready_of_free (h : Sound d s) (hcaller : CallerFree k s)
    (hdesk : DeskFree w s) :
    Leads d.step (fun s' => Sound d s' ∧ Ready d k w s') s := by
  have hresponses : Leads d.step
      (fun s' => (Sound d s' ∧ CallerFree k s' ∧ DeskFree w s') ∧
        (s'.server.store.clientContent (d.client k).clientId).length = 0) s := by
    apply Leads.exhaust _ _ _ ⟨h, hcaller, hdesk⟩
    intro t ht hne
    rcases ht with ⟨hsound, hcaller, hdesk⟩
    rcases List.exists_cons_of_length_pos (Nat.pos_of_ne_zero hne) with ⟨x, rest, hcontent⟩
    apply (hsound.keep (leads_polls hsound.provenance (hsound.calls.callers k) hcaller
      hcontent)).mono
    intro u hu
    rcases hu with ⟨hsound', hcaller', hdesks, hrest⟩
    refine ⟨⟨hsound', hcaller', hdesk.of_desks hdesks⟩, ?_⟩
    rw [hrest, hcontent]
    exact Nat.lt_succ_self _
  apply hresponses.bind
  intro t ht
  rcases ht with ⟨⟨hsound, hcaller, hdesk⟩, hzero⟩
  have hrequests : Leads d.step
      (fun s' => (Sound d s' ∧ CallerFree k s' ∧ DeskFree w s' ∧
        s'.server.store.clientContent (d.client k).clientId = []) ∧
        (s'.server.store.serviceContent (d.service w).name).length = 0) t := by
    apply Leads.exhaust _ _ _ ⟨hsound, hcaller, hdesk, List.eq_nil_of_length_eq_zero hzero⟩
    intro u hu hne
    rcases hu with ⟨hsound, hcaller, hdesk, hnil⟩
    rcases List.exists_cons_of_length_pos (Nat.pos_of_ne_zero hne) with ⟨x, rest, hcontent⟩
    apply (hsound.keep (leads_pulls hsound.provenance hdesk hcontent)).mono
    intro v hv
    rcases hv with ⟨hsound', hpulls⟩
    refine ⟨⟨hsound', hcaller.of_callers hpulls.callers, ⟨?_, ?_⟩, ?_⟩, ?_⟩
    · rw [hpulls.desk]
    · rw [hpulls.desk]
      exact hdesk.opened
    · rw [clientContent_of_same hpulls.registry hpulls.entries]
      exact hnil
    · rw [hpulls.content, hcontent]
      exact Nat.lt_succ_self _
  apply hrequests.mono
  intro u hu
  rcases hu with ⟨⟨hsound, hcaller, hdesk, hnil⟩, hzero⟩
  exact ⟨hsound, hcaller, hdesk, hnil, List.eq_nil_of_length_eq_zero hzero⟩

/-- Every state in which both are logged in leads to one in which they are ready. -/
theorem leads_ready (h : Sound d s) (hcaller : (s.callers k).connection.closed = false)
    (hdesk : (s.desks w).connection.closed = false) :
    Leads d.step (fun s' => Sound d s' ∧ Ready d k w s') s := by
  apply (h.keep (leads_callerFree hcaller)).bind
  intro t ht
  rcases ht with ⟨hsound, hfree, hdesks⟩
  have hopen : (t.desks w).connection.closed = false := by
    rw [hdesks]
    exact hdesk
  apply (hsound.keep (leads_deskFree hopen)).bind
  intro u hu
  rcases hu with ⟨hsound', hfree', hcallers⟩
  exact leads_ready_of_free hsound' (hfree.of_callers hcallers) hfree'

/-!
## The call
-/

/-- The server can answer with messages of this content type, once the header has come
through. -/
def Transmits (d : Deployment caller worker) (contentType : String) : Prop :=
  exists received, d.header contentType = some received ∧
    HeaderText.Encodable (effectiveContentType d.cfg (some received))

theorem leads_underway (h : Sound d s) (hready : Ready d k w s)
    {requestId : String}
    (hid : toString ((s.callers k).connection.nextRequestId + 1) = requestId)
    (request : Client.Payload) {contentType : String} {timeout : Option Int}
    (htransmits : Transmits d contentType) (hpatient : Patient d.cfg timeout) (now : Time) :
    Leads d.step (fun s' => exists entry contentType',
        Underway d k s.exchanges.length requestId (Client.deadline timeout now) entry [] s' ∧
        s'.desks = s.desks ∧ HeaderText.Encodable contentType' ∧
        s'.server.store.serviceContent (d.service w).name =
          [⟨s.exchanges.length,
            ⟨(d.client k).clientId, requestId, contentType', request.body⟩⟩])
      (d.step s (.ask k (.call (d.service w).name request contentType timeout)
        (Clock.constant now))) := by
  rcases htransmits with ⟨received, hheader, hencodable⟩
  have hne : requestId ≠ "" := hid ▸ toString_ne_empty _
  let frame : Client.Frame := .call requestId (Client.deadline timeout now)
  let call : Client.HttpCall :=
    Client.ClientConnection.postCall d.settings (d.service w).name requestId request
      contentType timeout timeout true
  let minted : Client.ClientConnection :=
    { (s.callers k).connection with
      nextRequestId := (s.callers k).connection.nextRequestId + 1 }
  have hstart : (s.callers k).connection.start d.settings
      (.call (d.service w).name request contentType timeout) (Clock.constant now) =
        (minted, .blocked call frame) := by
    have hopen : (s.callers k).connection.ensureOpen = .ok () := by
      rw [Client.ClientConnection.ensureOpen, hready.caller.opened]
      rfl
    simp only [Client.ClientConnection.start, Client.ClientConnection.call, hopen,
      Client.ClientConnection.mintRequestId, hid, Clock.constant, remainingMs_deadline,
      hpatient.max_zero]
    rfl
  let t : State caller worker :=
    s.setCaller k ⟨minted.noteReturned [], some (s.exchanges.length, frame)⟩
  have hask : d.step s (.ask k (.call (d.service w).name request contentType timeout)
      (Clock.constant now)) = d.issue (.client k call) t := by
    have hplain : AsksPlain (.call (d.service w).name request contentType timeout) :=
      (d.service w).plain
    rw [step_ask hready.caller.waits hplain, hstart]
    rfl
  let params : PostRequest :=
    { serviceName := (d.service w).name
      requestId := requestId
      timeout := timeout
      block := true
      contentType := some received
      body := request.body }
  let httpRequest : HttpRequest :=
    ⟨some (bearer (d.client k).accessToken), .postRequest params⟩
  have hroute : httpRequest.endpoint = .postRequest params := rfl
  have hclaims := clientClaims_bearer (d.client k).issued
    (d.client k).plain.left.left
  have hrequest : d.requestFor (.client k call) = some httpRequest := by
    simp [Deployment.requestFor, requestOf, endpointOf, call,
      Client.ClientConnection.postCall, hheader, httpRequest, params]
  rcases post_runs s.exchanges.length s.server.now h.provenance.server.invariant.wellFormed
    hroute hclaims (d.service w).plain.left.left hne rfl hpatient hready.requests with
    ⟨store, entry, expires, hruns, hregistered, hcontent, hqueued⟩
  have hfresh : t.server.tasks.get? t.exchanges.length = none := h.provenance.fresh
  rw [hask]
  apply (leads_handled hfresh hrequest hruns).mono
  intro u hu
  refine ⟨entry, effectiveContentType d.cfg (some received), ⟨?_, ?_, ?_, ?_, ?_⟩, ?_,
    hencodable, ?_⟩
  · rw [hu.callers]
    simp [t, State.setCaller, frame]
  · exact ⟨_, _, _, _, hu.ran⟩
  · rw [hu.exchanges]
    simp [t, State.setCaller]
  · rw [hu.store, ← hregistered]
  · rw [hu.store]
    exact hcontent.trans hready.responses
  · exact hu.desks
  · rw [hu.store]
    exact hqueued

section

variable {task : TaskId} {requestId : String} {deadline : Option Time} {entry : Ref}

theorem leads_answered (h : Sound d s) (hfree : DeskFree w s)
    (hcall : Underway d k task requestId deadline entry [] s) {q : Client.ClientRequest}
    (hpulled : q ∈ (s.desks w).pulled) (hnew : q ∉ (s.desks w).answered)
    (hclient : q.clientId = (d.client k).clientId) (hid : q.requestId = requestId)
    (hne : requestId ≠ "") (response : Client.Payload) {contentType : String}
    (htransmits : Transmits d contentType) :
    Leads d.step (fun s' => exists contentType',
      Underway d k task requestId deadline entry
        [⟨s.exchanges.length, ⟨requestId, contentType', response.body⟩⟩] s' ∧
      HeaderText.Encodable contentType' ∧
      (s'.desks w).pulled = (s.desks w).pulled) s := by
  rcases htransmits with ⟨received, hheader, hencodable⟩
  let operation : Client.ServiceConnection.Operation :=
    .sendResponse q response contentType none
  let call : Client.HttpCall :=
    { method := .post
      path := ["clients", q.clientId]
      requestId := some q.requestId
      timeout := none
      block := false
      contentType := some contentType
      body := response.body
      timeoutSeconds := Client.httpTimeoutSeconds none d.settings.networkBufferMs }
  let t : State caller worker :=
    s.setDesk w ⟨(s.desks w).connection, some (s.exchanges.length, .sendResponse),
      (s.desks w).pulled, (s.desks w).answered ++ [q]⟩
  have hstart : (s.desks w).connection.start d.settings operation =
      ((s.desks w).connection, .blocked call .sendResponse) := by
    have hopen : (s.desks w).connection.ensureOpen = .ok () := by
      rw [Client.ServiceConnection.ensureOpen, hfree.opened]
      rfl
    simp only [operation, Client.ServiceConnection.start,
      Client.ServiceConnection.sendResponse, hopen]
    rfl
  have hbegin : d.step s (.work w operation) = d.issue (.worker w operation call) t := by
    have hmay : MayWork (s.desks w) operation := ⟨hpulled, hnew⟩
    rw [step_work hfree.waits hmay]
    unfold Deployment.begin
    dsimp only
    rw [hstart]
  let params : PostResponse :=
    { clientId := q.clientId
      requestId := q.requestId
      timeout := none
      contentType := some received
      body := response.body }
  let httpRequest : HttpRequest :=
    ⟨some (bearer (d.service w).accessToken), .postResponse params⟩
  have hroute : httpRequest.endpoint = .postResponse params := rfl
  have hclaims : serviceClaims d.jwt httpRequest.authorization =
      .ok ⟨(d.service w).name, (d.service w).serviceSecret⟩ :=
    serviceClaims_bearer (d.service w).issued
  have hrequest : d.requestFor (.worker w operation call) = some httpRequest := by
    simp [Deployment.requestFor, requestOf, endpointOf, call, hheader, httpRequest, params]
  have hclientId : params.clientId ≠ "" := by
    rw [show params.clientId = (d.client k).clientId from hclient]
    exact (d.client k).plain.left.left
  have hrequestId : params.requestId ≠ "" := by
    rw [show params.requestId = requestId from hid]
    exact hne
  have hregistered : s.server.store.clientRegistry.get? params.clientId = some entry := by
    rw [show params.clientId = (d.client k).clientId from hclient]
    exact hcall.registered
  rcases respond_runs s.exchanges.length s.server.now
    h.provenance.server.invariant.wellFormed hroute hclaims hclientId hrequestId
    (patient_none d.cfg) hregistered hcall.content with
    ⟨store, hruns, hregistry, hcontent⟩
  have hfresh : t.server.tasks.get? t.exchanges.length = none := h.provenance.fresh
  apply Leads.next (.work w operation)
  rw [hbegin]
  apply (leads_handled hfresh hrequest hruns).mono
  intro u hu
  refine ⟨effectiveContentType d.cfg (some received), ⟨?_, ?_, ?_, ?_, ?_⟩,
    hencodable, ?_⟩
  · rw [hu.callers]
    exact hcall.waits
  · rw [hu.others task hcall.begun]
    exact hcall.handler
  · rw [hu.exchanges]
    exact lt_of_lt_of_le hcall.begun (List.prefix_append _ _).length_le
  · rw [hu.store]
    exact (congrArg (fun registry => registry.get? (d.client k).clientId) hregistry).trans
      hcall.registered
  · rw [hu.store, ← hid]
    exact hcontent
  · rw [hu.desks]
    simp [t, State.setDesk]

theorem callPosted_returned (settings : Client.Settings) (deadline : Option Time)
    {message : PypeResponse} (hencodable : HeaderText.Encodable message.contentType)
    (hfaithful : HeaderText.Faithful message.requestId) (source : TaskId) (clock : Clock)
    (conn : Client.ClientConnection) :
    exists response, conn.callPosted settings message.requestId deadline
        (.reply (responseReply message)) source clock =
          (conn.note (.received response),
            .returned (.response message.requestId response)) ∧
      response.payload = message.payload := by
  have hstatus : (responseReply message).status = 200 :=
    messageReply_ok_iff.mpr
      ⟨encodable_mediaTypeHeader_iff.mpr hencodable, by simp, hfaithful.left⟩
  have hexpected : Client.expectReply (.reply (responseReply message)) [200, 202] =
      .ok (responseReply message) := by
    simp [Client.expectReply, Client.raiseForStatus, hstatus]
  rcases HeaderText.exists_encode_of_encodable hfaithful.left with ⟨bytes, hbytes⟩
  have hid := (messageReply_of_ok hstatus).right.right.left
  cases hread : Client.ClientConnection.readResponse (responseReply message)
      "application/octet-stream" source with
  | none =>
      rw [Client.ClientConnection.readResponse, Option.map_eq_none_iff] at hread
      rw [responseReply, hid, hbytes] at hread
      cases hread
  | some response =>
      rcases read_of_responseReply hstatus hread with ⟨hpayload, hsame⟩
      refine ⟨response, ?_, hpayload⟩
      unfold Client.ClientConnection.callPosted
      rw [hexpected]
      dsimp only
      rw [if_pos hstatus, hread]
      dsimp only
      rw [if_pos (hsame hfaithful)]

theorem leads_returned (x : Posted PypeResponse)
    (hcall : Underway d k task x.message.requestId deadline entry [x] s)
    (hencodable : HeaderText.Encodable x.message.contentType)
    (hfaithful : HeaderText.Faithful x.message.requestId) :
    Leads d.step (fun s' => (s'.callers k).waiting = none ∧ s'.desks = s.desks ∧
      exists response,
        (x.message.requestId, response) ∈ (s'.callers k).connection.returnedResponses ∧
          response.payload = x.message.payload) s := by
  rcases hcall.handler with ⟨request, params, claims, expires, hhandler⟩
  have hruns : exists store, runStretches d.cfg d.jwt task request s.server.now
      [.serve, .resume] (s.server.store, .postRequestGet params claims entry expires) =
        some (store, .done (responseReply x.message)) :=
    wait_runs task s.server.now expires hcall.content
  rcases hruns with ⟨store, hruns⟩
  apply (leads_run hhandler hruns).bind
  intro u hu
  have hwaits : (u.callers k).waiting =
      some (task, .call x.message.requestId deadline) := by
    rw [hu.callers]
    exact hcall.waits
  rcases callPosted_returned d.settings deadline hencodable hfaithful task
    (Clock.constant 0) (u.callers k).connection with ⟨response, hturn, hbody⟩
  apply Leads.next (.reply k (Clock.constant 0))
  apply Leads.here
  rw [step_reply hwaits hu.ran, Client.ClientConnection.resume]
  dsimp only
  rw [hturn, settle_over (by intro call f; simp)]
  refine ⟨?_, hu.desks, response, ?_, hbody⟩
  · simp [State.setCaller]
  · simp [State.setCaller, Client.ClientConnection.returnedResponses,
      Client.ClientConnection.noteReturned, Client.Progress.pending,
      Client.Returned.responsesOf]

end

theorem getRequestPolled_returned (message : PypeRequest)
    (hencodable : HeaderText.Encodable message.contentType)
    (hclient : HeaderText.Faithful message.clientId)
    (hid : HeaderText.Faithful message.requestId) (source : TaskId)
    (conn : Client.ServiceConnection) :
    exists q, conn.getRequestPolled (.reply (requestReply message)) source =
        .returned (.request q) ∧
      q.source = source ∧ q.clientId = message.clientId ∧
        q.requestId = message.requestId ∧ q.payload = message.payload := by
  have hstatus : (requestReply message).status = 200 := by
    apply messageReply_ok_iff.mpr
    refine ⟨encodable_mediaTypeHeader_iff.mpr hencodable, ?_, hid.left⟩
    intro value heq
    cases heq
    exact hclient.left
  have hexpected : Client.expectReply (.reply (requestReply message)) [200, 204] =
      .ok (requestReply message) := by
    simp [Client.expectReply, Client.raiseForStatus, hstatus]
  have hnot : (requestReply message).status ≠ 204 := by
    rw [hstatus]
    decide
  rcases HeaderText.exists_encode_of_encodable hid.left with ⟨bytes, hbytes⟩
  rcases HeaderText.exists_encode_of_encodable hclient.left with ⟨bytes', hbytes'⟩
  rcases messageReply_of_ok hstatus with ⟨_, hclientId, hrequestId, _⟩
  have hread : Client.ServiceConnection.readRequest (requestReply message)
      conn.serviceName source = some
        { clientId := HeaderText.decode bytes'
          requestId := HeaderText.decode bytes
          contentType := Client.replyContentType (requestReply message)
            "application/octet-stream"
          payload := Client.replyPayload (requestReply message)
          serviceName := conn.serviceName
          source := source } := by
    unfold Client.ServiceConnection.readRequest
    rw [requestReply, hrequestId, hclientId, hbytes]
    dsimp only [Option.bind_some]
    rw [hbytes']
  rcases read_of_requestReply hstatus hread with ⟨hpayload, hsame, hsame'⟩
  refine ⟨_, ?_, rfl, hsame hclient, hsame' hid, hpayload⟩
  unfold Client.ServiceConnection.getRequestPolled
  rw [hexpected]
  dsimp only
  rw [if_neg hnot, hread]

/-- The worker pulled the request of the client's call, and the call returned what the
worker answered to it. -/
def AnsweredBy (d : Deployment caller worker) (k : caller) (w : worker)
    (request : Client.Payload) (answer : Client.ClientRequest -> Client.Payload)
    (s t : State caller worker) : Prop :=
  (t.callers k).waiting = none ∧ exists pulled response,
    pulled ∈ (t.desks w).pulled ∧ pulled ∉ (s.desks w).pulled ∧
      pulled.clientId = (d.client k).clientId ∧ pulled.payload = request.body ∧
      (pulled.requestId, response) ∈ (t.callers k).connection.returnedResponses ∧
      response.payload = (answer pulled).body

/-- From every reachable state in which a client and a worker are logged in, the system
can go on to a state in which the client waits for nothing and whatever call it makes
can be answered by the worker, whatever the worker answers. -/
theorem call_answered (d : Deployment caller worker) (moves : List (Move caller worker))
    {k : caller} {w : worker}
    (hcaller : ((d.reached moves).callers k).connection.closed = false)
    (hdesk : ((d.reached moves).desks w).connection.closed = false) :
    Leads d.step (fun s => (s.callers k).waiting = none ∧
      forall request contentType timeout answer answerType now,
        Transmits d contentType -> Patient d.cfg timeout -> Transmits d answerType ->
          Leads d.step (AnsweredBy d k w request answer s)
            (d.step s (.ask k (.call (d.service w).name request contentType timeout)
              (Clock.constant now)))) (d.reached moves) := by
  apply (leads_ready (sound_reached d moves) hcaller hdesk).mono
  intro s hs
  rcases hs with ⟨hsound, hready⟩
  refine ⟨hready.caller.waits, ?_⟩
  intro request contentType timeout answer answerType now htransmits hpatient htransmits'
  have hfaithful := faithful_toString ((s.callers k).connection.nextRequestId + 1)
  have hne := toString_ne_empty ((s.callers k).connection.nextRequestId + 1)
  generalize hminted : toString ((s.callers k).connection.nextRequestId + 1) = requestId
    at hfaithful hne
  apply ((hsound.step _).keep
    (leads_underway hsound hready hminted request htransmits hpatient now)).bind
  intro u hu
  rcases hu with ⟨husound, entry, sent, hcall, hdesks, hencodable, hqueued⟩
  apply (husound.keep
    (leads_pulls husound.provenance (hready.desk.of_desks hdesks) hqueued)).bind
  intro v hv
  rcases hv with ⟨hvsound, hpulls⟩
  rcases getRequestPolled_returned
    ⟨(d.client k).clientId, requestId, sent, request.body⟩ hencodable
    (d.client k).plain.faithful hfaithful u.exchanges.length (u.desks w).connection with
    ⟨q, hreturned, hsource, hclient, hid, hpayload⟩
  have hdesk' := hpulls.desk
  rw [hreturned, pulledBy] at hdesk'
  -- the request comes from an exchange that had not begun when the others were pulled
  have hnew : q ∉ (u.desks w).pulled := by
    intro hq
    rcases (husound.provenance.desks w).pulled q hq with ⟨_, _, _, hbefore, _⟩
    rw [hsource, List.getElem?_eq_none_iff.mpr (le_refl u.exchanges.length)] at hbefore
    cases hbefore
  have hfree : DeskFree w v := by
    constructor
    · rw [hdesk']
    · rw [hdesk', hdesks]
      exact hready.desk.opened
  have hpulled : q ∈ (v.desks w).pulled := by
    rw [hdesk']
    exact List.mem_append_right _ List.mem_cons_self
  have hanswered : q ∉ (v.desks w).answered := by
    rw [hdesk']
    exact fun hq => hnew (husound.answered w q hq)
  apply (hvsound.keep (leads_answered hvsound hfree (hcall.pulls hpulls) hpulled hanswered
    hclient hid hne (answer q) htransmits')).bind
  intro x hx
  rcases hx with ⟨hxsound, answered, hcall', hencodable', hkept⟩
  apply (leads_returned ⟨v.exchanges.length, ⟨requestId, answered, (answer q).body⟩⟩
    hcall' hencodable' hfaithful).mono
  intro t ht
  rcases ht with ⟨hwaits, hsame, response, hresponse, hbody⟩
  refine ⟨hwaits, q, response, ?_, ?_, hclient, hpayload, ?_, hbody⟩
  · rw [hsame, hkept]
    exact hpulled
  · rw [← hdesks]
    exact hnew
  · rw [hid]
    exact hresponse

end

def abandoned : List (Move Unit Unit) :=
  [.ask () (.sendRequest "s" (.raw [1]) "text/plain" none) (Clock.constant 0)] ++
    stretches 0 [.start "", .body, .serve, .resume]

theorem call_answered_abandoned :
    exists moves : List (Move Unit Unit),
      ((run pair.step (pair.reached abandoned) moves).callers ()).waiting = none ∧
        Leads pair.step
          (AnsweredBy pair () () (.raw [2]) (fun q => .raw (q.payload ++ [3]))
            (run pair.step (pair.reached abandoned) moves))
          (pair.step (run pair.step (pair.reached abandoned) moves)
            (.ask () (.call "s" (.raw [2]) "text/plain" none) (Clock.constant 0))) := by
  have htransmits : Transmits pair "text/plain" := ⟨"text/plain", rfl, by decide +kernel⟩
  have hcaller : ((pair.reached abandoned).callers ()).connection.closed = false := by
    decide +kernel
  have hdesk : ((pair.reached abandoned).desks ()).connection.closed = false := by
    decide +kernel
  rcases call_answered pair abandoned hcaller hdesk with ⟨moves, hwaits, hcalls⟩
  exact ⟨moves, hwaits,
    hcalls _ _ _ _ _ _ htransmits (patient_none pair.cfg) htransmits⟩

end System
end Pype
