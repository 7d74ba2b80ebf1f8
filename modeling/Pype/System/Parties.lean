import Pype.Client.Lifecycle
import Pype.Server.Verdicts
import Pype.System.Correlation

/-!
# What the parties ask for

Every call of the library is one that the server does not refuse, but for the timeout
that the caller chose: a client polls for its own id and posts under its own token, a
worker pulls for its own service and answers requests that it has pulled.  A client's
logoff is its last call.
-/

namespace Pype
namespace System

open Foundation Server

section

variable {caller worker : Type}

structure CallerCalls (d : Deployment caller worker) (s : State caller worker)
    (k : caller) : Prop where
  clientId : (s.callers k).connection.clientId = (d.client k).clientId
  calls : forall (task : TaskId) call, s.exchanges[task]? = some (.client k call) ->
    call.IsPoll (d.client k).clientId ∨ call.IsPost PlainSegment ∨ call.IsLogoff
  waits : forall task frame, (s.callers k).waiting = some (task, frame) ->
    (s.callers k).connection.closed = true -> frame = .close
  opened : (s.callers k).connection.closed = false -> forall (task : TaskId) call,
    s.exchanges[task]? = some (.client k call) -> call.method ≠ .delete
  last : forall (task : TaskId) call, s.exchanges[task]? = some (.client k call) ->
    call.method = .delete -> forall (task' : TaskId) call',
      s.exchanges[task']? = some (.client k call') -> task' ≤ task

/-- What is known of a worker's calls: each was made by an operation on a connection of
its service. -/
def WorkerCalls (d : Deployment caller worker) (s : State caller worker) (w : worker) :
    Prop :=
  forall (task : TaskId) operation call,
    s.exchanges[task]? = some (.worker w operation call) ->
      exists (conn : Client.ServiceConnection) (frame : Client.ServiceConnection.Frame),
        conn.serviceName = (d.service w).name ∧
          (conn.start d.settings operation).2 = .blocked call frame

structure PartyCalls (d : Deployment caller worker) (s : State caller worker) : Prop where
  callers : forall k, CallerCalls d s k
  workers : forall w, WorkerCalls d s w

variable {d : Deployment caller worker} {s s' : State caller worker} {k : caller}
  {w : worker}

/-!
## What others do
-/

theorem CallerCalls.frame (h : CallerCalls d s k) (hcaller : s'.callers k = s.callers k)
    (hmine : forall (task : TaskId) call, s'.exchanges[task]? = some (.client k call) ->
      s.exchanges[task]? = some (.client k call)) : CallerCalls d s' k where
  clientId := by
    rw [hcaller]
    exact h.clientId
  calls := fun task call hcall => h.calls task call (hmine task call hcall)
  waits := by
    rw [hcaller]
    exact h.waits
  opened := by
    rw [hcaller]
    exact fun hopen task call hcall => h.opened hopen task call (hmine task call hcall)
  last := fun task call hcall hdelete task' call' hcall' =>
    h.last task call (hmine task call hcall) hdelete task' call' (hmine task' call' hcall')

theorem WorkerCalls.frame (h : WorkerCalls d s w)
    (hmine : forall (task : TaskId) operation call,
      s'.exchanges[task]? = some (.worker w operation call) ->
        s.exchanges[task]? = some (.worker w operation call)) : WorkerCalls d s' w :=
  fun task operation call hcall => h task operation call (hmine task operation call hcall)

theorem PartyCalls.same (h : PartyCalls d s) (hcallers : s'.callers = s.callers)
    (hexchanges : s'.exchanges = s.exchanges) : PartyCalls d s' where
  callers := by
    intro k
    apply (h.callers k).frame
    · rw [hcallers]
    · rw [hexchanges]
      exact fun _ _ hcall => hcall
  workers := by
    intro w
    apply (h.workers w).frame
    rw [hexchanges]
    exact fun _ _ _ hcall => hcall

theorem partyCalls_initial (d : Deployment caller worker) :
    PartyCalls d d.initial where
  callers := by
    intro k
    constructor
    · rfl
    · intro task call hcall
      cases hcall
    · intro task frame hwaits
      cases hwaits
    · intro _ task call hcall
      cases hcall
    · intro task call hcall
      cases hcall
  workers := by
    intro w task operation call hcall
    cases hcall

/-!
## A client's turn
-/

section

variable [DecidableEq caller]

theorem PartyCalls.over (h : PartyCalls d s) {conn : Client.ClientConnection}
    (hclient : conn.clientId = (s.callers k).connection.clientId)
    (hclosed : conn.closed = (s.callers k).connection.closed) :
    PartyCalls d (s.setCaller k ⟨conn, none⟩) where
  callers := by
    intro k'
    by_cases hk : k' = k
    · subst hk
      have hmine : (s.setCaller k' ⟨conn, none⟩).callers k' = ⟨conn, none⟩ :=
        Function.update_self _ _ _
      have hold := h.callers k'
      refine ⟨?_, hold.calls, ?_, ?_, hold.last⟩
      · rw [hmine]
        exact hclient.trans hold.clientId
      · rw [hmine]
        intro task frame hwaits
        cases hwaits
      · rw [hmine]
        exact fun hopen => hold.opened (hclosed.symm.trans hopen)
    · apply (h.callers k').frame
      · exact Function.update_of_ne hk _ _
      · exact fun _ _ hcall => hcall
  workers := fun w => (h.workers w).frame fun _ _ _ hcall => hcall

theorem PartyCalls.issue (h : PartyCalls d s) {conn : Client.ClientConnection}
    {call : Client.HttpCall} {frame : Client.Frame}
    (hopen : (s.callers k).connection.closed = false)
    (hclient : conn.clientId = (s.callers k).connection.clientId)
    (hcall : call.IsPoll (d.client k).clientId ∨ call.IsPost PlainSegment ∨ call.IsLogoff)
    (hframe : conn.closed = true -> frame = .close)
    (hlogoff : call.method = .delete -> conn.closed = true) :
    PartyCalls d (d.settle k (conn, .blocked call frame) s) where
  callers := by
    intro k'
    by_cases hk : k' = k
    · subst hk
      have hmine : (d.settle k' (conn, .blocked call frame) s).callers k' =
          ⟨conn.noteReturned [], some (s.exchanges.length, frame)⟩ :=
        Function.update_self _ _ _
      have hold := h.callers k'
      have split : forall {task : TaskId} {call' : Client.HttpCall},
          (s.exchanges ++ [.client k' call])[task]? = some (.client k' call') ->
            s.exchanges[task]? = some (.client k' call') ∨
              (task = s.exchanges.length ∧ call' = call) := by
        intro task call' hcall'
        rcases getElem?_snoc hcall' with hbefore | ⟨hnew, heq⟩
        · exact Or.inl hbefore
        · cases heq
          exact Or.inr ⟨hnew, rfl⟩
      constructor
      · rw [hmine]
        exact hclient.trans hold.clientId
      · intro task call' hcall'
        rcases split hcall' with hbefore | ⟨_, rfl⟩
        · exact hold.calls task call' hbefore
        · exact hcall
      · rw [hmine]
        intro task frame' hwaits hclosed
        cases hwaits
        exact hframe hclosed
      · rw [hmine]
        intro hstill task call' hcall' hdelete
        rcases split hcall' with hbefore | ⟨_, rfl⟩
        · exact hold.opened hopen task call' hbefore hdelete
        · exact absurd ((hlogoff hdelete).symm.trans hstill) (by simp)
      · intro task call' hcall' hdelete task' call'' hcall''
        rcases split hcall' with hbefore | ⟨rfl, _⟩
        · exact absurd hdelete (hold.opened hopen task call' hbefore)
        · rcases split hcall'' with hbefore | ⟨rfl, _⟩
          · exact Nat.le_of_lt (List.getElem?_eq_some_iff.mp hbefore).choose
          · exact Nat.le_refl _
    · apply (h.callers k').frame
      · exact Function.update_of_ne hk _ _
      · intro task call' hcall'
        rcases getElem?_snoc hcall' with hbefore | ⟨_, heq⟩
        · exact hbefore
        · cases heq
          exact absurd rfl hk
  workers := by
    intro w
    apply (h.workers w).frame
    intro task operation call' hcall'
    rcases getElem?_snoc hcall' with hbefore | ⟨_, heq⟩
    · exact hbefore
    · cases heq

theorem PartyCalls.minds (h : PartyCalls d s)
    {result : Client.ClientConnection × Client.Progress}
    (hminds : (s.callers k).connection.Minds result)
    (hopen : (s.callers k).connection.closed = true ->
      forall call frame, result.2 ≠ .blocked call frame) :
    PartyCalls d (d.settle k result s) := by
  rcases result with ⟨conn, progress⟩
  cases progress with
  | blocked call frame =>
      have hpoll := hminds.polls call frame rfl
      have hopen' : (s.callers k).connection.closed = false := by
        apply Bool.eq_false_of_not_eq_true
        intro hclosed
        exact hopen hclosed call frame rfl
      have hclosed : conn.closed = (s.callers k).connection.closed := hminds.closed
      rw [hopen'] at hclosed
      apply h.issue hopen' hminds.clientId
      · left
        rw [← (h.callers k).clientId]
        exact hpoll
      · intro hclosed'
        rw [hclosed] at hclosed'
        cases hclosed'
      · intro hdelete
        rw [hpoll.method] at hdelete
        cases hdelete
  | returned value => exact h.over hminds.clientId hminds.closed
  | raised error => exact h.over hminds.clientId hminds.closed

theorem PartyCalls.ask (h : PartyCalls d s) {operation : Client.Operation}
    (hasks : AsksPlain operation) (clock : Clock) :
    PartyCalls d (d.settle k
      ((s.callers k).connection.start d.settings operation clock) s) := by
  have hcases := @Client.ClientConnection.start_cases d.settings
    (s.callers k).connection operation clock
  have hquiet : (s.callers k).connection.closed = true -> forall call frame,
      ((s.callers k).connection.start d.settings operation clock).2 ≠
        .blocked call frame := by
    intro hclosed call frame hblocked
    rw [Client.ClientConnection.start_of_closed hclosed] at hblocked
    cases operation <;> cases hblocked
  generalize (s.callers k).connection.start d.settings operation clock = result
    at hcases hquiet ⊢
  cases hcases with
  | refuses error => exact h.over rfl rfl
  | searches hsearch => exact h.minds hsearch.minds hquiet
  | posts hopen hpost hframe hid =>
      apply h.issue hopen
      · rfl
      · refine Or.inr (Or.inl ⟨hpost.method, ?_, hpost.requestId, hpost.contentType⟩)
        rcases hpost.path with ⟨serviceName, hsends, hpath⟩
        refine ⟨serviceName, ?_, hpath⟩
        cases operation with
        | sendRequest name request contentType timeout =>
            rw [show serviceName = name from hsends]
            exact hasks
        | call name request contentType timeout =>
            rw [show serviceName = name from hsends]
            exact hasks
        | getResponse | collect | close => cases hsends
      · intro hclosed
        rw [show (s.callers k).connection.closed = true from hclosed] at hopen
        cases hopen
      · intro hdelete
        rw [hpost.method] at hdelete
        cases hdelete
  | leaves hopen hlogoff hframe =>
      apply h.issue hopen
      · rfl
      · exact Or.inr (Or.inr hlogoff)
      · exact fun _ => rfl
      · exact fun _ => rfl
  | left => exact h.over rfl rfl

theorem PartyCalls.resume (h : PartyCalls d s) {task : TaskId} {frame : Client.Frame}
    (hwaits : (s.callers k).waiting = some (task, frame)) (outcome : Client.Outcome)
    (clock : Clock) :
    PartyCalls d (d.settle k
      ((s.callers k).connection.resume d.settings frame outcome task clock) s) := by
  apply h.minds (Client.ClientConnection.minds_resume frame outcome task clock)
  intro hclosed call frame' hblocked
  rw [(h.callers k).waits task frame hwaits hclosed,
    Client.ClientConnection.resume_close] at hblocked
  cases hblocked

end

/-!
## A worker's turn
-/

section

variable [DecidableEq worker]

theorem PartyCalls.begin (h : PartyCalls d s) (hprovenance : Provenance d s)
    (operation : Client.ServiceConnection.Operation) :
    PartyCalls d (d.begin w operation s) := by
  unfold Deployment.begin
  dsimp only
  split
  · rename_i call frame hblocked
    constructor
    · intro k
      apply (h.callers k).frame
      · rfl
      · intro task call' hcall'
        rcases getElem?_snoc hcall' with hbefore | ⟨_, heq⟩
        · exact hbefore
        · cases heq
    · intro w' task operation' call' hcall'
      rcases getElem?_snoc hcall' with hbefore | ⟨_, heq⟩
      · exact h.workers w' task operation' call' hbefore
      · cases heq
        exact ⟨(s.desks w).connection, frame, (hprovenance.desks w).named, hblocked⟩
  · exact h.same rfl rfl

end

/-!
## Every move
-/

section

variable [DecidableEq caller] [DecidableEq worker]

theorem PartyCalls.step (h : PartyCalls d s) (hprovenance : Provenance d s)
    (move : Move caller worker) : PartyCalls d (d.step s move) := by
  have hcases := d.step_cases s move
  generalize d.step s move = s' at hcases ⊢
  have hends : forall {task outcome t}, Deployment.Ends d s task outcome t ->
      PartyCalls d t ∧ t.callers = s.callers := by
    intro task outcome t hends
    cases hends with
    | replied hready => exact ⟨h.same rfl rfl, rfl⟩
    | failed timedOut => exact ⟨h, rfl⟩
  cases hcases with
  | idles => exact h
  | asks hasks => exact h.ask hasks _
  | resumes hwaits hover =>
      rcases hends hover with ⟨h', hcallers⟩
      rw [← hcallers] at hwaits ⊢
      exact h'.resume hwaits _ _
  | works hmay => exact h.begin hprovenance _
  | finishes hwaits hover => exact (hends hover).left.same rfl rfl
  | visits hvisit =>
      constructor
      · intro k
        apply (h.callers k).frame
        · rfl
        · intro task call hcall
          rcases getElem?_snoc hcall with hbefore | ⟨_, heq⟩
          · exact hbefore
          · cases heq
      · intro w
        apply (h.workers w).frame
        intro task operation call hcall
        rcases getElem?_snoc hcall with hbefore | ⟨_, heq⟩
        · exact hbefore
        · cases heq
  | handles hconnect => exact h.same rfl rfl

theorem partyCalls_reached (d : Deployment caller worker)
    (moves : List (Move caller worker)) :
    Provenance d (d.reached moves) ∧ PartyCalls d (d.reached moves) := by
  refine run_invariant (fun s => Provenance d s ∧ PartyCalls d s) ?_
    ⟨provenance_initial d, partyCalls_initial d⟩ moves
  intro s move h
  exact ⟨h.left.step move, h.right.step h.left move⟩

end

/-!
## What the server makes of a call
-/

theorem refuseText_of_ne {text : String} (h : text ≠ "") (next : Verdict) :
    refuseText text next = next :=
  if_neg h

theorem toString_ne_empty (n : Nat) : toString n ≠ "" := by
  intro h
  have hpos := @Nat.length_toDigits_pos 10 n
  rw [← Nat.toList_repr, ← Nat.toString_eq_repr, h] at hpos
  cases hpos

theorem verdict_client {call : Client.HttpCall} {request : HttpRequest}
    (hrequest : d.requestFor (.client k call) = some request)
    (hcall : call.IsPoll (d.client k).clientId ∨ call.IsPost PlainSegment ∨
      call.IsLogoff) :
    verdict d.cfg d.jwt request = refuseTimeout d.cfg call.timeout := by
  have hplain : (d.client k).clientId ≠ "" := (d.client k).plain.left.left
  have hclaims := clientClaims_bearer (d.client k).issued hplain
  rcases Option.map_eq_some_iff.mp hrequest with ⟨endpoint, hendpoint, rfl⟩
  rcases hcall with hpoll | hpost | hlogoff
  · rw [endpointOf, hpoll.method, hpoll.path, hpoll.requestId, hpoll.contentType]
      at hendpoint
    cases hendpoint
    simp only [verdict, hclaims, refuseClaims, refuseText_of_ne hplain, ne_eq, not_true,
      if_false]
  · rcases hpost.path with ⟨serviceName, hservice, hpath⟩
    rcases hpost.requestId with ⟨n, hid⟩
    rcases Option.isSome_iff_exists.mp hpost.contentType with ⟨contentType, htype⟩
    rw [endpointOf, hpost.method, hpath, hid, htype] at hendpoint
    rcases Option.map_eq_some_iff.mp hendpoint with ⟨arrived, _, rfl⟩
    simp only [verdict, hclaims, refuseClaims, refuseText_of_ne hservice.left.left,
      refuseText_of_ne (toString_ne_empty n)]
  · rw [endpointOf, hlogoff.method, hlogoff.path, hlogoff.requestId,
      hlogoff.contentType] at hendpoint
    cases hendpoint
    simp only [verdict, hclaims, refuseClaims, refuseTimeout, hlogoff.timeout,
      normalizeTimeout]

theorem Provenance.answers_named (h : Provenance d s)
    (hservices : ServiceAccount s.server.store) {q : Client.ClientRequest}
    (hq : q ∈ (s.desks w).pulled) : q.clientId ≠ "" ∧ q.requestId ≠ "" := by
  rcases h.pulled ((h.desks w).pulled q hq) with
    ⟨serviceName, queue, sent, message, htaken, _, hclient, hrequest⟩
  rcases h.sender hservices htaken with
    ⟨k, call, hcall, hsends, _, howner, hfaithful⟩
  have hplain := (d.client k).plain
  constructor
  · rw [hclient (howner ▸ hplain.faithful), howner]
    exact hplain.left.left
  · rcases (h.callers k).minted sent call hcall hsends.left with ⟨n, _, hminted⟩
    have hid : message.requestId = toString n :=
      Option.some.inj (hsends.right.symm.trans hminted)
    rw [hrequest hfaithful, hid]
    exact toString_ne_empty n

theorem verdict_worker (h : Provenance d s) (hservices : ServiceAccount s.server.store)
    {task : TaskId} {operation : Client.ServiceConnection.Operation}
    {call : Client.HttpCall} {request : HttpRequest}
    (hrequest : d.requestFor (.worker w operation call) = some request)
    (hcall : s.exchanges[task]? = some (.worker w operation call))
    (hmade : WorkerCalls d s w) :
    verdict d.cfg d.jwt request = refuseTimeout d.cfg call.timeout := by
  have hclaims := serviceClaims_bearer (d.service w).issued
  rcases Option.map_eq_some_iff.mp hrequest with ⟨endpoint, hendpoint, rfl⟩
  rcases hmade task operation call hcall with ⟨conn, frame, hservice, hstart⟩
  cases operation with
  | getRequest timeout =>
      simp only [Client.ServiceConnection.start,
        Client.ServiceConnection.getRequest] at hstart
      split at hstart <;> cases hstart
      rw [hservice] at hendpoint
      cases hendpoint
      have hplain : (d.service w).name ≠ "" := (d.service w).plain.left.left
      simp only [verdict, hclaims, refuseClaims, refuseText_of_ne hplain, ne_eq, not_true,
        if_false]
  | sendResponse forRequest payload contentType timeout =>
      have hin := ((h.desks w).answers task _ call forRequest hcall rfl).left
      rcases h.answers_named hservices hin with ⟨hclient, hid⟩
      simp only [Client.ServiceConnection.start,
        Client.ServiceConnection.sendResponse] at hstart
      split at hstart <;> cases hstart
      rcases Option.map_eq_some_iff.mp hendpoint with ⟨arrived, _, rfl⟩
      simp only [verdict, hclaims, refuseClaims, refuseText_of_ne hclient,
        refuseText_of_ne hid]
  | close => cases hstart

def Exchange.call? : Exchange caller worker -> Option Client.HttpCall
  | .client _ call => some call
  | .worker _ _ call => some call
  | .visitor _ => none

theorem Provenance.follows (h : Provenance d s) (hparties : PartyCalls d s) {task : TaskId}
    {x : Exchange caller worker} {call : Client.HttpCall} {reply : HttpReply}
    (hexchange : s.exchanges[task]? = some x) (hcall : x.call? = some call)
    (hanswered : .answered task reply ∈ s.server.store.history) :
    reply.Follows (refuseTimeout d.cfg call.timeout) := by
  rcases h.server.ran with ⟨es, hes⟩
  have hservices : ServiceAccount s.server.store := by
    rw [hes]
    exact (serviceAccount_storeInvariant d.cfg d.jwt).reached serviceAccount_initial es
  have hjudged : App.AllJudged d.cfg d.jwt s.server := by
    rw [hes]
    exact App.allJudged_reached d.cfg d.jwt es
  rcases App.follows_of_answered h.server.invariant hjudged hanswered with
    ⟨t, ht, hfollows⟩
  rcases h.server.requests task t ht with ⟨x', hx', hrequest⟩
  cases hexchange.symm.trans hx'
  cases x with
  | client k made =>
      cases hcall
      rw [verdict_client hrequest ((hparties.callers k).calls task call hexchange)]
        at hfollows
      exact hfollows
  | worker w operation made =>
      cases hcall
      rw [verdict_worker h hservices hrequest hexchange (hparties.workers w)]
        at hfollows
      exact hfollows
  | visitor request => cases hcall

section

variable [DecidableEq caller] [DecidableEq worker]

/-- In every run of every deployment, the server refuses a call of a client or a worker
if its timeout is out of range, and otherwise never. -/
theorem parties_never_refused (d : Deployment caller worker)
    (moves : List (Move caller worker)) (task : TaskId) (x : Exchange caller worker)
    (call : Client.HttpCall) (reply : HttpReply)
    (hexchange : (d.reached moves).exchanges[task]? = some x)
    (hcall : x.call? = some call)
    (hanswered : .answered task reply ∈ (d.reached moves).server.store.history) :
    reply.Follows (refuseTimeout d.cfg call.timeout) := by
  rcases partyCalls_reached d moves with ⟨h, hparties⟩
  exact h.follows hparties hexchange hcall hanswered

/-- In every run of every deployment, a client logs off once at most, and makes no call
afterwards. -/
theorem logoff_last (d : Deployment caller worker) (moves : List (Move caller worker))
    (k : caller) (task task' : TaskId) (logoff call : Client.HttpCall)
    (hlogoff : (d.reached moves).exchanges[task]? = some (.client k logoff))
    (hdelete : logoff.method = .delete)
    (hcall : (d.reached moves).exchanges[task']? = some (.client k call)) :
    task' ≤ task ∧ (task' ≠ task -> call.method ≠ .delete) ∧
      ((d.reached moves).callers k).connection.closed = true := by
  have hk := (partyCalls_reached d moves).right.callers k
  refine ⟨hk.last task logoff hlogoff hdelete task' call hcall, ?_, ?_⟩
  · intro hne hdelete'
    apply hne
    apply Nat.le_antisymm
    · exact hk.last task logoff hlogoff hdelete task' call hcall
    · exact hk.last task' call hcall hdelete' task logoff hlogoff
  · by_contra hopen
    exact hk.opened (Bool.eq_false_of_not_eq_true hopen) task logoff hlogoff hdelete

end

end

def impatient : List (Move Unit Unit) :=
  [.ask () (.sendRequest "s" (.raw []) "text/plain" (some (-1))) (Clock.constant 0),
    .serve 0 (.start "") (Clock.constant 0),
    .reply () (Clock.constant 0),
    .ask () .close (Clock.constant 0)]

def clientMethod? : Exchange Unit Unit -> Option Client.Method
  | .client _ call => some call.method
  | _ => none

theorem exists_of_clientMethod? {exchanges : List (Exchange Unit Unit)} {task : TaskId}
    {method : Client.Method} (h : exchanges[task]?.bind clientMethod? = some method) :
    exists call, exchanges[task]? = some (.client () call) ∧ call.method = method := by
  rcases Option.bind_eq_some_iff.mp h with ⟨x, hx, hmethod⟩
  cases x with
  | client k call => exact ⟨call, hx, Option.some.inj hmethod⟩
  | worker w operation call => cases hmethod
  | visitor request => cases hmethod

theorem parties_never_refused_impatient :
    exists call, exists reply : HttpReply,
      (pair.reached impatient).exchanges[0]? = some (.client () call) ∧
        reply.status = 400 ∧ reply.Follows (refuseTimeout pair.cfg call.timeout) := by
  have hany : (pair.reached impatient).server.store.history.any
      (Record.answers 0 400) = true := by
    decide +kernel
  have hpost : (pair.reached impatient).exchanges[0]?.bind clientMethod? =
      some .post := by
    decide +kernel
  rcases Record.exists_of_any_answers hany with ⟨reply, hanswered, hstatus⟩
  rcases exists_of_clientMethod? hpost with ⟨call, hcall, _⟩
  exact ⟨call, reply, hcall, hstatus,
    parties_never_refused pair impatient 0 _ call reply hcall rfl hanswered⟩

theorem logoff_last_impatient :
    (pair.reached impatient).exchanges[0]?.bind clientMethod? ≠ some .delete ∧
      ((pair.reached impatient).callers ()).connection.closed = true := by
  have hpost : (pair.reached impatient).exchanges[0]?.bind clientMethod? =
      some .post := by
    decide +kernel
  have hlogoff : (pair.reached impatient).exchanges[1]?.bind clientMethod? =
      some .delete := by
    decide +kernel
  rcases exists_of_clientMethod? hpost with ⟨call, hcall, _⟩
  rcases exists_of_clientMethod? hlogoff with ⟨logoff, hcall', hdelete⟩
  rcases logoff_last pair impatient () 1 0 logoff call hcall' hdelete hcall with
    ⟨_, hother, hclosed⟩
  refine ⟨?_, hclosed⟩
  rw [hcall]
  intro hmethod
  exact hother (by simp) (Option.some.inj hmethod)

end System
end Pype
