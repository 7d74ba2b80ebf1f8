import Pype.Server.Authority
import Pype.Server.ResponseQueues
import Pype.Client.Minting
import Pype.System.Delivery
import Pype.System.Deployment

/-!
# Where every message came from

What a client has received and what a worker has pulled was read from the reply to a
call of its own, every request has its own id, and a worker posts at most one response
to what it pulled.
-/

namespace Pype
namespace Server

open Foundation Store

/-!
## The server
-/

theorem kept_storeInvariant (cfg : Settings) (jwt : Jwt) (r : Record) :
    App.StoreInvariant cfg jwt fun s => r ∈ s.history where
  effect := by
    intro task request s s' _ heffect hr
    rcases heffect.history with ⟨added, hhist, _⟩
    rw [hhist]
    exact List.mem_append_left _ hr
  evict := by
    intro now clientId s entry _ _ _ hr
    rcases ClientRegistry.history_remove (.reaper now) clientId s with
      ⟨added, hhist, _⟩
    rw [hhist]
    exact List.mem_append_left _ hr

namespace App

theorem task_of_step {cfg : Settings} {jwt : Jwt} {s : App} {e : Event}
    {task : TaskId} {t' : Task}
    (h : (step cfg jwt s e).tasks.get? task = some t') :
    (exists t, s.tasks.get? task = some t ∧ t.request = t'.request) ∨
      e = .connect task t'.request := by
  rcases step_cases cfg jwt s e with
    hsame | ⟨other, request, he, _, hstep⟩ |
    ⟨other, t, action, clock, store, phase, _, ht, _, _, hstep⟩ |
    ⟨now, _, _, hstep⟩
  · rw [hsame] at h
    exact Or.inl ⟨t', h, rfl⟩
  · rw [hstep, Dict.get?_set] at h
    split at h
    · rename_i heq
      subst heq
      cases h
      exact Or.inr he
    · exact Or.inl ⟨t', h, rfl⟩
  · rw [hstep, Dict.get?_set] at h
    split at h
    · rename_i heq
      subst heq
      cases h
      exact Or.inl ⟨t, ht, rfl⟩
    · exact Or.inl ⟨t', h, rfl⟩
  · rw [hstep] at h
    exact Or.inl ⟨t', h, rfl⟩

theorem store_connect (cfg : Settings) (jwt : Jwt) (task : TaskId)
    (request : HttpRequest) (s : App) :
    (step cfg jwt s (.connect task request)).store = s.store := by
  simp only [step, connect]
  split <;> rfl

end App

end Server

namespace System

open Foundation Server

theorem answered_of_replyTo? {cfg : Server.Settings} {jwt : Jwt} {s : App}
    (h : s.Invariant cfg jwt) {task : TaskId} {reply : HttpReply}
    (hreply : replyTo? s task = some reply) :
    .answered task reply ∈ s.store.history := by
  unfold replyTo? at hreply
  split at hreply
  · cases hreply
  · rename_i t ht
    split at hreply
    · rename_i hphase
      cases hreply
      have hconduct := h.conduct task t ht
      rw [hphase] at hconduct
      exact (Store.mem_recordsOf.mp (answered_of_finished hconduct)).left
    · cases hreply

section

variable {caller worker : Type}

/-!
## The parties
-/

/-- A response that a client read from the reply to a call of its own. -/
def FromReply (exchanges : List (Exchange caller worker)) (history : List Record)
    (k : caller) (r : Client.ServiceResponse) : Prop :=
  exists call reply default,
    exchanges[r.source]? = some (.client k call) ∧ call.method ≠ .delete ∧
      .answered r.source reply ∈ history ∧ reply.status = 200 ∧
        Client.ClientConnection.readResponse reply default r.source = some r

structure CallerOk (exchanges : List (Exchange caller worker)) (history : List Record)
    (k : caller) (c : Caller) : Prop where
  books : c.connection.Books []
  received : forall r, r ∈ c.connection.receivedResponses ->
    FromReply exchanges history k r
  waits : forall task frame, c.waiting = some (task, frame) ->
    (exists call, exchanges[task]? = some (.client k call) ∧
      (call.method = .delete -> frame = .close)) ∧
    forall r, r ∈ c.connection.receivedResponses -> r.source ≠ task
  minted : forall (task : TaskId) call, exchanges[task]? = some (.client k call) ->
    call.method = .post ->
      exists i, i ≤ c.connection.nextRequestId ∧ call.requestId = some (toString i)
  mintedOnce : forall (task task' : TaskId) call call' key,
    exchanges[task]? = some (.client k call) ->
      exchanges[task']? = some (.client k call') ->
        SendsRequest call key -> SendsRequest call' key -> task = task'

/-- A request that a worker read from the reply to a call of its own. -/
def FromPull (name : String) (exchanges : List (Exchange caller worker))
    (history : List Record) (w : worker) (q : Client.ClientRequest) : Prop :=
  exists operation call reply,
    exchanges[q.source]? = some (.worker w operation call) ∧
      .answered q.source reply ∈ history ∧ reply.status = 200 ∧
        Client.ServiceConnection.readRequest reply name q.source = some q

def answerOf? : Exchange caller worker -> Option Client.ClientRequest
  | .worker _ (.sendResponse forRequest _ _ _) _ => some forRequest
  | _ => none

structure DeskOk (name : String) (exchanges : List (Exchange caller worker))
    (history : List Record) (w : worker) (desk : Desk) : Prop where
  named : desk.connection.serviceName = name
  waits : forall task frame, desk.waiting = some (task, frame) ->
    exists operation call, exchanges[task]? = some (.worker w operation call)
  pulled : forall q, q ∈ desk.pulled -> FromPull name exchanges history w q
  makes : forall (task : TaskId) operation call,
    exchanges[task]? = some (.worker w operation call) ->
      Client.ServiceConnection.Makes operation call
  answers : forall (task : TaskId) operation call q,
    exchanges[task]? = some (.worker w operation call) ->
      answerOf? (.worker w operation call : Exchange caller worker) = some q ->
        q ∈ desk.pulled ∧ q ∈ desk.answered
  once : forall (task task' : TaskId) operation operation' call call' q,
    exchanges[task]? = some (.worker w operation call) ->
      exchanges[task']? = some (.worker w operation' call') ->
        answerOf? (.worker w operation call : Exchange caller worker) = some q ->
          answerOf? (.worker w operation' call' : Exchange caller worker) = some q ->
            task = task'

/-!
## What others do
-/

/-- Nothing is taken back: the exchanges and the history grow. -/
structure Grows (exchanges exchanges' : List (Exchange caller worker))
    (history history' : List Record) : Prop where
  exchange : forall (task : TaskId) x,
    exchanges[task]? = some x -> exchanges'[task]? = some x
  record : forall r, r ∈ history -> r ∈ history'

variable {exchanges exchanges' : List (Exchange caller worker)}
  {history history' : List Record}

theorem FromReply.mono (hgrows : Grows exchanges exchanges' history history')
    {k : caller} {r : Client.ServiceResponse}
    (h : FromReply exchanges history k r) : FromReply exchanges' history' k r := by
  rcases h with ⟨call, reply, default, hcall, hmethod, hanswer, hstatus, hread⟩
  exact ⟨call, reply, default, hgrows.exchange _ _ hcall, hmethod,
    hgrows.record _ hanswer, hstatus, hread⟩

theorem FromPull.mono (hgrows : Grows exchanges exchanges' history history')
    {name : String} {w : worker} {q : Client.ClientRequest}
    (h : FromPull name exchanges history w q) :
    FromPull name exchanges' history' w q := by
  rcases h with ⟨operation, call, reply, hcall, hanswer, hstatus, hread⟩
  exact ⟨operation, call, reply, hgrows.exchange _ _ hcall,
    hgrows.record _ hanswer, hstatus, hread⟩

theorem CallerOk.frame (hgrows : Grows exchanges exchanges' history history')
    {k : caller} {c : Caller}
    (hmine : forall (task : TaskId) call, exchanges'[task]? = some (.client k call) ->
      exchanges[task]? = some (.client k call))
    (h : CallerOk exchanges history k c) : CallerOk exchanges' history' k c where
  books := h.books
  received := fun r hr => (h.received r hr).mono hgrows
  waits := by
    intro task frame hwaits
    rcases h.waits task frame hwaits with ⟨⟨call, hcall, hdelete⟩, hfresh⟩
    exact ⟨⟨call, hgrows.exchange _ _ hcall, hdelete⟩, hfresh⟩
  minted := fun task call hcall => h.minted task call (hmine task call hcall)
  mintedOnce := fun task task' call call' key hcall hcall' =>
    h.mintedOnce task task' call call' key (hmine _ _ hcall) (hmine _ _ hcall')

theorem DeskOk.frame (hgrows : Grows exchanges exchanges' history history')
    {name : String} {w : worker} {desk : Desk}
    (hmine : forall (task : TaskId) operation call,
      exchanges'[task]? = some (.worker w operation call) ->
        exchanges[task]? = some (.worker w operation call))
    (h : DeskOk name exchanges history w desk) :
    DeskOk name exchanges' history' w desk where
  named := h.named
  waits := by
    intro task frame hwaits
    rcases h.waits task frame hwaits with ⟨operation, call, hcall⟩
    exact ⟨operation, call, hgrows.exchange _ _ hcall⟩
  pulled := fun q hq => (h.pulled q hq).mono hgrows
  makes := fun task operation call hcall =>
    h.makes task operation call (hmine _ _ _ hcall)
  answers := fun task operation call q hcall =>
    h.answers task operation call q (hmine _ _ _ hcall)
  once := fun task task' operation operation' call call' q hcall hcall' =>
    h.once task task' operation operation' call call' q (hmine _ _ _ hcall)
      (hmine _ _ _ hcall')

theorem getElem?_snoc {x y : Exchange caller worker} {task : TaskId}
    (h : (exchanges ++ [x])[task]? = some y) :
    exchanges[task]? = some y ∨ (task = exchanges.length ∧ x = y) := by
  rcases Nat.lt_trichotomy task exchanges.length with hlt | rfl | hgt
  · rw [List.getElem?_append_left hlt] at h
    exact Or.inl h
  · rw [List.getElem?_concat_length] at h
    exact Or.inr ⟨rfl, Option.some.inj h⟩
  · rw [List.getElem?_eq_none (by rw [List.length_append]; exact hgt)] at h
    cases h

theorem grows_snoc (x : Exchange caller worker) :
    Grows exchanges (exchanges ++ [x]) history history where
  exchange := by
    intro task y hy
    rw [List.getElem?_append_left (List.getElem?_eq_some_iff.mp hy).choose]
    exact hy
  record := fun r hr => hr

theorem CallerOk.snoc {k : caller} {c : Caller} (h : CallerOk exchanges history k c)
    {x : Exchange caller worker} (hother : forall call, x ≠ .client k call) :
    CallerOk (exchanges ++ [x]) history k c := by
  apply h.frame (grows_snoc x)
  intro task call hcall
  rcases getElem?_snoc hcall with hold | ⟨_, heq⟩
  · exact hold
  · exact absurd heq (hother call)

theorem DeskOk.snoc {name : String} {w : worker} {desk : Desk}
    (h : DeskOk name exchanges history w desk) {x : Exchange caller worker}
    (hother : forall operation call, x ≠ .worker w operation call) :
    DeskOk name (exchanges ++ [x]) history w desk := by
  apply h.frame (grows_snoc x)
  intro task operation call hcall
  rcases getElem?_snoc hcall with hold | ⟨_, heq⟩
  · exact hold
  · exact absurd heq (hother operation call)

theorem unique_snoc (does : Exchange caller worker -> Prop) {x : Exchange caller worker}
    (honce : forall (task task' : TaskId) y y', exchanges[task]? = some y ->
      exchanges[task']? = some y' -> does y -> does y' -> task = task')
    (hfresh : forall (task : TaskId) y, exchanges[task]? = some y -> does y -> ¬ does x)
    {task task' : TaskId} {y y' : Exchange caller worker}
    (hy : (exchanges ++ [x])[task]? = some y)
    (hy' : (exchanges ++ [x])[task']? = some y') (hdoes : does y) (hdoes' : does y') :
    task = task' := by
  rcases getElem?_snoc hy with hold | ⟨hnew, rfl⟩
  · rcases getElem?_snoc hy' with hold' | ⟨_, rfl⟩
    · exact honce task task' y y' hold hold' hdoes hdoes'
    · exact absurd hdoes' (hfresh task y hold hdoes)
  · rcases getElem?_snoc hy' with hold' | ⟨hnew', rfl⟩
    · exact absurd hdoes (hfresh task' y' hold' hdoes')
    · rw [hnew, hnew']

theorem FromReply.lt {k : caller} {r : Client.ServiceResponse}
    (h : FromReply exchanges history k r) : r.source < exchanges.length := by
  rcases h with ⟨call, _, _, hcall, _⟩
  exact (List.getElem?_eq_some_iff.mp hcall).choose

/-!
## A client's turn
-/

theorem CallerOk.settle_over {k : caller} {c : Caller}
    (h : CallerOk exchanges history k c) {conn : Client.ClientConnection}
    {pending : List (String × Client.ServiceResponse)} (hbooks : conn.Books pending)
    (hreceived : forall r, r ∈ conn.receivedResponses ->
      FromReply exchanges history k r)
    (hids : c.connection.nextRequestId ≤ conn.nextRequestId) :
    CallerOk exchanges history k ⟨conn.noteReturned pending, none⟩ where
  books := hbooks.settle
  received := by
    intro r hr
    rw [Client.ClientConnection.received_noteReturned] at hr
    exact hreceived r hr
  waits := by
    intro task frame hwaits
    cases hwaits
  minted := by
    intro task call hcall hpost
    rcases h.minted task call hcall hpost with ⟨i, hi, hid⟩
    exact ⟨i, hi.trans hids, hid⟩
  mintedOnce := h.mintedOnce

theorem CallerOk.settle_blocked {k : caller} {c : Caller}
    (h : CallerOk exchanges history k c) {conn : Client.ClientConnection}
    {call : Client.HttpCall} {frame : Client.Frame} (hbooks : conn.Books [])
    (hreceived : forall r, r ∈ conn.receivedResponses ->
      FromReply exchanges history k r)
    (hmints : c.connection.Mints (conn, .blocked call frame)) :
    CallerOk (exchanges ++ [.client k call]) history k
      ⟨conn.noteReturned [], some (exchanges.length, frame)⟩ where
  books := hbooks.settle
  received := by
    intro r hr
    rw [Client.ClientConnection.received_noteReturned] at hr
    exact (hreceived r hr).mono (grows_snoc _)
  waits := by
    intro task frame' hwaits
    cases hwaits
    constructor
    · exact ⟨call, List.getElem?_concat_length, (hmints.right call frame rfl).right⟩
    · intro r hr
      rw [Client.ClientConnection.received_noteReturned] at hr
      exact Nat.ne_of_lt (hreceived r hr).lt
  minted := by
    intro task call' hcall hpost
    rcases getElem?_snoc hcall with hold | ⟨_, heq⟩
    · rcases h.minted task call' hold hpost with ⟨i, hi, hid⟩
      exact ⟨i, hi.trans hmints.left, hid⟩
    · cases heq
      exact ⟨_, le_refl _, ((hmints.right call frame rfl).left hpost).right⟩
  mintedOnce := by
    -- an older request has a smaller id than the new one
    have hfresh : forall (task : TaskId) call' key,
        exchanges[task]? = some (.client k call') -> SendsRequest call' key ->
          ¬ SendsRequest call key := by
      intro task call' key hold hsends hsends'
      rcases h.minted task call' hold hsends.left with ⟨i, hi, hid⟩
      rcases (hmints.right call frame rfl).left hsends'.left with ⟨hlt, hid'⟩
      rw [hsends.right] at hid
      rw [hsends'.right] at hid'
      have hsame := toString_injective
        ((Option.some.inj hid).symm.trans (Option.some.inj hid'))
      dsimp only at hsame hlt
      omega
    intro task task' call' call'' key hcall hcall' hsends hsends'
    refine unique_snoc (fun x => exists call, x = .client k call ∧
      SendsRequest call key) ?_ ?_ hcall hcall' ⟨call', rfl, hsends⟩ ⟨call'', rfl, hsends'⟩
    · rintro task task' _ _ hold hold' ⟨call', rfl, hsends⟩ ⟨call'', rfl, hsends'⟩
      exact h.mintedOnce task task' call' call'' key hold hold' hsends hsends'
    · rintro task _ hold ⟨call', rfl, hsends⟩ ⟨_, heq, hsends'⟩
      cases heq
      exact hfresh task call' key hold hsends hsends'

/-!
## A worker's turn
-/

theorem DeskOk.begin {name : String} {w : worker} {desk : Desk}
    (h : DeskOk name exchanges history w desk) {conn : Client.ServiceConnection}
    (hnamed : conn.serviceName = name) {answered : List Client.ClientRequest}
    (hanswered : forall q, q ∈ desk.answered -> q ∈ answered) :
    DeskOk name exchanges history w ⟨conn, none, desk.pulled, answered⟩ where
  named := hnamed
  waits := by
    intro task frame hwaits
    cases hwaits
  pulled := h.pulled
  makes := h.makes
  answers := by
    intro task operation call q hcall hq
    rcases h.answers task operation call q hcall hq with ⟨hpulled, hold⟩
    exact ⟨hpulled, hanswered q hold⟩
  once := h.once

theorem DeskOk.issue {name : String} {w : worker} {desk : Desk}
    (h : DeskOk name exchanges history w desk)
    {operation : Client.ServiceConnection.Operation} {call : Client.HttpCall}
    {frame : Client.ServiceConnection.Frame}
    (hmakes : Client.ServiceConnection.Makes operation call)
    {pulled answered : List Client.ClientRequest}
    (hpulled : desk.pulled = pulled)
    (hmay : forall q,
      answerOf? (.worker w operation call : Exchange caller worker) = some q ->
        q ∈ desk.pulled ∧ q ∉ desk.answered ∧ q ∈ answered)
    (hanswered : forall q, q ∈ desk.answered -> q ∈ answered)
    {conn : Client.ServiceConnection} (hnamed : conn.serviceName = name) :
    DeskOk name (exchanges ++ [.worker w operation call]) history w
      ⟨conn, some (exchanges.length, frame), pulled, answered⟩ where
  named := hnamed
  waits := by
    intro task frame' hwaits
    cases hwaits
    exact ⟨operation, call, List.getElem?_concat_length⟩
  pulled := by
    intro q hq
    dsimp only at hq
    rw [← hpulled] at hq
    exact (h.pulled q hq).mono (grows_snoc _)
  makes := by
    intro task operation' call' hcall
    rcases getElem?_snoc hcall with hold | ⟨_, heq⟩
    · exact h.makes task operation' call' hold
    · cases heq
      exact hmakes
  answers := by
    intro task operation' call' q hcall hq
    rw [← hpulled]
    rcases getElem?_snoc hcall with hold | ⟨_, heq⟩
    · rcases h.answers task operation' call' q hold hq with ⟨hin, hold'⟩
      exact ⟨hin, hanswered q hold'⟩
    · cases heq
      rcases hmay q hq with ⟨hin, _, hnew⟩
      exact ⟨hin, hnew⟩
  once := by
    -- what is answered now was not answered before
    have hfresh : forall (task : TaskId) operation' call' q,
        exchanges[task]? = some (.worker w operation' call') ->
          answerOf? (.worker w operation' call' : Exchange caller worker) = some q ->
            answerOf? (.worker w operation call : Exchange caller worker) ≠ some q := by
      intro task operation' call' q hold hq hq'
      exact (hmay q hq').right.left (h.answers task operation' call' q hold hq).right
    intro task task' operation' operation'' call' call'' q hcall hcall' hq hq'
    refine unique_snoc (fun x => exists operation call,
      x = .worker w operation call ∧ answerOf? x = some q) ?_ ?_ hcall hcall'
      ⟨_, _, rfl, hq⟩ ⟨_, _, rfl, hq'⟩
    · rintro task task' _ _ hold hold' ⟨_, _, rfl, hq⟩ ⟨_, _, rfl, hq'⟩
      exact h.once task task' _ _ _ _ q hold hold' hq hq'
    · rintro task _ hold ⟨_, _, rfl, hq⟩ ⟨_, _, heq, hq'⟩
      cases heq
      exact hfresh task _ _ q hold hq hq'

theorem DeskOk.finish {name : String} {w : worker} {desk : Desk}
    (h : DeskOk name exchanges history w desk) {conn : Client.ServiceConnection}
    (hnamed : conn.serviceName = name) {pulled : List Client.ClientRequest}
    (hkept : forall q, q ∈ desk.pulled -> q ∈ pulled)
    (hnew : forall q, q ∈ pulled -> q ∈ desk.pulled ∨
      FromPull name exchanges history w q) :
    DeskOk name exchanges history w ⟨conn, none, pulled, desk.answered⟩ where
  named := hnamed
  waits := by
    intro task frame hwaits
    cases hwaits
  pulled := by
    intro q hq
    rcases hnew q hq with hold | hfrom
    · exact h.pulled q hold
    · exact hfrom
  makes := h.makes
  answers := by
    intro task operation call q hcall hq
    rcases h.answers task operation call q hcall hq with ⟨hin, hanswered⟩
    exact ⟨hkept q hin, hanswered⟩
  once := h.once

end

/-!
## The whole system
-/

section

variable {caller worker : Type}

structure ServerOk (d : Deployment caller worker)
    (exchanges : List (Exchange caller worker)) (server : App) : Prop where
  ran : exists es, server = App.reached d.cfg d.jwt es
  requests : forall task t, server.tasks.get? task = some t ->
    exists x, exchanges[task]? = some x ∧ d.requestFor x = some t.request

/-- Where everything in the system came from. -/
structure Provenance (d : Deployment caller worker) (s : State caller worker) :
    Prop where
  server : ServerOk d s.exchanges s.server
  callers : forall k,
    CallerOk s.exchanges s.server.store.history k (s.callers k)
  desks : forall w,
    DeskOk (d.service w).name s.exchanges s.server.store.history w (s.desks w)
  visitors : forall (task : TaskId) request,
    s.exchanges[task]? = some (.visitor request) -> Administers request.endpoint

variable {d : Deployment caller worker} {exchanges : List (Exchange caller worker)}
  {server : App} {s : State caller worker}

theorem ServerOk.invariant (h : ServerOk d exchanges server) :
    server.Invariant d.cfg d.jwt := by
  rcases h.ran with ⟨es, rfl⟩
  exact App.invariant_reached d.cfg d.jwt es

theorem ServerOk.grows (h : ServerOk d exchanges server) (e : Server.Event) :
    Grows exchanges exchanges server.store.history
      (App.step d.cfg d.jwt server e).store.history where
  exchange := fun task x hx => hx
  record := by
    intro r hr
    exact (kept_storeInvariant d.cfg d.jwt r).step h.invariant hr e

theorem ran_step (h : exists es, server = App.reached d.cfg d.jwt es)
    (e : Server.Event) :
    exists es, App.step d.cfg d.jwt server e = App.reached d.cfg d.jwt es := by
  rcases h with ⟨es, rfl⟩
  refine ⟨es ++ [e], ?_⟩
  show _ = run (App.step d.cfg d.jwt) App.initial (es ++ [e])
  rw [run_append]
  rfl

theorem ServerOk.handle (h : ServerOk d exchanges server) {e : Server.Event}
    (hconnect : forall task request, e ≠ .connect task request) :
    ServerOk d exchanges (App.step d.cfg d.jwt server e) where
  ran := ran_step h.ran e
  requests := by
    intro task t ht
    rcases App.task_of_step ht with ⟨t', ht', hrequest⟩ | he
    · rw [← hrequest]
      exact h.requests task t' ht'
    · exact absurd he (hconnect task t.request)

theorem store_accept (task : TaskId) (x : Exchange caller worker) :
    (d.accept task x server).store = server.store := by
  unfold Deployment.accept
  split
  · exact App.store_connect d.cfg d.jwt task _ server
  · rfl

theorem ServerOk.accept (h : ServerOk d exchanges server)
    (x : Exchange caller worker) :
    ServerOk d (exchanges ++ [x]) (d.accept exchanges.length x server) := by
  have hold : forall task t, server.tasks.get? task = some t ->
      exists y, (exchanges ++ [x])[task]? = some y ∧
        d.requestFor y = some t.request := by
    intro task t ht
    rcases h.requests task t ht with ⟨y, hy, hrequest⟩
    refine ⟨y, ?_, hrequest⟩
    rw [List.getElem?_append_left (List.getElem?_eq_some_iff.mp hy).choose]
    exact hy
  unfold Deployment.accept
  split
  · rename_i request hrequest
    refine ⟨ran_step h.ran _, ?_⟩
    intro task t ht
    rcases App.task_of_step ht with ⟨t', ht', hsame⟩ | he
    · rw [← hsame]
      exact hold task t' ht'
    · cases he
      exact ⟨x, List.getElem?_concat_length, hrequest⟩
  · exact ⟨h.ran, hold⟩

theorem Provenance.handle (h : Provenance d s) {e : Server.Event}
    (hconnect : forall task request, e ≠ .connect task request) :
    Provenance d (d.handle e s) where
  server := h.server.handle hconnect
  callers := fun k => (h.callers k).frame (h.server.grows e) fun _ _ hcall => hcall
  desks := fun w => (h.desks w).frame (h.server.grows e) fun _ _ _ hcall => hcall
  visitors := h.visitors

theorem Provenance.issue {x : Exchange caller worker}
    (hserver : ServerOk d s.exchanges s.server)
    (hcallers : forall k,
      CallerOk (s.exchanges ++ [x]) s.server.store.history k (s.callers k))
    (hdesks : forall w,
      DeskOk (d.service w).name (s.exchanges ++ [x]) s.server.store.history w (s.desks w))
    (hvisitors : forall (task : TaskId) request,
      s.exchanges[task]? = some (.visitor request) -> Administers request.endpoint)
    (hvisit : forall request, x = .visitor request -> Administers request.endpoint) :
    Provenance d (d.issue x s) where
  server := hserver.accept x
  callers := by
    intro k
    show CallerOk (s.exchanges ++ [x]) (d.accept _ x s.server).store.history k _
    rw [store_accept]
    exact hcallers k
  desks := by
    intro w
    show DeskOk _ (s.exchanges ++ [x]) (d.accept _ x s.server).store.history w _
    rw [store_accept]
    exact hdesks w
  visitors := by
    intro task request hcall
    rcases getElem?_snoc hcall with hold | ⟨_, heq⟩
    · exact hvisitors task request hold
    · exact hvisit request heq

theorem Provenance.visit (h : Provenance d s) {request : HttpRequest}
    (hvisit : Administers request.endpoint) :
    Provenance d (d.issue (.visitor request) s) := by
  apply Provenance.issue h.server
  · intro k
    apply (h.callers k).snoc
    intro call heq
    cases heq
  · intro w
    apply (h.desks w).snoc
    intro operation call heq
    cases heq
  · exact h.visitors
  · intro request' heq
    cases heq
    exact hvisit

theorem provenance_initial (d : Deployment caller worker) :
    Provenance d d.initial where
  server := by
    refine ⟨⟨[], rfl⟩, ?_⟩
    intro task t ht
    cases ht
  callers := by
    intro k
    refine ⟨Client.ClientConnection.books_open _ _, ?_, ?_, ?_, ?_⟩
    · intro r hr
      cases hr
    · intro task frame hwaits
      cases hwaits
    · intro task call hcall
      cases hcall
    · intro task task' call call' key hcall
      cases hcall
  desks := by
    intro w
    refine ⟨rfl, ?_, ?_, ?_, ?_, ?_⟩
    · intro task frame hwaits
      cases hwaits
    · intro q hq
      cases hq
    · intro task operation call hcall
      cases hcall
    · intro task operation call q hcall
      cases hcall
    · intro task task' operation operation' call call' q hcall
      cases hcall
  visitors := by
    intro task request hcall
    cases hcall

section

variable [DecidableEq caller]

theorem Provenance.setCaller (h : Provenance d s) {k : caller} {c : Caller}
    (hc : CallerOk s.exchanges s.server.store.history k c) :
    Provenance d (s.setCaller k c) where
  server := h.server
  callers := by
    intro k'
    show CallerOk _ _ k' (Function.update s.callers k c k')
    by_cases hk : k' = k
    · subst hk
      rw [Function.update_self]
      exact hc
    · rw [Function.update_of_ne hk]
      exact h.callers k'
  desks := h.desks
  visitors := h.visitors

theorem Provenance.issueClient (h : Provenance d s) {k : caller} {c : Caller}
    {call : Client.HttpCall}
    (hc : CallerOk (s.exchanges ++ [.client k call]) s.server.store.history k c) :
    Provenance d (d.issue (.client k call) (s.setCaller k c)) := by
  apply Provenance.issue
  · exact h.server
  · intro k'
    show CallerOk (s.exchanges ++ _) s.server.store.history k'
      (Function.update s.callers k c k')
    by_cases hk : k' = k
    · subst hk
      rw [Function.update_self]
      exact hc
    · rw [Function.update_of_ne hk]
      apply (h.callers k').snoc
      intro call' heq
      cases heq
      exact hk rfl
  · intro w
    apply (h.desks w).snoc
    intro operation call' heq
    cases heq
  · exact h.visitors
  · intro request heq
    cases heq

theorem Provenance.settle (h : Provenance d s) {k : caller}
    {result : Client.ClientConnection × Client.Progress}
    (hbooks : result.1.Books result.2.pending)
    (hreceived : forall r, r ∈ result.1.receivedResponses ->
      FromReply s.exchanges s.server.store.history k r)
    (hmints : (s.callers k).connection.Mints result) :
    Provenance d (d.settle k result s) := by
  rcases result with ⟨conn, progress⟩
  cases progress with
  | blocked call frame =>
      exact h.issueClient ((h.callers k).settle_blocked hbooks hreceived hmints)
  | returned value =>
      exact h.setCaller ((h.callers k).settle_over hbooks hreceived hmints.left)
  | raised error =>
      exact h.setCaller ((h.callers k).settle_over hbooks hreceived hmints.left)

theorem Provenance.resume (h : Provenance d s) {k : caller} {task : TaskId}
    {frame : Client.Frame} {outcome : Client.Outcome} (clock : Clock)
    (hwaits : (s.callers k).waiting = some (task, frame))
    (hreply : forall reply, outcome = .reply reply ->
      .answered task reply ∈ s.server.store.history) :
    Provenance d (d.settle k
      ((s.callers k).connection.resume d.settings frame outcome task clock) s) := by
  have hcaller := h.callers k
  rcases hcaller.waits task frame hwaits with ⟨⟨call, hcall, hdelete⟩, hfresh⟩
  apply h.settle
  · exact (Client.ClientConnection.sound_resume d.settings frame outcome clock
      hcaller.books hfresh).left
  · intro r hr
    rw [Client.ClientConnection.received_resume] at hr
    rcases List.mem_append.mp hr with hold | hnew
    · exact hcaller.received r hold
    · rw [Option.mem_toList] at hnew
      have hsource := Client.Frame.response?_source hnew
      rcases Client.Frame.response?_some hnew with
        ⟨hframe, reply, default, houtcome, hstatus, hread⟩
      subst hsource
      refine ⟨call, reply, default, hcall, ?_, hreply reply houtcome, hstatus, hread⟩
      intro hmethod
      rw [hdelete hmethod] at hframe
      exact hframe
  · exact Client.ClientConnection.mints_resume frame outcome task clock

end

section

variable [DecidableEq worker]

theorem Provenance.setDesk (h : Provenance d s) {w : worker} {desk : Desk}
    (hdesk : DeskOk (d.service w).name s.exchanges s.server.store.history w desk) :
    Provenance d (s.setDesk w desk) where
  server := h.server
  callers := h.callers
  desks := by
    intro w'
    show DeskOk _ _ _ w' (Function.update s.desks w desk w')
    by_cases hw : w' = w
    · subst hw
      rw [Function.update_self]
      exact hdesk
    · rw [Function.update_of_ne hw]
      exact h.desks w'
  visitors := h.visitors

theorem Provenance.issueWorker (h : Provenance d s) {w : worker} {desk : Desk}
    {operation : Client.ServiceConnection.Operation} {call : Client.HttpCall}
    (hdesk : DeskOk (d.service w).name (s.exchanges ++ [.worker w operation call])
      s.server.store.history w desk) :
    Provenance d (d.issue (.worker w operation call) (s.setDesk w desk)) := by
  apply Provenance.issue
  · exact h.server
  · intro k
    apply (h.callers k).snoc
    intro call' heq
    cases heq
  · intro w'
    show DeskOk _ (s.exchanges ++ _) s.server.store.history w'
      (Function.update s.desks w desk w')
    by_cases hw : w' = w
    · subst hw
      rw [Function.update_self]
      exact hdesk
    · rw [Function.update_of_ne hw]
      apply (h.desks w').snoc
      intro operation' call' heq
      cases heq
      exact hw rfl
  · exact h.visitors
  · intro request heq
    cases heq

theorem Provenance.begin (h : Provenance d s) {w : worker}
    {operation : Client.ServiceConnection.Operation}
    (hmay : MayWork (s.desks w) operation) :
    Provenance d (d.begin w operation s) := by
  have hdesk := h.desks w
  have hnamed := (Client.ServiceConnection.start_keeps d.settings operation
    (s.desks w).connection).trans hdesk.named
  unfold Deployment.begin
  dsimp only
  split
  · rename_i call frame hblocked
    apply h.issueWorker
    apply hdesk.issue (Client.ServiceConnection.makes_of_start hblocked) rfl _ _ hnamed
    · intro q hq
      cases operation with
      | sendResponse forRequest payload contentType timeout =>
          cases hq
          exact ⟨hmay.left, hmay.right, List.mem_append_right _ List.mem_cons_self⟩
      | getRequest timeout => cases hq
      | close => cases hq
    · intro q hq
      cases operation with
      | sendResponse => exact List.mem_append_left _ hq
      | getRequest => exact hq
      | close => exact hq
  · apply h.setDesk
    apply hdesk.begin hnamed
    intro q hq
    cases operation with
    | sendResponse => exact List.mem_append_left _ hq
    | getRequest => exact hq
    | close => exact hq

theorem Provenance.finish (h : Provenance d s) {w : worker} {task : TaskId}
    {frame : Client.ServiceConnection.Frame} {outcome : Client.Outcome}
    (hwaits : (s.desks w).waiting = some (task, frame))
    (hreply : forall reply, outcome = .reply reply ->
      .answered task reply ∈ s.server.store.history) :
    Provenance d (Deployment.finish w
      ((s.desks w).connection.resume frame outcome task) s) := by
  have hdesk := h.desks w
  have hnamed := (Client.ServiceConnection.resume_keeps frame outcome task
    (s.desks w).connection).trans hdesk.named
  rcases hdesk.waits task frame hwaits with ⟨operation, call, hcall⟩
  unfold Deployment.finish
  dsimp only
  split
  · rename_i request hreturned
    apply h.setDesk
    apply hdesk.finish hnamed
    · exact fun q hq => List.mem_append_left _ hq
    · intro q hq
      rcases List.mem_append.mp hq with hold | hnew
      · exact Or.inl hold
      · cases List.mem_singleton.mp hnew
        rcases Client.ServiceConnection.reply_of_request hreturned with
          ⟨reply, houtcome, hstatus, hread⟩
        have hsource : request.source = task := by
          unfold Client.ServiceConnection.readRequest at hread
          split at hread
          · cases hread
            rfl
          · cases hread
        rw [hdesk.named] at hread
        subst hsource
        exact Or.inr ⟨operation, call, reply, hcall, hreply reply houtcome, hstatus,
          hread⟩
  · apply h.setDesk
    apply hdesk.finish hnamed
    · exact fun q hq => hq
    · exact fun q hq => Or.inl hq

end

theorem failure_ne_reply (timedOut : Bool) (reply : HttpReply) :
    failure timedOut ≠ .reply reply := by
  unfold failure
  intro h
  split at h <;> cases h

/-!
## Every move
-/

theorem Provenance.ends (h : Provenance d s) {task : TaskId} {outcome : Client.Outcome}
    {t : State caller worker} (hends : Deployment.Ends d s task outcome t) :
    Provenance d t ∧ t.callers = s.callers ∧ t.desks = s.desks ∧
      forall reply, outcome = .reply reply ->
        .answered task reply ∈ t.server.store.history := by
  cases hends with
  | replied hready =>
      refine ⟨h.handle ?_, rfl, rfl, ?_⟩
      · intro task' request he
        cases he
      · intro reply' heq
        cases heq
        have hanswered := answered_of_replyTo? h.server.invariant hready
        exact (h.server.grows _).record _ hanswered
  | failed timedOut =>
      refine ⟨h, rfl, rfl, ?_⟩
      intro reply heq
      exact absurd heq (failure_ne_reply timedOut reply)

section

variable [DecidableEq caller] [DecidableEq worker]

theorem Provenance.step (h : Provenance d s) (move : Move caller worker) :
    Provenance d (d.step s move) := by
  have hcases := d.step_cases s move
  generalize d.step s move = s' at hcases ⊢
  cases hcases with
  | idles => exact h
  | @asks k operation clock hasks =>
      apply h.settle
      · exact (Client.ClientConnection.sound_start d.settings operation clock
          (h.callers k).books).left
      · intro r hr
        rw [Client.ClientConnection.received_start] at hr
        exact (h.callers k).received r hr
      · exact Client.ClientConnection.mints_start operation clock
  | resumes hwaits hends =>
      rcases h.ends hends with ⟨h', hcallers, _, hreply⟩
      rw [← hcallers] at hwaits ⊢
      exact h'.resume _ hwaits hreply
  | works hmay => exact h.begin hmay
  | finishes hwaits hends =>
      rcases h.ends hends with ⟨h', _, hdesks, hreply⟩
      rw [← hdesks] at hwaits ⊢
      exact h'.finish hwaits hreply
  | visits hvisit => exact h.visit hvisit
  | handles hconnect =>
      exact h.handle fun task request he => absurd he (hconnect task request)

theorem provenance_reached (d : Deployment caller worker)
    (moves : List (Move caller worker)) : Provenance d (d.reached moves) :=
  run_invariant (Provenance d) (fun _ move h => h.step move) (provenance_initial d)
    moves

end

end

end System
end Pype
