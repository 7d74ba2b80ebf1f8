import Pype.Server.Progress
import Pype.Server.ResponseQueues

/-!
# Sessions of a client

A client's entry is made when it is first needed, and a logoff or the reaper takes it
away; the next request makes a new one.  A handler looks an entry up once and keeps
using it, so requests of the old session can still be under way when the new one
begins.  Responses never cross from one to the other.
-/

namespace Pype
namespace Server

open Foundation Store

/-!
## Mailboxes
-/

/-- The client and the entry that a handler goes on using. -/
def Phase.mailbox? : Phase -> Option (String × Ref)
  | .postRequestBody _ claims entry _ => some (claims.clientId, entry)
  | .postRequestPut _ claims entry _ _ _ _ => some (claims.clientId, entry)
  | .postRequestPutDone _ claims entry _ _ => some (claims.clientId, entry)
  | .postRequestGet _ claims entry _ => some (claims.clientId, entry)
  | .postResponseBody params entry _ => some (params.clientId, entry)
  | .postResponsePut params entry _ _ => some (params.clientId, entry)
  | .getResponseGet clientId entry _ => some (clientId, entry)
  | _ => none

/-- The client and the entry between which a response is moved. -/
def Record.mailbox? : Record -> Option (String × Ref)
  | .responseEnqueued _ clientId entry _ => some (clientId, entry)
  | .responseDequeued _ clientId entry _ => some (clientId, entry)
  | _ => none

theorem Record.mailbox?_of_task?_eq_none {r : Record} (h : r.task? = none) :
    r.mailbox? = none := by
  cases r <;> first | rfl | cases h

/-- A stretch only uses mailboxes of one kind. -/
structure Uses (allowed : String × Ref -> Prop) (s : Store) (r : Store × Phase) :
    Prop where
  keeps : forall x, r.2.mailbox? = some x -> allowed x
  moves : forall record, record ∈ r.1.history ->
    record ∈ s.history ∨ forall x, record.mailbox? = some x -> allowed x

section

variable {cfg : Settings} {jwt : Jwt} {task : TaskId} {request : HttpRequest}
  {allowed : String × Ref -> Prop} {s : Store}

def MovesNothing (s t : Store) : Prop :=
  forall record, record ∈ t.history -> record ∈ s.history ∨ record.mailbox? = none

theorem MovesNothing.refl (s : Store) : MovesNothing s s :=
  fun _ h => Or.inl h

theorem movesNothing_of_added {s t : Store} {added : List Record}
    (hhist : t.history = s.history ++ added)
    (hadded : forall r, r ∈ added -> r.mailbox? = none) : MovesNothing s t := by
  intro record hrecord
  rw [hhist] at hrecord
  rcases List.mem_append.mp hrecord with hold | hnew
  · exact Or.inl hold
  · exact Or.inr (hadded record hnew)

theorem movesNothing_openService (cfg : Settings) (serviceName : String) (s : Store) :
    MovesNothing s (ServiceRegistry.getOrCreate cfg serviceName s).2 := by
  rcases ServiceRegistry.history_getOrCreate cfg serviceName s with
    ⟨added, hhist, hnone⟩
  exact movesNothing_of_added hhist fun r hr =>
    Record.mailbox?_of_task?_eq_none (hnone r hr)

theorem movesNothing_openClient (cfg : Settings) (clientId : String)
    (createdAt : Time) (s : Store) :
    MovesNothing s (ClientRegistry.getOrCreate cfg clientId createdAt s).2 := by
  rcases ClientRegistry.history_getOrCreate cfg clientId createdAt s with
    ⟨added, hhist, hnone⟩
  exact movesNothing_of_added hhist fun r hr =>
    Record.mailbox?_of_task?_eq_none (hnone r hr)

theorem movesNothing_bump (clientId : String) (now : Time) (s : Store) :
    MovesNothing s (ClientRegistry.bumpLastSeen clientId now s) := by
  intro record hrecord
  rw [ClientRegistry.history_bumpLastSeen] at hrecord
  exact Or.inl hrecord

theorem movesNothing_remove (remover : Remover) (clientId : String) (s : Store) :
    MovesNothing s (ClientRegistry.remove remover clientId s) := by
  rcases ClientRegistry.history_remove remover clientId s with ⟨added, hhist, hnone⟩
  exact movesNothing_of_added hhist fun r hr =>
    Record.mailbox?_of_task?_eq_none (hnone r hr)

theorem movesNothing_putRequest {serviceName : String} {queue : Ref}
    {item : PypeRequest} {s' : Store}
    (h : s.putRequest task serviceName queue item = some s') : MovesNothing s s' := by
  rcases putRequest_eq_some h with ⟨q, q', _, _, rfl⟩
  exact movesNothing_of_added rfl (by simp [Record.mailbox?])

theorem movesNothing_takeRequest {serviceName : String} {queue : Ref}
    {item : PypeRequest} {s' : Store}
    (h : s.takeRequest task serviceName queue = some (item, s')) :
    MovesNothing s s' := by
  rcases takeRequest_eq_some h with ⟨q, posted, q', _, _, _, rfl⟩
  exact movesNothing_of_added rfl (by simp [Record.mailbox?])

/-!
## The mailboxes of a stretch
-/

theorem Uses.after {t : Store} {r : Store × Phase} (h : Uses allowed t r)
    (hmoves : forall record, record ∈ t.history ->
      record ∈ s.history ∨ forall x, record.mailbox? = some x -> allowed x) :
    Uses allowed s r where
  keeps := h.keeps
  moves := by
    intro record hrecord
    rcases h.moves record hrecord with hold | hnew
    · exact hmoves record hold
    · exact Or.inr hnew

theorem Uses.after_nothing {t : Store} {r : Store × Phase} (h : Uses allowed t r)
    (hnothing : MovesNothing s t) : Uses allowed s r := by
  apply h.after
  intro record hrecord
  rcases hnothing record hrecord with hold | hnone
  · exact Or.inl hold
  · right
    intro x hx
    rw [hnone] at hx
    cases hx

theorem uses_here {t : Store} {phase : Phase} (hnothing : MovesNothing s t)
    (hphase : forall x, phase.mailbox? = some x -> allowed x) :
    Uses allowed s (t, phase) :=
  Uses.after_nothing ⟨hphase, fun _ h => Or.inl h⟩ hnothing

theorem uses_answer (reply : HttpReply) (s : Store) :
    Uses allowed s (answer task reply s) := by
  apply uses_here
  · exact movesNothing_of_added rfl (by simp [Record.mailbox?])
  · intro x hx
    cases hx

theorem moves_putResponse {clientId : String} {entry : Ref} {item : PypeResponse}
    {s' : Store} (h : s.putResponse task clientId entry item = some s')
    (hallowed : allowed (clientId, entry)) :
    forall record, record ∈ s'.history ->
      record ∈ s.history ∨ forall x, record.mailbox? = some x -> allowed x := by
  rcases putResponse_eq_some h with ⟨e, q', _, _, rfl⟩
  intro record hrecord
  rcases List.mem_append.mp hrecord with hold | hnew
  · exact Or.inl hold
  · right
    intro x hx
    rw [List.mem_singleton.mp hnew] at hx
    cases hx
    exact hallowed

theorem moves_takeResponse {clientId : String} {entry : Ref} {item : PypeResponse}
    {s' : Store} (h : s.takeResponse task clientId entry = some (item, s'))
    (hallowed : allowed (clientId, entry)) :
    forall record, record ∈ s'.history ->
      record ∈ s.history ∨ forall x, record.mailbox? = some x -> allowed x := by
  rcases takeResponse_eq_some h with ⟨e, posted, q', _, _, _, rfl⟩
  intro record hrecord
  rcases List.mem_append.mp hrecord with hold | hnew
  · exact Or.inl hold
  · right
    intro x hx
    rw [List.mem_singleton.mp hnew] at hx
    cases hx
    exact hallowed

theorem uses_queuePut {timeoutMs : Int} {put : Store -> Option Store}
    {resume : Bool -> Store -> Store × Phase} {wait : Phase}
    (hput : forall s', put s = some s' -> forall record, record ∈ s'.history ->
      record ∈ s.history ∨ forall x, record.mailbox? = some x -> allowed x)
    (hresume : forall enqueued t, Uses allowed t (resume enqueued t))
    (hwait : forall x, wait.mailbox? = some x -> allowed x) :
    Uses allowed s (queuePut timeoutMs put resume wait s) := by
  unfold queuePut
  split
  · split
    · rename_i s' hs'
      exact (hresume true s').after (hput s' hs')
    · exact hresume false s
  · exact uses_here (MovesNothing.refl s) hwait

theorem uses_queueGet {item : Type} {timeoutMs : Int}
    {get : Store -> Option (item × Store)}
    {resume : Option item -> Store -> Store × Phase} {wait : Phase}
    (hget : forall x s', get s = some (x, s') -> forall record, record ∈ s'.history ->
      record ∈ s.history ∨ forall x, record.mailbox? = some x -> allowed x)
    (hresume : forall x t, Uses allowed t (resume x t))
    (hwait : forall x, wait.mailbox? = some x -> allowed x) :
    Uses allowed s (queueGet timeoutMs get resume wait s) := by
  unfold queueGet
  split
  · split
    · rename_i x s' hs'
      exact (hresume (some x) s').after (hget x s' hs')
    · exact hresume none s
  · exact uses_here (MovesNothing.refl s) hwait

theorem MovesNothing.moves {t : Store} (h : MovesNothing s t) :
    forall record, record ∈ t.history ->
      record ∈ s.history ∨ forall x, record.mailbox? = some x -> allowed x := by
  intro record hrecord
  rcases h record hrecord with hold | hnone
  · exact Or.inl hold
  · right
    intro x hx
    rw [hnone] at hx
    cases hx

theorem uses_postRequestResponded (response : Option PypeResponse) (s : Store) :
    Uses allowed s (postRequestResponded task response s) := by
  cases response <;> exact uses_answer _ s

theorem uses_postRequestEnqueued {params : PostRequest} {claims : ClientClaims}
    {entry : Ref} {deadline bumpedAt remainingAt : Time} {enqueued : Bool} {s : Store}
    (hallowed : allowed (claims.clientId, entry)) :
    Uses allowed s (postRequestEnqueued task params claims entry deadline bumpedAt
      remainingAt enqueued s) := by
  have hbump := movesNothing_bump claims.clientId bumpedAt s
  unfold postRequestEnqueued
  dsimp only
  split
  · exact (uses_answer _ _).after_nothing hbump
  · split
    · exact (uses_answer _ _).after_nothing hbump
    · refine Uses.after_nothing ?_ hbump
      apply uses_queueGet
      · intro x s' htake
        exact moves_takeResponse htake hallowed
      · exact uses_postRequestResponded
      · intro x hx
        cases hx
        exact hallowed

theorem uses_postRequestBody {params : PostRequest} {claims : ClientClaims}
    {entry : Ref} {totalTimeoutMs : Int} {clock : Clock} {s : Store}
    (hallowed : allowed (claims.clientId, entry)) :
    Uses allowed s (postRequestBody cfg task params claims entry totalTimeoutMs clock
      s) := by
  unfold postRequestBody
  dsimp only
  refine Uses.after_nothing ?_ (movesNothing_openService cfg params.serviceName s)
  apply uses_queuePut
  · intro s' hput
    exact (movesNothing_putRequest hput).moves
  · intro enqueued t
    exact uses_postRequestEnqueued hallowed
  · intro x hx
    cases hx
    exact hallowed

theorem uses_postResponseEnqueued (enqueued : Bool) (s : Store) :
    Uses allowed s (postResponseEnqueued task enqueued s) := by
  cases enqueued <;> exact uses_answer _ s

theorem uses_postResponseBody {params : PostResponse} {entry : Ref} {timeoutMs : Int}
    {clock : Clock} {s : Store} (hallowed : allowed (params.clientId, entry)) :
    Uses allowed s (postResponseBody cfg task params entry timeoutMs clock s) := by
  unfold postResponseBody
  apply uses_queuePut
  · intro s' hput
    exact moves_putResponse hput hallowed
  · exact uses_postResponseEnqueued
  · intro x hx
    cases hx
    exact hallowed

theorem uses_getRequestDequeued (item : Option PypeRequest) (s : Store) :
    Uses allowed s (getRequestDequeued task item s) := by
  cases item <;> exact uses_answer _ s

theorem uses_getResponseDequeued {clientId : String} {bumpedAt : Time}
    (item : Option PypeResponse) (s : Store) :
    Uses allowed s (getResponseDequeued task clientId bumpedAt item s) := by
  have hbump := movesNothing_bump clientId bumpedAt s
  cases item <;> exact (uses_answer _ _).after_nothing hbump

theorem uses_advance {phase : Phase} {action : Action} {clock : Clock}
    {r : Store × Phase} (hbegun : phase ≠ .received)
    (h : advance cfg jwt task request phase action clock s = some r) :
    Uses (fun x => phase.mailbox? = some x) s r := by
  have waits : forall {next : Phase}, next.mailbox? = none ->
      Uses (fun x => phase.mailbox? = some x) s (s, next) := by
    intro next hnext
    apply uses_here (MovesNothing.refl s)
    intro x hx
    rw [hnext] at hx
    cases hx
  cases stretch_of_advance h with
  | start => exact absurd rfl hbegun
  | startClosed => exact absurd rfl hbegun
  | postRequestBody => exact uses_postRequestBody rfl
  | postRequestPutServed hput =>
      exact uses_here (movesNothing_putRequest hput) fun x hx => hx
  | postRequestPutExpired _ => exact uses_here (MovesNothing.refl s) fun x hx => hx
  | postRequestPutDone => exact uses_postRequestEnqueued rfl
  | postRequestGetServed htake =>
      refine Uses.after ?_ (moves_takeResponse htake rfl)
      apply uses_here (MovesNothing.refl _)
      intro x hx
      cases hx
  | postRequestGetDone => exact uses_postRequestResponded _ s
  | getRequestGetServed htake =>
      apply uses_here (movesNothing_takeRequest htake)
      intro x hx
      cases hx
  | getRequestGetDone => exact uses_getRequestDequeued _ s
  | postResponseBody => exact uses_postResponseBody rfl
  | postResponsePutServed hput =>
      refine Uses.after ?_ (moves_putResponse hput rfl)
      apply uses_here (MovesNothing.refl _)
      intro x hx
      cases hx
  | postResponsePutDone => exact uses_postResponseEnqueued _ s
  | getResponseGetServed htake =>
      refine Uses.after ?_ (moves_takeResponse htake rfl)
      apply uses_here (MovesNothing.refl _)
      intro x hx
      cases hx
  | getResponseGetDone => exact uses_getResponseDequeued _ s
  | postRequestBodyClosed | postResponseBodyClosed | doneClosed
  | postRequestGetExpired _ | getRequestGetExpired _ | postResponsePutExpired _
  | getResponseGetExpired _ => exact waits rfl

/-!
## Looking a mailbox up
-/

/-- A mailbox that a handler can look up: the client's entry, or a new one. -/
def Found (s : Store) (x : String × Ref) : Prop :=
  s.clientRegistry.get? x.1 = some x.2 ∨ s.ownerOf x.2 = none

theorem found_getOrCreate (cfg : Settings) (clientId : String) (createdAt : Time)
    (s : Store) :
    Found s (clientId, (ClientRegistry.getOrCreate cfg clientId createdAt s).1) := by
  rcases ClientRegistry.getOrCreate_cases cfg clientId createdAt s with
    ⟨entry, hentry, heq⟩ | ⟨_, heq⟩
  · rw [heq]
    exact Or.inl hentry
  · rw [heq]
    right
    unfold Store.ownerOf
    rw [List.getElem?_eq_none (le_refl _)]
    rfl

theorem uses_postRequestToService {params : PostRequest} {claims : ClientClaims}
    {clock : Clock} {s : Store} :
    Uses (Found s) s (postRequestToService cfg task params claims clock s) := by
  have hfound := found_getOrCreate cfg claims.clientId (clock.reading 0) s
  have hopen := movesNothing_openClient cfg claims.clientId (clock.reading 0) s
  unfold postRequestToService
  dsimp only
  refine Uses.after_nothing ?_ hopen
  refine Uses.after_nothing ?_ (movesNothing_bump claims.clientId (clock.reading 1) _)
  split
  · exact uses_answer _ _
  · apply uses_here (MovesNothing.refl _)
    intro x hx
    cases hx
    exact hfound

theorem uses_getRequestForService {serviceName : String} {timeout : Option Int}
    {claims : ServiceClaims} {clock : Clock} {s : Store} :
    Uses allowed s (getRequestForService cfg task serviceName timeout claims clock
      s) := by
  unfold getRequestForService
  split
  · exact uses_answer _ s
  · split
    · exact uses_answer _ s
    · refine Uses.after_nothing ?_ (movesNothing_openService cfg serviceName s)
      apply uses_queueGet
      · intro x s' htake
        exact (movesNothing_takeRequest htake).moves
      · exact uses_getRequestDequeued
      · intro x hx
        cases hx

theorem uses_postResponseToClient {params : PostResponse} {clock : Clock} {s : Store} :
    Uses (Found s) s (postResponseToClient cfg task params clock s) := by
  have hfound := found_getOrCreate cfg params.clientId (clock.reading 0) s
  unfold postResponseToClient
  dsimp only
  refine Uses.after_nothing ?_
    (movesNothing_openClient cfg params.clientId (clock.reading 0) s)
  split
  · exact uses_answer _ _
  · apply uses_here (MovesNothing.refl _)
    intro x hx
    cases hx
    exact hfound

theorem uses_getResponseForClient {clientId : String} {timeout : Option Int}
    {claims : ClientClaims} {clock : Clock} {s : Store} :
    Uses (Found s) s (getResponseForClient cfg task clientId timeout claims clock
      s) := by
  have hfound := found_getOrCreate cfg clientId (clock.reading 0) s
  unfold getResponseForClient
  dsimp only
  split
  · exact uses_answer _ s
  · refine Uses.after_nothing ?_
      (movesNothing_openClient cfg clientId (clock.reading 0) s)
    refine Uses.after_nothing ?_ (movesNothing_bump clientId (clock.reading 1) _)
    split
    · exact uses_answer _ _
    · apply uses_queueGet
      · intro x s' htake
        exact moves_takeResponse htake hfound
      · exact uses_getResponseDequeued
      · intro x hx
        cases hx
        exact hfound

theorem uses_dispatch {secret : String} {clock : Clock} {s : Store} :
    Uses (Found s) s (dispatch cfg jwt task request secret clock s) := by
  generalize hstretch : dispatch cfg jwt task request secret clock s = r
  cases dispatched_of_dispatch hstretch with
  | refused e => exact uses_answer _ s
  | unprocessable => exact uses_answer _ s
  | postRequest => exact uses_postRequestToService
  | getRequest => exact uses_getRequestForService
  | postResponse => exact uses_postResponseToClient
  | getResponse => exact uses_getResponseForClient
  | clientLogoff =>
      exact (uses_answer _ _).after_nothing (movesNothing_remove _ _ s)
  | @serviceAuth serviceName _ =>
      exact (uses_answer _ _).after_nothing (movesNothing_openService cfg serviceName s)
  | clientAuth => exact uses_answer _ s
  | servicesLoad => exact uses_answer _ s

theorem uses_received {action : Action} {clock : Clock} {s : Store} {r : Store × Phase}
    (h : advance cfg jwt task request .received action clock s = some r) :
    Uses (Found s) s r := by
  cases stretch_of_advance h with
  | start => exact uses_dispatch
  | startClosed =>
      apply uses_here (MovesNothing.refl s)
      intro x hx
      cases hx

theorem Effect.found {s s' : Store} (h : Effect cfg jwt task request s s')
    {clientId : String} {entry : Ref}
    (hentry : s'.clientRegistry.get? clientId = some entry) :
    Found s (clientId, entry) := by
  rcases h.onClient with
    hsame | ⟨other, createdAt, _, rfl⟩ | ⟨other, now, _, rfl⟩ |
    ⟨other, _, rfl⟩ | ⟨params, e, _, _, hput⟩ | ⟨other, e, item, _, _, htake⟩
  · rw [hsame.registry] at hentry
    exact Or.inl hentry
  · have hfound := found_getOrCreate cfg other createdAt s
    rcases ClientRegistry.getOrCreate_cases cfg other createdAt s with
      ⟨registered, _, heq⟩ | ⟨hnone, heq⟩
    · rw [heq] at hentry
      exact Or.inl hentry
    · rw [heq] at hentry hfound
      rw [ClientRegistry.create, Dict.get?_set] at hentry
      split at hentry
      · rename_i hname
        subst hname
        cases hentry
        exact hfound
      · exact Or.inl hentry
  · unfold ClientRegistry.bumpLastSeen at hentry
    split at hentry <;> exact Or.inl hentry
  · unfold ClientRegistry.remove at hentry
    split at hentry
    · rw [Dict.get?_erase] at hentry
      split at hentry
      · cases hentry
      · exact Or.inl hentry
    · exact Or.inl hentry
  · rcases putResponse_eq_some hput with ⟨_, _, _, _, rfl⟩
    exact Or.inl hentry
  · rcases takeResponse_eq_some htake with ⟨_, _, _, _, _, _, rfl⟩
    exact Or.inl hentry

end

/-!
## Sessions stay apart
-/

namespace App

variable {cfg : Settings} {jwt : Jwt}

def Begun (task : TaskId) (s : App) : Prop :=
  exists t, s.tasks.get? task = some t ∧ t.phase ≠ .received

def Existed (entry : Ref) (s : App) : Prop :=
  exists clientId, s.store.ownerOf entry = some clientId

/-- Since a state in which a client had no entry, the handlers that had begun then use
the entries of the client that existed then, and the others use new ones. -/
structure Apart (clientId : String) (s₀ s : App) : Prop where
  grown : Extends s₀.store s.store
  registered : forall entry, s.store.clientRegistry.get? clientId = some entry ->
    ¬ Existed entry s₀
  begun : forall task, Begun task s₀ -> Begun task s
  held : forall task t entry, s.tasks.get? task = some t ->
    t.phase.mailbox? = some (clientId, entry) -> (Begun task s₀ <-> Existed entry s₀)
  moved : forall record task entry, record ∈ s.store.history ->
    record.task? = some task -> record.mailbox? = some (clientId, entry) ->
      (Begun task s₀ <-> Existed entry s₀)

theorem owner_of_mailbox {task : TaskId} {request : HttpRequest} {s : Store}
    {phase : Phase} (h : PhaseOk cfg jwt task request s phase) {clientId : String}
    {entry : Ref} (hmailbox : phase.mailbox? = some (clientId, entry)) :
    s.ownerOf entry = some clientId := by
  cases phase <;> cases hmailbox
  · exact h.right.left
  · exact h.right.left
  · exact h.right.left
  · exact h.right.right.left
  · exact h.right.left
  · exact h.right.left
  · exact h.right.left

theorem begun_of_record {s : App} (hinv : s.Invariant cfg jwt) {record : Record}
    {task : TaskId} (hrecord : record ∈ s.store.history)
    (htask : record.task? = some task) : Begun task s := by
  have hmem := Store.mem_recordsOf.mpr ⟨hrecord, htask⟩
  cases ht : s.tasks.get? task with
  | none =>
      rw [hinv.silent task ht] at hmem
      cases hmem
  | some t =>
      refine ⟨t, ht, ?_⟩
      intro hreceived
      have hconduct := hinv.conduct task t ht
      rw [hreceived] at hconduct
      have hnone : s.store.recordsOf task = [] := hconduct
      rw [hnone] at hmem
      cases hmem

theorem apart_self {s : App} (hinv : s.Invariant cfg jwt)
    (haccount : ClientAccount s.store) {clientId : String}
    (hgone : s.store.clientRegistry.get? clientId = none) : Apart clientId s s where
  grown := Extends.refl s.store
  registered := by
    intro entry hentry
    rw [hgone] at hentry
    cases hentry
  begun := fun _ h => h
  held := by
    intro task t entry ht hmailbox
    have howner := owner_of_mailbox (hinv.conduct task t ht) hmailbox
    constructor
    · exact fun _ => ⟨clientId, howner⟩
    · refine fun _ => ⟨t, ht, ?_⟩
      intro hreceived
      rw [hreceived] at hmailbox
      cases hmailbox
  moved := by
    intro record task entry hrecord htask hmailbox
    have howner : s.store.ownerOf entry = some clientId := by
      cases record <;> cases hmailbox
      · exact haccount.putOwner _ _ _ _ hrecord
      · exact haccount.takeOwner _ _ _ _ hrecord
    exact ⟨fun _ => ⟨clientId, howner⟩, fun _ => begun_of_record hinv hrecord htask⟩

theorem Apart.not_existed {clientId : String} {s₀ s : App} (h : Apart clientId s₀ s)
    {entry : Ref} (hfound : Found s.store (clientId, entry)) : ¬ Existed entry s₀ := by
  rcases hfound with hregistered | hnone
  · exact h.registered entry hregistered
  · intro hex
    rcases hex with ⟨owner, howner⟩
    rw [h.grown.owner entry owner howner] at hnone
    cases hnone

theorem extends_of_effects {task : TaskId} {request : HttpRequest} {s s' : Store}
    (h : Effects cfg jwt task request s s') : Extends s s' := by
  induction h with
  | refl => exact Extends.refl s
  | tail _ hlast ih => exact ih.trans hlast.extends

theorem found_of_effects {task : TaskId} {request : HttpRequest} {s s' : Store}
    (h : Effects cfg jwt task request s s') {clientId : String} {entry : Ref}
    (hentry : s'.clientRegistry.get? clientId = some entry) :
    Found s (clientId, entry) := by
  induction h with
  | refl => exact Or.inl hentry
  | tail hbefore hlast ih =>
      rcases hlast.found hentry with hregistered | hnone
      · exact ih hregistered
      · right
        by_contra hsome
        rcases Option.ne_none_iff_exists'.mp hsome with ⟨owner, howner⟩
        have hext := extends_of_effects hbefore
        rw [hext.owner _ owner howner] at hnone
        cases hnone

theorem unregistered_of_get {s : Store} (hwell : s.WellFormed cfg) {clientId : String}
    (h : ClientRegistry.get clientId s = none) :
    s.clientRegistry.get? clientId = none := by
  cases hentry : s.clientRegistry.get? clientId with
  | none => rfl
  | some entry =>
      have howner := hwell.client clientId entry hentry
      unfold ClientRegistry.get at h
      unfold Store.ownerOf at howner
      rw [hentry] at h
      dsimp only at h
      rw [h] at howner
      cases howner

theorem tick_apart (cfg : Settings) (reaper : ClientQueueReaper) (now : Time) (s : Store) :
    (forall clientId entry,
      (reaper.tick cfg now s).2.1.clientRegistry.get? clientId = some entry ->
        s.clientRegistry.get? clientId = some entry) ∧
      MovesNothing s (reaper.tick cfg now s).2.1 := by
  refine ClientQueueReaper.tick_invariant
    (fun t => (forall clientId entry, t.clientRegistry.get? clientId = some entry ->
      s.clientRegistry.get? clientId = some entry) ∧ MovesNothing s t)
    ?_ reaper ⟨fun _ _ h => h, MovesNothing.refl s⟩
  intro other t _ _ _ hex
  rcases hex with ⟨hregistered, hnothing⟩
  constructor
  · intro clientId entry hentry
    apply hregistered
    unfold ClientRegistry.remove at hentry
    split at hentry
    · rw [Dict.get?_erase] at hentry
      split at hentry
      · cases hentry
      · exact hentry
    · exact hentry
  · intro record hrecord
    rcases movesNothing_remove (.reaper now) other t record hrecord with hold | hnone
    · exact hnothing record hold
    · exact Or.inr hnone

theorem task?_of_new {task : TaskId} {request : HttpRequest} {s s' : Store}
    (h : Effects cfg jwt task request s s') {record : Record}
    (hrecord : record ∈ s'.history) (hnew : record ∉ s.history) {other : TaskId}
    (hother : record.task? = some other) : other = task := by
  induction h with
  | refl => exact absurd hrecord hnew
  | tail _ hlast ih =>
      rcases hlast.history with ⟨added, hhist, hadded⟩
      rw [hhist] at hrecord
      rcases List.mem_append.mp hrecord with hold | hadd
      · exact ih hold
      · rcases hadded record hadd with hnone | hsome
        · rw [hother] at hnone
          cases hnone
        · rw [hother] at hsome
          exact Option.some.inj hsome

theorem Apart.stretch {clientId : String} {s₀ s : App} (h : Apart clientId s₀ s)
    (hinv : s.Invariant cfg jwt) {task : TaskId} {t : Task} {action : Action}
    {clock : Clock} {store : Store} {phase : Phase} (ht : s.tasks.get? task = some t)
    (hadvance : advance cfg jwt task t.request t.phase action clock s.store =
      some (store, phase)) {s' : App} (hstore : s'.store = store)
    (htasks : s'.tasks = s.tasks.set task { t with phase := phase }) :
    Apart clientId s₀ s' := by
  subst hstore
  have heffects := (hinv.good ht hadvance).left
  -- the handler uses a mailbox of its own side
  have huses : Uses (fun x => x.1 = clientId -> (Begun task s₀ <-> Existed x.2 s₀))
      s.store (s'.store, phase) := by
    by_cases hreceived : t.phase = .received
    · have hnot : ¬ Begun task s₀ := by
        intro hbegun
        rcases h.begun task hbegun with ⟨u, hu, hne⟩
        rw [ht] at hu
        cases hu
        exact hne hreceived
      have hfirst : Uses (Found s.store) s.store (s'.store, phase) := by
        rw [hreceived] at hadvance
        exact uses_received hadvance
      have hside : forall x, Found s.store x -> x.1 = clientId ->
          (Begun task s₀ <-> Existed x.2 s₀) := by
        intro x hfound heq
        rcases x with ⟨owner, entry⟩
        subst heq
        exact iff_of_false hnot (h.not_existed hfound)
      constructor
      · exact fun x hx => hside x (hfirst.keeps x hx)
      · intro record hrecord
        rcases hfirst.moves record hrecord with hold | hnew
        · exact Or.inl hold
        · exact Or.inr fun x hx => hside x (hnew x hx)
    · have hlater := uses_advance hreceived hadvance
      have hside : forall x, t.phase.mailbox? = some x -> x.1 = clientId ->
          (Begun task s₀ <-> Existed x.2 s₀) := by
        intro x hx heq
        rcases x with ⟨owner, entry⟩
        subst heq
        exact h.held task t entry ht hx
      constructor
      · exact fun x hx => hside x (hlater.keeps x hx)
      · intro record hrecord
        rcases hlater.moves record hrecord with hold | hnew
        · exact Or.inl hold
        · exact Or.inr fun x hx => hside x (hnew x hx)
  constructor
  · exact h.grown.trans (extends_of_effects heffects)
  · intro entry hentry
    exact h.not_existed (found_of_effects heffects hentry)
  · intro other hbegun
    rcases h.begun other hbegun with ⟨u, hu, hne⟩
    by_cases heq : other = task
    · subst heq
      rw [ht] at hu
      cases hu
      refine ⟨{ t with phase := phase }, ?_, ?_⟩
      · rw [htasks, Dict.get?_set_self]
      · exact not_received_of_advance hadvance
    · exact ⟨u, by rw [htasks, Dict.get?_set_of_ne _ _ (Ne.symm heq), hu], hne⟩
  · intro other u entry hu hmailbox
    rw [htasks, Dict.get?_set] at hu
    split at hu
    · rename_i heq
      subst heq
      cases hu
      exact huses.keeps _ hmailbox rfl
    · exact h.held other u entry hu hmailbox
  · intro record other entry hrecord hother hmailbox
    by_cases hold : record ∈ s.store.history
    · exact h.moved record other entry hold hother hmailbox
    · rcases huses.moves record hrecord with hold' | hnew
      · exact absurd hold' hold
      · rw [task?_of_new heffects hrecord hold hother]
        exact hnew _ hmailbox rfl

theorem Apart.step {clientId : String} {s₀ s : App} (h : Apart clientId s₀ s)
    (hinv : s.Invariant cfg jwt) (e : Event) : Apart clientId s₀ (step cfg jwt s e) := by
  rcases step_cases cfg jwt s e with
    hsame | ⟨task, request, _, hnone, hstep⟩ |
    ⟨task, t, action, clock, store, phase, _, ht, _, hadvance, hstep⟩ |
    ⟨now, _, _, hstep⟩
  · rw [hsame]
    exact h
  · rw [hstep]
    refine ⟨h.grown, h.registered, ?_, ?_, h.moved⟩
    · intro other hbegun
      rcases h.begun other hbegun with ⟨u, hu, hne⟩
      refine ⟨u, ?_, hne⟩
      have hother : task ≠ other := by
        intro heq
        subst heq
        rw [hnone] at hu
        cases hu
      exact (Dict.get?_set_of_ne _ _ hother).trans hu
    · intro other u entry hu hmailbox
      rw [Dict.get?_set] at hu
      split at hu
      · cases hu
        cases hmailbox
      · exact h.held other u entry hu hmailbox
  · rw [hstep]
    exact h.stretch hinv ht hadvance rfl rfl
  · rw [hstep]
    rcases tick_apart cfg s.reaper now s.store with ⟨hregistered, hnothing⟩
    refine ⟨h.grown.trans (tick_frame hinv.wellFormed s.reaper now).right.left, ?_,
      h.begun, h.held, ?_⟩
    · intro entry hentry
      exact h.registered entry (hregistered clientId entry hentry)
    · intro record task entry hrecord htask hmailbox
      rcases hnothing record hrecord with hold | hnone
      · exact h.moved record task entry hold htask hmailbox
      · rw [hmailbox] at hnone
        cases hnone

theorem mem_of_dequeuedResponses {s : Store} (haccount : ClientAccount s)
    {clientId : String} {entry : Ref} (howner : s.ownerOf entry = some clientId)
    {task : TaskId} {posted : Posted PypeResponse}
    (htaken : (task, posted) ∈ s.dequeuedResponses entry) :
    .responseDequeued task clientId entry posted ∈ s.history := by
  rcases List.mem_filterMap.mp htaken with ⟨record, hrecord, hsome⟩
  cases record <;> simp only [Record.responseDequeued?, reduceCtorEq] at hsome
  split at hsome
  · rename_i hentry
    subst hentry
    cases hsome
    have howner' := haccount.takeOwner _ _ _ _ hrecord
    rw [howner] at howner'
    cases howner'
    exact hrecord
  · cases hsome

/-- Whenever a client has no entry, its old session is over: from then on no response
passes between a request whose handling had begun and one whose handling begins
later. -/
theorem sessions_apart (cfg : Settings) (jwt : Jwt) (es fs : List Event)
    (clientId : String)
    (hgone : ClientRegistry.get clientId (reached cfg jwt es).store = none)
    (task : TaskId) (entry : Ref) (posted : Posted PypeResponse)
    (howner : (runFrom cfg jwt (reached cfg jwt es) fs).store.ownerOf entry =
      some clientId)
    (htaken : (task, posted) ∈
      (runFrom cfg jwt (reached cfg jwt es) fs).store.dequeuedResponses entry) :
    Begun task (reached cfg jwt es) <-> Begun posted.poster (reached cfg jwt es) := by
  have hinv := invariant_reached cfg jwt es
  have hnone := unregistered_of_get hinv.wellFormed hgone
  have hapart : (runFrom cfg jwt (reached cfg jwt es) fs).Invariant cfg jwt ∧
      Apart clientId (reached cfg jwt es) (runFrom cfg jwt (reached cfg jwt es) fs) := by
    refine run_invariant
      (fun s => s.Invariant cfg jwt ∧ Apart clientId (reached cfg jwt es) s)
      (fun s e h => ⟨h.left.step e, h.right.step h.left e⟩)
      ⟨hinv, apart_self hinv (clientAccount_reached cfg jwt es) hnone⟩ fs
  have haccount : ClientAccount (runFrom cfg jwt (reached cfg jwt es) fs).store := by
    have hall := clientAccount_reached cfg jwt (es ++ fs)
    rw [reached, runFrom, run_append] at hall
    exact hall
  have hrecord := mem_of_dequeuedResponses haccount howner htaken
  have htaker := hapart.right.moved _ task entry hrecord rfl rfl
  have hposter := hapart.right.moved _ posted.poster entry (haccount.put_of_take hrecord)
    rfl rfl
  exact htaker.trans hposter.symm

def oldSession : List Event :=
  [.connect 0 ⟨some "Bearer client", .getResponse "c" none⟩,
    .run 0 (.start "") (Clock.constant 0),
    .connect 1 ⟨some "Bearer client", .clientLogoff⟩,
    .run 1 (.start "") (Clock.constant 0)]

def newSession : List Event :=
  [.connect 2 ⟨some "Bearer service", .postResponse ⟨"c", "1", some 0, none, []⟩⟩,
    .run 2 (.start "") (Clock.constant 0),
    .run 2 .body (Clock.constant 0),
    .connect 3 ⟨some "Bearer client", .getResponse "c" (some 0)⟩,
    .run 3 (.start "") (Clock.constant 0)]

theorem sessions_apart_newSession :
    Begun 3 (reached (Settings.default "10.0.0.1") (Jwt.ofPair "c" "s") oldSession) <->
      Begun 2 (reached (Settings.default "10.0.0.1") (Jwt.ofPair "c" "s") oldSession) :=
  sessions_apart _ _ oldSession newSession "c" (by decide +kernel) 3 1
    ⟨2, "1", "application/json", []⟩ (by decide +kernel) (by decide +kernel)

end App

end Server
end Pype
