import Mathlib.Data.Option.Basic
import Pype.Server.Invariant

/-!
# Stores that agree

Two servers whose registries and queues are the same, and which differ at most
in when they last saw one client.  A handler cannot tell such servers apart, and
the reaper tells them apart only if it evicts that client.
-/

namespace Pype
namespace Server

open Foundation Store

/-- Entries with the same queue; the second one may have been seen later if it
belongs to the client. -/
structure SameEntry (clientId : String) (e e' : ClientEntry) : Prop where
  owner : e'.clientId = e.clientId
  queue : e'.queue = e.queue
  seen : e.lastSeen ≤ e'.lastSeen
  others : e.clientId ≠ clientId -> e'.lastSeen = e.lastSeen

theorem SameEntry.refl (clientId : String) (e : ClientEntry) :
    SameEntry clientId e e where
  owner := rfl
  queue := rfl
  seen := le_refl _
  others := fun _ => rfl

/-- Stores that are the same but for their histories and for when the client was
last seen. -/
structure Agree (clientId : String) (s t : Store) : Prop where
  serviceQueues : t.serviceQueues = s.serviceQueues
  serviceRegistry : t.serviceRegistry = s.serviceRegistry
  clientRegistry : t.clientRegistry = s.clientRegistry
  length : t.clientEntries.length = s.clientEntries.length
  entries : forall (entry : Ref) e e', s.clientEntries[entry]? = some e ->
    t.clientEntries[entry]? = some e' -> SameEntry clientId e e'

theorem Agree.refl (clientId : String) (s : Store) : Agree clientId s s where
  serviceQueues := rfl
  serviceRegistry := rfl
  clientRegistry := rfl
  length := rfl
  entries := by
    intro entry e e' he he'
    rw [he] at he'
    cases he'
    exact SameEntry.refl clientId e

/-- The result of one stretch in either store. -/
structure SameResult (clientId : String) (r r' : Store × Phase) : Prop where
  store : Agree clientId r.1 r'.1
  phase : r'.2 = r.2

section

variable {clientId : String} {s t : Store}

theorem Agree.entry (h : Agree clientId s t) {entry : Ref} {e : ClientEntry}
    (he : s.clientEntries[entry]? = some e) :
    exists e', t.clientEntries[entry]? = some e' ∧ SameEntry clientId e e' := by
  have hlt := (List.getElem?_eq_some_iff.mp he).choose
  rw [← h.length] at hlt
  have he' : t.clientEntries[entry]? = some t.clientEntries[entry] :=
    List.getElem?_eq_getElem hlt
  exact ⟨_, he', h.entries entry e _ he he'⟩

theorem Agree.no_entry (h : Agree clientId s t) {entry : Ref}
    (hnone : s.clientEntries[entry]? = none) : t.clientEntries[entry]? = none := by
  rw [List.getElem?_eq_none_iff] at hnone ⊢
  rw [h.length]
  exact hnone

/-!
## Operations on stores that agree
-/

theorem Agree.record (h : Agree clientId s t) (r r' : Record) :
    Agree clientId (s.record r) (t.record r') :=
  ⟨h.serviceQueues, h.serviceRegistry, h.clientRegistry, h.length, h.entries⟩

theorem Agree.openService (h : Agree clientId s t) (cfg : Settings)
    (serviceName : String) :
    (ServiceRegistry.getOrCreate cfg serviceName t).1 =
        (ServiceRegistry.getOrCreate cfg serviceName s).1 ∧
      Agree clientId (ServiceRegistry.getOrCreate cfg serviceName s).2
        (ServiceRegistry.getOrCreate cfg serviceName t).2 := by
  unfold ServiceRegistry.getOrCreate
  rw [h.serviceRegistry]
  split
  · exact ⟨rfl, h⟩
  · refine ⟨congrArg List.length h.serviceQueues, ?_⟩
    refine ⟨?_, ?_, h.clientRegistry, h.length, h.entries⟩
    · simp [ServiceRegistry.create, h.serviceQueues]
    · simp [ServiceRegistry.create, h.serviceQueues, h.serviceRegistry]

theorem Agree.openClient (h : Agree clientId s t) (cfg : Settings)
    (other : String) (createdAt : Time) :
    (ClientRegistry.getOrCreate cfg other createdAt t).1 =
        (ClientRegistry.getOrCreate cfg other createdAt s).1 ∧
      Agree clientId (ClientRegistry.getOrCreate cfg other createdAt s).2
        (ClientRegistry.getOrCreate cfg other createdAt t).2 := by
  unfold ClientRegistry.getOrCreate
  rw [h.clientRegistry]
  split
  · exact ⟨rfl, h⟩
  · refine ⟨h.length, h.serviceQueues, h.serviceRegistry, ?_, ?_, ?_⟩
    · simp [ClientRegistry.create, h.clientRegistry, h.length]
    · simp [ClientRegistry.create, h.length]
    · intro entry e e' he he'
      dsimp only [ClientRegistry.create] at he he'
      rw [List.getElem?_append] at he he'
      rw [h.length] at he'
      split at he
      · rename_i hlt
        rw [if_pos hlt] at he'
        exact h.entries entry e e' he he'
      · rename_i hlt
        rw [if_neg hlt, he] at he'
        cases he'
        exact SameEntry.refl clientId e

theorem Agree.modify (h : Agree clientId s t) (entry : Ref)
    (f f' : ClientEntry -> ClientEntry)
    (hf : forall e e', s.clientEntries[entry]? = some e ->
      SameEntry clientId e e' -> SameEntry clientId (f e) (f' e')) :
    Agree clientId { s with clientEntries := s.clientEntries.modify entry f }
      { t with clientEntries := t.clientEntries.modify entry f' } where
  serviceQueues := h.serviceQueues
  serviceRegistry := h.serviceRegistry
  clientRegistry := h.clientRegistry
  length := by simp [h.length]
  entries := by
    intro other e e' he he'
    dsimp only at he he'
    rw [List.getElem?_modify] at he he'
    rcases Option.map_eq_some_iff.mp he with ⟨x, hx, rfl⟩
    rcases Option.map_eq_some_iff.mp he' with ⟨x', hx', rfl⟩
    have hsame := h.entries other x x' hx hx'
    split
    · rename_i heq
      subst heq
      exact hf x x' hx hsame
    · exact hsame

theorem Agree.bump (h : Agree clientId s t) (other : String) (now : Time) :
    Agree clientId (ClientRegistry.bumpLastSeen other now s)
      (ClientRegistry.bumpLastSeen other now t) := by
  have hregistered : t.clientRegistry.get? other = s.clientRegistry.get? other := by
    rw [h.clientRegistry]
  unfold ClientRegistry.bumpLastSeen
  rw [hregistered]
  split
  · apply h.modify _ _ _
    intro e e' _ hsame
    exact ⟨hsame.owner, hsame.queue, le_refl _, fun _ => rfl⟩
  · exact h

theorem Agree.bump_right (h : Agree clientId s t) {now : Time}
    (howner : forall entry, s.clientRegistry.get? clientId = some entry ->
      exists e, s.clientEntries[entry]? = some e ∧ e.clientId = clientId ∧
        e.lastSeen ≤ now) :
    Agree clientId s (ClientRegistry.bumpLastSeen clientId now t) := by
  have hregistered : t.clientRegistry.get? clientId =
      s.clientRegistry.get? clientId := by
    rw [h.clientRegistry]
  unfold ClientRegistry.bumpLastSeen
  rw [hregistered]
  split
  · rename_i entry hentry
    rcases howner entry hentry with ⟨x, hx, hid, hseen⟩
    have hmodify : { s with
        clientEntries := s.clientEntries.modify entry id } = s := by
      rw [List.modify_id]
    rw [← hmodify]
    apply h.modify entry id _
    intro e e' he hsame
    rw [hx] at he
    cases he
    exact ⟨hsame.owner, hsame.queue, hseen, fun hne => absurd hid hne⟩
  · exact h

theorem Agree.remove (h : Agree clientId s t) (remover : Remover)
    (other : String) :
    Agree clientId (ClientRegistry.remove remover other s)
      (ClientRegistry.remove remover other t) := by
  have hregistered : t.clientRegistry.get? other = s.clientRegistry.get? other := by
    rw [h.clientRegistry]
  unfold ClientRegistry.remove
  rw [hregistered]
  split
  · exact ⟨h.serviceQueues, h.serviceRegistry, by simp [h.clientRegistry], h.length,
      h.entries⟩
  · exact h

/-- An operation that is possible in both stores or in neither, and then gives
the same value and stores that agree. -/
def SameTake {item : Type} (clientId : String) (x y : Option (item × Store)) :
    Prop :=
  Option.Rel (fun x y => y.1 = x.1 ∧ Agree clientId x.2 y.2) x y

theorem rel_cases {left right : Type} {rel : left -> right -> Prop}
    {x : Option left} {y : Option right} (h : Option.Rel rel x y) :
    (x = none ∧ y = none) ∨ exists a b, x = some a ∧ y = some b ∧ rel a b := by
  cases h with
  | none => exact Or.inl ⟨rfl, rfl⟩
  | some hrel => exact Or.inr ⟨_, _, rfl, rfl, hrel⟩

theorem SameTake.cases {item : Type} {x y : Option (item × Store)}
    (h : SameTake clientId x y) :
    (x = none ∧ y = none) ∨
      exists v s' t', x = some (v, s') ∧ y = some (v, t') ∧ Agree clientId s' t' := by
  rcases rel_cases h with hnone | ⟨⟨v, s'⟩, ⟨v', t'⟩, hs, ht, heq, hagree⟩
  · exact Or.inl hnone
  · dsimp only at heq
    subst heq
    exact Or.inr ⟨_, s', t', hs, ht, hagree⟩

theorem Agree.putRequest (h : Agree clientId s t) (task : TaskId)
    (serviceName : String) (queue : Ref) (request : PypeRequest) :
    Option.Rel (Agree clientId) (s.putRequest task serviceName queue request)
      (t.putRequest task serviceName queue request) := by
  unfold Store.putRequest
  rw [h.serviceQueues]
  split
  · exact Option.Rel.none
  · split
    · exact Option.Rel.none
    · exact Option.Rel.some
        ⟨rfl, h.serviceRegistry, h.clientRegistry, h.length, h.entries⟩

theorem Agree.takeRequest (h : Agree clientId s t) (task : TaskId)
    (serviceName : String) (queue : Ref) :
    SameTake clientId (s.takeRequest task serviceName queue)
      (t.takeRequest task serviceName queue) := by
  unfold Store.takeRequest
  rw [h.serviceQueues]
  split
  · exact Option.Rel.none
  · split
    · exact Option.Rel.none
    · exact Option.Rel.some
        ⟨rfl, rfl, h.serviceRegistry, h.clientRegistry, h.length, h.entries⟩

theorem Agree.set_queue (h : Agree clientId s t) {entry : Ref}
    {e e' : ClientEntry} (he : s.clientEntries[entry]? = some e)
    (he' : t.clientEntries[entry]? = some e')
    (queue : BoundedQueue (Posted PypeResponse)) (history history' : List Record) :
    Agree clientId
      { s with
        clientEntries := s.clientEntries.set entry { e with queue := queue }
        history := history }
      { t with
        clientEntries := t.clientEntries.set entry { e' with queue := queue }
        history := history' } where
  serviceQueues := h.serviceQueues
  serviceRegistry := h.serviceRegistry
  clientRegistry := h.clientRegistry
  length := by simp [h.length]
  entries := by
    intro other x x' hx hx'
    dsimp only at hx hx'
    have hsame := h.entries entry e e' he he'
    by_cases heq : entry = other
    · subst heq
      rw [List.getElem?_set_self (List.getElem?_eq_some_iff.mp he).choose] at hx
      rw [List.getElem?_set_self (List.getElem?_eq_some_iff.mp he').choose] at hx'
      cases hx
      cases hx'
      exact ⟨hsame.owner, rfl, hsame.seen, hsame.others⟩
    · rw [List.getElem?_set_ne heq] at hx hx'
      exact h.entries other x x' hx hx'

theorem Agree.putResponse (h : Agree clientId s t) (task : TaskId)
    (owner : String) (entry : Ref) (response : PypeResponse) :
    Option.Rel (Agree clientId) (s.putResponse task owner entry response)
      (t.putResponse task owner entry response) := by
  unfold Store.putResponse
  cases he : s.clientEntries[entry]? with
  | none =>
      rw [h.no_entry he]
      exact Option.Rel.none
  | some e =>
      rcases h.entry he with ⟨e', he', hsame⟩
      rw [he']
      dsimp only
      rw [hsame.queue]
      split
      · exact Option.Rel.none
      · exact Option.Rel.some (h.set_queue he he' _ _ _)

theorem Agree.takeResponse (h : Agree clientId s t) (task task' : TaskId)
    (owner : String) (entry : Ref) :
    SameTake clientId (s.takeResponse task owner entry)
      (t.takeResponse task' owner entry) := by
  unfold Store.takeResponse
  cases he : s.clientEntries[entry]? with
  | none =>
      rw [h.no_entry he]
      exact Option.Rel.none
  | some e =>
      rcases h.entry he with ⟨e', he', hsame⟩
      rw [he']
      dsimp only
      rw [hsame.queue]
      split
      · exact Option.Rel.none
      · exact Option.Rel.some ⟨rfl, h.set_queue he he' _ _ _⟩

/-!
## Handlers on stores that agree
-/

theorem queuePut_relates {result result' : Type}
    (rel : Store × result -> Store × result' -> Prop) {timeoutMs : Int}
    {put put' : Store -> Option Store} {resume : Bool -> Store -> Store × result}
    {resume' : Bool -> Store -> Store × result'} {wait : result} {wait' : result'}
    (hput : Option.Rel (Agree clientId) (put s) (put' t))
    (hroom : forall s' t', put s = some s' -> Agree clientId s' t' ->
      rel (resume true s') (resume' true t'))
    (hfull : rel (resume false s) (resume' false t))
    (hwait : rel (s, wait) (t, wait')) :
    rel (queuePut timeoutMs put resume wait s)
      (queuePut timeoutMs put' resume' wait' t) := by
  unfold queuePut
  split
  · rcases rel_cases hput with ⟨hs, ht⟩ | ⟨s', t', hs, ht, hagree⟩
    · rw [hs, ht]
      exact hfull
    · rw [hs, ht]
      exact hroom s' t' hs hagree
  · exact hwait

theorem queueGet_relates {item result result' : Type}
    (rel : Store × result -> Store × result' -> Prop) {timeoutMs : Int}
    {get get' : Store -> Option (item × Store)}
    {resume : Option item -> Store -> Store × result}
    {resume' : Option item -> Store -> Store × result'} {wait : result}
    {wait' : result'} (hget : SameTake clientId (get s) (get' t))
    (hempty : rel (resume none s) (resume' none t))
    (hitem : forall x s' t', get s = some (x, s') -> Agree clientId s' t' ->
      rel (resume (some x) s') (resume' (some x) t'))
    (hwait : rel (s, wait) (t, wait')) :
    rel (queueGet timeoutMs get resume wait s)
      (queueGet timeoutMs get' resume' wait' t) := by
  unfold queueGet
  split
  · rcases hget.cases with ⟨hs, ht⟩ | ⟨x, s', t', hs, ht, hagree⟩
    · rw [hs, ht]
      exact hempty
    · rw [hs, ht]
      exact hitem x s' t' hs hagree
  · exact hwait

variable {cfg : Settings} {task : TaskId} {clock : Clock}

theorem Agree.answer (h : Agree clientId s t) (reply : HttpReply) :
    SameResult clientId (answer task reply s) (answer task reply t) :=
  ⟨h.record _ _, rfl⟩

theorem Agree.wait (h : Agree clientId s t) (phase : Phase) :
    SameResult clientId (s, phase) (t, phase) :=
  ⟨h, rfl⟩

theorem Agree.postRequestResponded (h : Agree clientId s t)
    (response : Option PypeResponse) :
    SameResult clientId (postRequestResponded task response s)
      (postRequestResponded task response t) := by
  cases response <;> exact h.answer _

theorem Agree.postRequestEnqueued (h : Agree clientId s t) (params : PostRequest)
    (claims : ClientClaims) (entry : Ref) (deadline bumpedAt remainingAt : Time)
    (enqueued : Bool) :
    SameResult clientId
      (postRequestEnqueued task params claims entry deadline bumpedAt remainingAt
        enqueued s)
      (postRequestEnqueued task params claims entry deadline bumpedAt remainingAt
        enqueued t) := by
  have hbumped := h.bump claims.clientId bumpedAt
  unfold Server.postRequestEnqueued
  dsimp only
  split
  · exact hbumped.answer _
  · split
    · exact hbumped.answer _
    · exact queueGet_relates (SameResult clientId)
        (hbumped.takeResponse task task claims.clientId entry)
        (hbumped.postRequestResponded none)
        (fun x _ _ _ h' => h'.postRequestResponded (some x)) (hbumped.wait _)

theorem Agree.postRequestBody (h : Agree clientId s t) (params : PostRequest)
    (claims : ClientClaims) (entry : Ref) (totalTimeoutMs : Int) :
    SameResult clientId
      (postRequestBody cfg task params claims entry totalTimeoutMs clock s)
      (postRequestBody cfg task params claims entry totalTimeoutMs clock t) := by
  rcases h.openService cfg params.serviceName with ⟨hqueue, hopened⟩
  unfold Server.postRequestBody
  dsimp only
  rw [hqueue]
  exact queuePut_relates (SameResult clientId) (hopened.putRequest task _ _ _)
    (fun _ _ _ h' => h'.postRequestEnqueued _ _ _ _ _ _ true)
    (hopened.postRequestEnqueued _ _ _ _ _ _ false) (hopened.wait _)

theorem Agree.postRequestToService (h : Agree clientId s t) (params : PostRequest)
    (claims : ClientClaims) :
    SameResult clientId (postRequestToService cfg task params claims clock s)
      (postRequestToService cfg task params claims clock t) := by
  rcases h.openClient cfg claims.clientId (clock.reading 0) with ⟨hentry, hopened⟩
  have hbumped := hopened.bump claims.clientId (clock.reading 1)
  unfold Server.postRequestToService
  dsimp only
  rw [hentry]
  split
  · exact hbumped.answer _
  · exact hbumped.wait _

theorem Agree.getRequestDequeued (h : Agree clientId s t)
    (item : Option PypeRequest) :
    SameResult clientId (getRequestDequeued task item s)
      (getRequestDequeued task item t) := by
  cases item <;> exact h.answer _

theorem Agree.getRequestForService (h : Agree clientId s t) (serviceName : String)
    (timeout : Option Int) (claims : ServiceClaims) :
    SameResult clientId
      (getRequestForService cfg task serviceName timeout claims clock s)
      (getRequestForService cfg task serviceName timeout claims clock t) := by
  rcases h.openService cfg serviceName with ⟨hqueue, hopened⟩
  unfold Server.getRequestForService
  split
  · exact h.answer _
  · split
    · exact h.answer _
    · dsimp only
      rw [hqueue]
      exact queueGet_relates (SameResult clientId)
        (hopened.takeRequest task serviceName _)
        (hopened.getRequestDequeued none)
        (fun x _ _ _ h' => h'.getRequestDequeued (some x)) (hopened.wait _)

theorem Agree.postResponseEnqueued (h : Agree clientId s t) (enqueued : Bool) :
    SameResult clientId (postResponseEnqueued task enqueued s)
      (postResponseEnqueued task enqueued t) := by
  cases enqueued <;> exact h.answer _

theorem Agree.postResponseBody (h : Agree clientId s t) (params : PostResponse)
    (entry : Ref) (timeoutMs : Int) :
    SameResult clientId
      (postResponseBody cfg task params entry timeoutMs clock s)
      (postResponseBody cfg task params entry timeoutMs clock t) :=
  queuePut_relates (SameResult clientId) (h.putResponse task params.clientId entry _)
    (fun _ _ _ h' => h'.postResponseEnqueued true) (h.postResponseEnqueued false)
    (h.wait _)

theorem Agree.postResponseToClient (h : Agree clientId s t)
    (params : PostResponse) :
    SameResult clientId (postResponseToClient cfg task params clock s)
      (postResponseToClient cfg task params clock t) := by
  rcases h.openClient cfg params.clientId (clock.reading 0) with ⟨hentry, hopened⟩
  unfold Server.postResponseToClient
  dsimp only
  rw [hentry]
  split
  · exact hopened.answer _
  · exact hopened.wait _

theorem Agree.getResponseDequeued (h : Agree clientId s t) (owner : String)
    (bumpedAt : Time) (item : Option PypeResponse) :
    SameResult clientId (getResponseDequeued task owner bumpedAt item s)
      (getResponseDequeued task owner bumpedAt item t) := by
  have hbumped := h.bump owner bumpedAt
  cases item <;> exact hbumped.answer _

theorem Agree.getResponseForClient (h : Agree clientId s t) (owner : String)
    (timeout : Option Int) (claims : ClientClaims) :
    SameResult clientId (getResponseForClient cfg task owner timeout claims clock s)
      (getResponseForClient cfg task owner timeout claims clock t) := by
  rcases h.openClient cfg owner (clock.reading 0) with ⟨hentry, hopened⟩
  have hbumped := hopened.bump owner (clock.reading 1)
  unfold Server.getResponseForClient
  split
  · exact h.answer _
  · dsimp only
    rw [hentry]
    split
    · exact hbumped.answer _
    · exact queueGet_relates (SameResult clientId)
        (hbumped.takeResponse task task owner _)
        (hbumped.getResponseDequeued owner _ none)
        (fun x _ _ _ h' => h'.getResponseDequeued owner _ (some x)) (hbumped.wait _)

theorem Agree.orRefuse {value : Type} (h : Agree clientId s t)
    (checked : Except PypeError value) {handler : value -> Store -> Store × Phase}
    (hhandler : forall v, SameResult clientId (handler v s) (handler v t)) :
    SameResult clientId (orRefuse task checked handler s)
      (orRefuse task checked handler t) := by
  cases checked with
  | error e => exact h.answer _
  | ok v => exact hhandler v

theorem Agree.requireText (h : Agree clientId s t) (text : String)
    {handler : Store -> Store × Phase}
    (hhandler : SameResult clientId (handler s) (handler t)) :
    SameResult clientId (requireText task text handler s)
      (requireText task text handler t) := by
  unfold Server.requireText
  split
  · exact h.answer _
  · exact hhandler

theorem Agree.dispatch (h : Agree clientId s t) (jwt : Jwt) (request : HttpRequest)
    (secret : String) :
    SameResult clientId (dispatch cfg jwt task request secret clock s)
      (dispatch cfg jwt task request secret clock t) := by
  unfold Server.dispatch
  split
  · exact h.orRefuse _ fun claims =>
      h.requireText _ (h.requireText _ (h.postRequestToService _ claims))
  · exact h.orRefuse _ fun claims =>
      h.requireText _ (h.getRequestForService _ _ claims)
  · exact h.orRefuse _ fun _ =>
      h.requireText _ (h.requireText _ (h.postResponseToClient _))
  · exact h.orRefuse _ fun claims =>
      h.requireText _ (h.getResponseForClient _ _ claims)
  · exact h.orRefuse _ fun claims => (h.remove _ claims.clientId).answer _
  · exact h.requireText _ ((h.openService cfg _).right.answer _)
  · exact h.requireText _ (h.answer _)
  · have hloads : ServiceRegistry.snapshotLoads t =
        ServiceRegistry.snapshotLoads s := by
      unfold ServiceRegistry.snapshotLoads
      rw [h.serviceRegistry, h.serviceQueues]
    unfold servicesLoad
    rw [hloads]
    exact h.answer _

theorem rel_of_put {x y : Option Store} (phase : Phase) :
    Option.Rel (Agree clientId) x y -> Option.Rel (SameResult clientId)
      (match x with
        | some s' => some (s', phase)
        | none => none)
      (match y with
        | some t' => some (t', phase)
        | none => none) := by
  intro h
  cases h with
  | none => exact Option.Rel.none
  | some hagree => exact Option.Rel.some (hagree.wait phase)

theorem rel_of_expired {r r' : Store × Phase} (h : SameResult clientId r r')
    (expired : Prop) [Decidable expired] :
    Option.Rel (SameResult clientId) (if expired then some r else none)
      (if expired then some r' else none) := by
  split
  · exact Option.Rel.some h
  · exact Option.Rel.none

theorem Agree.advance (h : Agree clientId s t) (jwt : Jwt) (request : HttpRequest)
    (phase : Phase) (action : Action) :
    Option.Rel (SameResult clientId)
      (advance cfg jwt task request phase action clock s)
      (advance cfg jwt task request phase action clock t) := by
  unfold Server.advance
  split
  -- received: start, close
  · exact Option.Rel.some (h.dispatch jwt request _)
  · exact Option.Rel.some (h.wait _)
  -- postRequestBody: body, close
  · exact Option.Rel.some (h.postRequestBody _ _ _ _)
  · exact Option.Rel.some (h.wait _)
  -- postRequestPut: serve, expire; postRequestPutDone: resume
  · exact rel_of_put _ (h.putRequest task _ _ _)
  · exact rel_of_expired (h.wait _) _
  · exact Option.Rel.some (h.postRequestEnqueued _ _ _ _ _ _ _)
  -- postRequestGet: serve, expire; postRequestGetDone: resume
  · rename_i claims entry _
    rcases (h.takeResponse task task claims.clientId entry).cases with
      ⟨hs, ht⟩ | ⟨x, s', t', hs, ht, hagree⟩
    · rw [hs, ht]
      exact Option.Rel.none
    · rw [hs, ht]
      exact Option.Rel.some (hagree.wait _)
  · exact rel_of_expired (h.wait _) _
  · exact Option.Rel.some (h.postRequestResponded _)
  -- getRequestGet: serve, expire; getRequestGetDone: resume
  · rename_i serviceName queue _
    rcases (h.takeRequest task serviceName queue).cases with
      ⟨hs, ht⟩ | ⟨x, s', t', hs, ht, hagree⟩
    · rw [hs, ht]
      exact Option.Rel.none
    · rw [hs, ht]
      exact Option.Rel.some (hagree.wait _)
  · exact rel_of_expired (h.wait _) _
  · exact Option.Rel.some (h.getRequestDequeued _)
  -- postResponseBody: body, close
  · exact Option.Rel.some (h.postResponseBody _ _ _)
  · exact Option.Rel.some (h.wait _)
  -- postResponsePut: serve, expire; postResponsePutDone: resume
  · exact rel_of_put _ (h.putResponse task _ _ _)
  · exact rel_of_expired (h.wait _) _
  · exact Option.Rel.some (h.postResponseEnqueued _)
  -- getResponseGet: serve, expire; getResponseGetDone: resume
  · rename_i owner entry _
    rcases (h.takeResponse task task owner entry).cases with
      ⟨hs, ht⟩ | ⟨x, s', t', hs, ht, hagree⟩
    · rw [hs, ht]
      exact Option.Rel.none
    · rw [hs, ht]
      exact Option.Rel.some (hagree.wait _)
  · exact rel_of_expired (h.wait _) _
  · exact Option.Rel.some (h.getResponseDequeued _ _ _)
  -- done: close
  · exact Option.Rel.some (h.wait _)
  · exact Option.Rel.none

/-!
## Ticks on stores that agree
-/

theorem get?_remove (remover : Remover) (other : String) (s : Store)
    (clientId : String) :
    (ClientRegistry.remove remover other s).clientRegistry.get? clientId =
      if other = clientId then none else s.clientRegistry.get? clientId := by
  unfold ClientRegistry.remove
  split
  · exact Dict.get?_erase _ _ _
  · rename_i hnone
    split
    · rename_i heq
      rw [← heq]
      exact hnone
    · rfl

theorem get?_examineAll_of_none {cfg : Settings} {now : Time} {clientId : String}
    (keys : List String) (state : Store × Nat)
    (hnone : state.1.clientRegistry.get? clientId = none) :
    (ClientQueueReaper.examineAll cfg now keys state).1.clientRegistry.get? clientId =
      none := by
  refine ClientQueueReaper.examineAll_invariant
    (fun t => t.clientRegistry.get? clientId = none) keys ?_ state hnone
  intro other _ t _ _ _ hnone
  rw [get?_remove]
  split
  · rfl
  · exact hnone

theorem Agree.examine {cfg : Settings} {now : Time} {n m : Nat}
    (h : Agree clientId s t) (hwell : s.WellFormed cfg) (key : String)
    (hkept : (ClientQueueReaper.examine cfg now key (s, n)).1.clientRegistry.get?
      clientId = s.clientRegistry.get? clientId) :
    Agree clientId (ClientQueueReaper.examine cfg now key (s, n)).1
      (ClientQueueReaper.examine cfg now key (t, m)).1 := by
  unfold ClientQueueReaper.examine at hkept ⊢
  have hregistered : t.clientRegistry.get? key = s.clientRegistry.get? key := by
    rw [h.clientRegistry]
  dsimp only [ClientRegistry.get] at hkept ⊢
  rw [hregistered]
  cases hentry : s.clientRegistry.get? key with
  | none => exact h
  | some entry =>
      rw [hentry] at hkept
      dsimp only at hkept ⊢
      rcases ownerOf_eq_some.mp (hwell.client _ _ hentry) with ⟨e, he, howner⟩
      rcases h.entry he with ⟨e', he', hsame⟩
      rw [he] at hkept ⊢
      rw [he']
      dsimp only at hkept ⊢
      by_cases hstale : cfg.clientInactivityThresholdSeconds < now - e.lastSeen
      · rw [if_pos hstale] at hkept ⊢
        have hne : e.clientId ≠ clientId := by
          rw [howner]
          rintro rfl
          rw [get?_remove, if_pos rfl, hentry] at hkept
          cases hkept
        have hstale' : cfg.clientInactivityThresholdSeconds < now - e'.lastSeen := by
          rw [hsame.others hne]
          exact hstale
        rw [if_pos hstale']
        exact h.remove _ _
      · have hfresh : ¬ cfg.clientInactivityThresholdSeconds < now - e'.lastSeen := by
          have hlater := hsame.seen
          intro hstale'
          exact hstale (by linarith)
        rw [if_neg hstale, if_neg hfresh]
        exact h

theorem Agree.examineAll {cfg : Settings} {now : Time} (keys : List String)
    {x y : Store × Nat} (h : Agree clientId x.1 y.1) (hwell : x.1.WellFormed cfg)
    (hkept : (ClientQueueReaper.examineAll cfg now keys x).1.clientRegistry.get?
      clientId = x.1.clientRegistry.get? clientId) :
    Agree clientId (ClientQueueReaper.examineAll cfg now keys x).1
      (ClientQueueReaper.examineAll cfg now keys y).1 := by
  induction keys generalizing x y with
  | nil => exact h
  | cons key rest ih =>
      have hfirst : (ClientQueueReaper.examine cfg now key x).1.clientRegistry.get?
          clientId = x.1.clientRegistry.get? clientId := by
        rcases ClientQueueReaper.examine_cases cfg now key x with
          hsame | ⟨_, _, _, hremove⟩
        · rw [hsame]
        · rw [hremove, get?_remove]
          split
          · -- had the client been evicted, it would be missing after the tick
            rename_i heq
            rw [← hkept, ClientQueueReaper.examineAll, hremove]
            exact (get?_examineAll_of_none rest _ (by
              rw [get?_remove, if_pos heq])).symm
          · rfl
      have hwell' : (ClientQueueReaper.examine cfg now key x).1.WellFormed cfg := by
        rcases ClientQueueReaper.examine_cases cfg now key x with
          hsame | ⟨_, _, _, hremove⟩
        · rw [hsame]
          exact hwell
        · rw [hremove]
          exact hwell.remove _ _
      exact ih (h.examine hwell key hfirst) hwell' (by rw [hfirst]; exact hkept)

theorem Agree.tick {cfg : Settings} {now : Time} (reaper : ClientQueueReaper)
    (h : Agree clientId s t) (hwell : s.WellFormed cfg)
    (hkept : forall entry, s.clientRegistry.get? clientId = some entry ->
      (reaper.tick cfg now s).2.1.clientRegistry.get? clientId = some entry) :
    (reaper.tick cfg now t).1 = (reaper.tick cfg now s).1 ∧
      Agree clientId (reaper.tick cfg now s).2.1 (reaper.tick cfg now t).2.1 := by
  have hrefresh : reaper.refresh t = reaper.refresh s := by
    unfold ClientQueueReaper.refresh ClientRegistry.snapshotKeys
    rw [h.clientRegistry]
  have hsize : ClientQueueReaper.effectiveBatchSize cfg t =
      ClientQueueReaper.effectiveBatchSize cfg s := by
    unfold ClientQueueReaper.effectiveBatchSize
    rw [h.clientRegistry]
  have hbatch : reaper.batch cfg t = reaper.batch cfg s := by
    unfold ClientQueueReaper.batch
    rw [hrefresh, hsize]
  have hunchanged : (reaper.tick cfg now s).2.1.clientRegistry.get? clientId =
      s.clientRegistry.get? clientId := by
    cases hentry : s.clientRegistry.get? clientId with
    | none =>
        rw [ClientQueueReaper.tick_store]
        exact get?_examineAll_of_none _ _ hentry
    | some entry => exact hkept entry hentry
  constructor
  · unfold ClientQueueReaper.tick
    rw [hrefresh, hsize]
    dsimp only
    split <;> rfl
  · rw [ClientQueueReaper.tick_store] at hunchanged
    rw [ClientQueueReaper.tick_store, ClientQueueReaper.tick_store, hbatch]
    exact Agree.examineAll _ h hwell hunchanged

end

end Server
end Pype
