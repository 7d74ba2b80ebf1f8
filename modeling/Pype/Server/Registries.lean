import Mathlib.Data.List.Basic
import Pype.Foundation.BoundedQueue
import Pype.Server.Messages

/-!
# Registries and the queues behind them

The two registries map names to objects.  A handler that looked up an object
keeps its reference across awaits, whatever happens to the registry meanwhile,
so queues and client entries live on a heap of their own.  The store also keeps
a history of what was done to the queues; no handler reads it.
-/

namespace Pype
namespace Server

open Foundation

/-- A client's entry object: its queue of responses and when it was last seen. -/
structure ClientEntry where
  clientId : String
  queue : BoundedQueue (Posted PypeResponse)
  lastSeen : Time

inductive Remover where
  | logoff (task : TaskId)
  | reaper (now : Time)
deriving DecidableEq

/-- One thing done to the queues, or one answer given. -/
inductive Record where
  | serviceQueueCreated (serviceName : String) (queue : Ref)
  | requestEnqueued (task : TaskId) (serviceName : String) (queue : Ref)
      (request : PypeRequest)
  | requestDequeued (task : TaskId) (serviceName : String) (queue : Ref)
      (request : Posted PypeRequest)
  | clientEntryCreated (clientId : String) (entry : Ref)
  | clientEntryRemoved (remover : Remover) (clientId : String) (entry : Ref)
  | responseEnqueued (task : TaskId) (clientId : String) (entry : Ref)
      (response : PypeResponse)
  | responseDequeued (task : TaskId) (clientId : String) (entry : Ref)
      (response : Posted PypeResponse)
  | answered (task : TaskId) (reply : HttpReply)

/-- The registries, the heap of the objects they refer to, and the history. -/
structure Store where
  serviceQueues : List (BoundedQueue (Posted PypeRequest))
  serviceRegistry : Dict String Ref
  clientEntries : List ClientEntry
  clientRegistry : Dict String Ref
  history : List Record

namespace Store

def initial : Store where
  serviceQueues := []
  serviceRegistry := Dict.empty
  clientEntries := []
  clientRegistry := Dict.empty
  history := []

def record (r : Record) (s : Store) : Store :=
  { s with history := s.history ++ [r] }

end Store

/-!
## `ServiceRegistry`
-/

namespace ServiceRegistry

def create (cfg : Settings) (serviceName : String) (s : Store) : Store :=
  { s with
    serviceQueues :=
      s.serviceQueues ++ [BoundedQueue.empty cfg.serviceQueueMaxSize]
    serviceRegistry :=
      s.serviceRegistry.set serviceName s.serviceQueues.length
    history := s.history ++
      [.serviceQueueCreated serviceName s.serviceQueues.length] }

/-- The queue of a service name, created empty if the name is new. -/
def getOrCreate (cfg : Settings) (serviceName : String) (s : Store) : Ref × Store :=
  match s.serviceRegistry.get? serviceName with
  | some existing => (existing, s)
  | none => (s.serviceQueues.length, create cfg serviceName s)

def snapshotLoads (s : Store) : List (String × Nat) :=
  s.serviceRegistry.entries.map fun item =>
    (item.1, (s.serviceQueues[item.2]?.map BoundedQueue.qsize).getD 0)

end ServiceRegistry

/-!
## `ClientRegistry`
-/

namespace ClientRegistry

/-- The store with a new entry registered under a client id; a new entry was last
seen when it was created. -/
def create (cfg : Settings) (clientId : String) (createdAt : Time) (s : Store) :
    Store :=
  { s with
    clientEntries := s.clientEntries ++
      [{ clientId := clientId
         queue := BoundedQueue.empty cfg.clientQueueMaxSize
         lastSeen := createdAt }]
    clientRegistry := s.clientRegistry.set clientId s.clientEntries.length
    history := s.history ++
      [.clientEntryCreated clientId s.clientEntries.length] }

def getOrCreate (cfg : Settings) (clientId : String) (createdAt : Time)
    (s : Store) : Ref × Store :=
  match s.clientRegistry.get? clientId with
  | some existing => (existing, s)
  | none => (s.clientEntries.length, create cfg clientId createdAt s)

def get (clientId : String) (s : Store) : Option ClientEntry :=
  match s.clientRegistry.get? clientId with
  | some entry => s.clientEntries[entry]?
  | none => none

/-- Take the entry of a client id out of the registry.  The entry object lives on
for the handlers that hold it. -/
def remove (remover : Remover) (clientId : String) (s : Store) : Store :=
  match s.clientRegistry.get? clientId with
  | some entry =>
      { s with
        clientRegistry := s.clientRegistry.erase clientId
        history := s.history ++ [.clientEntryRemoved remover clientId entry] }
  | none => s

/-- Set the last-seen time of the registered entry, if there is one. -/
def bumpLastSeen (clientId : String) (now : Time) (s : Store) : Store :=
  match s.clientRegistry.get? clientId with
  | some entry =>
      { s with
        clientEntries :=
          s.clientEntries.modify entry fun e => { e with lastSeen := now } }
  | none => s

def snapshotKeys (s : Store) : List String :=
  s.clientRegistry.keys

end ClientRegistry

/-!
## Queue operations

The operations of a handler on the queue it holds.  They fail on a full queue,
respectively on an empty one, and leave the store alone then.
-/

namespace Store

def putRequest (task : TaskId) (serviceName : String) (queue : Ref)
    (request : PypeRequest) (s : Store) : Option Store :=
  match s.serviceQueues[queue]? with
  | none => none
  | some q =>
      match q.putNowait ⟨task, request⟩ with
      | none => none
      | some q' => some
          { s with
            serviceQueues := s.serviceQueues.set queue q'
            history := s.history ++
              [.requestEnqueued task serviceName queue request] }

def takeRequest (task : TaskId) (serviceName : String) (queue : Ref) (s : Store) :
    Option (PypeRequest × Store) :=
  match s.serviceQueues[queue]? with
  | none => none
  | some q =>
      match q.getNowait with
      | none => none
      | some (posted, q') => some
          (posted.message,
            { s with
              serviceQueues := s.serviceQueues.set queue q'
              history := s.history ++
                [.requestDequeued task serviceName queue posted] })

def putResponse (task : TaskId) (clientId : String) (entry : Ref)
    (response : PypeResponse) (s : Store) : Option Store :=
  match s.clientEntries[entry]? with
  | none => none
  | some e =>
      match e.queue.putNowait ⟨task, response⟩ with
      | none => none
      | some q' => some
          { s with
            clientEntries := s.clientEntries.set entry { e with queue := q' }
            history := s.history ++
              [.responseEnqueued task clientId entry response] }

def takeResponse (task : TaskId) (clientId : String) (entry : Ref) (s : Store) :
    Option (PypeResponse × Store) :=
  match s.clientEntries[entry]? with
  | none => none
  | some e =>
      match e.queue.getNowait with
      | none => none
      | some (posted, q') => some
          (posted.message,
            { s with
              clientEntries := s.clientEntries.set entry { e with queue := q' }
              history := s.history ++
                [.responseDequeued task clientId entry posted] })

end Store

/-!
## What each operation does

One lemma an operation says all that it can do; the proofs about the store use
these and never unfold the operations.
-/

theorem ServiceRegistry.getOrCreate_cases (cfg : Settings) (serviceName : String)
    (s : Store) :
    (exists queue, s.serviceRegistry.get? serviceName = some queue ∧
        getOrCreate cfg serviceName s = (queue, s)) ∨
      (s.serviceRegistry.get? serviceName = none ∧
        getOrCreate cfg serviceName s =
          (s.serviceQueues.length, create cfg serviceName s)) := by
  unfold getOrCreate
  cases hget : s.serviceRegistry.get? serviceName with
  | none => exact Or.inr ⟨rfl, rfl⟩
  | some queue => exact Or.inl ⟨queue, rfl, rfl⟩

theorem ClientRegistry.getOrCreate_cases (cfg : Settings) (clientId : String)
    (createdAt : Time) (s : Store) :
    (exists entry, s.clientRegistry.get? clientId = some entry ∧
        getOrCreate cfg clientId createdAt s = (entry, s)) ∨
      (s.clientRegistry.get? clientId = none ∧
        getOrCreate cfg clientId createdAt s =
          (s.clientEntries.length, create cfg clientId createdAt s)) := by
  unfold getOrCreate
  cases hget : s.clientRegistry.get? clientId with
  | none => exact Or.inr ⟨rfl, rfl⟩
  | some entry => exact Or.inl ⟨entry, rfl, rfl⟩

theorem ServiceRegistry.get?_getOrCreate (cfg : Settings) (serviceName : String)
    (s : Store) :
    (getOrCreate cfg serviceName s).2.serviceRegistry.get? serviceName =
      some (getOrCreate cfg serviceName s).1 := by
  rcases getOrCreate_cases cfg serviceName s with
    ⟨queue, hget, heq⟩ | ⟨_, heq⟩
  · rw [heq]
    exact hget
  · rw [heq]
    exact Dict.get?_set_self _ _ _

theorem ClientRegistry.get?_getOrCreate (cfg : Settings) (clientId : String)
    (createdAt : Time) (s : Store) :
    (getOrCreate cfg clientId createdAt s).2.clientRegistry.get? clientId =
      some (getOrCreate cfg clientId createdAt s).1 := by
  rcases getOrCreate_cases cfg clientId createdAt s with
    ⟨entry, hget, heq⟩ | ⟨_, heq⟩
  · rw [heq]
    exact hget
  · rw [heq]
    exact Dict.get?_set_self _ _ _

namespace Store

theorem putRequest_eq_some {task : TaskId} {serviceName : String} {queue : Ref}
    {request : PypeRequest} {s s' : Store}
    (h : s.putRequest task serviceName queue request = some s') :
    exists q q', s.serviceQueues[queue]? = some q ∧
      q.putNowait ⟨task, request⟩ = some q' ∧
      s' = { s with
        serviceQueues := s.serviceQueues.set queue q'
        history := s.history ++
          [.requestEnqueued task serviceName queue request] } := by
  unfold putRequest at h
  split at h
  · cases h
  · rename_i q hq
    split at h
    · cases h
    · rename_i q' hput
      cases h
      exact ⟨q, q', hq, hput, rfl⟩

theorem takeRequest_eq_some {task : TaskId} {serviceName : String} {queue : Ref}
    {request : PypeRequest} {s s' : Store}
    (h : s.takeRequest task serviceName queue = some (request, s')) :
    exists q posted q', s.serviceQueues[queue]? = some q ∧
      q.getNowait = some (posted, q') ∧ posted.message = request ∧
      s' = { s with
        serviceQueues := s.serviceQueues.set queue q'
        history := s.history ++
          [.requestDequeued task serviceName queue posted] } := by
  unfold takeRequest at h
  split at h
  · cases h
  · rename_i q hq
    split at h
    · cases h
    · rename_i posted q' hget
      cases h
      exact ⟨q, posted, q', hq, hget, rfl, rfl⟩

theorem putResponse_eq_some {task : TaskId} {clientId : String} {entry : Ref}
    {response : PypeResponse} {s s' : Store}
    (h : s.putResponse task clientId entry response = some s') :
    exists e q', s.clientEntries[entry]? = some e ∧
      e.queue.putNowait ⟨task, response⟩ = some q' ∧
      s' = { s with
        clientEntries := s.clientEntries.set entry { e with queue := q' }
        history := s.history ++
          [.responseEnqueued task clientId entry response] } := by
  unfold putResponse at h
  split at h
  · cases h
  · rename_i e he
    split at h
    · cases h
    · rename_i q' hput
      cases h
      exact ⟨e, q', he, hput, rfl⟩

theorem takeResponse_eq_some {task : TaskId} {clientId : String} {entry : Ref}
    {response : PypeResponse} {s s' : Store}
    (h : s.takeResponse task clientId entry = some (response, s')) :
    exists e posted q', s.clientEntries[entry]? = some e ∧
      e.queue.getNowait = some (posted, q') ∧ posted.message = response ∧
      s' = { s with
        clientEntries := s.clientEntries.set entry { e with queue := q' }
        history := s.history ++
          [.responseDequeued task clientId entry posted] } := by
  unfold takeResponse at h
  split at h
  · cases h
  · rename_i e he
    split at h
    · cases h
    · rename_i posted q' hget
      cases h
      exact ⟨e, posted, q', he, hget, rfl, rfl⟩

end Store

/-!
## What persists

A service name keeps its queue, and an entry object keeps its client id,
whatever happens to the store.
-/

namespace Store

def ownerOf (s : Store) (entry : Ref) : Option String :=
  s.clientEntries[entry]?.map ClientEntry.clientId

/-- The second store still has every service queue registered as the first one
had, and every entry object under the same client id. -/
structure Extends (s s' : Store) : Prop where
  service : forall serviceName queue,
    s.serviceRegistry.get? serviceName = some queue ->
      s'.serviceRegistry.get? serviceName = some queue
  owner : forall entry clientId,
    s.ownerOf entry = some clientId -> s'.ownerOf entry = some clientId

theorem Extends.refl (s : Store) : Extends s s where
  service := fun _ _ h => h
  owner := fun _ _ h => h

theorem Extends.trans {s t u : Store} (h : Extends s t) (h' : Extends t u) :
    Extends s u where
  service := fun n q hq => h'.service n q (h.service n q hq)
  owner := fun e c he => h'.owner e c (h.owner e c he)

theorem ownerOf_eq_some {s : Store} {entry : Ref} {clientId : String} :
    s.ownerOf entry = some clientId <->
      exists e, s.clientEntries[entry]? = some e ∧ e.clientId = clientId := by
  simp [ownerOf]

theorem ownerOf_set_entry {s : Store} {entry : Ref} {e e' : ClientEntry}
    {history : List Record} (hentry : s.clientEntries[entry]? = some e)
    (hid : e'.clientId = e.clientId) (entry' : Ref) :
    ownerOf { s with
      clientEntries := s.clientEntries.set entry e', history := history } entry' =
      s.ownerOf entry' := by
  unfold ownerOf
  rw [List.getElem?_set]
  split
  · rename_i heq
    subst heq
    rw [if_pos (List.getElem?_eq_some_iff.mp hentry).choose, hentry]
    simp [hid]
  · rfl

theorem extends_record (r : Record) (s : Store) : Extends s (s.record r) where
  service := fun _ _ h => h
  owner := fun _ _ h => h

end Store

open Store

theorem ServiceRegistry.extends_getOrCreate (cfg : Settings) (serviceName : String)
    (s : Store) : Extends s (getOrCreate cfg serviceName s).2 := by
  rcases getOrCreate_cases cfg serviceName s with
    ⟨queue, _, heq⟩ | ⟨hnone, heq⟩
  · rw [heq]
    exact Extends.refl s
  · rw [heq]
    refine ⟨?_, fun _ _ h => h⟩
    intro n q hq
    have hne : serviceName ≠ n := by
      rintro rfl
      rw [hnone] at hq
      cases hq
    simpa [create, Dict.get?_set_of_ne _ _ hne] using hq

theorem ClientRegistry.extends_getOrCreate (cfg : Settings) (clientId : String)
    (createdAt : Time) (s : Store) :
    Extends s (getOrCreate cfg clientId createdAt s).2 := by
  rcases getOrCreate_cases cfg clientId createdAt s with
    ⟨entry, _, heq⟩ | ⟨_, heq⟩
  · rw [heq]
    exact Extends.refl s
  · rw [heq]
    constructor
    · exact fun _ _ h => h
    · intro e c he
      rcases ownerOf_eq_some.mp he with ⟨x, hx, hid⟩
      have hlt : e < s.clientEntries.length := (List.getElem?_eq_some_iff.mp hx).choose
      exact ownerOf_eq_some.mpr
        ⟨x, by rw [create, List.getElem?_append_left hlt, hx], hid⟩

theorem ClientRegistry.extends_remove (remover : Remover) (clientId : String)
    (s : Store) : Extends s (remove remover clientId s) := by
  unfold remove
  split
  · exact ⟨fun _ _ h => h, fun _ _ h => h⟩
  · exact Extends.refl s

theorem ClientRegistry.ownerOf_bumpLastSeen (clientId : String) (now : Time)
    (s : Store) (entry : Ref) :
    (bumpLastSeen clientId now s).ownerOf entry = s.ownerOf entry := by
  unfold bumpLastSeen
  split
  · unfold ownerOf
    rw [List.getElem?_modify, Option.map_eq_map, Option.map_map]
    congr 1
    funext e
    simp only [Function.comp_apply]
    split <;> rfl
  · rfl

theorem ClientRegistry.extends_bumpLastSeen (clientId : String) (now : Time)
    (s : Store) : Extends s (bumpLastSeen clientId now s) where
  service := by
    intro n q hq
    unfold bumpLastSeen
    split <;> exact hq
  owner := by
    intro e c he
    rw [ownerOf_bumpLastSeen]
    exact he

namespace Store

theorem extends_putRequest {task : TaskId} {serviceName : String} {queue : Ref}
    {request : PypeRequest} {s s' : Store}
    (h : s.putRequest task serviceName queue request = some s') : Extends s s' := by
  rcases putRequest_eq_some h with ⟨q, q', _, _, rfl⟩
  exact ⟨fun _ _ h => h, fun _ _ h => h⟩

theorem extends_takeRequest {task : TaskId} {serviceName : String} {queue : Ref}
    {request : PypeRequest} {s s' : Store}
    (h : s.takeRequest task serviceName queue = some (request, s')) :
    Extends s s' := by
  rcases takeRequest_eq_some h with ⟨q, posted, q', _, _, _, rfl⟩
  exact ⟨fun _ _ h => h, fun _ _ h => h⟩

theorem extends_putResponse {task : TaskId} {clientId : String} {entry : Ref}
    {response : PypeResponse} {s s' : Store}
    (h : s.putResponse task clientId entry response = some s') : Extends s s' := by
  rcases putResponse_eq_some h with ⟨e, q', he, _, rfl⟩
  constructor
  · exact fun _ _ h => h
  · intro e' c hc
    rw [ownerOf_set_entry he (by rfl)]
    exact hc

theorem extends_takeResponse {task : TaskId} {clientId : String} {entry : Ref}
    {response : PypeResponse} {s s' : Store}
    (h : s.takeResponse task clientId entry = some (response, s')) :
    Extends s s' := by
  rcases takeResponse_eq_some h with ⟨e, posted, q', he, _, _, rfl⟩
  constructor
  · exact fun _ _ h => h
  · intro e' c hc
    rw [ownerOf_set_entry he (by rfl)]
    exact hc

end Store

end Server
end Pype
