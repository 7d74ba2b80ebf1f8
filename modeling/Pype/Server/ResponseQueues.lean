import Pype.Server.Transcripts

/-!
# Conservation on response queues

The books of the client side: for every entry object, what was put on its queue
is what was taken from it, in the same order, followed by what is still on it.
An acknowledged response is taken at most once, and only for its client.
-/

namespace Pype
namespace Server

open Foundation Store

def Record.onClient : Record -> Bool
  | .clientEntryCreated .. => true
  | .clientEntryRemoved .. => true
  | .responseEnqueued .. => true
  | .responseDequeued .. => true
  | _ => false

/-- The handler that a record shows taking the response of a given poster. -/
def Record.responseTaker? (poster : TaskId) : Record -> Option TaskId
  | .responseDequeued task _ _ posted =>
      if posted.poster = poster then some task else none
  | _ => none

namespace Store

def enqueuedResponses (entry : Ref) (s : Store) : List (Posted PypeResponse) :=
  s.history.filterMap (Record.responseEnqueued? entry)

/-- The responses that were taken from the queue of an entry, in order, each with
the handler that took it. -/
def dequeuedResponses (entry : Ref) (s : Store) :
    List (TaskId × Posted PypeResponse) :=
  s.history.filterMap (Record.responseDequeued? entry)

def entryContent (entry : Ref) (s : Store) : List (Posted PypeResponse) :=
  (s.clientEntries[entry]?.map fun e => e.queue.items).getD []

/-- The handlers that took the response that a handler posted. -/
def takersOf (poster : TaskId) (s : Store) : List TaskId :=
  s.history.filterMap (Record.responseTaker? poster)

structure SameClients (s s' : Store) : Prop where
  entries : s'.clientEntries = s.clientEntries
  registry : s'.clientRegistry = s.clientRegistry
  history : s'.history.filter Record.onClient = s.history.filter Record.onClient

theorem sameClients_of_added {s s' : Store} {added : List Record}
    (hentries : s'.clientEntries = s.clientEntries)
    (hregistry : s'.clientRegistry = s.clientRegistry)
    (hhist : s'.history = s.history ++ added)
    (hnone : forall r, r ∈ added -> r.onClient = false) : SameClients s s' where
  entries := hentries
  registry := hregistry
  history := filter_eq_of_added hhist hnone

theorem SameClients.enqueued {s s' : Store} (h : SameClients s s') (entry : Ref) :
    s'.enqueuedResponses entry = s.enqueuedResponses entry :=
  filterMap_eq_of_filter h.history
    (by intro r hr; cases r <;> first | rfl | cases hr)

theorem SameClients.dequeued {s s' : Store} (h : SameClients s s') (entry : Ref) :
    s'.dequeuedResponses entry = s.dequeuedResponses entry :=
  filterMap_eq_of_filter h.history
    (by intro r hr; cases r <;> first | rfl | cases hr)

theorem SameClients.content {s s' : Store} (h : SameClients s s') (entry : Ref) :
    s'.entryContent entry = s.entryContent entry := by
  unfold entryContent
  rw [h.entries]

theorem SameClients.ownerOf {s s' : Store} (h : SameClients s s') (entry : Ref) :
    s'.ownerOf entry = s.ownerOf entry := by
  unfold Store.ownerOf
  rw [h.entries]

theorem SameClients.get {s s' : Store} (h : SameClients s s') (clientId : String) :
    ClientRegistry.get clientId s' = ClientRegistry.get clientId s := by
  unfold ClientRegistry.get
  rw [h.registry, h.entries]

end Store

theorem ServiceRegistry.sameClients_getOrCreate (cfg : Settings)
    (serviceName : String) (s : Store) :
    SameClients s (getOrCreate cfg serviceName s).2 := by
  rcases getOrCreate_cases cfg serviceName s with
    ⟨queue, _, heq⟩ | ⟨_, heq⟩
  · rw [heq]
    exact ⟨rfl, rfl, rfl⟩
  · rw [heq]
    exact sameClients_of_added rfl rfl rfl (by simp [Record.onClient])

theorem Effect.onClient {cfg : Settings} {jwt : Jwt} {task : TaskId}
    {request : HttpRequest} {s s' : Store}
    (h : Effect cfg jwt task request s s') :
    SameClients s s' ∨
      (exists clientId createdAt,
        (ActsFor jwt request.authorization clientId ∨
          exists params, Responds jwt request params ∧ params.clientId = clientId) ∧
          s' = (ClientRegistry.getOrCreate cfg clientId createdAt s).2) ∨
      (exists clientId now, ActsFor jwt request.authorization clientId ∧
        s' = ClientRegistry.bumpLastSeen clientId now s) ∨
      (exists clientId, ActsFor jwt request.authorization clientId ∧
        s' = ClientRegistry.remove (.logoff task) clientId s) ∨
      (exists params entry, Responds jwt request params ∧
        s.ownerOf entry = some params.clientId ∧
          s.putResponse task params.clientId entry (params.pypeResp cfg) =
            some s') ∨
      (exists clientId entry item, Receives jwt request clientId ∧
        s.ownerOf entry = some clientId ∧
          s.takeResponse task clientId entry = some (item, s')) := by
  cases h with
  | openService serviceName =>
      exact Or.inl (ServiceRegistry.sameClients_getOrCreate cfg _ s)
  | openClient createdAt _ hwho => exact Or.inr (Or.inl ⟨_, createdAt, hwho, rfl⟩)
  | bump now _ hwho => exact Or.inr (Or.inr (Or.inl ⟨_, now, hwho, rfl⟩))
  | logoff _ _ hwho => exact Or.inr (Or.inr (Or.inr (Or.inl ⟨_, hwho, rfl⟩)))
  | putRequest _ _ hput =>
      rcases putRequest_eq_some hput with ⟨q, q', _, _, rfl⟩
      exact Or.inl (sameClients_of_added rfl rfl rfl (by simp [Record.onClient]))
  | takeRequest _ _ htake =>
      rcases takeRequest_eq_some htake with ⟨q, posted, q', _, _, _, rfl⟩
      exact Or.inl (sameClients_of_added rfl rfl rfl (by simp [Record.onClient]))
  | putResponse hwho hentry hput =>
      exact Or.inr (Or.inr (Or.inr (Or.inr (Or.inl ⟨_, _, hwho, hentry, hput⟩))))
  | takeResponse hwho hentry htake =>
      exact Or.inr (Or.inr (Or.inr (Or.inr (Or.inr
        ⟨_, _, _, hwho, hentry, htake⟩))))
  | answer reply =>
      exact Or.inl (sameClients_of_added rfl rfl rfl (by simp [Record.onClient]))

/-!
## The balance
-/

/-- The books of the client side. -/
structure ClientAccount (s : Store) : Prop where
  balance : forall entry,
    s.enqueuedResponses entry =
      (s.dequeuedResponses entry).map Prod.snd ++ s.entryContent entry
  putOwner : forall task clientId entry response,
    .responseEnqueued task clientId entry response ∈ s.history ->
      s.ownerOf entry = some clientId
  takeOwner : forall task clientId entry posted,
    .responseDequeued task clientId entry posted ∈ s.history ->
      s.ownerOf entry = some clientId

theorem clientAccount_initial : ClientAccount Store.initial where
  balance := fun _ => rfl
  putOwner := by
    intro task clientId entry response h
    cases h
  takeOwner := by
    intro task clientId entry posted h
    cases h

theorem ClientAccount.of_frame {s s' : Store} (h : ClientAccount s)
    {added : List Record} (hhist : s'.history = s.history ++ added)
    (hadded : forall r, r ∈ added ->
      (forall task clientId entry response,
        r ≠ .responseEnqueued task clientId entry response) ∧
      (forall task clientId entry posted,
        r ≠ .responseDequeued task clientId entry posted))
    (hcontent : forall entry, s'.entryContent entry = s.entryContent entry)
    (hext : Extends s s') : ClientAccount s' where
  balance := by
    intro entry
    have henq : added.filterMap (Record.responseEnqueued? entry) = [] := by
      rw [List.filterMap_eq_nil_iff]
      intro r hr
      have hkind := (hadded r hr).left
      cases r <;> first | rfl | exact absurd rfl (hkind _ _ _ _)
    have hdeq : added.filterMap (Record.responseDequeued? entry) = [] := by
      rw [List.filterMap_eq_nil_iff]
      intro r hr
      have hkind := (hadded r hr).right
      cases r <;> first | rfl | exact absurd rfl (hkind _ _ _ _)
    have hbalance := h.balance entry
    unfold enqueuedResponses dequeuedResponses at hbalance ⊢
    rw [hhist, List.filterMap_append, List.filterMap_append, henq, hdeq,
      List.append_nil, List.append_nil, hcontent]
    exact hbalance
  putOwner := by
    intro task clientId entry response hr
    rw [hhist] at hr
    rcases List.mem_append.mp hr with hr | hr
    · exact hext.owner _ _ (h.putOwner _ _ _ _ hr)
    · exact absurd rfl ((hadded _ hr).left _ _ _ _)
  takeOwner := by
    intro task clientId entry posted hr
    rw [hhist] at hr
    rcases List.mem_append.mp hr with hr | hr
    · exact hext.owner _ _ (h.takeOwner _ _ _ _ hr)
    · exact absurd rfl ((hadded _ hr).right _ _ _ _)

theorem ClientAccount.of_same {s s' : Store} (h : ClientAccount s)
    (hsame : SameClients s s') : ClientAccount s' where
  balance := by
    intro entry
    rw [hsame.enqueued, hsame.dequeued, hsame.content]
    exact h.balance entry
  putOwner := by
    intro task clientId entry response hr
    have hmem : .responseEnqueued task clientId entry response ∈
        s'.history.filter Record.onClient := List.mem_filter.mpr ⟨hr, rfl⟩
    rw [hsame.history] at hmem
    rw [hsame.ownerOf]
    exact h.putOwner _ _ _ _ (List.mem_filter.mp hmem).left
  takeOwner := by
    intro task clientId entry posted hr
    have hmem : .responseDequeued task clientId entry posted ∈
        s'.history.filter Record.onClient := List.mem_filter.mpr ⟨hr, rfl⟩
    rw [hsame.history] at hmem
    rw [hsame.ownerOf]
    exact h.takeOwner _ _ _ _ (List.mem_filter.mp hmem).left

theorem ClientRegistry.entryContent_getOrCreate (cfg : Settings)
    (clientId : String) (createdAt : Time) (s : Store) (entry : Ref) :
    (getOrCreate cfg clientId createdAt s).2.entryContent entry =
      s.entryContent entry := by
  rcases getOrCreate_cases cfg clientId createdAt s with
    ⟨registered, _, heq⟩ | ⟨_, heq⟩
  · rw [heq]
  · rw [heq]
    unfold entryContent
    dsimp only [create]
    rcases Nat.lt_trichotomy entry s.clientEntries.length with hlt | heq | hgt
    · rw [List.getElem?_append_left hlt]
    · subst heq
      simp [BoundedQueue.empty]
    · rw [List.getElem?_eq_none_iff.mpr (by simp; omega),
        List.getElem?_eq_none_iff.mpr (by omega)]

theorem ClientRegistry.entryContent_bumpLastSeen (clientId : String) (now : Time)
    (s : Store) (entry : Ref) :
    (bumpLastSeen clientId now s).entryContent entry = s.entryContent entry := by
  unfold bumpLastSeen
  split
  · unfold entryContent
    rw [List.getElem?_modify, Option.map_eq_map, Option.map_map]
    congr 2
    funext e
    simp only [Function.comp_apply]
    split <;> rfl
  · rfl

theorem ClientRegistry.entryContent_remove (remover : Remover) (clientId : String)
    (s : Store) (entry : Ref) :
    (remove remover clientId s).entryContent entry = s.entryContent entry := by
  unfold remove
  split <;> rfl

theorem ClientAccount.openClient {s : Store} (h : ClientAccount s) (cfg : Settings)
    (clientId : String) (createdAt : Time) :
    ClientAccount (ClientRegistry.getOrCreate cfg clientId createdAt s).2 := by
  have hcontent := ClientRegistry.entryContent_getOrCreate cfg clientId createdAt s
  have hext := ClientRegistry.extends_getOrCreate cfg clientId createdAt s
  rcases ClientRegistry.getOrCreate_cases cfg clientId createdAt s with
    ⟨registered, _, heq⟩ | ⟨_, heq⟩
  · rw [heq]
    exact h
  · rw [heq] at hcontent hext ⊢
    exact h.of_frame rfl (by simp) hcontent hext

theorem ClientAccount.bump {s : Store} (h : ClientAccount s) (clientId : String)
    (now : Time) : ClientAccount (ClientRegistry.bumpLastSeen clientId now s) := by
  have hhist : (ClientRegistry.bumpLastSeen clientId now s).history =
      s.history ++ [] := by
    rw [ClientRegistry.history_bumpLastSeen, List.append_nil]
  exact h.of_frame hhist (by simp)
    (ClientRegistry.entryContent_bumpLastSeen clientId now s)
    (ClientRegistry.extends_bumpLastSeen clientId now s)

theorem ClientAccount.remove {s : Store} (h : ClientAccount s) (remover : Remover)
    (clientId : String) : ClientAccount (ClientRegistry.remove remover clientId s) := by
  have hcontent := ClientRegistry.entryContent_remove remover clientId s
  have hext := ClientRegistry.extends_remove remover clientId s
  unfold ClientRegistry.remove at hcontent hext ⊢
  split
  · rename_i entry hentry
    rw [hentry] at hcontent hext
    exact h.of_frame rfl (by simp) hcontent hext
  · exact h

theorem entryContent_set {s : Store} {entry : Ref} {e e' : ClientEntry}
    (he : s.clientEntries[entry]? = some e) (history : List Record) (other : Ref) :
    entryContent other
        { s with clientEntries := s.clientEntries.set entry e', history := history } =
      if entry = other then e'.queue.items else s.entryContent other := by
  unfold entryContent
  dsimp only
  rw [List.getElem?_set]
  split
  · rename_i heq
    subst heq
    rw [if_pos (List.getElem?_eq_some_iff.mp he).choose]
    rfl
  · rfl

theorem entryContent_of_getElem? {s : Store} {entry : Ref} {e : ClientEntry}
    (he : s.clientEntries[entry]? = some e) :
    s.entryContent entry = e.queue.items := by
  unfold entryContent
  rw [he]
  rfl

theorem ClientAccount.putResponse {task : TaskId} {s s' : Store}
    {clientId : String} {entry : Ref} {response : PypeResponse}
    (h : ClientAccount s) (howner : s.ownerOf entry = some clientId)
    (hput : s.putResponse task clientId entry response = some s') :
    ClientAccount s' := by
  have hext := extends_putResponse hput
  rcases putResponse_eq_some hput with ⟨e, q', he, hq', rfl⟩
  refine ⟨?_, ?_, ?_⟩
  · intro other
    have hbalance := h.balance other
    rw [entryContent_set he]
    dsimp only [enqueuedResponses, dequeuedResponses] at hbalance ⊢
    rw [filterMap_snoc, filterMap_snoc, hbalance]
    by_cases heq : entry = other
    · subst heq
      rw [entryContent_of_getElem? he, if_pos rfl, BoundedQueue.items_putNowait hq']
      simp [Record.responseEnqueued?, Record.responseDequeued?]
    · simp [Record.responseEnqueued?, Record.responseDequeued?, heq]
  · intro task' c r response' hr
    rcases List.mem_append.mp hr with hr | hr
    · exact hext.owner _ _ (h.putOwner _ _ _ _ hr)
    · cases List.mem_singleton.mp hr
      exact hext.owner _ _ howner
  · intro task' c r posted hr
    rcases List.mem_append.mp hr with hr | hr
    · exact hext.owner _ _ (h.takeOwner _ _ _ _ hr)
    · cases List.mem_singleton.mp hr

theorem ClientAccount.takeResponse {task : TaskId} {s s' : Store}
    {clientId : String} {entry : Ref} {item : PypeResponse}
    (h : ClientAccount s) (howner : s.ownerOf entry = some clientId)
    (htake : s.takeResponse task clientId entry = some (item, s')) :
    ClientAccount s' := by
  have hext := extends_takeResponse htake
  rcases takeResponse_eq_some htake with ⟨e, posted, q', he, hq', _, rfl⟩
  refine ⟨?_, ?_, ?_⟩
  · intro other
    have hbalance := h.balance other
    rw [entryContent_set he]
    dsimp only [enqueuedResponses, dequeuedResponses] at hbalance ⊢
    rw [filterMap_snoc, filterMap_snoc, hbalance]
    by_cases heq : entry = other
    · subst heq
      rw [entryContent_of_getElem? he, if_pos rfl, BoundedQueue.items_getNowait hq']
      simp [Record.responseEnqueued?, Record.responseDequeued?]
    · simp [Record.responseEnqueued?, Record.responseDequeued?, heq]
  · intro task' c r response' hr
    rcases List.mem_append.mp hr with hr | hr
    · exact hext.owner _ _ (h.putOwner _ _ _ _ hr)
    · cases List.mem_singleton.mp hr
  · intro task' c r posted' hr
    rcases List.mem_append.mp hr with hr | hr
    · exact hext.owner _ _ (h.takeOwner _ _ _ _ hr)
    · cases List.mem_singleton.mp hr
      exact hext.owner _ _ howner

theorem clientAccount_storeInvariant (cfg : Settings) (jwt : Jwt) :
    App.StoreInvariant cfg jwt ClientAccount where
  effect := by
    intro task request s s' _ heffect h
    rcases heffect.onClient with
      hsame | ⟨clientId, createdAt, _, rfl⟩ | ⟨clientId, now, _, rfl⟩ |
      ⟨clientId, _, rfl⟩ | ⟨params, entry, _, howner, hput⟩ |
      ⟨clientId, entry, item, _, howner, htake⟩
    · exact h.of_same hsame
    · exact h.openClient cfg clientId createdAt
    · exact h.bump clientId now
    · exact h.remove _ clientId
    · exact h.putResponse howner hput
    · exact h.takeResponse howner htake
  evict := by
    intro now clientId s entry _ _ _ h
    exact h.remove _ clientId

theorem ClientAccount.put_of_take {s : Store} (h : ClientAccount s)
    {task : TaskId} {clientId : String} {entry : Ref}
    {posted : Posted PypeResponse}
    (hr : .responseDequeued task clientId entry posted ∈ s.history) :
    .responseEnqueued posted.poster clientId entry posted.message ∈ s.history := by
  have hdeq : (task, posted) ∈ s.dequeuedResponses entry :=
    List.mem_filterMap.mpr ⟨_, hr, by simp [Record.responseDequeued?]⟩
  have henq : posted ∈ s.enqueuedResponses entry := by
    rw [h.balance entry]
    exact List.mem_append_left _ (List.mem_map.mpr ⟨_, hdeq, rfl⟩)
  rcases List.mem_filterMap.mp henq with ⟨r, hmem, hsome⟩
  cases r <;> simp only [Record.responseEnqueued?, reduceCtorEq] at hsome
  split at hsome
  · rename_i heq
    subst heq
    cases hsome
    have hput := h.putOwner _ _ _ _ hmem
    rw [h.takeOwner _ _ _ _ hr] at hput
    cases hput
    exact hmem
  · cases hsome

namespace App

variable {cfg : Settings} {jwt : Jwt}

theorem clientAccount_reached (cfg : Settings) (jwt : Jwt) (es : List Event) :
    ClientAccount (reached cfg jwt es).store :=
  (clientAccount_storeInvariant cfg jwt).reached clientAccount_initial es

/-!
## Once, and only for the client
-/

theorem Invariant.nodup_responders {s : App} (h : Invariant cfg jwt s)
    (entry : Ref) :
    ((s.store.enqueuedResponses entry).map Posted.poster).Nodup :=
  Store.nodup_movers (fun _ _ hr => Record.task?_of_responseEnqueued? hr)
    (h.length_filterMap_le_one _ (fun _ _ => rfl)
      (fun _ _ _ _ _ _ _ => Or.inl rfl))

theorem Invariant.unique_put {s : App} (h : Invariant cfg jwt s) {task : TaskId}
    {clientId clientId' : String} {entry entry' : Ref}
    {response response' : PypeResponse}
    (hr : .responseEnqueued task clientId entry response ∈ s.store.history)
    (hr' : .responseEnqueued task clientId' entry' response' ∈ s.store.history) :
    entry = entry' ∧ clientId = clientId' ∧ response = response' := by
  rcases h.transcript hr rfl with ⟨u, hu, htranscript⟩
  have hrecord := Store.mem_recordsOf.mpr ⟨hr, rfl⟩
  have hrecord' := Store.mem_recordsOf.mpr ⟨hr', rfl⟩
  have hboth : forall moves, Underway cfg jwt task u.request moves ->
      Record.responseEnqueued task clientId entry response ∈ moves ->
      Record.responseEnqueued task clientId' entry' response' ∈ moves ->
      entry = entry' ∧ clientId = clientId' ∧ response = response' := by
    intro moves hmoves hin hin'
    cases hmoves <;>
      simp only [List.mem_cons, List.not_mem_nil, or_false, reduceCtorEq,
        Record.responseEnqueued.injEq, true_and] at hin hin'
    rcases hin with ⟨rfl, rfl, rfl⟩
    rcases hin' with ⟨rfl, rfl, rfl⟩
    exact ⟨rfl, rfl, rfl⟩
  rcases htranscript with ⟨moves, hmoves, heq | ⟨reply, heq⟩⟩
  · rw [heq] at hrecord hrecord'
    exact hboth moves hmoves hrecord hrecord'
  · rw [heq] at hrecord hrecord'
    refine hboth moves hmoves ?_ ?_
    · simpa using hrecord
    · simpa using hrecord'

/-- A response is taken at most once. -/
theorem Invariant.length_takersOf_le_one {s : App} (h : Invariant cfg jwt s)
    (haccount : ClientAccount s.store) (poster : TaskId) :
    (s.store.takersOf poster).length ≤ 1 := by
  by_cases hempty : s.store.takersOf poster = []
  · rw [hempty]
    exact Nat.zero_le 1
  · -- all takers take from the one entry on which the response was put
    rcases List.exists_mem_of_ne_nil _ hempty with ⟨taker, htaker⟩
    rcases List.mem_filterMap.mp htaker with ⟨r, hr, hsome⟩
    cases r <;> simp only [Record.responseTaker?, reduceCtorEq] at hsome
    rename_i task clientId entry posted
    split at hsome
    · rename_i hposter
      subst hposter
      have hput := haccount.put_of_take hr
      have hsame : s.store.takersOf posted.poster =
          ((s.store.dequeuedResponses entry).filter
            fun x => decide (x.2.poster = posted.poster)).map Prod.fst := by
        unfold takersOf dequeuedResponses
        rw [List.filter_filterMap, List.map_filterMap]
        apply List.filterMap_congr
        intro r' hr'
        cases r' <;> try rfl
        rename_i task' clientId' entry' posted'
        by_cases hposter' : posted'.poster = posted.poster
        · have hput' := haccount.put_of_take hr'
          rw [hposter'] at hput'
          rcases h.unique_put hput' hput with ⟨rfl, _, _⟩
          simp [Record.responseTaker?, Record.responseDequeued?, hposter']
        · by_cases hentry : entry' = entry <;>
            simp [Record.responseTaker?, Record.responseDequeued?, hposter', hentry]
      have hnodup := h.nodup_responders entry
      rw [haccount.balance entry, List.map_append] at hnodup
      have hcount := List.nodup_iff_count_le_one.mp hnodup.of_append_left
        posted.poster
      rw [hsame, List.length_map, ← List.countP_eq_length_filter]
      rw [List.count, List.map_map, List.countP_map] at hcount
      exact le_trans (le_of_eq (List.countP_congr (by simp))) hcount
    · cases hsome

theorem Invariant.of_mem_takersOf {s : App} (h : Invariant cfg jwt s)
    (haccount : ClientAccount s.store) {poster taker : TaskId}
    {clientId : String} {entry : Ref} {response : PypeResponse}
    (hput : .responseEnqueued poster clientId entry response ∈ s.store.history)
    (htaker : taker ∈ s.store.takersOf poster) :
    exists t, s.tasks.get? taker = some t ∧ Receives jwt t.request clientId := by
  rcases List.mem_filterMap.mp htaker with ⟨r, hr, hsome⟩
  cases r <;> simp only [Record.responseTaker?, reduceCtorEq] at hsome
  split at hsome
  · rename_i hposter
    subst hposter
    cases hsome
    rcases h.unique_put (haccount.put_of_take hr) hput with ⟨_, rfl, _⟩
    exact h.of_responseDequeued hr
  · cases hsome

end App

end Server
end Pype
