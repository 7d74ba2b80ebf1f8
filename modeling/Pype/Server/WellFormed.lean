import Pype.Server.Effects

/-!
# Well-formed stores

Registered names refer to live objects of the right capacity, different service
names to different queues, and the entry registered for a client id is an entry
of that id.
-/

namespace Pype
namespace Server

open Foundation Store

namespace Store

structure WellFormed (cfg : Settings) (s : Store) : Prop where
  service : forall serviceName queue,
    s.serviceRegistry.get? serviceName = some queue ->
      exists q, s.serviceQueues[queue]? = some q ∧
        q.maxsize = cfg.serviceQueueMaxSize
  distinct : forall serviceName serviceName' queue,
    s.serviceRegistry.get? serviceName = some queue ->
      s.serviceRegistry.get? serviceName' = some queue ->
        serviceName = serviceName'
  client : forall clientId entry,
    s.clientRegistry.get? clientId = some entry ->
      s.ownerOf entry = some clientId

theorem wellFormed_initial (cfg : Settings) : WellFormed cfg initial where
  service := by
    intro n q h
    cases h
  distinct := by
    intro n n' q h
    cases h
  client := by
    intro c e h
    cases h

variable {cfg : Settings}

theorem WellFormed.service_lt {s : Store} (h : WellFormed cfg s)
    {serviceName : String} {queue : Ref}
    (hqueue : s.serviceRegistry.get? serviceName = some queue) :
    queue < s.serviceQueues.length := by
  rcases h.service serviceName queue hqueue with ⟨q, hq, _⟩
  exact (List.getElem?_eq_some_iff.mp hq).choose

theorem WellFormed.openService {s : Store} (h : WellFormed cfg s)
    (serviceName : String) :
    WellFormed cfg (ServiceRegistry.getOrCreate cfg serviceName s).2 := by
  rcases ServiceRegistry.getOrCreate_cases cfg serviceName s with
    ⟨queue, _, heq⟩ | ⟨hnone, heq⟩
  · rw [heq]
    exact h
  · rw [heq]
    -- the new queue is the last object of the heap, so no older name refers to it
    have hold : forall n q,
        (s.serviceRegistry.set serviceName s.serviceQueues.length).get? n = some q ->
          (n = serviceName ∧ q = s.serviceQueues.length) ∨
            (n ≠ serviceName ∧ s.serviceRegistry.get? n = some q ∧
              q < s.serviceQueues.length) := by
      intro n q hq
      rw [Dict.get?_set] at hq
      split at hq
      · rename_i hn
        cases hq
        exact Or.inl ⟨hn.symm, rfl⟩
      · rename_i hn
        exact Or.inr ⟨Ne.symm hn, hq, h.service_lt hq⟩
    constructor
    · intro n q hq
      rcases hold n q hq with ⟨_, rfl⟩ | ⟨_, hget, hlt⟩
      · exact ⟨BoundedQueue.empty cfg.serviceQueueMaxSize,
          by simp [ServiceRegistry.create], rfl⟩
      · rcases h.service n q hget with ⟨x, hx, hmax⟩
        exact ⟨x, by rw [ServiceRegistry.create, List.getElem?_append_left hlt, hx],
          hmax⟩
    · intro n n' q hq hq'
      rcases hold n q hq with ⟨hn, hlen⟩ | ⟨hn, hget, hlt⟩
      · rcases hold n' q hq' with ⟨hn', _⟩ | ⟨_, _, hlt'⟩
        · rw [hn, hn']
        · exact absurd hlt' (by rw [hlen]; exact lt_irrefl _)
      · rcases hold n' q hq' with ⟨_, hlen'⟩ | ⟨_, hget', _⟩
        · exact absurd hlt (by rw [hlen']; exact lt_irrefl _)
        · exact h.distinct n n' q hget hget'
    · exact h.client

theorem WellFormed.openClient {s : Store} (h : WellFormed cfg s)
    (clientId : String) (createdAt : Time) :
    WellFormed cfg (ClientRegistry.getOrCreate cfg clientId createdAt s).2 := by
  have hext := ClientRegistry.extends_getOrCreate cfg clientId createdAt s
  rcases ClientRegistry.getOrCreate_cases cfg clientId createdAt s with
    ⟨entry, _, heq⟩ | ⟨_, heq⟩
  · rw [heq]
    exact h
  · rw [heq] at hext ⊢
    refine ⟨h.service, h.distinct, ?_⟩
    intro c e he
    rw [ClientRegistry.create, Dict.get?_set] at he
    split at he
    · rename_i hc
      cases he
      simp [ownerOf, ClientRegistry.create, hc]
    · exact hext.owner e c (h.client c e he)

theorem WellFormed.bump {s : Store} (h : WellFormed cfg s) (clientId : String)
    (now : Time) : WellFormed cfg (ClientRegistry.bumpLastSeen clientId now s) := by
  have howner := ClientRegistry.ownerOf_bumpLastSeen clientId now s
  unfold ClientRegistry.bumpLastSeen at howner ⊢
  split at howner
  · refine ⟨h.service, h.distinct, ?_⟩
    intro c e he
    rw [howner]
    exact h.client c e he
  · exact h

theorem WellFormed.remove {s : Store} (h : WellFormed cfg s) (remover : Remover)
    (clientId : String) : WellFormed cfg (ClientRegistry.remove remover clientId s) := by
  unfold ClientRegistry.remove
  split
  · refine ⟨h.service, h.distinct, ?_⟩
    intro c e he
    change (s.clientRegistry.erase clientId).get? c = some e at he
    rw [Dict.get?_erase] at he
    split at he
    · cases he
    · exact h.client c e he
  · exact h

theorem WellFormed.set_queue {s : Store} (h : WellFormed cfg s) {queue : Ref}
    {q q' : BoundedQueue (Posted PypeRequest)}
    (hq : s.serviceQueues[queue]? = some q) (hmax : q'.maxsize = q.maxsize)
    (history : List Record) :
    WellFormed cfg
      { s with serviceQueues := s.serviceQueues.set queue q', history := history } where
  service := by
    intro n r hr
    rcases h.service n r hr with ⟨x, hx, hxmax⟩
    by_cases heq : queue = r
    · subst heq
      rw [hq] at hx
      cases hx
      exact ⟨q', by
        rw [List.getElem?_set_self (List.getElem?_eq_some_iff.mp hq).choose],
        hmax.trans hxmax⟩
    · exact ⟨x, by rw [List.getElem?_set_ne heq, hx], hxmax⟩
  distinct := h.distinct
  client := h.client

theorem WellFormed.set_entry {s : Store} (h : WellFormed cfg s) {entry : Ref}
    {e e' : ClientEntry} (he : s.clientEntries[entry]? = some e)
    (hid : e'.clientId = e.clientId) (history : List Record) :
    WellFormed cfg
      { s with clientEntries := s.clientEntries.set entry e', history := history } where
  service := h.service
  distinct := h.distinct
  client := by
    intro c r hr
    rw [ownerOf_set_entry he hid]
    exact h.client c r hr

theorem WellFormed.effect {jwt : Jwt} {task : TaskId} {request : HttpRequest}
    {s s' : Store} (h : WellFormed cfg s)
    (heffect : Effect cfg jwt task request s s') : WellFormed cfg s' := by
  cases heffect with
  | openService serviceName => exact h.openService serviceName
  | openClient createdAt => exact h.openClient _ createdAt
  | bump now => exact h.bump _ now
  | logoff => exact h.remove _ _
  | putRequest _ _ hput =>
      rcases putRequest_eq_some hput with ⟨q, q', hq, hq', rfl⟩
      exact h.set_queue hq (BoundedQueue.maxsize_putNowait hq') _
  | takeRequest _ _ htake =>
      rcases takeRequest_eq_some htake with ⟨q, posted, q', hq, hq', _, rfl⟩
      exact h.set_queue hq (BoundedQueue.maxsize_getNowait hq') _
  | putResponse _ _ hput =>
      rcases putResponse_eq_some hput with ⟨e, q', he, _, rfl⟩
      exact h.set_entry he (by rfl) _
  | takeResponse _ _ htake =>
      rcases takeResponse_eq_some htake with ⟨e, posted, q', he, _, _, rfl⟩
      exact h.set_entry he (by rfl) _
  | answer reply => exact ⟨h.service, h.distinct, h.client⟩

end Store

end Server
end Pype
