import Mathlib.Data.List.Infix
import Pype.Server.ResponseQueues
import Pype.Server.ServiceQueues

/-!
# Authority

Which tokens can change what.  A client's entry and queue answer to the client,
to services that post to it and to the reaper; a service's queue gives its
requests to that service only.
-/

namespace Pype
namespace Server

open Foundation Store

/-!
## Entries of other clients
-/

theorem Store.WellFormed.ownerOf_ne {cfg : Settings} {s : Store}
    (hwell : s.WellFormed cfg) {clientId other : String} {entry entry' : Ref}
    (hregistered : s.clientRegistry.get? clientId = some entry)
    (howner : s.ownerOf entry' = some other) (hne : other ≠ clientId) :
    entry' ≠ entry := by
  rintro rfl
  rw [hwell.client _ _ hregistered] at howner
  cases howner
  exact hne rfl

theorem ClientRegistry.get_set_entry_of_ne {cfg : Settings} {s : Store}
    (hwell : s.WellFormed cfg) {clientId other : String} {entry : Ref}
    (howner : s.ownerOf entry = some other) (hne : other ≠ clientId)
    (e : ClientEntry) (history : List Record) :
    get clientId
        { s with clientEntries := s.clientEntries.set entry e, history := history } =
      get clientId s := by
  unfold get
  dsimp only
  split
  · rename_i registered hregistered
    exact List.getElem?_set_ne (hwell.ownerOf_ne hregistered howner hne)
  · rfl

theorem ClientRegistry.get_getOrCreate_of_ne {cfg : Settings} {s : Store}
    (hwell : s.WellFormed cfg) {clientId other : String} (hne : other ≠ clientId)
    (createdAt : Time) :
    get clientId (getOrCreate cfg other createdAt s).2 = get clientId s := by
  rcases getOrCreate_cases cfg other createdAt s with ⟨entry, _, heq⟩ | ⟨_, heq⟩
  · rw [heq]
  · rw [heq]
    unfold get
    dsimp only [create]
    rw [Dict.get?_set_of_ne _ _ hne]
    split
    · rename_i registered hregistered
      rcases ownerOf_eq_some.mp (hwell.client _ _ hregistered) with ⟨x, hx, _⟩
      exact List.getElem?_append_left (List.getElem?_eq_some_iff.mp hx).choose
    · rfl

theorem ClientRegistry.get_bumpLastSeen_of_ne {cfg : Settings} {s : Store}
    (hwell : s.WellFormed cfg) {clientId other : String} (hne : other ≠ clientId)
    (now : Time) : get clientId (bumpLastSeen other now s) = get clientId s := by
  unfold bumpLastSeen
  split
  · rename_i entry hentry
    unfold get
    dsimp only
    split
    · rename_i registered hregistered
      have hdiff := hwell.ownerOf_ne hregistered (hwell.client _ _ hentry) hne
      simp [hdiff]
    · rfl
  · rfl

theorem ClientRegistry.get_remove_self (remover : Remover) (clientId : String) (s : Store) :
    get clientId (remove remover clientId s) = none := by
  cases hentry : s.clientRegistry.get? clientId with
  | none => simp [remove, get, hentry]
  | some entry => simp [remove, get, hentry]

theorem ClientRegistry.get_remove_of_ne {s : Store} {clientId other : String}
    (hne : other ≠ clientId) (remover : Remover) :
    get clientId (remove remover other s) = get clientId s := by
  unfold remove
  split
  · unfold get
    dsimp only
    rw [Dict.get?_erase_of_ne _ hne]
  · rfl

/-!
## What one effect may change
-/

section

variable {cfg : Settings} {jwt : Jwt} {task : TaskId} {request : HttpRequest}

/-- A request that may change a client's registered entry: one of the client, or
a response posted to it. -/
def MayChange (jwt : Jwt) (request : HttpRequest) (clientId : String) : Prop :=
  ActsFor jwt request.authorization clientId ∨
    exists params, Responds jwt request params ∧ params.clientId = clientId

theorem Effect.get_eq {s s' : Store} (hwell : s.WellFormed cfg)
    (h : Effect cfg jwt task request s s') {clientId : String}
    (hother : ¬ MayChange jwt request clientId) :
    ClientRegistry.get clientId s' = ClientRegistry.get clientId s := by
  have acts : forall {other}, ActsFor jwt request.authorization other ->
      other ≠ clientId := by
    rintro other hwho rfl
    exact hother (Or.inl hwho)
  have responds : forall {params}, Responds jwt request params ->
      params.clientId ≠ clientId := by
    intro params hwho heq
    exact hother (Or.inr ⟨params, hwho, heq⟩)
  rcases h.onClient with
    hsame | ⟨other, createdAt, hwho, rfl⟩ | ⟨other, now, hwho, rfl⟩ |
    ⟨other, hwho, rfl⟩ | ⟨params, entry, hwho, howner, hput⟩ |
    ⟨other, entry, item, hwho, howner, htake⟩
  · exact hsame.get clientId
  · have hne : other ≠ clientId := by
      rcases hwho with hwho | ⟨params, hwho, rfl⟩
      · exact acts hwho
      · exact responds hwho
    exact ClientRegistry.get_getOrCreate_of_ne hwell hne createdAt
  · exact ClientRegistry.get_bumpLastSeen_of_ne hwell (acts hwho) now
  · exact ClientRegistry.get_remove_of_ne (acts hwho) _
  · rcases putResponse_eq_some hput with ⟨e, q', _, _, rfl⟩
    exact ClientRegistry.get_set_entry_of_ne hwell howner (responds hwho) _ _
  · rcases takeResponse_eq_some htake with ⟨e, posted, q', _, _, _, rfl⟩
    exact ClientRegistry.get_set_entry_of_ne hwell howner (acts hwho.actsFor) _ _

/-- Responses leave a client's queue only for the client. -/
theorem Effect.entryContent_prefix {s s' : Store}
    (h : Effect cfg jwt task request s s') {clientId : String} {entry : Ref}
    (howner : s.ownerOf entry = some clientId)
    (hother : ¬ ActsFor jwt request.authorization clientId) :
    s.entryContent entry <+: s'.entryContent entry := by
  rcases h.onClient with
    hsame | ⟨other, createdAt, _, rfl⟩ | ⟨other, now, _, rfl⟩ |
    ⟨other, _, rfl⟩ | ⟨params, entry', _, _, hput⟩ |
    ⟨other, entry', item, hwho, howner', htake⟩
  · rw [hsame.content]
  · rw [ClientRegistry.entryContent_getOrCreate]
  · rw [ClientRegistry.entryContent_bumpLastSeen]
  · rw [ClientRegistry.entryContent_remove]
  · rcases putResponse_eq_some hput with ⟨e, q', he, hq', rfl⟩
    rw [entryContent_set he]
    split
    · rename_i heq
      subst heq
      rw [entryContent_of_getElem? he, BoundedQueue.items_putNowait hq']
      exact List.prefix_append _ _
    · exact List.prefix_refl _
  · rcases takeResponse_eq_some htake with ⟨e, posted, q', he, _, _, rfl⟩
    rw [entryContent_set he]
    split
    · rename_i heq
      subst heq
      rw [howner] at howner'
      cases howner'
      exact absurd hwho.actsFor hother
    · exact List.prefix_refl _

/-- Requests leave a service's queue only for the service. -/
theorem Effect.serviceContent_prefix {s s' : Store} (hwell : s.WellFormed cfg)
    (h : Effect cfg jwt task request s s') {serviceName : String}
    (hother : ¬ Serves jwt request.authorization serviceName) :
    s.serviceContent serviceName <+: s'.serviceContent serviceName := by
  have unchanged : forall {t : Store}, SameService s t ->
      s.serviceContent serviceName <+: t.serviceContent serviceName := by
    intro t hsame
    rw [hsame.content]
  cases h with
  | openService name =>
      rw [serviceContent_openService hwell]
  | openClient createdAt =>
      exact unchanged (ClientRegistry.sameService_getOrCreate cfg _ createdAt s)
  | bump now => exact unchanged (ClientRegistry.sameService_bumpLastSeen _ now s)
  | logoff => exact unchanged (ClientRegistry.sameService_remove _ _ s)
  | putRequest _ hqueue hput =>
      rcases putRequest_eq_some hput with ⟨q, q', hq, hq', rfl⟩
      rw [serviceContent_set hwell hqueue]
      split
      · rename_i heq
        subst heq
        rw [serviceContent_of_get? hqueue hq, BoundedQueue.items_putNowait hq']
        exact List.prefix_append _ _
      · exact List.prefix_refl _
  | takeRequest hwho hqueue htake =>
      rcases takeRequest_eq_some htake with ⟨q, posted, q', hq, _, _, rfl⟩
      rw [serviceContent_set hwell hqueue]
      split
      · rename_i heq
        subst heq
        exact absurd hwho.right hother
      · exact List.prefix_refl _
  | putResponse _ _ hput =>
      rcases putResponse_eq_some hput with ⟨e, q', _, _, rfl⟩
      exact List.prefix_refl _
  | takeResponse _ _ htake =>
      rcases takeResponse_eq_some htake with ⟨e, posted, q', _, _, _, rfl⟩
      exact List.prefix_refl _
  | answer reply => exact List.prefix_refl _

theorem Finished.taken_of_delivered {records : List Record} {reply : HttpReply}
    {serviceName : String} (h : Finished cfg jwt task request records reply)
    (hwho : Pulls jwt request serviceName) (hstatus : reply.status = 200) :
    exists serviceName' queue posted,
      .requestDequeued task serviceName' queue posted ∈ records ∧
        reply = requestReply posted.message := by
  cases h with
  | requestDelivered _ => exact ⟨_, _, _, List.mem_cons_self, rfl⟩
  | refused hrefused =>
      rcases hrefused with h | h | h | h <;> rw [hstatus] at h <;> cases h
  | noRequest _ => cases hstatus
  | requestNotTaken hwho' | requestAccepted hwho' | requestResponded hwho' _ =>
      exact absurd hwho hwho'.not_pulls
  | responseNotTaken hwho' | responseAccepted hwho' =>
      exact absurd hwho hwho'.not_pulls
  | noResponse hwho' | responseDelivered hwho' =>
      exact absurd hwho hwho'.not_pulls
  | administered hroute =>
      rcases hwho with ⟨⟨timeout, hget⟩, _⟩
      rw [hget] at hroute
      simp at hroute

def Endpoint.Moves : Endpoint -> Prop
  | .postRequest _ => True
  | .getRequest _ _ => True
  | .postResponse _ => True
  | .getResponse _ _ => True
  | _ => False

theorem not_moves_of_administered {request : HttpRequest}
    (hroute : request.endpoint = .clientLogoff ∨
      (exists name, request.endpoint = .serviceAuth name) ∨
      (exists name, request.endpoint = .clientAuth name) ∨
      request.endpoint = .servicesLoad) : ¬ request.endpoint.Moves := by
  intro hmoves
  rcases hroute with heq | ⟨name, heq⟩ | ⟨name, heq⟩ | heq
  all_goals
    rw [heq] at hmoves
    exact hmoves

theorem Finished.taken_of_service {records : List Record} {reply : HttpReply}
    (h : Finished cfg jwt task request records reply)
    (hmoves : request.endpoint.Moves) (hwho : IsService jwt request.authorization)
    (hstatus : reply.status = 200) :
    exists serviceName queue posted,
      .requestDequeued task serviceName queue posted ∈ records ∧
        reply = requestReply posted.message := by
  cases h with
  | requestDelivered _ => exact ⟨_, _, _, List.mem_cons_self, rfl⟩
  | refused hrefused =>
      rcases hrefused with h | h | h | h <;> rw [hstatus] at h <;> cases h
  | noRequest _ | requestNotTaken _ | requestAccepted _ | responseNotTaken _
  | responseAccepted _ | noResponse _ => cases hstatus
  | requestResponded hposts _ => exact absurd hwho hposts.actsFor.not_isService
  | responseDelivered hpolls => exact absurd hwho hpolls.right.not_isService
  | administered hroute => exact absurd hmoves (not_moves_of_administered hroute)

theorem Finished.taken_of_client {records : List Record} {reply : HttpReply}
    {clientId : String} (h : Finished cfg jwt task request records reply)
    (hmoves : request.endpoint.Moves)
    (hwho : ActsFor jwt request.authorization clientId)
    (hstatus : reply.status = 200) :
    exists entry posted,
      .responseDequeued task clientId entry posted ∈ records ∧
        reply = responseReply posted.message := by
  cases h with
  | requestResponded hposts _ =>
      cases hposts.actsFor.unique hwho
      exact ⟨_, _, List.mem_cons_of_mem _ List.mem_cons_self, rfl⟩
  | responseDelivered hpolls =>
      cases hpolls.right.unique hwho
      exact ⟨_, _, List.mem_cons_self, rfl⟩
  | refused hrefused =>
      rcases hrefused with h | h | h | h <;> rw [hstatus] at h <;> cases h
  | noRequest _ | requestNotTaken _ | requestAccepted _ | responseNotTaken _
  | responseAccepted _ | noResponse _ => cases hstatus
  | requestDelivered hpulls => exact absurd hpulls.right.isService hwho.not_isService
  | administered hroute => exact absurd hmoves (not_moves_of_administered hroute)

/-!
## What one request may change
-/

theorem effects_get_eq {s s' : Store} (hwell : s.WellFormed cfg)
    (h : Effects cfg jwt task request s s') {clientId : String}
    (hother : ¬ MayChange jwt request clientId) :
    ClientRegistry.get clientId s' = ClientRegistry.get clientId s := by
  induction h with
  | refl => rfl
  | tail hbefore heffect ih =>
      have hwell' := (App.effects_frame hwell hbefore).left
      rw [heffect.get_eq hwell' hother, ih]

theorem effects_entryContent_prefix {s s' : Store} (hwell : s.WellFormed cfg)
    (h : Effects cfg jwt task request s s') {clientId : String} {entry : Ref}
    (howner : s.ownerOf entry = some clientId)
    (hother : ¬ ActsFor jwt request.authorization clientId) :
    s.entryContent entry <+: s'.entryContent entry := by
  induction h with
  | refl => exact List.prefix_refl _
  | tail hbefore heffect ih =>
      have hext := (App.effects_frame hwell hbefore).right.left
      exact ih.trans (heffect.entryContent_prefix (hext.owner _ _ howner) hother)

theorem effects_serviceContent_prefix {s s' : Store} (hwell : s.WellFormed cfg)
    (h : Effects cfg jwt task request s s') {serviceName : String}
    (hother : ¬ Serves jwt request.authorization serviceName) :
    s.serviceContent serviceName <+: s'.serviceContent serviceName := by
  induction h with
  | refl => exact List.prefix_refl _
  | tail hbefore heffect ih =>
      have hwell' := (App.effects_frame hwell hbefore).left
      exact ih.trans (heffect.serviceContent_prefix hwell' hother)

end

/-!
## What a tick may change
-/

theorem ClientQueueReaper.get_tick (cfg : Settings) (now : Time)
    (reaper : ClientQueueReaper) (s : Store) (clientId : String) :
    ClientRegistry.get clientId (reaper.tick cfg now s).2.1 =
        ClientRegistry.get clientId s ∨
      exists entry, ClientRegistry.get clientId s = some entry ∧
        cfg.clientInactivityThresholdSeconds < now - entry.lastSeen := by
  refine tick_invariant
    (fun t => ClientRegistry.get clientId t = ClientRegistry.get clientId s ∨
      exists entry, ClientRegistry.get clientId s = some entry ∧
        cfg.clientInactivityThresholdSeconds < now - entry.lastSeen)
    ?_ reaper (Or.inl rfl)
  intro other t entry hget hstale ih
  rcases ih with hsame | hbefore
  · by_cases heq : other = clientId
    · subst heq
      rw [hsame] at hget
      exact Or.inr ⟨entry, hget, hstale⟩
    · rw [ClientRegistry.get_remove_of_ne heq]
      exact Or.inl hsame
  · exact Or.inr hbefore

theorem ClientQueueReaper.entryContent_tick (cfg : Settings) (now : Time)
    (reaper : ClientQueueReaper) (s : Store) (entry : Ref) :
    (reaper.tick cfg now s).2.1.entryContent entry = s.entryContent entry := by
  refine tick_invariant (fun t => t.entryContent entry = s.entryContent entry)
    ?_ reaper rfl
  intro other t _ _ _ ih
  rw [ClientRegistry.entryContent_remove]
  exact ih

theorem ClientQueueReaper.serviceContent_tick (cfg : Settings) (now : Time)
    (reaper : ClientQueueReaper) (s : Store) (serviceName : String) :
    (reaper.tick cfg now s).2.1.serviceContent serviceName =
      s.serviceContent serviceName := by
  refine tick_invariant
    (fun t => t.serviceContent serviceName = s.serviceContent serviceName)
    ?_ reaper rfl
  intro other t _ _ _ ih
  rw [(ClientRegistry.sameService_remove _ other t).content]
  exact ih

namespace App

variable {cfg : Settings} {jwt : Jwt}

def RunsFor (s : App) (e : Event) (who : HttpRequest -> Prop) : Prop :=
  exists task t action clock, e = .run task action clock ∧
    s.tasks.get? task = some t ∧ who t.request

/-- What one event can take from queues and change in the client registry. -/
structure Confined (cfg : Settings) (jwt : Jwt) (s : App) (e : Event) : Prop where
  /-- A response leaves the queue of a client only through the client's token. -/
  response : forall clientId entry posted,
    s.store.ownerOf entry = some clientId ->
      posted ∈ s.store.entryContent entry ->
      posted ∉ (step cfg jwt s e).store.entryContent entry ->
      s.RunsFor e fun request => ActsFor jwt request.authorization clientId
  /-- The entry of a client changes only through the client's token, a response
  posted to the client, or a tick that finds it stale. -/
  entry : forall clientId,
    ClientRegistry.get clientId (step cfg jwt s e).store ≠
        ClientRegistry.get clientId s.store ->
      s.RunsFor e (MayChange jwt · clientId) ∨
        exists now entry, e = .tick now ∧
          ClientRegistry.get clientId s.store = some entry ∧
          cfg.clientInactivityThresholdSeconds < now - entry.lastSeen
  /-- A request leaves the queue of a service only through the service's token. -/
  request : forall serviceName posted,
    posted ∈ s.store.serviceContent serviceName ->
      posted ∉ (step cfg jwt s e).store.serviceContent serviceName ->
      s.RunsFor e fun request => Serves jwt request.authorization serviceName

theorem Invariant.confined {s : App} (h : Invariant cfg jwt s) (e : Event) :
    Confined cfg jwt s e := by
  rcases step_cases cfg jwt s e with
    hsame | ⟨task, request, _, _, hstep⟩ |
    ⟨task, t, action, clock, store, phase, he, ht, _, hadvance, hstep⟩ |
    ⟨now, he, _, hstep⟩
  · constructor
    · intro c r posted _ hin hout
      rw [hsame] at hout
      exact absurd hin hout
    · intro c hne
      rw [hsame] at hne
      exact absurd rfl hne
    · intro n posted hin hout
      rw [hsame] at hout
      exact absurd hin hout
  · constructor
    · intro c r posted _ hin hout
      rw [hstep] at hout
      exact absurd hin hout
    · intro c hne
      rw [hstep] at hne
      exact absurd rfl hne
    · intro n posted hin hout
      rw [hstep] at hout
      exact absurd hin hout
  · have heffects := (h.good ht hadvance).left
    constructor
    · intro c r posted howner hin hout
      refine ⟨task, t, action, clock, he, ht, ?_⟩
      by_contra hother
      have hinitial := effects_entryContent_prefix h.wellFormed heffects howner hother
      rw [hstep] at hout
      exact hout (hinitial.subset hin)
    · intro c hne
      refine Or.inl ⟨task, t, action, clock, he, ht, ?_⟩
      by_contra hother
      rw [hstep] at hne
      exact hne (effects_get_eq h.wellFormed heffects hother)
    · intro n posted hin hout
      refine ⟨task, t, action, clock, he, ht, ?_⟩
      by_contra hother
      have hinitial := effects_serviceContent_prefix h.wellFormed heffects hother
      rw [hstep] at hout
      exact hout (hinitial.subset hin)
  · constructor
    · intro c r posted _ hin hout
      rw [hstep] at hout
      dsimp only at hout
      rw [ClientQueueReaper.entryContent_tick] at hout
      exact absurd hin hout
    · intro c hne
      rw [hstep] at hne
      rcases s.reaper.get_tick cfg now s.store c with
        hsame | ⟨entry, hget, hstale⟩
      · exact absurd hsame hne
      · exact Or.inr ⟨now, entry, he, hget, hstale⟩
    · intro n posted hin hout
      rw [hstep] at hout
      dsimp only at hout
      rw [ClientQueueReaper.serviceContent_tick] at hout
      exact absurd hin hout

theorem Invariant.delivered_clientId {s : App} (h : Invariant cfg jwt s)
    (haccount : ServiceAccount s.store) {task : TaskId} {serviceName : String}
    {queue : Ref} {posted : Posted PypeRequest}
    (hr : .requestDequeued task serviceName queue posted ∈ s.store.history) :
    exists t, s.tasks.get? posted.poster = some t ∧
      ActsFor jwt t.request.authorization posted.message.clientId := by
  rcases h.posted_of_taken haccount hr with ⟨t, params, claims, ht, hwho, _, hmessage⟩
  refine ⟨t, ht, ?_⟩
  rw [hmessage]
  exact hwho.actsFor

theorem Invariant.taken_of_delivered {s : App} (h : Invariant cfg jwt s)
    {task : TaskId} {t : Task} {serviceName : String} {reply : HttpReply}
    (ht : s.tasks.get? task = some t) (hwho : Pulls jwt t.request serviceName)
    (hr : .answered task reply ∈ s.store.history) (hstatus : reply.status = 200) :
    exists serviceName' queue posted,
      .requestDequeued task serviceName' queue posted ∈ s.store.history ∧
        reply = requestReply posted.message := by
  rcases h.of_answered hr with ⟨u, hu, hfinished, _⟩
  rw [ht] at hu
  cases hu
  have htaken := hfinished.taken_of_delivered hwho hstatus
  rcases htaken with ⟨serviceName', queue, posted, hmem, hreply⟩
  exact ⟨serviceName', queue, posted, (Store.mem_recordsOf.mp hmem).left, hreply⟩

theorem pulls_unique {request : HttpRequest} {serviceName serviceName' : String}
    (h : Pulls jwt request serviceName) (h' : Pulls jwt request serviceName') :
    serviceName' = serviceName := by
  rcases h.left with ⟨timeout, hroute⟩
  rcases h'.left with ⟨timeout', hroute'⟩
  rw [hroute] at hroute'
  cases hroute'
  rfl

theorem Invariant.delivered {s : App} (h : Invariant cfg jwt s)
    (haccount : ServiceAccount s.store) {task : TaskId} {t : Task} {serviceName : String}
    {reply : HttpReply} (ht : s.tasks.get? task = some t)
    (hwho : Pulls jwt t.request serviceName)
    (hr : .answered task reply ∈ s.store.history) (hstatus : reply.status = 200) :
    exists queue posted u params claims,
      .requestDequeued task serviceName queue posted ∈ s.store.history ∧
      reply = requestReply posted.message ∧
      s.tasks.get? posted.poster = some u ∧ Posts jwt u.request params claims ∧
      posted.message = params.pypeReq cfg claims := by
  rcases h.taken_of_delivered ht hwho hr hstatus with
    ⟨serviceName', queue, posted, htaken, hreply⟩
  rcases h.of_requestDequeued htaken with ⟨t', ht', hwho'⟩
  rw [ht] at ht'
  cases ht'
  rw [pulls_unique hwho hwho'] at htaken
  rcases h.posted_of_taken haccount htaken with
    ⟨u, params, claims, hu, hposts, _, hmessage⟩
  exact ⟨queue, posted, u, params, claims, htaken, hreply, hu, hposts, hmessage⟩

/-- Authority is confined in every run: what an event may take and change, whose client
id a delivered request carries, and that no token has both roles. -/
theorem authority_confined (cfg : Settings) (jwt : Jwt) (es : List Event) :
    (forall e, Confined cfg jwt (reached cfg jwt es) e) ∧
    (forall task t serviceName reply,
      (reached cfg jwt es).tasks.get? task = some t ->
      Pulls jwt t.request serviceName ->
      .answered task reply ∈ (reached cfg jwt es).store.history ->
      reply.status = 200 ->
        exists queue posted u params claims,
          .requestDequeued task serviceName queue posted ∈
            (reached cfg jwt es).store.history ∧
          reply = requestReply posted.message ∧
          reply.xPypeClientId = HeaderText.encode posted.message.clientId ∧
          (HeaderText.encode posted.message.clientId).isSome = true ∧
          (reached cfg jwt es).tasks.get? posted.poster = some u ∧
          Posts jwt u.request params claims ∧
          posted.message = params.pypeReq cfg claims ∧
          ActsFor jwt u.request.authorization posted.message.clientId) ∧
    (forall task serviceName queue posted,
      .requestDequeued task serviceName queue posted ∈
        (reached cfg jwt es).store.history ->
        exists u, (reached cfg jwt es).tasks.get? posted.poster = some u ∧
          ActsFor jwt u.request.authorization posted.message.clientId) ∧
    forall authorization claims claims',
      clientClaims jwt authorization = .ok claims ->
        serviceClaims jwt authorization ≠ .ok claims' := by
  have hinv := invariant_reached cfg jwt es
  have haccount := (serviceAccount_storeInvariant cfg jwt).reached
    serviceAccount_initial es
  refine ⟨fun e => hinv.confined e, ?_, ?_, ?_⟩
  · intro task t serviceName reply ht hwho hr hstatus
    rcases hinv.delivered haccount ht hwho hr hstatus with
      ⟨queue, posted, u, params, claims, htaken, rfl, hu, hposts, hmessage⟩
    have hheader := (messageReply_of_ok hstatus).right.left
    have hacts : ActsFor jwt u.request.authorization posted.message.clientId := by
      rw [hmessage]
      exact hposts.actsFor
    refine ⟨queue, posted, u, params, claims, htaken, rfl, hheader, ?_, hu, hposts,
      hmessage, hacts⟩
    exact HeaderText.encode_isSome_iff.mpr
      ((messageReply_ok_iff.mp hstatus).right.left _ rfl)
  · intro task serviceName queue posted hr
    exact hinv.delivered_clientId haccount hr
  · intro authorization claims claims' hclient hservice
    exact (actsFor_of_clientClaims hclient).not_isService
      (serves_of_serviceClaims hservice).isService

end App

end Server
end Pype
