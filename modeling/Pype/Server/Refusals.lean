import Pype.Server.Authority

/-!
# Refused requests

A request is refused for its token, for its path or for its timeout.  The token
and the path are checked before the registries are touched.  The timeout is
checked first thing only by the GET on a service; the other handlers look up or
bump a client's entry before they check it.
-/

namespace Pype
namespace Server

open Foundation Store

/-- A reply that refuses the request. -/
def Refusal (reply : HttpReply) : Prop :=
  reply.status = 400 ∨ reply.status = 401 ∨ reply.status = 403

instance (reply : HttpReply) : Decidable (Refusal reply) := instDecidableOr

/-- Both registries have the same entries with the same queues, and every client
was last seen at the same time. -/
structure RegistriesKept (s s' : Store) : Prop where
  serviceRegistry : s'.serviceRegistry = s.serviceRegistry
  serviceQueues : s'.serviceQueues = s.serviceQueues
  client : forall clientId,
    ClientRegistry.get clientId s' = ClientRegistry.get clientId s

theorem RegistriesKept.refl (s : Store) : RegistriesKept s s where
  serviceRegistry := rfl
  serviceQueues := rfl
  client := fun _ => rfl

theorem registriesKept_record (r : Record) (s s' : Store) :
    RegistriesKept s (s'.record r) <-> RegistriesKept s s' := by
  constructor
  · intro h
    exact ⟨h.serviceRegistry, h.serviceQueues, h.client⟩
  · intro h
    exact ⟨h.serviceRegistry, h.serviceQueues, h.client⟩

/-!
## Looking up and bumping an entry
-/

def SeenAt (clientId : String) (time : Time) (s : Store) : Prop :=
  exists entry, ClientRegistry.get clientId s = some entry ∧ entry.lastSeen = time

def HasEntry (clientId : String) (s : Store) : Prop :=
  exists entry, ClientRegistry.get clientId s = some entry

section

variable {cfg : Settings} {s : Store} {clientId : String}

theorem Store.WellFormed.exists_get (hwell : s.WellFormed cfg) {entry : Ref}
    (hregistered : s.clientRegistry.get? clientId = some entry) :
    exists e, s.clientEntries[entry]? = some e ∧
      ClientRegistry.get clientId s = some e := by
  rcases ownerOf_eq_some.mp (hwell.client _ _ hregistered) with ⟨e, he, _⟩
  refine ⟨e, he, ?_⟩
  rw [ClientRegistry.get, hregistered]
  exact he

theorem ClientRegistry.get_of_unregistered
    (hnone : s.clientRegistry.get? clientId = none) : get clientId s = none := by
  rw [get, hnone]

theorem ClientRegistry.get_create (createdAt : Time) :
    get clientId (create cfg clientId createdAt s) =
      some ⟨clientId, BoundedQueue.empty cfg.clientQueueMaxSize, createdAt⟩ := by
  unfold get create
  dsimp only
  rw [Dict.get?_set_self]
  simp

theorem ClientRegistry.get_bumpLastSeen_self (now : Time) :
    get clientId (bumpLastSeen clientId now s) =
      (get clientId s).map fun e => { e with lastSeen := now } := by
  cases hregistered : s.clientRegistry.get? clientId with
  | none => simp [get, bumpLastSeen, hregistered]
  | some entry => simp [get, bumpLastSeen, hregistered]

theorem kept_getOrCreate_iff (hwell : s.WellFormed cfg) (createdAt : Time) :
    RegistriesKept s (ClientRegistry.getOrCreate cfg clientId createdAt s).2 <->
      HasEntry clientId s := by
  rcases ClientRegistry.getOrCreate_cases cfg clientId createdAt s with
    ⟨entry, hregistered, heq⟩ | ⟨hnone, heq⟩
  · rcases hwell.exists_get hregistered with ⟨e, _, hget⟩
    rw [heq]
    constructor
    · intro _
      exact ⟨e, hget⟩
    · intro _
      exact RegistriesKept.refl s
  · have habsent := ClientRegistry.get_of_unregistered hnone
    rw [heq]
    constructor
    · intro hkept
      have hcreated := hkept.client clientId
      rw [ClientRegistry.get_create, habsent] at hcreated
      cases hcreated
    · rintro ⟨e, hget⟩
      rw [habsent] at hget
      cases hget

theorem kept_bump_iff (hwell : s.WellFormed cfg) (now : Time) :
    RegistriesKept s (ClientRegistry.bumpLastSeen clientId now s) <->
      forall e, ClientRegistry.get clientId s = some e -> e.lastSeen = now := by
  have hself : ClientRegistry.get clientId
      (ClientRegistry.bumpLastSeen clientId now s) = _ :=
    ClientRegistry.get_bumpLastSeen_self now
  constructor
  · intro hkept e hget
    have hsame := hkept.client clientId
    rw [hself, hget] at hsame
    exact (congrArg ClientEntry.lastSeen (Option.some.inj hsame)).symm
  · intro hseen
    have hsame := ClientRegistry.sameService_bumpLastSeen clientId now s
    refine ⟨hsame.registry, hsame.queues, ?_⟩
    intro other
    by_cases heq : clientId = other
    · subst heq
      rw [hself]
      cases hget : ClientRegistry.get clientId s with
      | none => rfl
      | some e =>
          rw [Option.map_some, ← hseen e hget]
    · exact ClientRegistry.get_bumpLastSeen_of_ne hwell heq now

theorem kept_open_bump_iff (hwell : s.WellFormed cfg) (createdAt now : Time) :
    RegistriesKept s (ClientRegistry.bumpLastSeen clientId now
        (ClientRegistry.getOrCreate cfg clientId createdAt s).2) <->
      SeenAt clientId now s := by
  rcases ClientRegistry.getOrCreate_cases cfg clientId createdAt s with
    ⟨entry, hregistered, heq⟩ | ⟨hnone, heq⟩
  · rcases hwell.exists_get hregistered with ⟨e, _, hget⟩
    rw [heq, kept_bump_iff hwell]
    constructor
    · intro hseen
      exact ⟨e, hget, hseen e hget⟩
    · rintro ⟨e', hget', hseen⟩ e'' hget''
      rw [hget'] at hget''
      cases hget''
      exact hseen
  · have habsent := ClientRegistry.get_of_unregistered hnone
    rw [heq]
    constructor
    · intro hkept
      have hcreated := hkept.client clientId
      rw [ClientRegistry.get_bumpLastSeen_self, ClientRegistry.get_create,
        habsent] at hcreated
      cases hcreated
    · rintro ⟨e, hget, _⟩
      rw [habsent] at hget
      cases hget

end

/-!
## Only the first stretch refuses
-/

/-- A stretch that does not end in a refusal. -/
def Courteous (r : Store × Phase) : Prop :=
  forall reply, r.2 = .done reply -> ¬ Refusal reply

theorem courteous_answer {reply : HttpReply} (h : ¬ Refusal reply) (task : TaskId)
    (s : Store) : Courteous (answer task reply s) := by
  intro reply' hdone
  cases hdone
  exact h

theorem courteous_wait {phase : Phase} (h : forall reply, phase ≠ .done reply)
    (s : Store) : Courteous (s, phase) := by
  intro reply hdone
  exact absurd hdone (h reply)

theorem courteous_queuePut {timeoutMs : Int} {put : Store -> Option Store}
    {resume : Bool -> Store -> Store × Phase} {wait : Phase} (s : Store)
    (hresume : forall enqueued s', Courteous (resume enqueued s'))
    (hwait : forall reply, wait ≠ .done reply) :
    Courteous (queuePut timeoutMs put resume wait s) := by
  unfold queuePut
  split
  · split
    · exact hresume true _
    · exact hresume false s
  · exact courteous_wait hwait s

theorem courteous_queueGet {item : Type} {timeoutMs : Int}
    {get : Store -> Option (item × Store)}
    {resume : Option item -> Store -> Store × Phase} {wait : Phase} (s : Store)
    (hresume : forall taken s', Courteous (resume taken s'))
    (hwait : forall reply, wait ≠ .done reply) :
    Courteous (queueGet timeoutMs get resume wait s) := by
  unfold queueGet
  split
  · split
    · exact hresume _ _
    · exact hresume none s
  · exact courteous_wait hwait s

theorem emptyReply_not_refusal {status : Nat}
    (h : status ≠ 400 ∧ status ≠ 401 ∧ status ≠ 403) :
    ¬ Refusal (emptyReply status) := by
  rintro (h400 | h401 | h403)
  · exact h.left h400
  · exact h.right.left h401
  · exact h.right.right h403

theorem frameworkReply_not_refusal {status : Nat} (h : status = 422 ∨ status = 500) :
    ¬ Refusal (frameworkReply status) := by
  rcases h with rfl | rfl <;> simp [Refusal, frameworkReply]

theorem messageReply_not_refusal (payload : Bytes) (mediaType : String)
    (clientId : Option String) (requestId : String) :
    ¬ Refusal (messageReply payload mediaType clientId requestId) := by
  unfold messageReply
  split
  · simp [Refusal]
  · simp [Refusal]
  · exact frameworkReply_not_refusal (Or.inr rfl)

theorem authReply_not_refusal (cfg : Settings) (value : JsonValue) :
    ¬ Refusal (authReply cfg value) := by
  unfold authReply
  split
  · simp [Refusal, jsonReply]
  · exact frameworkReply_not_refusal (Or.inr rfl)

section

variable {cfg : Settings} {jwt : Jwt} {task : TaskId}

theorem courteous_postRequestResponded (response : Option PypeResponse)
    (s : Store) : Courteous (postRequestResponded task response s) := by
  cases response with
  | none => exact courteous_answer (emptyReply_not_refusal (by decide)) task s
  | some response => exact courteous_answer (messageReply_not_refusal _ _ _ _) task s

theorem courteous_postRequestEnqueued (params : PostRequest)
    (claims : ClientClaims) (entry : Ref) (deadline bumpedAt remainingAt : Time)
    (enqueued : Bool) (s : Store) :
    Courteous (postRequestEnqueued task params claims entry deadline bumpedAt
      remainingAt enqueued s) := by
  unfold postRequestEnqueued
  dsimp only
  split
  · exact courteous_answer (emptyReply_not_refusal (by decide)) task _
  · split
    · exact courteous_answer (emptyReply_not_refusal (by decide)) task _
    · exact courteous_queueGet _ courteous_postRequestResponded (by simp)

theorem courteous_getRequestDequeued (item : Option PypeRequest) (s : Store) :
    Courteous (getRequestDequeued task item s) := by
  cases item with
  | none => exact courteous_answer (emptyReply_not_refusal (by decide)) task s
  | some item => exact courteous_answer (messageReply_not_refusal _ _ _ _) task s

theorem courteous_postResponseEnqueued (enqueued : Bool) (s : Store) :
    Courteous (postResponseEnqueued task enqueued s) := by
  cases enqueued with
  | false => exact courteous_answer (emptyReply_not_refusal (by decide)) task s
  | true => exact courteous_answer (emptyReply_not_refusal (by decide)) task s

theorem courteous_getResponseDequeued (clientId : String) (bumpedAt : Time)
    (item : Option PypeResponse) (s : Store) :
    Courteous (getResponseDequeued task clientId bumpedAt item s) := by
  cases item with
  | none => exact courteous_answer (emptyReply_not_refusal (by decide)) task _
  | some item => exact courteous_answer (messageReply_not_refusal _ _ _ _) task _

variable {request : HttpRequest} {phase : Phase} {clock : Clock} {s : Store}
  {r : Store × Phase}

/-- A handler refuses in its first stretch or not at all. -/
theorem refuses_at_start {action : Action}
    (h : advance cfg jwt task request phase action clock s = some r)
    (hrefuses : ¬ Courteous r) :
    phase = .received ∧ exists secret,
      r = dispatch cfg jwt task request secret clock s := by
  have late : Courteous r -> phase = .received ∧ exists secret,
      r = dispatch cfg jwt task request secret clock s :=
    fun hcourteous => absurd hcourteous hrefuses
  cases stretch_of_advance h with
  | @start secret => exact ⟨rfl, secret, rfl⟩
  | postRequestBody =>
      apply late
      exact courteous_queuePut _ (courteous_postRequestEnqueued _ _ _ _ _ _) (by simp)
  | postRequestPutDone => exact late (courteous_postRequestEnqueued _ _ _ _ _ _ _ s)
  | postRequestGetDone => exact late (courteous_postRequestResponded _ s)
  | getRequestGetDone => exact late (courteous_getRequestDequeued _ s)
  | postResponseBody =>
      apply late
      exact courteous_queuePut _ courteous_postResponseEnqueued (by simp)
  | postResponsePutDone => exact late (courteous_postResponseEnqueued _ s)
  | getResponseGetDone => exact late (courteous_getResponseDequeued _ _ _ s)
  | startClosed | postRequestBodyClosed | postRequestPutServed | postRequestPutExpired
  | postRequestGetServed | postRequestGetExpired | getRequestGetServed
  | getRequestGetExpired | postResponseBodyClosed | postResponsePutServed
  | postResponsePutExpired | getResponseGetServed | getResponseGetExpired
  | doneClosed => exact late (courteous_wait (by simp) _)

end

/-!
## What the first stretch leaves behind when it refuses
-/

/-- The requests that leave no trace if they are refused. -/
def Traceless (jwt : Jwt) (request : HttpRequest) (clock : Clock) (s : Store) :
    Prop :=
  match request.endpoint with
  | .postRequest _ =>
      forall claims, clientClaims jwt request.authorization = .ok claims ->
        SeenAt claims.clientId (clock.reading 1) s
  | .postResponse params =>
      forall claims, serviceClaims jwt request.authorization = .ok claims ->
        HasEntry params.clientId s
  | .getResponse clientId _ =>
      forall claims, clientClaims jwt request.authorization = .ok claims ->
        claims.clientId = clientId -> SeenAt clientId (clock.reading 1) s
  | _ => True

section

variable {cfg : Settings} {jwt : Jwt} {task : TaskId} {clock : Clock}
  {s : Store} {reply : HttpReply}

theorem kept_of_refused {s' : Store} {e : HttpReply}
    (h : answer task e s = (s', .done reply)) : RegistriesKept s s' := by
  cases h
  exact (registriesKept_record _ s s).mpr (RegistriesKept.refl s)

theorem refused_postRequest_iff {params : PostRequest} {claims : ClientClaims}
    {s' : Store} (hwell : s.WellFormed cfg)
    (h : postRequestToService cfg task params claims clock s = (s', .done reply)) :
    RegistriesKept s s' <-> SeenAt claims.clientId (clock.reading 1) s := by
  unfold postRequestToService at h
  dsimp only at h
  split at h
  · cases h
    rw [registriesKept_record]
    exact kept_open_bump_iff hwell _ _
  · cases h

theorem refused_postResponse_iff {params : PostResponse} {s' : Store}
    (hwell : s.WellFormed cfg)
    (h : postResponseToClient cfg task params clock s = (s', .done reply)) :
    RegistriesKept s s' <-> HasEntry params.clientId s := by
  unfold postResponseToClient at h
  dsimp only at h
  split at h
  · cases h
    rw [registriesKept_record]
    exact kept_getOrCreate_iff hwell _
  · cases h

theorem refused_getResponse_iff {clientId : String} {timeout : Option Int}
    {claims : ClientClaims} {s' : Store} (hwell : s.WellFormed cfg)
    (h : getResponseForClient cfg task clientId timeout claims clock s =
      (s', .done reply))
    (hrefusal : Refusal reply) :
    RegistriesKept s s' <->
      (claims.clientId = clientId -> SeenAt clientId (clock.reading 1) s) := by
  unfold getResponseForClient at h
  split at h
  · rename_i hne
    constructor
    · intro _ heq
      exact absurd heq hne
    · intro _
      exact kept_of_refused h
  · rename_i heq
    rw [not_not] at heq
    dsimp only at h
    split at h
    · cases h
      rw [registriesKept_record, kept_open_bump_iff hwell]
      constructor
      · intro hseen _
        exact hseen
      · intro hseen
        exact hseen heq
    · have hcourteous := courteous_queueGet _ (fun taken t =>
        courteous_getResponseDequeued clientId (clock.reading 2) taken t)
        (by simp) reply (congrArg Prod.snd h)
      exact absurd hrefusal hcourteous

theorem refused_getRequest {serviceName : String} {timeout : Option Int}
    {claims : ServiceClaims} {s' : Store}
    (h : getRequestForService cfg task serviceName timeout claims clock s =
      (s', .done reply))
    (hrefusal : Refusal reply) : RegistriesKept s s' := by
  unfold getRequestForService at h
  split at h
  · exact kept_of_refused h
  · split at h
    · exact kept_of_refused h
    · have hcourteous := courteous_queueGet _ courteous_getRequestDequeued
        (by simp) reply (congrArg Prod.snd h)
      exact absurd hrefusal hcourteous

theorem of_orRefuse {value : Type} {checked : Except PypeError value}
    {handler : value -> Store -> Store × Phase} {s' : Store}
    (h : orRefuse task checked handler s = (s', .done reply)) :
    (exists e, checked = .error e ∧ RegistriesKept s s') ∨
      exists v, checked = .ok v ∧ handler v s = (s', .done reply) := by
  cases checked with
  | error e => exact Or.inl ⟨e, rfl, kept_of_refused h⟩
  | ok v => exact Or.inr ⟨v, rfl, h⟩

theorem of_requireText {text : String} {handler : Store -> Store × Phase}
    {s' : Store} (h : requireText task text handler s = (s', .done reply))
    (hrefusal : Refusal reply) : handler s = (s', .done reply) := by
  unfold requireText at h
  split at h
  · cases h
    exact absurd hrefusal (frameworkReply_not_refusal (Or.inl rfl))
  · exact h

theorem dispatch_refused_iff {request : HttpRequest} {secret : String} {s' : Store}
    (hwell : s.WellFormed cfg)
    (h : dispatch cfg jwt task request secret clock s = (s', .done reply))
    (hrefusal : Refusal reply) :
    RegistriesKept s s' <-> Traceless jwt request clock s := by
  unfold dispatch at h
  unfold Traceless
  cases hroute : request.endpoint with
  | postRequest params =>
      rw [hroute] at h
      rcases of_orRefuse h with ⟨e, herror, hkept⟩ | ⟨claims, hclaims, hhandler⟩
      · simp [herror, hkept]
      · have hstretch := of_requireText (of_requireText hhandler hrefusal) hrefusal
        rw [refused_postRequest_iff hwell hstretch]
        simp [hclaims]
  | getRequest serviceName timeout =>
      rw [hroute] at h
      rcases of_orRefuse h with ⟨e, _, hkept⟩ | ⟨claims, _, hhandler⟩
      · simp [hkept]
      · simp [refused_getRequest (of_requireText hhandler hrefusal) hrefusal]
  | postResponse params =>
      rw [hroute] at h
      rcases of_orRefuse h with ⟨e, herror, hkept⟩ | ⟨claims, hclaims, hhandler⟩
      · simp [herror, hkept]
      · have hstretch := of_requireText (of_requireText hhandler hrefusal) hrefusal
        rw [refused_postResponse_iff hwell hstretch]
        simp [hclaims]
  | getResponse clientId timeout =>
      rw [hroute] at h
      rcases of_orRefuse h with ⟨e, herror, hkept⟩ | ⟨claims, hclaims, hhandler⟩
      · simp [herror, hkept]
      · have hstretch := of_requireText hhandler hrefusal
        rw [refused_getResponse_iff hwell hstretch hrefusal]
        simp [hclaims]
  | clientLogoff =>
      rw [hroute] at h
      rcases of_orRefuse h with ⟨e, _, hkept⟩ | ⟨claims, _, hhandler⟩
      · simp [hkept]
      · cases hhandler
        simp [Refusal, jsonReply] at hrefusal
  | serviceAuth serviceName =>
      rw [hroute] at h
      have hstretch := of_requireText h hrefusal
      cases hstretch
      exact absurd hrefusal (authReply_not_refusal cfg _)
  | clientAuth name =>
      rw [hroute] at h
      have hstretch := of_requireText h hrefusal
      cases hstretch
      exact absurd hrefusal (authReply_not_refusal cfg _)
  | servicesLoad =>
      rw [hroute] at h
      cases h
      simp [Refusal, jsonReply] at hrefusal

end

/-!
## Runs
-/

namespace App

def Answers (cfg : Settings) (jwt : Jwt) (s : App) (e : Event) (t : Task)
    (clock : Clock) (reply : HttpReply) : Prop :=
  exists task action t', e = .run task action clock ∧
    s.tasks.get? task = some t ∧ t.phase ≠ .done reply ∧
    (step cfg jwt s e).tasks.get? task = some t' ∧ t'.phase = .done reply

def answerStatus (t : Task) : Option Nat :=
  match t.phase with
  | .done reply => some reply.status
  | _ => none

theorem exists_answers {cfg : Settings} {jwt : Jwt} {s : App} {task : TaskId}
    {action : Action} {clock : Clock} {status : Nat}
    (hbefore : (s.tasks.get? task).map answerStatus = some none)
    (hafter : ((step cfg jwt s (.run task action clock)).tasks.get? task).map
      answerStatus = some (some status)) :
    exists t reply, s.Answers cfg jwt (.run task action clock) t clock reply ∧
      reply.status = status := by
  rcases Option.map_eq_some_iff.mp hbefore with ⟨t, ht, hnone⟩
  rcases Option.map_eq_some_iff.mp hafter with ⟨t', ht', hsome⟩
  unfold answerStatus at hsome
  split at hsome
  · rename_i reply hdone
    refine ⟨t, reply, ⟨task, action, t', rfl, ht, ?_, ht', hdone⟩,
      Option.some.inj hsome⟩
    intro heq
    rw [answerStatus, heq] at hnone
    cases hnone
  · cases hsome

/-- If the event makes a handler refuse its request, then it is the first stretch
of the handler, and the registries are as they were before. -/
def RefusesWithoutTrace (cfg : Settings) (jwt : Jwt) (s : App) (e : Event) : Prop :=
  forall t clock reply, s.Answers cfg jwt e t clock reply -> Refusal reply ->
    t.phase = .received ∧ RegistriesKept s.store (step cfg jwt s e).store

/-- In every reachable state a request is refused in its first stretch, and it
leaves no trace exactly if it is traceless. -/
theorem refused_traceless_iff (cfg : Settings) (jwt : Jwt) (es : List Event)
    (e : Event) {t : Task} {clock : Clock} {reply : HttpReply}
    (hanswers : (reached cfg jwt es).Answers cfg jwt e t clock reply)
    (hrefusal : Refusal reply) :
    t.phase = .received ∧
      (RegistriesKept (reached cfg jwt es).store
          (step cfg jwt (reached cfg jwt es) e).store <->
        Traceless jwt t.request clock (reached cfg jwt es).store) := by
  rcases hanswers with ⟨task, action, t', rfl, ht, hbefore, ht', hafter⟩
  have hinv := invariant_reached cfg jwt es
  have hadvance : exists store,
      advance cfg jwt task t.request t.phase action clock
        (reached cfg jwt es).store = some (store, .done reply) ∧
      (step cfg jwt (reached cfg jwt es) (.run task action clock)).store = store := by
    rcases step_cases cfg jwt (reached cfg jwt es) (.run task action clock) with
      hsame | ⟨_, _, hevent, _⟩ |
      ⟨_, u, _, _, store, phase, hevent, hu, _, hadvance, hstep⟩ | ⟨_, hevent, _⟩
    · rw [hsame, ht] at ht'
      cases ht'
      exact absurd hafter hbefore
    · cases hevent
    · cases hevent
      rw [ht] at hu
      cases hu
      rw [hstep] at ht' ⊢
      rw [Dict.get?_set_self] at ht'
      cases ht'
      exact ⟨store, hafter ▸ hadvance, rfl⟩
    · cases hevent
  rcases hadvance with ⟨store, hadvance, hstore⟩
  have hrefuses : ¬ Courteous (store, Phase.done reply) := by
    intro hcourteous
    exact hcourteous reply rfl hrefusal
  rcases refuses_at_start hadvance hrefuses with ⟨hphase, secret, hdispatch⟩
  rw [hstore]
  exact ⟨hphase, dispatch_refused_iff hinv.wellFormed hdispatch.symm hrefusal⟩

def wrongName : List Event :=
  [.connect 0 ⟨some "Bearer service", .getRequest "other" none⟩]

theorem refused_traceless_iff_wrongName :
    exists t reply,
      (reached (Settings.default "10.0.0.1") (Jwt.ofPair "c" "s") wrongName).Answers
        (Settings.default "10.0.0.1") (Jwt.ofPair "c" "s")
        (.run 0 (.start "") (Clock.constant 0)) t (Clock.constant 0) reply ∧
      reply.status = 400 ∧ t.phase = .received ∧
      (RegistriesKept
          (reached (Settings.default "10.0.0.1") (Jwt.ofPair "c" "s")
            wrongName).store
          (step (Settings.default "10.0.0.1") (Jwt.ofPair "c" "s")
            (reached (Settings.default "10.0.0.1") (Jwt.ofPair "c" "s") wrongName)
            (.run 0 (.start "") (Clock.constant 0))).store <->
        Traceless (Jwt.ofPair "c" "s") t.request (Clock.constant 0)
          (reached (Settings.default "10.0.0.1") (Jwt.ofPair "c" "s")
            wrongName).store) := by
  have hrefuses : exists t reply,
      (reached (Settings.default "10.0.0.1") (Jwt.ofPair "c" "s") wrongName).Answers
        (Settings.default "10.0.0.1") (Jwt.ofPair "c" "s")
        (.run 0 (.start "") (Clock.constant 0)) t (Clock.constant 0) reply ∧
      reply.status = 400 :=
    exists_answers (by decide +kernel) (by decide +kernel)
  rcases hrefuses with ⟨t, reply, hanswers, hstatus⟩
  exact ⟨t, reply, hanswers, hstatus,
    refused_traceless_iff _ _ wrongName _ hanswers (Or.inl hstatus)⟩

def negativeTimeout : List Event :=
  [.connect 0 ⟨some "Bearer service",
    .postResponse ⟨"c", "1", some (-1), none, []⟩⟩]

/-- The refused response leaves a new entry behind. -/
theorem negativeTimeout_traced :
    ¬ RefusesWithoutTrace (Settings.default "10.0.0.1") (Jwt.ofPair "c" "s")
      (reached (Settings.default "10.0.0.1") (Jwt.ofPair "c" "s") negativeTimeout)
      (.run 0 (.start "") (Clock.constant 0)) := by
  intro h
  have hrefuses : exists t reply,
      (reached (Settings.default "10.0.0.1") (Jwt.ofPair "c" "s")
        negativeTimeout).Answers (Settings.default "10.0.0.1") (Jwt.ofPair "c" "s")
        (.run 0 (.start "") (Clock.constant 0)) t (Clock.constant 0) reply ∧
      reply.status = 400 :=
    exists_answers (by decide +kernel) (by decide +kernel)
  rcases hrefuses with ⟨t, reply, hanswers, hstatus⟩
  rcases h t (Clock.constant 0) reply hanswers (Or.inl hstatus) with ⟨_, hkept⟩
  have hbefore : (ClientRegistry.get "c" (reached (Settings.default "10.0.0.1")
      (Jwt.ofPair "c" "s") negativeTimeout).store).isSome = false := by
    decide +kernel
  rw [← hkept.client "c"] at hbefore
  exact absurd hbefore (by decide +kernel)

end App

end Server
end Pype
