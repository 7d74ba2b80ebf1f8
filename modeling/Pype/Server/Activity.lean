import Pype.Server.Authority
import Pype.Server.Attendance

/-!
# Active clients

A handler bumps the last-seen time of its client when it begins and when a wait
is over.  A bump of a client without an entry does nothing, but an entry created
later counts as seen when it is created.  So whatever entry is registered for a
client, it was last seen no earlier than the client's latest bump, and the reaper
leaves it alone until the threshold has passed since.
-/

namespace Pype
namespace Server

open Foundation Store

/-!
## Bumps
-/

/-- The bumps of the first stretch of a handler, each with its client and its
clock reading. -/
def dispatchBumps (cfg : Settings) (jwt : Jwt) (request : HttpRequest)
    (clock : Clock) : List (String × Time) :=
  match request.endpoint with
  | .postRequest params =>
      match clientClaims jwt request.authorization with
      | .error _ => []
      | .ok claims =>
          if params.serviceName = "" ∨ params.requestId = "" then []
          else [(claims.clientId, clock.reading 1)]
  | .getResponse clientId timeout =>
      match clientClaims jwt request.authorization with
      | .error _ => []
      | .ok claims =>
          if clientId = "" ∨ claims.clientId ≠ clientId then []
          else
            match normalizeTimeout timeout cfg.maxTimeoutMs with
            | .error _ => [(clientId, clock.reading 1)]
            | .ok timeoutMs =>
                -- a zero budget does not wait, and the handler bumps again
                if timeoutMs = 0 then
                  [(clientId, clock.reading 1), (clientId, clock.reading 2)]
                else [(clientId, clock.reading 1)]
  | _ => []

def bumps (cfg : Settings) (jwt : Jwt) (request : HttpRequest) (phase : Phase)
    (action : Action) (clock : Clock) : List (String × Time) :=
  match phase, action with
  | .received, .start _ => dispatchBumps cfg jwt request clock
  | .postRequestBody _ claims _ totalTimeoutMs, .body =>
      if remainingMs (clock.reading 0 + seconds totalTimeoutMs)
          (clock.reading 1) = 0 then
        [(claims.clientId, clock.reading 2)]
      else []
  | .postRequestPutDone _ claims _ _ _, .resume =>
      [(claims.clientId, clock.reading 0)]
  | .getResponseGetDone clientId _, .resume => [(clientId, clock.reading 0)]
  | _, _ => []

def App.bumps (cfg : Settings) (jwt : Jwt) (s : App) : Event -> List (String × Time)
  | .run task action clock =>
      match s.tasks.get? task with
      | none => []
      | some t =>
          if s.now ≤ clock.reading 0 then
            Server.bumps cfg jwt t.request t.phase action clock
          else []
  | .connect _ _ | .tick _ => []

/-!
## Last-seen times
-/

/-- The client's registered entry, if there is one, was last seen at the given
time or later. -/
def SeenSince (clientId : String) (since : Time) (s : Store) : Prop :=
  forall entry, ClientRegistry.get clientId s = some entry -> since ≤ entry.lastSeen

section

variable {clientId : String} {since : Time} {s : Store}

theorem seenSince_bump_self (clientId : String) (since : Time) (s : Store) :
    SeenSince clientId since (ClientRegistry.bumpLastSeen clientId since s) := by
  intro e he
  unfold ClientRegistry.bumpLastSeen ClientRegistry.get at he
  cases hentry : s.clientRegistry.get? clientId with
  | none => simp [hentry] at he
  | some entry =>
      simp only [hentry, List.getElem?_modify, if_true, Option.map_eq_map,
        Option.map_eq_some_iff] at he
      rcases he with ⟨x, _, rfl⟩
      exact le_refl since

theorem SeenSince.bump (h : SeenSince clientId since s) (other : String)
    {seenAt : Time} (hseen : since ≤ seenAt) :
    SeenSince clientId since (ClientRegistry.bumpLastSeen other seenAt s) := by
  unfold ClientRegistry.bumpLastSeen
  split
  · rename_i bumped _
    intro e he
    unfold ClientRegistry.get at he
    dsimp only at he
    split at he
    · rename_i entry hentry
      rw [List.getElem?_modify] at he
      rcases Option.map_eq_some_iff.mp he with ⟨x, hx, hbumped⟩
      split at hbumped
      · rw [← hbumped]
        exact hseen
      · rw [← hbumped]
        apply h
        unfold ClientRegistry.get
        rw [hentry]
        exact hx
    · cases he
  · exact h

theorem SeenSince.openClient (h : SeenSince clientId since s) (cfg : Settings)
    (other : String) {createdAt : Time} (hcreated : since ≤ createdAt) :
    SeenSince clientId since
      (ClientRegistry.getOrCreate cfg other createdAt s).2 := by
  rcases ClientRegistry.getOrCreate_cases cfg other createdAt s with
    ⟨entry, _, heq⟩ | ⟨_, heq⟩
  · rw [heq]
    exact h
  · rw [heq]
    intro e he
    unfold ClientRegistry.get at he
    dsimp only [ClientRegistry.create] at he
    split at he
    · rename_i entry hentry
      rw [List.getElem?_append] at he
      split at he
      · rename_i hold
        rw [Dict.get?_set] at hentry
        split at hentry
        · -- the new entry is not among the old ones
          cases hentry
          exact absurd hold (lt_irrefl _)
        · apply h
          unfold ClientRegistry.get
          rw [hentry]
          exact he
      · rw [List.mem_singleton.mp (List.mem_of_getElem? he)]
        exact hcreated
    · cases he

theorem SeenSince.remove (h : SeenSince clientId since s) (remover : Remover)
    (other : String) :
    SeenSince clientId since (ClientRegistry.remove remover other s) := by
  by_cases heq : other = clientId
  · intro e he
    subst heq
    rw [ClientRegistry.get_remove_self] at he
    cases he
  · intro e he
    rw [ClientRegistry.get_remove_of_ne heq] at he
    exact h e he

theorem SeenSince.of_eq (h : SeenSince clientId since s) {s' : Store}
    (hregistry : s'.clientRegistry = s.clientRegistry)
    (hentries : s'.clientEntries = s.clientEntries) :
    SeenSince clientId since s' := by
  intro e he
  unfold ClientRegistry.get at he
  rw [hregistry, hentries] at he
  exact h e he

theorem SeenSince.set_entry (h : SeenSince clientId since s) {entry : Ref}
    {e e' : ClientEntry} (he : s.clientEntries[entry]? = some e)
    (hseen : e'.lastSeen = e.lastSeen) (history : List Record) :
    SeenSince clientId since
      { s with clientEntries := s.clientEntries.set entry e', history := history } := by
  intro x hx
  unfold ClientRegistry.get at hx
  dsimp only at hx
  split at hx
  · rename_i registered hregistered
    have hold : forall y, s.clientEntries[registered]? = some y ->
        since ≤ y.lastSeen := by
      intro y hy
      apply h
      unfold ClientRegistry.get
      rw [hregistered]
      exact hy
    rw [List.getElem?_set] at hx
    split at hx
    · rename_i heq
      subst heq
      rw [if_pos (List.getElem?_eq_some_iff.mp he).choose] at hx
      cases hx
      rw [hseen]
      exact hold e he
    · exact hold x hx
  · cases hx

theorem SeenSince.openService (h : SeenSince clientId since s) (cfg : Settings)
    (serviceName : String) :
    SeenSince clientId since (ServiceRegistry.getOrCreate cfg serviceName s).2 := by
  rcases ServiceRegistry.getOrCreate_cases cfg serviceName s with
    ⟨queue, _, heq⟩ | ⟨_, heq⟩
  · rw [heq]
    exact h
  · rw [heq]
    exact h.of_eq rfl rfl

theorem SeenSince.putRequest (h : SeenSince clientId since s) {task : TaskId}
    {serviceName : String} {queue : Ref} {request : PypeRequest} {s' : Store}
    (hput : s.putRequest task serviceName queue request = some s') :
    SeenSince clientId since s' := by
  rcases putRequest_eq_some hput with ⟨q, q', _, _, rfl⟩
  exact h.of_eq rfl rfl

theorem SeenSince.takeRequest (h : SeenSince clientId since s) {task : TaskId}
    {serviceName : String} {queue : Ref} {request : PypeRequest} {s' : Store}
    (htake : s.takeRequest task serviceName queue = some (request, s')) :
    SeenSince clientId since s' := by
  rcases takeRequest_eq_some htake with ⟨q, posted, q', _, _, _, rfl⟩
  exact h.of_eq rfl rfl

theorem SeenSince.putResponse (h : SeenSince clientId since s) {task : TaskId}
    {owner : String} {entry : Ref} {response : PypeResponse} {s' : Store}
    (hput : s.putResponse task owner entry response = some s') :
    SeenSince clientId since s' := by
  rcases putResponse_eq_some hput with ⟨e, q', he, _, rfl⟩
  exact h.set_entry he (by rfl) _

theorem SeenSince.takeResponse (h : SeenSince clientId since s) {task : TaskId}
    {owner : String} {entry : Ref} {response : PypeResponse} {s' : Store}
    (htake : s.takeResponse task owner entry = some (response, s')) :
    SeenSince clientId since s' := by
  rcases takeResponse_eq_some htake with ⟨e, posted, q', he, _, _, rfl⟩
  exact h.set_entry he (by rfl) _

end

/-!
## Stretches
-/

section

variable {cfg : Settings} {jwt : Jwt} {task : TaskId} {clientId : String}
  {since : Time} {s : Store}

theorem SeenSince.answer (h : SeenSince clientId since s) (reply : HttpReply) :
    SeenSince clientId since (answer task reply s).1 :=
  h.of_eq rfl rfl

theorem SeenSince.queuePut {budget : Int} {put : Store -> Option Store}
    {resume : Bool -> Store -> Store × Phase} {wait : Phase}
    (hput : forall s', put s = some s' -> SeenSince clientId since (resume true s').1)
    (hnot : SeenSince clientId since (resume false s).1)
    (hwait : budget ≠ 0 -> SeenSince clientId since s) :
    SeenSince clientId since (queuePut budget put resume wait s).1 := by
  unfold Server.queuePut
  split
  · split
    · rename_i s' hs'
      exact hput s' hs'
    · exact hnot
  · rename_i hbudget
    exact hwait hbudget

theorem SeenSince.queueGet {item : Type} {budget : Int}
    {get : Store -> Option (item × Store)}
    {resume : Option item -> Store -> Store × Phase} {wait : Phase}
    (hget : forall x s', get s = some (x, s') ->
      SeenSince clientId since (resume (some x) s').1)
    (hnot : SeenSince clientId since (resume none s).1)
    (hwait : budget ≠ 0 -> SeenSince clientId since s) :
    SeenSince clientId since (queueGet budget get resume wait s).1 := by
  unfold Server.queueGet
  split
  · split
    · rename_i x s' hs'
      exact hget x s' hs'
    · exact hnot
  · rename_i hbudget
    exact hwait hbudget

theorem SeenSince.postRequestResponded (h : SeenSince clientId since s)
    (response : Option PypeResponse) :
    SeenSince clientId since (postRequestResponded task response s).1 := by
  cases response with
  | none => exact h.answer _
  | some response => exact h.answer _

theorem SeenSince.postRequestEnqueued {params : PostRequest} {claims : ClientClaims}
    {entry : Ref} {deadline bumpedAt remainingAt : Time}
    (h : SeenSince clientId since
      (ClientRegistry.bumpLastSeen claims.clientId bumpedAt s)) (enqueued : Bool) :
    SeenSince clientId since
      (postRequestEnqueued task params claims entry deadline bumpedAt remainingAt
        enqueued s).1 := by
  unfold Server.postRequestEnqueued
  dsimp only
  split
  · exact h.answer _
  · split
    · exact h.answer _
    · exact SeenSince.queueGet
        (fun x s' htake => (h.takeResponse htake).postRequestResponded (some x))
        (h.postRequestResponded none) (fun _ => h)

theorem SeenSince.postRequestToService {params : PostRequest} {claims : ClientClaims}
    {clock : Clock}
    (h : SeenSince clientId since
      (ClientRegistry.bumpLastSeen claims.clientId (clock.reading 1)
        (ClientRegistry.getOrCreate cfg claims.clientId (clock.reading 0) s).2)) :
    SeenSince clientId since
      (postRequestToService cfg task params claims clock s).1 := by
  unfold Server.postRequestToService
  dsimp only
  split
  · exact h.answer _
  · exact h

theorem SeenSince.getRequestDequeued (h : SeenSince clientId since s)
    (item : Option PypeRequest) :
    SeenSince clientId since (getRequestDequeued task item s).1 := by
  cases item with
  | none => exact h.answer _
  | some item => exact h.answer _

theorem SeenSince.getRequestForService (h : SeenSince clientId since s)
    {serviceName : String} {timeout : Option Int} {claims : ServiceClaims}
    {clock : Clock} :
    SeenSince clientId since
      (getRequestForService cfg task serviceName timeout claims clock s).1 := by
  unfold Server.getRequestForService
  split
  · exact h.answer _
  · split
    · exact h.answer _
    · have hopened := h.openService cfg serviceName
      exact SeenSince.queueGet
        (fun x s' htake => (hopened.takeRequest htake).getRequestDequeued (some x))
        (hopened.getRequestDequeued none) (fun _ => hopened)

theorem SeenSince.postResponseEnqueued (h : SeenSince clientId since s)
    (enqueued : Bool) :
    SeenSince clientId since (postResponseEnqueued task enqueued s).1 := by
  cases enqueued with
  | false => exact h.answer _
  | true => exact h.answer _

theorem SeenSince.postResponseBody (h : SeenSince clientId since s)
    {params : PostResponse} {entry : Ref} {timeoutMs : Int} {clock : Clock} :
    SeenSince clientId since
      (postResponseBody cfg task params entry timeoutMs clock s).1 :=
  SeenSince.queuePut
    (fun _ hput => (h.putResponse hput).postResponseEnqueued true)
    (h.postResponseEnqueued false) (fun _ => h)

theorem SeenSince.getResponseDequeued {owner : String} {bumpedAt : Time}
    (h : SeenSince clientId since (ClientRegistry.bumpLastSeen owner bumpedAt s))
    (item : Option PypeResponse) :
    SeenSince clientId since (getResponseDequeued task owner bumpedAt item s).1 := by
  unfold Server.getResponseDequeued
  cases item with
  | none => exact h.answer _
  | some item => exact h.answer _

theorem SeenSince.postRequestBody (h : SeenSince clientId since s)
    {params : PostRequest} {claims : ClientClaims} {entry : Ref}
    {totalTimeoutMs : Int} {clock : Clock} (hclock : since ≤ clock.reading 2) :
    SeenSince clientId since
      (postRequestBody cfg task params claims entry totalTimeoutMs clock s).1 := by
  have hopened := h.openService cfg params.serviceName
  unfold Server.postRequestBody
  apply SeenSince.queuePut
  · intro s' hput
    exact ((hopened.putRequest hput).bump claims.clientId hclock).postRequestEnqueued true
  · exact (hopened.bump claims.clientId hclock).postRequestEnqueued false
  · exact fun _ => hopened

/-- Without a wait for room the bump of the first phase comes at once. -/
theorem seenSince_postRequestBody {params : PostRequest} {claims : ClientClaims}
    {entry : Ref} {totalTimeoutMs : Int} {clock : Clock}
    (hzero : remainingMs (clock.reading 0 + seconds totalTimeoutMs)
      (clock.reading 1) = 0) :
    SeenSince claims.clientId (clock.reading 2)
      (postRequestBody cfg task params claims entry totalTimeoutMs clock s).1 := by
  unfold Server.postRequestBody
  apply SeenSince.queuePut
  · intro s' _
    exact (seenSince_bump_self _ _ s').postRequestEnqueued true
  · exact (seenSince_bump_self _ _ _).postRequestEnqueued false
  · exact fun hbudget => absurd hzero hbudget

theorem SeenSince.getResponseForClient {owner : String} {timeout : Option Int}
    {claims : ClientClaims} {clock : Clock}
    (h : SeenSince clientId since
      (ClientRegistry.bumpLastSeen owner (clock.reading 1)
        (ClientRegistry.getOrCreate cfg owner (clock.reading 0) s).2))
    (hclock : since ≤ clock.reading 2) (howner : claims.clientId = owner) :
    SeenSince clientId since
      (getResponseForClient cfg task owner timeout claims clock s).1 := by
  unfold Server.getResponseForClient
  rw [if_neg (not_not.mpr howner)]
  dsimp only
  split
  · exact h.answer _
  · apply SeenSince.queueGet
    · intro x s' htake
      exact ((h.takeResponse htake).bump owner hclock).getResponseDequeued (some x)
    · exact (h.bump owner hclock).getResponseDequeued none
    · exact fun _ => h

/-- Without a wait the second bump comes at once. -/
theorem seenSince_getResponseForClient {owner : String} {timeout : Option Int}
    {claims : ClientClaims} {clock : Clock} (howner : claims.clientId = owner)
    (hzero : normalizeTimeout timeout cfg.maxTimeoutMs = .ok 0) :
    SeenSince owner (clock.reading 2)
      (getResponseForClient cfg task owner timeout claims clock s).1 := by
  unfold Server.getResponseForClient
  rw [if_neg (not_not.mpr howner), hzero]
  apply SeenSince.queueGet
  · intro x s' _
    exact (seenSince_bump_self _ _ s').getResponseDequeued (some x)
  · exact (seenSince_bump_self _ _ _).getResponseDequeued none
  · exact fun hbudget => absurd rfl hbudget

theorem SeenSince.dispatch (h : SeenSince clientId since s) {request : HttpRequest}
    {secret : String} {clock : Clock} (hclock : since ≤ clock.reading 0) :
    SeenSince clientId since (dispatch cfg jwt task request secret clock s).1 := by
  have hfirst : since ≤ clock.reading 1 :=
    le_trans hclock (clock.mono (Nat.zero_le 1))
  have hsecond : since ≤ clock.reading 2 :=
    le_trans hclock (clock.mono (Nat.zero_le 2))
  generalize hstretch : Server.dispatch cfg jwt task request secret clock s = r
  cases dispatched_of_dispatch hstretch with
  | refused e => exact h.answer _
  | unprocessable => exact h.answer _
  | @postRequest params claims =>
      exact ((h.openClient cfg claims.clientId hclock).bump claims.clientId
        hfirst).postRequestToService
  | getRequest => exact h.getRequestForService
  | @postResponse params =>
      have hopened := h.openClient cfg params.clientId hclock
      unfold postResponseToClient
      dsimp only
      split
      · exact hopened.answer _
      · exact hopened
  | @getResponse owner timeout claims =>
      by_cases howner : claims.clientId = owner
      · exact ((h.openClient cfg owner hclock).bump owner
          hfirst).getResponseForClient hsecond howner
      · unfold Server.getResponseForClient
        rw [if_pos howner]
        exact h.answer _
  | @clientLogoff claims => exact (h.remove (.logoff task) claims.clientId).answer _
  | @serviceAuth serviceName => exact (h.openService cfg serviceName).answer _
  | clientAuth => exact h.answer _
  | servicesLoad => exact h.answer _

theorem SeenSince.advance (h : SeenSince clientId since s) {request : HttpRequest}
    {phase : Phase} {action : Action} {clock : Clock} {r : Store × Phase}
    (hclock : since ≤ clock.reading 0)
    (hadvance : advance cfg jwt task request phase action clock s = some r) :
    SeenSince clientId since r.1 := by
  have hsecond : since ≤ clock.reading 2 :=
    le_trans hclock (clock.mono (Nat.zero_le 2))
  cases stretch_of_advance hadvance with
  | start => exact h.dispatch hclock
  | startClosed => exact h
  | postRequestBody => exact h.postRequestBody hsecond
  | postRequestBodyClosed => exact h
  | postRequestPutServed hput => exact h.putRequest hput
  | postRequestPutExpired => exact h
  | postRequestPutDone => exact (h.bump _ hclock).postRequestEnqueued _
  | postRequestGetServed htake => exact h.takeResponse htake
  | postRequestGetExpired => exact h
  | postRequestGetDone => exact h.postRequestResponded _
  | getRequestGetServed htake => exact h.takeRequest htake
  | getRequestGetExpired => exact h
  | getRequestGetDone => exact h.getRequestDequeued _
  | postResponseBody => exact h.postResponseBody
  | postResponseBodyClosed => exact h
  | postResponsePutServed hput => exact h.putResponse hput
  | postResponsePutExpired => exact h
  | postResponsePutDone => exact h.postResponseEnqueued _
  | getResponseGetServed htake => exact h.takeResponse htake
  | getResponseGetExpired => exact h
  | getResponseGetDone => exact (h.bump _ hclock).getResponseDequeued _
  | doneClosed => exact h

theorem seenSince_dispatch {request : HttpRequest} {secret : String} {clock : Clock}
    (hbump : (clientId, since) ∈ dispatchBumps cfg jwt request clock) :
    SeenSince clientId since (dispatch cfg jwt task request secret clock s).1 := by
  have hclock : clock.reading 1 ≤ clock.reading 2 := clock.mono (by decide)
  unfold dispatchBumps at hbump
  unfold Server.dispatch
  split at hbump
  · rename_i params hroute
    rw [hroute]
    split at hbump
    · cases hbump
    · rename_i claims hclaims
      split at hbump
      · cases hbump
      · rename_i hgiven
        rcases not_or.mp hgiven with ⟨hname, hid⟩
        cases List.mem_singleton.mp hbump
        rw [hclaims]
        simp only [orRefuse, Server.requireText, if_neg hname, if_neg hid]
        exact (seenSince_bump_self _ _ _).postRequestToService
  · rename_i owner timeout hroute
    rw [hroute]
    split at hbump
    · cases hbump
    · rename_i claims hclaims
      split at hbump
      · cases hbump
      · rename_i hgiven
        rcases not_or.mp hgiven with ⟨hname, howner⟩
        have howner := not_not.mp howner
        rw [hclaims]
        simp only [orRefuse, Server.requireText, if_neg hname]
        have hfirst : SeenSince owner (clock.reading 1)
            (Server.getResponseForClient cfg task owner timeout claims clock s).1 :=
          (seenSince_bump_self _ _ _).getResponseForClient hclock howner
        split at hbump
        · cases List.mem_singleton.mp hbump
          exact hfirst
        · rename_i timeoutMs htimeout
          split at hbump
          · rename_i hzero
            subst hzero
            rcases List.mem_cons.mp hbump with heq | hmem
            · cases heq
              exact hfirst
            · cases List.mem_singleton.mp hmem
              exact seenSince_getResponseForClient howner htimeout
          · cases List.mem_singleton.mp hbump
            exact hfirst
  · cases hbump

theorem seenSince_of_bumps {request : HttpRequest} {phase : Phase} {action : Action}
    {clock : Clock}
    (hbump : (clientId, since) ∈ bumps cfg jwt request phase action clock) :
    exists r, Server.advance cfg jwt task request phase action clock s = some r ∧
      SeenSince clientId since r.1 := by
  unfold bumps at hbump
  split at hbump
  · exact ⟨_, rfl, seenSince_dispatch hbump⟩
  · split at hbump
    · rename_i hzero
      cases List.mem_singleton.mp hbump
      exact ⟨_, rfl, seenSince_postRequestBody hzero⟩
    · cases hbump
  · cases List.mem_singleton.mp hbump
    exact ⟨_, rfl, (seenSince_bump_self _ _ s).postRequestEnqueued _⟩
  · cases List.mem_singleton.mp hbump
    exact ⟨_, rfl, (seenSince_bump_self _ _ s).getResponseDequeued _⟩
  · cases hbump

theorem le_of_dispatchBumps {request : HttpRequest} {clock : Clock}
    (hbump : (clientId, since) ∈ dispatchBumps cfg jwt request clock) :
    since ≤ clock.reading 3 := by
  have hfirst : clock.reading 1 ≤ clock.reading 3 := clock.mono (by decide)
  have hsecond : clock.reading 2 ≤ clock.reading 3 := clock.mono (by decide)
  unfold dispatchBumps at hbump
  split at hbump
  · split at hbump
    · cases hbump
    · split at hbump
      · cases hbump
      · cases List.mem_singleton.mp hbump
        exact hfirst
  · split at hbump
    · cases hbump
    · split at hbump
      · cases hbump
      · split at hbump
        · cases List.mem_singleton.mp hbump
          exact hfirst
        · split at hbump
          · rcases List.mem_cons.mp hbump with heq | hmem
            · cases heq
              exact hfirst
            · cases List.mem_singleton.mp hmem
              exact hsecond
          · cases List.mem_singleton.mp hbump
            exact hfirst
  · cases hbump

theorem le_of_bumps {request : HttpRequest} {phase : Phase} {action : Action}
    {clock : Clock}
    (hbump : (clientId, since) ∈ bumps cfg jwt request phase action clock) :
    since ≤ clock.reading 3 := by
  unfold bumps at hbump
  split at hbump
  · exact le_of_dispatchBumps hbump
  · split at hbump
    · cases List.mem_singleton.mp hbump
      exact clock.mono (by decide)
    · cases hbump
  · cases List.mem_singleton.mp hbump
    exact clock.mono (by decide)
  · cases List.mem_singleton.mp hbump
    exact clock.mono (by decide)
  · cases hbump

end

/-!
## Runs
-/

namespace App

/-- What a bump establishes for good. -/
structure Seen (clientId : String) (since : Time) (s : App) : Prop where
  past : since ≤ s.now
  entry : SeenSince clientId since s.store

section

variable {cfg : Settings} {jwt : Jwt} {clientId : String} {since : Time} {s : App}

theorem Seen.step (h : Seen clientId since s) (e : Event) :
    Seen clientId since (step cfg jwt s e) := by
  rcases step_cases cfg jwt s e with heq | ⟨task, request, _, _, heq⟩ |
    ⟨task, t, action, clock, store, phase, _, ht, hnow, hadvance, heq⟩ |
    ⟨now, _, hnow, heq⟩
  · rw [heq]
    exact h
  · rw [heq]
    exact ⟨h.past, h.entry⟩
  · rw [heq]
    have hclock : since ≤ clock.reading 0 := le_trans h.past hnow
    constructor
    · exact le_trans hclock (clock.mono (Nat.zero_le 3))
    · exact h.entry.advance hclock hadvance
  · rw [heq]
    constructor
    · exact le_trans h.past hnow
    · refine ClientQueueReaper.tick_invariant (SeenSince clientId since) ?_ s.reaper
        h.entry
      intro other t _ _ _ ht
      exact ht.remove _ other

theorem Seen.runFrom (h : Seen clientId since s) (es : List Event) :
    Seen clientId since (runFrom cfg jwt s es) :=
  run_invariant (Seen clientId since) (fun _ e ht => ht.step e) h es

theorem seen_of_bumps {e : Event} (hbump : (clientId, since) ∈ bumps cfg jwt s e) :
    Seen clientId since (step cfg jwt s e) := by
  unfold bumps at hbump
  split at hbump
  · rename_i task action clock
    split at hbump
    · cases hbump
    · rename_i t ht
      split at hbump
      · rename_i hnow
        have hadvanced : exists r, advance cfg jwt task t.request t.phase action
            clock s.store = some r ∧ SeenSince clientId since r.1 :=
          seenSince_of_bumps hbump
        rcases hadvanced with ⟨r, hadvance, hseen⟩
        simp only [App.step, runTask, ht, if_pos hnow, hadvance]
        exact ⟨le_of_bumps hbump, hseen⟩
      · cases hbump
  · cases hbump
  · cases hbump

/-- A tick within the threshold of a client's bump leaves the client registered as
it is, and leaves every entry with its queue as it is. -/
theorem Seen.tick (h : Seen clientId since s) {now : Time}
    (hfresh : now - since ≤ cfg.clientInactivityThresholdSeconds) :
    (s.tick cfg now).store.clientRegistry.get? clientId =
        s.store.clientRegistry.get? clientId ∧
      (s.tick cfg now).store.clientEntries = s.store.clientEntries := by
  unfold App.tick
  split
  · refine ClientQueueReaper.tick_invariant
      (fun t => t.clientRegistry.get? clientId = s.store.clientRegistry.get? clientId ∧
        t.clientEntries = s.store.clientEntries) ?_ s.reaper ⟨rfl, rfl⟩
    rintro other t examined hget hstale ⟨hregistry, hentries⟩
    have hne : clientId ≠ other := by
      rintro rfl
      -- an examined entry of the client is the one it had before the tick
      have hsame : ClientRegistry.get clientId s.store = some examined := by
        rw [← hget]
        unfold ClientRegistry.get
        rw [hregistry, hentries]
      have hseen := h.entry examined hsame
      linarith
    unfold ClientRegistry.remove
    split
    · constructor
      · dsimp only
        rw [Dict.get?_erase_of_ne _ hne.symm]
        exact hregistry
      · exact hentries
    · exact ⟨hregistry, hentries⟩
  · exact ⟨rfl, rfl⟩

end

/-- The reaper never evicts an active client: whatever happened before and after a
bump of the client, a tick within the threshold of that bump leaves the client's
registration as it is, and every queue with its responses. -/
theorem active_kept (cfg : Settings) (jwt : Jwt) (es fs : List Event) (e : Event)
    (clientId : String) (seenAt now : Time)
    (hbump : (clientId, seenAt) ∈ bumps cfg jwt (reached cfg jwt es) e)
    (hfresh : now - seenAt ≤ cfg.clientInactivityThresholdSeconds) :
    ((reached cfg jwt (es ++ e :: fs)).tick cfg now).store.clientRegistry.get?
        clientId =
      (reached cfg jwt (es ++ e :: fs)).store.clientRegistry.get? clientId ∧
    ((reached cfg jwt (es ++ e :: fs)).tick cfg now).store.clientEntries =
      (reached cfg jwt (es ++ e :: fs)).store.clientEntries := by
  have hseen : Seen clientId seenAt (reached cfg jwt (es ++ e :: fs)) := by
    rw [reached, runFrom, run_append]
    exact (seen_of_bumps hbump).runFrom fs
  exact hseen.tick hfresh

def polled : App :=
  reached (Settings.default "10.0.0.1") (Jwt.ofPair "c" "s")
    [.connect 0 ⟨some "Bearer client", .getResponse "c" (some 0)⟩,
      .run 0 (.start "") (Clock.constant 5)]

/-- A tick at the threshold keeps the client that polled. -/
theorem active_kept_polled :
    (polled.tick (Settings.default "10.0.0.1") 605).store.clientRegistry.get? "c" =
      polled.store.clientRegistry.get? "c" ∧
    (polled.tick (Settings.default "10.0.0.1") 605).store.clientEntries =
      polled.store.clientEntries :=
  active_kept (Settings.default "10.0.0.1") (Jwt.ofPair "c" "s")
    [.connect 0 ⟨some "Bearer client", .getResponse "c" (some 0)⟩] []
    (.run 0 (.start "") (Clock.constant 5)) "c" 5 605 (by decide +kernel)
    (by decide +kernel)

end App

end Server
end Pype
