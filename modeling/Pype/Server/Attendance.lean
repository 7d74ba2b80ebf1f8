import Pype.Server.Invariant

/-!
# Waiting clients

A client that waits for a response was seen when its wait began, and the wait
ends before the inactivity threshold has passed since, so the reaper leaves its
entry alone.  A POST with `block=1` that has not begun its second phase is
protected only by the bump of its first stretch: a body that is long in coming
outlives it.
-/

namespace Pype
namespace Server

open Foundation Store

/-!
## Ageing

What a stretch of a handler does to the entries: it bumps some of them to its
own clock readings, and it does not take a client's entry out of the registry
unless the client logs off.
-/

def Clock.Reads (clock : Clock) (time : Time) : Prop :=
  clock.reading 0 ≤ time ∧ time ≤ clock.reading 3

theorem Clock.reads_reading (clock : Clock) {i : Nat} (hi : i ≤ 3) :
    clock.Reads (clock.reading i) :=
  ⟨clock.mono (Nat.zero_le i), clock.mono hi⟩

structure Ages (clientId : String) (clock : Clock) (s s' : Store) : Prop where
  registered : forall entry, s.clientRegistry.get? clientId = some entry ->
    s'.clientRegistry.get? clientId = some entry
  live : forall (entry : Ref) e, s.clientEntries[entry]? = some e ->
    exists e', s'.clientEntries[entry]? = some e'
  seen : forall (entry : Ref) e', s'.clientEntries[entry]? = some e' ->
    (exists e, s.clientEntries[entry]? = some e ∧ e.lastSeen = e'.lastSeen) ∨
      clock.Reads e'.lastSeen

section

variable {clientId : String} {clock : Clock}

theorem Ages.refl (s : Store) : Ages clientId clock s s where
  registered := fun _ h => h
  live := fun _ e h => ⟨e, h⟩
  seen := fun _ e h => Or.inl ⟨e, h, rfl⟩

theorem Ages.trans {s t u : Store} (h : Ages clientId clock s t)
    (h' : Ages clientId clock t u) : Ages clientId clock s u where
  registered := fun entry hentry => h'.registered entry (h.registered entry hentry)
  live := by
    intro entry e he
    rcases h.live entry e he with ⟨e', he'⟩
    exact h'.live entry e' he'
  seen := by
    intro entry e'' he''
    rcases h'.seen entry e'' he'' with ⟨e', he', hsame'⟩ | hreads
    · rcases h.seen entry e' he' with ⟨e, he, hsame⟩ | hreads
      · exact Or.inl ⟨e, he, hsame.trans hsame'⟩
      · rw [hsame'] at hreads
        exact Or.inr hreads
    · exact Or.inr hreads

theorem Ages.of_eq {s s' : Store} (hregistry : s'.clientRegistry = s.clientRegistry)
    (hentries : s'.clientEntries = s.clientEntries) : Ages clientId clock s s' where
  registered := by
    intro entry hentry
    rw [hregistry]
    exact hentry
  live := by
    intro entry e he
    rw [hentries]
    exact ⟨e, he⟩
  seen := by
    intro entry e he
    rw [hentries] at he
    exact Or.inl ⟨e, he, rfl⟩

theorem Ages.set_entry {s : Store} {entry : Ref} {e e' : ClientEntry}
    (he : s.clientEntries[entry]? = some e) (hseen : e'.lastSeen = e.lastSeen)
    (history : List Record) :
    Ages clientId clock s
      { s with clientEntries := s.clientEntries.set entry e', history := history } where
  registered := fun _ h => h
  live := by
    intro other x hx
    dsimp only
    rw [List.getElem?_set]
    split
    · rw [if_pos (List.getElem?_eq_some_iff.mp he).choose]
      exact ⟨e', rfl⟩
    · exact ⟨x, hx⟩
  seen := by
    intro other x hx
    dsimp only at hx
    rw [List.getElem?_set] at hx
    split at hx
    · rename_i heq
      subst heq
      rw [if_pos (List.getElem?_eq_some_iff.mp he).choose] at hx
      cases hx
      exact Or.inl ⟨e, he, hseen.symm⟩
    · exact Or.inl ⟨x, hx, rfl⟩

theorem ages_openService (cfg : Settings) (serviceName : String) (s : Store) :
    Ages clientId clock s (ServiceRegistry.getOrCreate cfg serviceName s).2 := by
  rcases ServiceRegistry.getOrCreate_cases cfg serviceName s with
    ⟨queue, _, heq⟩ | ⟨_, heq⟩
  · rw [heq]
    exact Ages.refl s
  · rw [heq]
    exact Ages.of_eq rfl rfl

theorem ages_openClient (cfg : Settings) (other : String) {createdAt : Time}
    (hreads : clock.Reads createdAt) (s : Store) :
    Ages clientId clock s
      (ClientRegistry.getOrCreate cfg other createdAt s).2 := by
  rcases ClientRegistry.getOrCreate_cases cfg other createdAt s with
    ⟨entry, _, heq⟩ | ⟨hnone, heq⟩
  · rw [heq]
    exact Ages.refl s
  · rw [heq]
    unfold ClientRegistry.create
    constructor
    · intro entry hentry
      have hne : other ≠ clientId := by
        rintro rfl
        rw [hnone] at hentry
        cases hentry
      dsimp only
      rw [Dict.get?_set_of_ne _ _ hne]
      exact hentry
    · intro entry e he
      have hlt := (List.getElem?_eq_some_iff.mp he).choose
      exact ⟨e, by rw [List.getElem?_append_left hlt, he]⟩
    · intro entry e he
      dsimp only at he
      rw [List.getElem?_append] at he
      split at he
      · exact Or.inl ⟨e, he, rfl⟩
      · have hlast := List.mem_singleton.mp (List.mem_of_getElem? he)
        rw [hlast]
        exact Or.inr hreads

theorem ages_bump (other : String) {now : Time} (hreads : clock.Reads now)
    (s : Store) :
    Ages clientId clock s (ClientRegistry.bumpLastSeen other now s) := by
  unfold ClientRegistry.bumpLastSeen
  split
  · rename_i registered _
    constructor
    · exact fun _ h => h
    · intro entry e he
      dsimp only
      rw [List.getElem?_modify, he]
      exact ⟨_, rfl⟩
    · intro entry e' he'
      dsimp only at he'
      rw [List.getElem?_modify] at he'
      rcases Option.map_eq_some_iff.mp he' with ⟨e, he, hbumped⟩
      split at hbumped
      · rw [← hbumped]
        exact Or.inr hreads
      · rw [← hbumped]
        exact Or.inl ⟨e, he, rfl⟩
  · exact Ages.refl s

theorem ages_remove {other : String} (hne : other ≠ clientId) (remover : Remover)
    (s : Store) : Ages clientId clock s (ClientRegistry.remove remover other s) := by
  unfold ClientRegistry.remove
  split
  · constructor
    · intro entry hentry
      dsimp only
      rw [Dict.get?_erase_of_ne _ hne]
      exact hentry
    · exact fun _ e he => ⟨e, he⟩
    · exact fun _ e he => Or.inl ⟨e, he, rfl⟩
  · exact Ages.refl s

theorem ages_putRequest {task : TaskId} {serviceName : String} {queue : Ref}
    {request : PypeRequest} {s s' : Store}
    (h : s.putRequest task serviceName queue request = some s') :
    Ages clientId clock s s' := by
  rcases putRequest_eq_some h with ⟨q, q', _, _, rfl⟩
  exact Ages.of_eq rfl rfl

theorem ages_takeRequest {task : TaskId} {serviceName : String} {queue : Ref}
    {request : PypeRequest} {s s' : Store}
    (h : s.takeRequest task serviceName queue = some (request, s')) :
    Ages clientId clock s s' := by
  rcases takeRequest_eq_some h with ⟨q, posted, q', _, _, _, rfl⟩
  exact Ages.of_eq rfl rfl

theorem ages_putResponse {task : TaskId} {owner : String} {entry : Ref}
    {response : PypeResponse} {s s' : Store}
    (h : s.putResponse task owner entry response = some s') :
    Ages clientId clock s s' := by
  rcases putResponse_eq_some h with ⟨e, q', he, _, rfl⟩
  exact Ages.set_entry he (by rfl) _

theorem ages_takeResponse {task : TaskId} {owner : String} {entry : Ref}
    {response : PypeResponse} {s s' : Store}
    (h : s.takeResponse task owner entry = some (response, s')) :
    Ages clientId clock s s' := by
  rcases takeResponse_eq_some h with ⟨e, posted, q', he, _, _, rfl⟩
  exact Ages.set_entry he (by rfl) _

end

/-!
## Where a client is attended to
-/

def Held (clientId : String) (s : Store) (entry : Ref) : Prop :=
  s.clientRegistry.get? clientId = some entry ∧
    exists e, s.clientEntries[entry]? = some e

/-- The entry is the registered one, and a wait that expires at the given time
ends before the client counts as inactive. -/
def Attends (cfg : Settings) (clientId : String) (s : Store) (entry : Ref)
    (expires : Time) : Prop :=
  s.clientRegistry.get? clientId = some entry ∧
    exists e, s.clientEntries[entry]? = some e ∧
      expires ≤ e.lastSeen + cfg.clientInactivityThresholdSeconds

/-- A handler that holds an entry of the client holds the registered one. -/
def Attended (cfg : Settings) (clientId : String) (now : Time) (s : Store) :
    Phase -> Prop
  | .postRequestBody params claims entry totalTimeoutMs =>
      totalTimeoutMs ≤ cfg.maxTimeoutMs ∧
        (params.block = true -> claims.clientId = clientId -> totalTimeoutMs ≠ 0 ->
          Held clientId s entry)
  | .postRequestPut params claims entry deadline _ _ _ =>
      deadline ≤ now + seconds cfg.maxTimeoutMs ∧
        (params.block = true -> claims.clientId = clientId ->
          Held clientId s entry)
  | .postRequestPutDone params claims entry deadline enqueued =>
      deadline ≤ now + seconds cfg.maxTimeoutMs ∧
        (params.block = true -> claims.clientId = clientId -> enqueued = true ->
          Held clientId s entry)
  | .postRequestGet _ claims entry expires =>
      claims.clientId = clientId -> Attends cfg clientId s entry expires
  | .getResponseGet owner entry expires =>
      owner = clientId -> Attends cfg clientId s entry expires
  | _ => True

section

variable {cfg : Settings} {clientId : String} {clock : Clock}

theorem Held.of_ages {s s' : Store} {entry : Ref} (h : Held clientId s entry)
    (hages : Ages clientId clock s s') : Held clientId s' entry := by
  rcases h with ⟨hregistered, e, he⟩
  exact ⟨hages.registered entry hregistered, hages.live entry e he⟩

theorem Attends.of_ages {s s' : Store} (hages : Ages clientId clock s s')
    (hseen : forall (entry : Ref) e, s.clientEntries[entry]? = some e ->
      e.lastSeen ≤ clock.reading 0)
    {entry : Ref} {expires : Time} (h : Attends cfg clientId s entry expires) :
    Attends cfg clientId s' entry expires := by
  rcases h with ⟨hregistered, e, he, hexpires⟩
  rcases hages.live entry e he with ⟨e', he'⟩
  refine ⟨hages.registered entry hregistered, e', he', ?_⟩
  have hlater : e.lastSeen ≤ e'.lastSeen := by
    rcases hages.seen entry e' he' with ⟨x, hx, hsame⟩ | ⟨hreads, _⟩
    · rw [he] at hx
      cases hx
      exact le_of_eq hsame
    · exact le_trans (hseen entry e he) hreads
  linarith

theorem Attended.of_ages {s s' : Store} {now : Time} {phase : Phase}
    (hages : Ages clientId clock s s')
    (hseen : forall (entry : Ref) e, s.clientEntries[entry]? = some e ->
      e.lastSeen ≤ clock.reading 0)
    (hnow : now ≤ clock.reading 3) (h : Attended cfg clientId now s phase) :
    Attended cfg clientId (clock.reading 3) s' phase := by
  cases phase with
  | postRequestBody params claims entry totalTimeoutMs =>
      rcases h with ⟨hmax, hentry⟩
      constructor
      · exact hmax
      · intro hblock hid hpositive
        exact (hentry hblock hid hpositive).of_ages hages
  | postRequestPut params claims entry deadline queue pypeReq expires =>
      rcases h with ⟨hdeadline, hentry⟩
      constructor
      · linarith
      · intro hblock hid
        exact (hentry hblock hid).of_ages hages
  | postRequestPutDone params claims entry deadline enqueued =>
      rcases h with ⟨hdeadline, hentry⟩
      constructor
      · linarith
      · intro hblock hid henqueued
        exact (hentry hblock hid henqueued).of_ages hages
  | postRequestGet params claims entry expires =>
      intro hid
      exact (h hid).of_ages hages hseen
  | getResponseGet owner entry expires =>
      intro hid
      exact (h hid).of_ages hages hseen
  | received | postRequestGetDone | getRequestGet | getRequestGetDone
  | postResponseBody | postResponsePut | postResponsePutDone
  | getResponseGetDone | done | closed => trivial

/-!
## Stretches
-/

structure Timely (cfg : Settings) (clientId : String) (clock : Clock) (s : Store)
    (r : Store × Phase) : Prop where
  ages : Ages clientId clock s r.1
  attended : Attended cfg clientId (clock.reading 3) r.1 r.2

theorem Timely.after {s t : Store} {r : Store × Phase}
    (hages : Ages clientId clock s t) (h : Timely cfg clientId clock t r) :
    Timely cfg clientId clock s r :=
  ⟨hages.trans h.ages, h.attended⟩

theorem timely_answer (task : TaskId) (reply : HttpReply) (s : Store) :
    Timely cfg clientId clock s (answer task reply s) :=
  ⟨Ages.of_eq rfl rfl, trivial⟩

theorem timely_queuePut {timeoutMs : Int} {put : Store -> Option Store}
    {resume : Bool -> Store -> Store × Phase} {wait : Phase} {s : Store}
    (hput : forall s', put s = some s' ->
      Ages clientId clock s s' ∧ Timely cfg clientId clock s' (resume true s'))
    (hfull : Timely cfg clientId clock s (resume false s))
    (hwait : timeoutMs ≠ 0 -> Attended cfg clientId (clock.reading 3) s wait) :
    Timely cfg clientId clock s (queuePut timeoutMs put resume wait s) := by
  unfold queuePut
  split
  · split
    · rename_i s' hs'
      rcases hput s' hs' with ⟨hages, hresume⟩
      exact Timely.after hages hresume
    · exact hfull
  · rename_i hpositive
    exact ⟨Ages.refl s, hwait hpositive⟩

theorem timely_queueGet {item : Type} {timeoutMs : Int}
    {get : Store -> Option (item × Store)}
    {resume : Option item -> Store -> Store × Phase} {wait : Phase} {s : Store}
    (hget : forall x s', get s = some (x, s') -> Ages clientId clock s s')
    (hresume : forall taken t, Timely cfg clientId clock t (resume taken t))
    (hwait : timeoutMs ≠ 0 -> Attended cfg clientId (clock.reading 3) s wait) :
    Timely cfg clientId clock s (queueGet timeoutMs get resume wait s) := by
  unfold queueGet
  split
  · split
    · rename_i x s' hs'
      exact Timely.after (hget x s' hs') (hresume _ s')
    · exact hresume none s
  · rename_i hpositive
    exact ⟨Ages.refl s, hwait hpositive⟩

/-!
## The handlers
-/

theorem held_openClient {s : Store} (hwell : s.WellFormed cfg) (createdAt : Time) :
    Held clientId (ClientRegistry.getOrCreate cfg clientId createdAt s).2
      (ClientRegistry.getOrCreate cfg clientId createdAt s).1 := by
  have hregistered := ClientRegistry.get?_getOrCreate cfg clientId createdAt s
  have howner := (hwell.openClient clientId createdAt).client _ _ hregistered
  rcases ownerOf_eq_some.mp howner with ⟨e, he, _⟩
  exact ⟨hregistered, e, he⟩

theorem attends_bump {s : Store} {entry : Ref} {now expires : Time}
    (h : Held clientId s entry)
    (hexpires : expires ≤ now + cfg.clientInactivityThresholdSeconds) :
    Attends cfg clientId (ClientRegistry.bumpLastSeen clientId now s) entry
      expires := by
  rcases h with ⟨hregistered, e, he⟩
  unfold ClientRegistry.bumpLastSeen
  rw [hregistered]
  refine ⟨hregistered, { e with lastSeen := now }, ?_, hexpires⟩
  simp [he]

variable {task : TaskId}

theorem timely_postRequestResponded (response : Option PypeResponse) (s : Store) :
    Timely cfg clientId clock s (postRequestResponded task response s) := by
  cases response <;> exact timely_answer _ _ _

theorem timely_postRequestEnqueued {params : PostRequest} {claims : ClientClaims}
    {entry : Ref} {deadline bumpedAt remainingAt : Time} {enqueued : Bool}
    {s : Store} (hreads : clock.Reads bumpedAt)
    (hdeadline : deadline ≤ bumpedAt + cfg.clientInactivityThresholdSeconds)
    (hentry : params.block = true -> claims.clientId = clientId ->
      enqueued = true -> remainingMs deadline remainingAt ≠ 0 ->
        Held clientId s entry) :
    Timely cfg clientId clock s
      (postRequestEnqueued task params claims entry deadline bumpedAt remainingAt
        enqueued s) := by
  unfold postRequestEnqueued
  apply Timely.after (ages_bump claims.clientId hreads s)
  dsimp only
  split
  · exact timely_answer _ _ _
  · rename_i henqueued
    split
    · exact timely_answer _ _ _
    · rename_i hblock
      refine timely_queueGet (fun _ _ htake => ages_takeResponse htake)
        timely_postRequestResponded ?_
      intro hbudget hid
      have hheld : Held clientId s entry :=
        hentry (by simpa using hblock) hid (by simpa using henqueued) hbudget
      rw [hid]
      apply attends_bump hheld
      exact le_trans (seconds_remainingMs_le hbudget) hdeadline

theorem timely_postRequestToService {params : PostRequest} {claims : ClientClaims}
    {s : Store} (hwell : s.WellFormed cfg) :
    Timely cfg clientId clock s
      (postRequestToService cfg task params claims clock s) := by
  have hopened : clock.Reads (clock.reading 0) := clock.reads_reading (by decide)
  have hbump : clock.Reads (clock.reading 1) := clock.reads_reading (by decide)
  have hbumped : Ages clientId clock
      (ClientRegistry.getOrCreate cfg claims.clientId (clock.reading 0) s).2
      (ClientRegistry.bumpLastSeen claims.clientId (clock.reading 1)
        (ClientRegistry.getOrCreate cfg claims.clientId (clock.reading 0) s).2) :=
    ages_bump claims.clientId hbump _
  unfold postRequestToService
  apply Timely.after (ages_openClient cfg claims.clientId hopened s)
  apply Timely.after hbumped
  dsimp only
  split
  · exact timely_answer _ _ _
  · rename_i totalTimeoutMs hok
    refine ⟨Ages.refl _, (normalizeTimeout_ok cfg.maxTimeoutMs_nonneg hok).right, ?_⟩
    intro _ hid _
    rw [hid] at hbumped ⊢
    exact (held_openClient hwell _).of_ages hbumped

theorem timely_getRequestDequeued (item : Option PypeRequest) (s : Store) :
    Timely cfg clientId clock s (getRequestDequeued task item s) := by
  cases item <;> exact timely_answer _ _ _

theorem timely_getRequestForService {serviceName : String} {timeout : Option Int}
    {claims : ServiceClaims} {s : Store} :
    Timely cfg clientId clock s
      (getRequestForService cfg task serviceName timeout claims clock s) := by
  unfold getRequestForService
  split
  · exact timely_answer _ _ _
  · split
    · exact timely_answer _ _ _
    · apply Timely.after (ages_openService cfg serviceName s)
      exact timely_queueGet (fun _ _ htake => ages_takeRequest htake)
        timely_getRequestDequeued (fun _ => trivial)

theorem timely_postResponseEnqueued (enqueued : Bool) (s : Store) :
    Timely cfg clientId clock s (postResponseEnqueued task enqueued s) := by
  cases enqueued <;> exact timely_answer _ _ _

theorem timely_postResponseBody {params : PostResponse} {entry : Ref}
    {timeoutMs : Int} {s : Store} :
    Timely cfg clientId clock s
      (postResponseBody cfg task params entry timeoutMs clock s) :=
  timely_queuePut
    (fun s' hput => ⟨ages_putResponse hput, timely_postResponseEnqueued true s'⟩)
    (timely_postResponseEnqueued false s) (fun _ => trivial)

theorem timely_postResponseToClient {params : PostResponse} {s : Store} :
    Timely cfg clientId clock s
      (postResponseToClient cfg task params clock s) := by
  have hopened : clock.Reads (clock.reading 0) := clock.reads_reading (by decide)
  unfold postResponseToClient
  apply Timely.after (ages_openClient cfg params.clientId hopened s)
  dsimp only
  split
  · exact timely_answer _ _ _
  · exact ⟨Ages.refl _, trivial⟩

theorem timely_getResponseDequeued {owner : String} {bumpedAt : Time}
    (hreads : clock.Reads bumpedAt) (item : Option PypeResponse) (s : Store) :
    Timely cfg clientId clock s (getResponseDequeued task owner bumpedAt item s) := by
  unfold getResponseDequeued
  apply Timely.after (ages_bump owner hreads s)
  cases item <;> exact timely_answer _ _ _

variable (hbudget : seconds cfg.maxTimeoutMs ≤ cfg.clientInactivityThresholdSeconds)

include hbudget

theorem timely_postRequestBody {params : PostRequest} {claims : ClientClaims}
    {entry : Ref} {totalTimeoutMs : Int} {now : Time} {s : Store}
    (h : Attended cfg clientId now s
      (.postRequestBody params claims entry totalTimeoutMs)) :
    Timely cfg clientId clock s
      (postRequestBody cfg task params claims entry totalTimeoutMs clock s) := by
  rcases h with ⟨hmax, hentry⟩
  have htotal := seconds_le hmax
  have hfirst : clock.reading 0 ≤ clock.reading 1 := clock.mono (by decide)
  have hbump : clock.reading 0 ≤ clock.reading 2 := clock.mono (by decide)
  have hlast : clock.reading 0 ≤ clock.reading 3 := clock.mono (by decide)
  have hdeadline : clock.reading 0 + seconds totalTimeoutMs ≤
      clock.reading 2 + cfg.clientInactivityThresholdSeconds := by linarith
  -- with a zero timeout the deadline has come when the budget is computed
  have hpositive : forall {i : Nat}, clock.reading 0 ≤ clock.reading i ->
      remainingMs (clock.reading 0 + seconds totalTimeoutMs) (clock.reading i) ≠ 0 ->
        totalTimeoutMs ≠ 0 := by
    rintro i hi hremaining rfl
    exact hremaining (remainingMs_eq_zero (by simpa [seconds] using hi))
  unfold postRequestBody
  apply Timely.after (ages_openService cfg params.serviceName s)
  have hopen : params.block = true -> claims.clientId = clientId ->
      totalTimeoutMs ≠ 0 ->
      Held clientId (ServiceRegistry.getOrCreate cfg params.serviceName s).2 entry := by
    intro hblock hid htimeout
    have hages : Ages clientId clock s _ := ages_openService cfg params.serviceName s
    exact (hentry hblock hid htimeout).of_ages hages
  refine timely_queuePut ?_ ?_ ?_
  · intro s' hput
    have hages : Ages clientId clock _ s' := ages_putRequest hput
    refine ⟨hages, timely_postRequestEnqueued (clock.reads_reading (by decide))
      hdeadline ?_⟩
    intro hblock hid _ hremaining
    exact (hopen hblock hid (hpositive hlast hremaining)).of_ages hages
  · apply timely_postRequestEnqueued (clock.reads_reading (by decide)) hdeadline
    intro hblock hid henqueued
    cases henqueued
  · intro hremaining
    constructor
    · linarith
    · intro hblock hid
      exact hopen hblock hid (hpositive hfirst hremaining)

theorem timely_getResponseForClient {owner : String} {timeout : Option Int}
    {claims : ClientClaims} {s : Store} (hwell : s.WellFormed cfg) :
    Timely cfg clientId clock s
      (getResponseForClient cfg task owner timeout claims clock s) := by
  have hopened : clock.Reads (clock.reading 0) := clock.reads_reading (by decide)
  have hbump : clock.Reads (clock.reading 1) := clock.reads_reading (by decide)
  have hagain : clock.Reads (clock.reading 2) := clock.reads_reading (by decide)
  unfold getResponseForClient
  split
  · exact timely_answer _ _ _
  · apply Timely.after (ages_openClient cfg owner hopened s)
    apply Timely.after (ages_bump owner hbump _)
    dsimp only
    split
    · exact timely_answer _ _ _
    · rename_i timeoutMs hok
      refine timely_queueGet (fun _ _ htake => ages_takeResponse htake)
        (timely_getResponseDequeued hagain) ?_
      intro _ hid
      rw [hid]
      apply attends_bump (held_openClient hwell _)
      have hle := seconds_le (normalizeTimeout_ok cfg.maxTimeoutMs_nonneg hok).right
      linarith

def LogsOff (jwt : Jwt) (request : HttpRequest) (clientId : String) : Prop :=
  request.endpoint = .clientLogoff ∧ ActsFor jwt request.authorization clientId

theorem timely_dispatch {jwt : Jwt} {request : HttpRequest} {secret : String}
    {s : Store} (hwell : s.WellFormed cfg)
    (hstays : ¬ LogsOff jwt request clientId) :
    Timely cfg clientId clock s
      (dispatch cfg jwt task request secret clock s) := by
  generalize hstretch : dispatch cfg jwt task request secret clock s = r
  cases dispatched_of_dispatch hstretch with
  | refused e => exact timely_answer _ _ _
  | unprocessable => exact timely_answer _ _ _
  | postRequest => exact timely_postRequestToService hwell
  | getRequest => exact timely_getRequestForService
  | postResponse => exact timely_postResponseToClient
  | getResponse => exact timely_getResponseForClient hbudget hwell
  | @clientLogoff claims hroute hclaims =>
      have hne : claims.clientId ≠ clientId := by
        intro heq
        apply hstays
        constructor
        · exact hroute
        · rw [← heq]
          exact actsFor_of_clientClaims hclaims
      exact Timely.after (ages_remove hne _ s) (timely_answer _ _ _)
  | serviceAuth => exact Timely.after (ages_openService cfg _ s) (timely_answer _ _ _)
  | clientAuth => exact timely_answer _ _ _
  | servicesLoad => exact timely_answer _ _ _

theorem timely_advance {jwt : Jwt} {request : HttpRequest} {phase : Phase}
    {action : Action} {now : Time} {s : Store} {r : Store × Phase}
    (hwell : s.WellFormed cfg) (hstays : ¬ LogsOff jwt request clientId)
    (hnow : now ≤ clock.reading 0) (h : Attended cfg clientId now s phase)
    (hadvance : advance cfg jwt task request phase action clock s = some r) :
    Timely cfg clientId clock s r := by
  have hlast : now ≤ clock.reading 3 := le_trans hnow (clock.mono (by decide))
  cases stretch_of_advance hadvance with
  | start => exact timely_dispatch hbudget hwell hstays
  | startClosed => exact ⟨Ages.refl s, trivial⟩
  | postRequestBody => exact timely_postRequestBody hbudget h
  | postRequestBodyClosed => exact ⟨Ages.refl s, trivial⟩
  | postRequestPutServed hput =>
      rename_i s'
      have hages : Ages clientId clock s s' := ages_putRequest hput
      refine ⟨hages, by linarith [h.left], ?_⟩
      intro hblock hid _
      exact (h.right hblock hid).of_ages hages
  | postRequestPutExpired =>
      refine ⟨Ages.refl s, by linarith [h.left], ?_⟩
      intro _ _ henqueued
      cases henqueued
  | postRequestPutDone =>
      refine timely_postRequestEnqueued (clock.reads_reading (by decide))
        (by linarith [h.left]) ?_
      intro hblock hid henqueued _
      exact h.right hblock hid henqueued
  | postRequestGetServed htake => exact ⟨ages_takeResponse htake, trivial⟩
  | postRequestGetExpired => exact ⟨Ages.refl s, trivial⟩
  | postRequestGetDone => exact timely_postRequestResponded _ s
  | getRequestGetServed htake => exact ⟨ages_takeRequest htake, trivial⟩
  | getRequestGetExpired => exact ⟨Ages.refl s, trivial⟩
  | getRequestGetDone => exact timely_getRequestDequeued _ s
  | postResponseBody => exact timely_postResponseBody
  | postResponseBodyClosed => exact ⟨Ages.refl s, trivial⟩
  | postResponsePutServed hput => exact ⟨ages_putResponse hput, trivial⟩
  | postResponsePutExpired => exact ⟨Ages.refl s, trivial⟩
  | postResponsePutDone => exact timely_postResponseEnqueued _ s
  | getResponseGetServed htake => exact ⟨ages_takeResponse htake, trivial⟩
  | getResponseGetExpired => exact ⟨Ages.refl s, trivial⟩
  | getResponseGetDone =>
      exact timely_getResponseDequeued (clock.reads_reading (by decide)) _ s
  | doneClosed => exact ⟨Ages.refl s, trivial⟩

end

/-!
## Ticks
-/

theorem ClientQueueReaper.get?_examineAll {cfg : Settings} {now : Time}
    {clientId : String} {entry : Ref} {e : ClientEntry} (keys : List String)
    (state : Store × Nat)
    (hregistered : state.1.clientRegistry.get? clientId = some entry)
    (he : state.1.clientEntries[entry]? = some e)
    (hfresh : clientId ∈ keys ->
      now - e.lastSeen ≤ cfg.clientInactivityThresholdSeconds) :
    (examineAll cfg now keys state).1.clientRegistry.get? clientId = some entry := by
  refine (examineAll_invariant (fun t => t.clientRegistry.get? clientId = some entry ∧
    t.clientEntries[entry]? = some e) keys ?_ state ⟨hregistered, he⟩).left
  rintro key hmem t examined hget hstale ⟨hregistered, he⟩
  have hne : key ≠ clientId := by
    rintro rfl
    rw [ClientRegistry.get, hregistered] at hget
    dsimp only at hget
    rw [he] at hget
    cases hget
    exact absurd (hfresh hmem) (not_le.mpr hstale)
  constructor
  · have hages : Ages clientId (Clock.constant now) t
        (ClientRegistry.remove (.reaper now) key t) := ages_remove hne _ _
    exact hages.registered entry hregistered
  · unfold ClientRegistry.remove
    split <;> exact he

theorem ClientQueueReaper.clientEntries_tick (cfg : Settings) (now : Time)
    (reaper : ClientQueueReaper) (s : Store) :
    (reaper.tick cfg now s).2.1.clientEntries = s.clientEntries := by
  refine tick_invariant (fun t => t.clientEntries = s.clientEntries) ?_ reaper rfl
  intro other t _ _ _ ih
  unfold ClientRegistry.remove
  split <;> exact ih

/-!
## Runs
-/

/-- The time at which the handler's wait on a response queue of the client ends at
the latest. -/
def Phase.expires? (clientId : String) : Phase -> Option Time
  | .postRequestGet _ claims _ expires =>
      if claims.clientId = clientId then some expires else none
  | .getResponseGet owner _ expires =>
      if owner = clientId then some expires else none
  | _ => none

def Phase.WaitsOn (clientId : String) (entry : Ref) : Phase -> Prop
  | .postRequestGet _ claims held _ => claims.clientId = clientId ∧ held = entry
  | .getResponseGet owner held _ => owner = clientId ∧ held = entry
  | _ => False

theorem Phase.waitsOn_of_expires? {clientId : String} {phase : Phase}
    {expires : Time} (h : phase.expires? clientId = some expires) :
    exists entry, phase.WaitsOn clientId entry := by
  cases phase with
  | postRequestGet params claims entry e =>
      simp only [expires?, Option.ite_none_right_eq_some] at h
      exact ⟨entry, h.left, rfl⟩
  | getResponseGet owner entry e =>
      simp only [expires?, Option.ite_none_right_eq_some] at h
      exact ⟨entry, h.left, rfl⟩
  | received | postRequestBody | postRequestPut | postRequestPutDone
  | postRequestGetDone | getRequestGet | getRequestGetDone | postResponseBody
  | postResponsePut | postResponsePutDone | getResponseGetDone | done
  | closed => cases h

/-- The handler of a `block=1` POST by the client has looked up the entry that it
is going to wait on, and has not begun to wait on it. -/
def Phase.posting (clientId : String) : Phase -> Bool
  | .postRequestBody params claims _ totalTimeoutMs =>
      params.block && claims.clientId == clientId && totalTimeoutMs != 0
  | .postRequestPut params claims _ _ _ _ _ =>
      params.block && claims.clientId == clientId
  | .postRequestPutDone params claims _ _ enqueued =>
      params.block && claims.clientId == clientId && enqueued
  | _ => false

namespace App

def StaysOn (jwt : Jwt) (clientId : String) (s : App) : Event -> Prop
  | .run task _ _ =>
      match s.tasks.get? task with
      | some t => ¬ LogsOff jwt t.request clientId
      | none => True
  | _ => True

/-- No wait of the client has outlasted its budget when the reaper ticks. -/
def WaitsEnd (clientId : String) (s : App) : Event -> Prop
  | .tick now =>
      forall item, item ∈ s.tasks.entries ->
        forall expires, expires ∈ item.2.phase.expires? clientId -> now ≤ expires
  | _ => True

/-- A tick that examines the client while one of its `block=1` POSTs has not begun
to wait finds that it was seen recently enough. -/
def SparesPosting (cfg : Settings) (clientId : String) (s : App) : Event -> Prop
  | .tick now =>
      clientId ∈ s.reaper.batch cfg s.store ->
      (exists item, item ∈ s.tasks.entries ∧
        item.2.phase.posting clientId = true) ->
      forall e, e ∈ ClientRegistry.get clientId s.store ->
        now - e.lastSeen ≤ cfg.clientInactivityThresholdSeconds
  | _ => True

/-- Whoever waits for the client waits on its registered queue, and a response
posted now is put there. -/
def NeverDetached (cfg : Settings) (clientId : String) (s : App) : Prop :=
  forall task t entry, s.tasks.get? task = some t ->
    t.phase.WaitsOn clientId entry ->
      s.store.clientRegistry.get? clientId = some entry ∧
        forall createdAt,
          ClientRegistry.getOrCreate cfg clientId createdAt s.store =
            (entry, s.store)

/-- Nobody was seen in the future, and every handler is attended to. -/
structure Attending (cfg : Settings) (clientId : String) (s : App) : Prop where
  seen : forall (entry : Ref) e, s.store.clientEntries[entry]? = some e ->
    e.lastSeen ≤ s.now
  attended : forall task t, s.tasks.get? task = some t ->
    Attended cfg clientId s.now s.store t.phase

theorem attending_initial (cfg : Settings) (clientId : String) :
    Attending cfg clientId initial where
  seen := by
    intro entry e he
    cases he
  attended := by
    intro task t ht
    cases ht

section

variable {cfg : Settings} {jwt : Jwt} {clientId : String}

theorem Attending.neverDetached {s : App} (h : Attending cfg clientId s) :
    NeverDetached cfg clientId s := by
  intro task t entry ht hwaits
  have hregistered : s.store.clientRegistry.get? clientId = some entry := by
    have hattended := h.attended task t ht
    cases hphase : t.phase with
    | postRequestGet params claims held expires =>
        rw [hphase] at hwaits hattended
        rcases hwaits with ⟨hid, rfl⟩
        exact (hattended hid).left
    | getResponseGet owner held expires =>
        rw [hphase] at hwaits hattended
        rcases hwaits with ⟨hid, rfl⟩
        exact (hattended hid).left
    | received | postRequestBody | postRequestPut | postRequestPutDone
    | postRequestGetDone | getRequestGet | getRequestGetDone | postResponseBody
    | postResponsePut | postResponsePutDone | getResponseGetDone | done
    | closed =>
        rw [hphase] at hwaits
        cases hwaits
  constructor
  · exact hregistered
  · intro createdAt
    rw [ClientRegistry.getOrCreate, hregistered]

theorem attended_tick {s : App} {now : Time} (h : Attending cfg clientId s)
    (hnow : s.now ≤ now) (hwaits : s.WaitsEnd clientId (.tick now))
    (hspares : s.SparesPosting cfg clientId (.tick now)) {task : TaskId} {t : Task}
    (ht : s.tasks.get? task = some t) :
    Attended cfg clientId now (s.reaper.tick cfg now s.store).2.1 t.phase := by
  have hattended := h.attended task t ht
  have hmem := Dict.mem_entries_iff.mpr ht
  have held : forall {entry : Ref}, Held clientId s.store entry ->
      (forall e, s.store.clientEntries[entry]? = some e ->
        clientId ∈ s.reaper.batch cfg s.store ->
          now - e.lastSeen ≤ cfg.clientInactivityThresholdSeconds) ->
      Held clientId (s.reaper.tick cfg now s.store).2.1 entry := by
    rintro entry ⟨hregistered, e, he⟩ hfresh
    constructor
    · rw [ClientQueueReaper.tick_store]
      exact ClientQueueReaper.get?_examineAll _ _ hregistered he (hfresh e he)
    · rw [ClientQueueReaper.clientEntries_tick]
      exact ⟨e, he⟩
  have posting : t.phase.posting clientId = true -> forall {entry : Ref},
      Held clientId s.store entry ->
        Held clientId (s.reaper.tick cfg now s.store).2.1 entry := by
    intro hposting entry hheld
    apply held hheld
    intro e he hexamined
    apply hspares hexamined ⟨_, hmem, hposting⟩ e
    rw [ClientRegistry.get, hheld.left]
    exact he
  have waiting : forall {entry : Ref} {expires : Time}, now ≤ expires ->
      Attends cfg clientId s.store entry expires ->
        Attends cfg clientId (s.reaper.tick cfg now s.store).2.1 entry expires := by
    rintro entry expires hends ⟨hregistered, e, he, hexpires⟩
    have hheld : Held clientId (s.reaper.tick cfg now s.store).2.1 entry := by
      apply held ⟨hregistered, e, he⟩
      intro e' he' _
      rw [he] at he'
      cases he'
      linarith
    refine ⟨hheld.left, e, ?_, hexpires⟩
    rw [ClientQueueReaper.clientEntries_tick]
    exact he
  cases hphase : t.phase with
  | postRequestBody params claims entry totalTimeoutMs =>
      rw [hphase] at hattended posting
      rcases hattended with ⟨hmax, hentry⟩
      constructor
      · exact hmax
      · intro hblock hid hpositive
        exact posting (by simp [Phase.posting, hblock, hid, hpositive])
          (hentry hblock hid hpositive)
  | postRequestPut params claims entry deadline queue pypeReq expires =>
      rw [hphase] at hattended posting
      rcases hattended with ⟨hdeadline, hentry⟩
      constructor
      · linarith
      · intro hblock hid
        exact posting (by simp [Phase.posting, hblock, hid]) (hentry hblock hid)
  | postRequestPutDone params claims entry deadline enqueued =>
      rw [hphase] at hattended posting
      rcases hattended with ⟨hdeadline, hentry⟩
      constructor
      · linarith
      · intro hblock hid henqueued
        exact posting (by simp [Phase.posting, hblock, hid, henqueued])
          (hentry hblock hid henqueued)
  | postRequestGet params claims entry expires =>
      rw [hphase] at hattended
      intro hid
      refine waiting ?_ (hattended hid)
      apply hwaits _ hmem expires
      simp [hphase, Phase.expires?, hid]
  | getResponseGet owner entry expires =>
      rw [hphase] at hattended
      intro hid
      refine waiting ?_ (hattended hid)
      apply hwaits _ hmem expires
      simp [hphase, Phase.expires?, hid]
  | received | postRequestGetDone | getRequestGet | getRequestGetDone
  | postResponseBody | postResponsePut | postResponsePutDone
  | getResponseGetDone | done | closed => trivial

theorem Attending.step {s : App} {e : Event} (h : Attending cfg clientId s)
    (hbudget : seconds cfg.maxTimeoutMs ≤ cfg.clientInactivityThresholdSeconds)
    (hinv : s.Invariant cfg jwt) (hstays : s.StaysOn jwt clientId e)
    (hwaits : s.WaitsEnd clientId e) (hspares : s.SparesPosting cfg clientId e) :
    Attending cfg clientId (step cfg jwt s e) := by
  rcases step_cases cfg jwt s e with
    hsame | ⟨task, request, _, _, hstep⟩ |
    ⟨task, t, action, clock, store, phase, rfl, ht, hnow, hadvance, hstep⟩ |
    ⟨now, rfl, hnow, hstep⟩
  · rw [hsame]
    exact h
  · rw [hstep]
    constructor
    · exact h.seen
    · intro other u hu
      rw [Dict.get?_set] at hu
      split at hu
      · cases hu
        trivial
      · exact h.attended other u hu
  · have hstays' : ¬ LogsOff jwt t.request clientId := by
      simpa [StaysOn, ht] using hstays
    have htimely : Timely cfg clientId clock s.store (store, phase) :=
      timely_advance hbudget hinv.wellFormed hstays' hnow (h.attended task t ht)
        hadvance
    have hpast : forall (entry : Ref) e, s.store.clientEntries[entry]? = some e ->
        e.lastSeen ≤ clock.reading 0 := by
      intro entry e he
      exact le_trans (h.seen entry e he) hnow
    have hclock : clock.reading 0 ≤ clock.reading 3 := clock.mono (by decide)
    rw [hstep]
    constructor
    · intro entry e' he'
      rcases htimely.ages.seen entry e' he' with ⟨e, he, hseen⟩ | ⟨_, hread⟩
      · rw [← hseen]
        exact le_trans (hpast entry e he) hclock
      · exact hread
    · intro other u hu
      rw [Dict.get?_set] at hu
      split at hu
      · cases hu
        exact htimely.attended
      · exact (h.attended other u hu).of_ages htimely.ages hpast
          (le_trans hnow hclock)
  · rw [hstep]
    constructor
    · intro entry e he
      dsimp only at he
      rw [ClientQueueReaper.clientEntries_tick] at he
      exact le_trans (h.seen entry e he) hnow
    · intro task t ht
      exact attended_tick h hnow hwaits hspares ht

end

/-- In every run in which the client does not log off, no wait outlasts its budget
and posting clients are spared, nobody who waits for the client is detached. -/
theorem never_detached (cfg : Settings) (jwt : Jwt) (clientId : String)
    (hbudget : seconds cfg.maxTimeoutMs ≤ cfg.clientInactivityThresholdSeconds)
    (es : List Event)
    (hstays : Along (step cfg jwt) (StaysOn jwt clientId) initial es)
    (hwaits : Along (step cfg jwt) (WaitsEnd clientId) initial es)
    (hspares : Along (step cfg jwt) (SparesPosting cfg clientId) initial es)
    (seen : List Event) (hseen : seen <+: es) :
    NeverDetached cfg clientId (reached cfg jwt seen) := by
  rcases hseen with ⟨rest, rfl⟩
  have hguards := along_and hstays (along_and hwaits hspares)
  have hboth : Invariant cfg jwt (reached cfg jwt seen) ∧
      Attending cfg clientId (reached cfg jwt seen) := by
    refine run_invariant_along
      (fun s => Invariant cfg jwt s ∧ Attending cfg clientId s) ?_
      ⟨invariant_initial cfg jwt, attending_initial cfg clientId⟩
      (along_append.mp hguards).left
    rintro s e ⟨hstays, hwaits, hspares⟩ h
    exact ⟨h.left.step e, h.right.step hbudget h.left hstays hwaits hspares⟩
  exact hboth.right.neverDetached

instance (jwt : Jwt) (request : HttpRequest) (clientId : String) :
    Decidable (LogsOff jwt request clientId) := instDecidableAnd

instance decidableStaysOn (jwt : Jwt) (clientId : String) (s : App) :
    (e : Event) -> Decidable (s.StaysOn jwt clientId e)
  | .run task _ _ =>
      match h : s.tasks.get? task with
      | some t => decidable_of_iff (¬ LogsOff jwt t.request clientId)
          (by simp [StaysOn, h])
      | none => isTrue (by simp [StaysOn, h])
  | .connect .. => isTrue trivial
  | .tick _ => isTrue trivial

instance decidableWaitsEnd (clientId : String) (s : App) :
    (e : Event) -> Decidable (s.WaitsEnd clientId e)
  | .tick now => inferInstanceAs (Decidable (forall item, item ∈ s.tasks.entries ->
      forall expires, expires ∈ item.2.phase.expires? clientId -> now ≤ expires))
  | .run .. => isTrue trivial
  | .connect .. => isTrue trivial

instance decidableSparesPosting (cfg : Settings) (clientId : String) (s : App) :
    (e : Event) -> Decidable (s.SparesPosting cfg clientId e)
  | .tick now => inferInstanceAs (Decidable (
      clientId ∈ s.reaper.batch cfg s.store ->
      (exists item, item ∈ s.tasks.entries ∧
        item.2.phase.posting clientId = true) ->
      forall e, e ∈ ClientRegistry.get clientId s.store ->
        now - e.lastSeen ≤ cfg.clientInactivityThresholdSeconds))
  | .run .. => isTrue trivial
  | .connect .. => isTrue trivial

def promptBody : List Event :=
  [.connect 0 ⟨some "Bearer client", .postRequest ⟨"s", "1", none, true, none, []⟩⟩,
    .run 0 (.start "") (Clock.constant 0),
    .tick 60,
    .run 0 .body (Clock.constant 100),
    .run 0 .serve (Clock.constant 100),
    .run 0 .resume (Clock.constant 100),
    .tick 580]

theorem never_detached_promptBody :
    NeverDetached (Settings.default "10.0.0.1") "c"
      (reached (Settings.default "10.0.0.1") (Jwt.ofPair "c" "s") promptBody) :=
  never_detached _ _ "c" (by decide +kernel) promptBody (by decide +kernel)
    (by decide +kernel) (by decide +kernel) promptBody (List.prefix_refl _)

def slowBody : List Event :=
  [.connect 0 ⟨some "Bearer client", .postRequest ⟨"s", "1", none, true, none, []⟩⟩,
    .run 0 (.start "") (Clock.constant 0),
    .tick 601,
    .run 0 .body (Clock.constant 700),
    .run 0 .serve (Clock.constant 700),
    .run 0 .resume (Clock.constant 700)]

/-- The client did not log off and no wait outlasts its budget, but the client
waits on a queue that is no longer registered. -/
theorem slowBody_detached :
    seconds (Settings.default "10.0.0.1").maxTimeoutMs ≤
        (Settings.default "10.0.0.1").clientInactivityThresholdSeconds ∧
      Along (step (Settings.default "10.0.0.1") (Jwt.ofPair "c" "s"))
        (StaysOn (Jwt.ofPair "c" "s") "c") initial slowBody ∧
      Along (step (Settings.default "10.0.0.1") (Jwt.ofPair "c" "s"))
        (WaitsEnd "c") initial slowBody ∧
      ¬ NeverDetached (Settings.default "10.0.0.1") "c"
        (reached (Settings.default "10.0.0.1") (Jwt.ofPair "c" "s") slowBody) := by
  refine ⟨by decide +kernel, by decide +kernel, by decide +kernel, ?_⟩
  intro h
  have hwaiting : (((reached (Settings.default "10.0.0.1") (Jwt.ofPair "c" "s")
      slowBody).tasks.get? 0).bind fun t => t.phase.expires? "c").isSome = true := by
    decide +kernel
  rcases Option.isSome_iff_exists.mp hwaiting with ⟨expires, hexpires⟩
  rcases Option.bind_eq_some_iff.mp hexpires with ⟨t, ht, hphase⟩
  rcases Phase.waitsOn_of_expires? hphase with ⟨entry, hwaits⟩
  have hnone : (reached (Settings.default "10.0.0.1") (Jwt.ofPair "c" "s")
      slowBody).store.clientRegistry.get? "c" = none := by
    decide +kernel
  rw [(h 0 t entry ht hwaits).left] at hnone
  cases hnone

end App

end Server
end Pype
