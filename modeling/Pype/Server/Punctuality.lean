import Pype.Server.Transcripts
import Pype.Server.Waiting

/-!
# How soon a handler answers

Once a handler has the whole of its request, its answer is due within its timeout, both
phases of a `block=1` POST together.  It comes later than that by no more than twice the
time for which the event loop leaves it alone when it has something to do.
-/

namespace Pype
namespace Server

open Foundation Store

/-- The handler does not have the whole of its request, and may never have it. -/
def Phase.lacksRequest : Phase -> Bool
  | .received => true
  | .postRequestBody .. => true
  | .postResponseBody .. => true
  | .closed none => true
  | _ => false

/-- The moment from which the handler has something to do: when the budget of its wait
ends, or when it was woken. -/
def Phase.due? (woken : Time) : Phase -> Option Time
  | .postRequestPutDone .. => some woken
  | .postRequestGetDone _ => some woken
  | .getRequestGetDone _ => some woken
  | .postResponsePutDone _ => some woken
  | .getResponseGetDone .. => some woken
  | phase => phase.expiry?

/-- When the handler had the whole of its request, and when it was woken last. -/
structure Timing where
  began? : Option Time
  woken : Time

def Timing.next (phase phase' : Phase) (now : Time) (timing : Timing) : Timing where
  began? :=
    if phase.lacksRequest && !phase'.lacksRequest then some now else timing.began?
  woken := if phase.expiry?.isSome && phase'.expiry?.isNone then now else timing.woken

theorem Timing.next_self (phase : Phase) (now : Time) (timing : Timing) :
    timing.next phase phase now = timing := by
  cases hlacks : phase.lacksRequest <;> cases hexpiry : phase.expiry? <;>
    simp [next, hlacks, hexpiry]

/-!
## One stretch
-/

/-- The handler does not have the whole of its request, but its timeout. -/
def Phase.Pending (ms : Int) : Phase -> Prop
  | .received => True
  | .postRequestBody _ _ _ totalTimeoutMs => totalTimeoutMs = ms
  | .postResponseBody _ _ timeoutMs => timeoutMs = ms
  | .closed none => True
  | _ => False

/-- The handler has the whole of its request, and goes on by the limit, but for the
lateness of the event loop. -/
def Phase.InTime (limit lateness woken : Time) : Phase -> Prop
  | .postRequestPut _ _ _ deadline _ _ expires => expires ≤ deadline ∧ deadline ≤ limit
  | .postRequestPutDone _ _ _ deadline _ => deadline ≤ limit ∧ woken ≤ limit + lateness
  | .postRequestGet _ _ _ expires => expires ≤ limit
  | .postRequestGetDone _ => woken ≤ limit + lateness
  | .getRequestGet _ _ expires => expires ≤ limit
  | .getRequestGetDone _ => woken ≤ limit + lateness
  | .postResponsePut _ _ _ expires => expires ≤ limit
  | .postResponsePutDone _ => woken ≤ limit + lateness
  | .getResponseGet _ _ expires => expires ≤ limit
  | .getResponseGetDone _ _ => woken ≤ limit + lateness
  | .done _ => True
  | .closed (some _) => True
  | _ => False

def Phase.Replied (phase : Phase) : Prop :=
  exists reply, phase = .done reply ∨ phase = .closed (some reply)

section

variable {phase : Phase} {limit lateness woken : Time}

theorem Phase.Pending.lacksRequest {ms : Int} (h : phase.Pending ms) :
    phase.lacksRequest = true := by
  cases phase with
  | received | postRequestBody | postResponseBody => rfl
  | closed reply =>
      cases reply with
      | none => rfl
      | some reply => exact h.elim
  | postRequestPut | postRequestPutDone | postRequestGet | postRequestGetDone
  | getRequestGet | getRequestGetDone | postResponsePut | postResponsePutDone
  | getResponseGet | getResponseGetDone | done => exact h.elim

theorem Phase.InTime.hasRequest (h : phase.InTime limit lateness woken) :
    phase.lacksRequest = false := by
  cases phase with
  | received | postRequestBody | postResponseBody => exact h.elim
  | closed reply =>
      cases reply with
      | none => exact h.elim
      | some reply => rfl
  | postRequestPut | postRequestPutDone | postRequestGet | postRequestGetDone
  | getRequestGet | getRequestGetDone | postResponsePut | postResponsePutDone
  | getResponseGet | getResponseGetDone | done => rfl

theorem Phase.InTime.due_or_replied (h : phase.InTime limit lateness woken) :
    (exists due, due ∈ phase.due? woken) ∨ phase.Replied := by
  cases phase with
  | received | postRequestBody | postResponseBody => exact h.elim
  | done reply => exact Or.inr ⟨reply, Or.inl rfl⟩
  | closed reply =>
      cases reply with
      | none => exact h.elim
      | some reply => exact Or.inr ⟨reply, Or.inr rfl⟩
  | postRequestPut | postRequestPutDone | postRequestGet | postRequestGetDone
  | getRequestGet | getRequestGetDone | postResponsePut | postResponsePutDone
  | getResponseGet | getResponseGetDone => exact Or.inl ⟨_, rfl⟩

/-- What the handler has to do is due by the limit, but for the lateness. -/
theorem Phase.InTime.due_le (h : phase.InTime limit lateness woken)
    (hlateness : 0 ≤ lateness) {due : Time} (hdue : due ∈ phase.due? woken) :
    due ≤ limit + lateness := by
  cases phase with
  | postRequestPut =>
      cases hdue
      linarith [h.left, h.right]
  | postRequestGet | getRequestGet | postResponsePut | getResponseGet =>
      cases hdue
      have hexpires : due ≤ limit := h
      linarith
  | postRequestPutDone =>
      cases hdue
      exact h.right
  | postRequestGetDone | getRequestGetDone | postResponsePutDone | getResponseGetDone =>
      cases hdue
      exact h
  | received | postRequestBody | postResponseBody => exact h.elim
  | done | closed => cases hdue

/-- If it is not left alone for longer than the lateness, it is within twice that of the
limit, or has replied. -/
theorem Phase.InTime.within_or_replied {now : Time}
    (h : phase.InTime limit lateness woken) (hlateness : 0 ≤ lateness)
    (hpunctual : forall due, due ∈ phase.due? woken -> now ≤ due + lateness) :
    now ≤ limit + 2 * lateness ∨ phase.Replied := by
  rcases h.due_or_replied with ⟨due, hdue⟩ | hreplied
  · left
    linarith [h.due_le hlateness hdue, hpunctual due hdue]
  · exact Or.inr hreplied

end

section

variable {cfg : Settings} {jwt : Jwt} {task : TaskId} {request : HttpRequest}
  {clock : Clock} {s : Store} {limit lateness woken : Time}

theorem inTime_postRequestResponded (response : Option PypeResponse) (s : Store) :
    (postRequestResponded task response s).2.InTime limit lateness woken := by
  cases response <;> trivial

theorem inTime_getRequestDequeued (item : Option PypeRequest) (s : Store) :
    (getRequestDequeued task item s).2.InTime limit lateness woken := by
  cases item <;> trivial

theorem inTime_postResponseEnqueued (enqueued : Bool) (s : Store) :
    (postResponseEnqueued task enqueued s).2.InTime limit lateness woken := by
  cases enqueued <;> trivial

theorem inTime_getResponseDequeued {clientId : String} {bumpedAt : Time}
    (item : Option PypeResponse) (s : Store) :
    (getResponseDequeued task clientId bumpedAt item s).2.InTime limit lateness
      woken := by
  cases item <;> trivial

theorem inTime_postRequestEnqueued {params : PostRequest} {claims : ClientClaims}
    {entry : Ref} {deadline bumpedAt remainingAt : Time} (hdeadline : deadline ≤ limit)
    (enqueued : Bool) (s : Store) :
    (postRequestEnqueued task params claims entry deadline bumpedAt remainingAt enqueued
      s).2.InTime limit lateness woken := by
  unfold postRequestEnqueued
  dsimp only
  split
  · trivial
  · split
    · trivial
    · apply queueGet_ends (Phase.InTime _ lateness woken) inTime_postRequestResponded
      intro hbudget
      exact le_trans (seconds_remainingMs_le hbudget) hdeadline

theorem reading_add_le (clock : Clock) {n : Nat} (hn : n ≤ 3) (ms : Int) :
    clock.reading n + seconds ms ≤ clock.reading 3 + seconds ms := by
  have hle := clock.mono hn
  linarith

theorem inTime_postRequestBody {params : PostRequest} {claims : ClientClaims}
    {entry : Ref} {ms : Int} :
    (postRequestBody cfg task params claims entry ms clock s).2.InTime
      (clock.reading 3 + seconds ms) lateness woken := by
  have hdeadline := reading_add_le clock (Nat.zero_le 3) ms
  unfold postRequestBody
  apply queuePut_ends (Phase.InTime _ lateness woken)
  · exact inTime_postRequestEnqueued hdeadline
  · intro hbudget
    exact ⟨seconds_remainingMs_le hbudget, hdeadline⟩

theorem inTime_postResponseBody {params : PostResponse} {entry : Ref} {ms : Int} :
    (postResponseBody cfg task params entry ms clock s).2.InTime
      (clock.reading 3 + seconds ms) lateness woken := by
  unfold postResponseBody
  apply queuePut_ends (Phase.InTime _ lateness woken) inTime_postResponseEnqueued
  intro _
  exact reading_add_le clock (Nat.zero_le 3) ms

/-- The first stretch reads the timeout, and answers, waits for the body or waits on a
queue. -/
theorem pending_or_inTime_dispatch {secret : String} {ms : Int}
    (hms : normalizeTimeout request.endpoint.timeout? cfg.maxTimeoutMs = .ok ms) :
    (dispatch cfg jwt task request secret clock s).2.Pending ms ∨
      (dispatch cfg jwt task request secret clock s).2.InTime
        (clock.reading 3 + seconds ms) lateness woken := by
  generalize hstretch : dispatch cfg jwt task request secret clock s = r
  cases dispatched_of_dispatch hstretch with
  | refused | unprocessable | clientLogoff | serviceAuth | clientAuth | servicesLoad =>
      exact Or.inr trivial
  | @postRequest params _ hroute =>
      rw [hroute] at hms
      have htimeout : normalizeTimeout params.timeout cfg.maxTimeoutMs = .ok ms := hms
      left
      unfold postRequestToService
      rw [htimeout]
      exact rfl
  | @getRequest _ timeout _ hroute =>
      rw [hroute] at hms
      have htimeout : normalizeTimeout timeout cfg.maxTimeoutMs = .ok ms := hms
      right
      unfold getRequestForService
      rw [htimeout]
      split
      · trivial
      · apply queueGet_ends (Phase.InTime _ lateness woken) inTime_getRequestDequeued
        intro _
        exact reading_add_le clock (Nat.zero_le 3) ms
  | @postResponse params _ hroute =>
      rw [hroute] at hms
      have htimeout : normalizeTimeout params.timeout cfg.maxTimeoutMs = .ok ms := hms
      left
      unfold postResponseToClient
      rw [htimeout]
      exact rfl
  | @getResponse _ timeout _ hroute =>
      rw [hroute] at hms
      have htimeout : normalizeTimeout timeout cfg.maxTimeoutMs = .ok ms := hms
      right
      unfold getResponseForClient
      rw [htimeout]
      split
      · trivial
      · apply queueGet_ends (Phase.InTime _ lateness woken) inTime_getResponseDequeued
        intro _
        exact reading_add_le clock (by omega) ms

/-- A handler that lacks its request still does after a stretch, or is in time from the
end of the stretch on. -/
theorem Phase.Pending.advance {phase : Phase} {ms : Int} {action : Action}
    {r : Store × Phase} (h : phase.Pending ms)
    (hms : normalizeTimeout request.endpoint.timeout? cfg.maxTimeoutMs = .ok ms)
    (hadvance : advance cfg jwt task request phase action clock s = some r) :
    r.2.Pending ms ∨ r.2.InTime (clock.reading 3 + seconds ms) lateness woken := by
  cases stretch_of_advance hadvance with
  | start => exact pending_or_inTime_dispatch hms
  | startClosed | postRequestBodyClosed | postResponseBodyClosed => exact Or.inl trivial
  | postRequestBody =>
      cases h
      exact Or.inr inTime_postRequestBody
  | postResponseBody =>
      cases h
      exact Or.inr inTime_postResponseBody
  | postRequestPutServed _ | postRequestPutExpired _ | postRequestPutDone
  | postRequestGetServed _ | postRequestGetExpired _ | postRequestGetDone
  | getRequestGetServed _ | getRequestGetExpired _ | getRequestGetDone
  | postResponsePutServed _ | postResponsePutExpired _ | postResponsePutDone
  | getResponseGetServed _ | getResponseGetExpired _ | getResponseGetDone | doneClosed =>
      exact h.elim

/-- A handler that goes on in time stays in time. -/
theorem Phase.InTime.advance {phase : Phase} {timing : Timing} {action : Action}
    {r : Store × Phase} (h : phase.InTime limit lateness timing.woken)
    (hpunctual : forall due, due ∈ phase.due? timing.woken ->
      clock.reading 3 ≤ due + lateness)
    (hadvance : advance cfg jwt task request phase action clock s = some r) :
    r.2.InTime limit lateness (timing.next phase r.2 (clock.reading 3)).woken := by
  have hwoken : forall expires, expires ≤ limit ->
      clock.reading 3 ≤ expires + lateness -> clock.reading 3 ≤ limit + lateness := by
    intro expires hle hlate
    linarith
  cases stretch_of_advance hadvance with
  | start | startClosed | postRequestBody | postRequestBodyClosed | postResponseBody
  | postResponseBodyClosed => exact h.elim
  | postRequestPutServed _ | postRequestPutExpired _ =>
      exact ⟨h.right, hwoken _ (le_trans h.left h.right) (hpunctual _ rfl)⟩
  | postRequestPutDone => exact inTime_postRequestEnqueued h.left _ s
  | postRequestGetDone => exact inTime_postRequestResponded _ s
  | getRequestGetDone => exact inTime_getRequestDequeued _ s
  | postResponsePutDone => exact inTime_postResponseEnqueued _ s
  | getResponseGetDone => exact inTime_getResponseDequeued _ s
  | postRequestGetServed _ | postRequestGetExpired _ | getRequestGetServed _
  | getRequestGetExpired _ | postResponsePutServed _ | postResponsePutExpired _
  | getResponseGetServed _ | getResponseGetExpired _ =>
      exact hwoken _ h (hpunctual _ rfl)
  | doneClosed => trivial

theorem Phase.Replied.advance {phase : Phase} {action : Action} {r : Store × Phase}
    (h : phase.Replied)
    (hadvance : advance cfg jwt task request phase action clock s = some r) :
    r.2.Replied := by
  rcases h with ⟨reply, rfl | rfl⟩
  · cases stretch_of_advance hadvance with
    | doneClosed => exact ⟨reply, Or.inr rfl⟩
  · cases stretch_of_advance hadvance

theorem Finished.answer_mem {records : List Record} {reply : HttpReply}
    (h : Finished cfg jwt task request records reply) :
    .answered task reply ∈ records := by
  cases h <;> simp

theorem PhaseOk.of_replied {phase : Phase}
    (h : PhaseOk cfg jwt task request s phase) (hreplied : phase.Replied) :
    exists reply, .answered task reply ∈ s.history := by
  rcases hreplied with ⟨reply, hphase⟩
  have hfinished : Finished cfg jwt task request (s.recordsOf task) reply := by
    rcases hphase with rfl | rfl
    · exact h
    · exact h
  exact ⟨reply, (Store.mem_recordsOf.mp hfinished.answer_mem).left⟩

end

/-!
## Runs
-/

/-- A handler does what it has to do by the limit of its timeout, or has done all. -/
def Timing.OnTime (ms : Int) (lateness now : Time) (phase : Phase)
    (timing : Timing) : Prop :=
  match timing.began? with
  | none => phase.Pending ms
  | some began =>
      phase.InTime (began + seconds ms) lateness timing.woken ∧
        (now ≤ began + seconds ms + 2 * lateness ∨ phase.Replied)

structure Timed where
  app : App
  timing : Timing

namespace Timed

def initial : Timed where
  app := App.initial
  timing := ⟨none, 0⟩

def observe (task : TaskId) (s s' : App) (timing : Timing) : Timing :=
  match s.tasks.get? task, s'.tasks.get? task with
  | some t, some t' => timing.next t.phase t'.phase s'.now
  | _, _ => timing

def step (cfg : Settings) (jwt : Jwt) (task : TaskId) (s : Timed) (e : Event) :
    Timed where
  app := App.step cfg jwt s.app e
  timing := observe task s.app (App.step cfg jwt s.app e) s.timing

abbrev reached (cfg : Settings) (jwt : Jwt) (task : TaskId) (es : List Event) : Timed :=
  run (step cfg jwt task) initial es

/-- The times do not interfere. -/
theorem app_run (cfg : Settings) (jwt : Jwt) (task : TaskId) (es : List Event)
    (s : Timed) :
    (run (step cfg jwt task) s es).app = App.runFrom cfg jwt s.app es := by
  induction es generalizing s with
  | nil => rfl
  | cons e rest ih => exact ih (step cfg jwt task s e)

/-- The event loop does not leave the exchange's handler alone for longer than the
lateness when it has something to do. -/
def Punctual (cfg : Settings) (jwt : Jwt) (task : TaskId) (lateness : Time) (s : Timed)
    (e : Event) : Prop :=
  forall t, t ∈ s.app.tasks.get? task ->
    forall due, due ∈ t.phase.due? s.timing.woken ->
      (App.step cfg jwt s.app e).now ≤ due + lateness

instance (cfg : Settings) (jwt : Jwt) (task : TaskId) (lateness : Time) (s : Timed)
    (e : Event) : Decidable (Punctual cfg jwt task lateness s e) :=
  inferInstanceAs (Decidable (forall t, t ∈ s.app.tasks.get? task ->
    forall due, due ∈ t.phase.due? s.timing.woken ->
      (App.step cfg jwt s.app e).now ≤ due + lateness))

def Ok (cfg : Settings) (task : TaskId) (lateness : Time) (s : Timed) : Prop :=
  (s.app.tasks.get? task = none -> s.timing.began? = none) ∧
    forall t, s.app.tasks.get? task = some t -> forall ms,
      normalizeTimeout t.request.endpoint.timeout? cfg.maxTimeoutMs = .ok ms ->
        s.timing.OnTime ms lateness s.app.now t.phase

end Timed

section

variable {cfg : Settings} {jwt : Jwt} {task : TaskId} {request : HttpRequest}
  {clock : Clock} {s : Store} {ms : Int} {lateness now : Time} {timing : Timing}
  {phase : Phase}

theorem Timing.OnTime.later {now' : Time} (h : timing.OnTime ms lateness now phase)
    (hlateness : 0 ≤ lateness)
    (hpunctual : forall due, due ∈ phase.due? timing.woken -> now' ≤ due + lateness) :
    timing.OnTime ms lateness now' phase := by
  unfold OnTime at h ⊢
  split at h
  · exact h
  · rcases h with ⟨hinTime, _⟩
    exact ⟨hinTime, hinTime.within_or_replied hlateness hpunctual⟩

theorem Timing.OnTime.advance {action : Action} {r : Store × Phase}
    (h : timing.OnTime ms lateness now phase)
    (hms : normalizeTimeout request.endpoint.timeout? cfg.maxTimeoutMs = .ok ms)
    (hlateness : 0 ≤ lateness)
    (hpunctual : forall due, due ∈ phase.due? timing.woken ->
      clock.reading 3 ≤ due + lateness)
    (hadvance : Server.advance cfg jwt task request phase action clock s = some r) :
    (timing.next phase r.2 (clock.reading 3)).OnTime ms lateness (clock.reading 3)
      r.2 := by
  have hseconds : 0 ≤ seconds ms :=
    seconds_nonneg (normalizeTimeout_ok cfg.maxTimeoutMs_nonneg hms).left
  unfold OnTime at h
  split at h
  · rename_i hbegan
    have hnow : r.2.Pending ms ∨
        r.2.InTime (clock.reading 3 + seconds ms) lateness
          (timing.next phase r.2 (clock.reading 3)).woken :=
      h.advance hms hadvance
    rcases hnow with hpending | hinTime
    · have hnext : (timing.next phase r.2 (clock.reading 3)).began? = none := by
        simp [next, hpending.lacksRequest, hbegan]
      rw [OnTime, hnext]
      exact hpending
    · have hnext : (timing.next phase r.2 (clock.reading 3)).began? =
          some (clock.reading 3) := by
        simp [next, h.lacksRequest, hinTime.hasRequest]
      rw [OnTime, hnext]
      refine ⟨hinTime, Or.inl ?_⟩
      linarith
  · rename_i began hbegan
    rcases h with ⟨hinTime, _⟩
    have hnext : (timing.next phase r.2 (clock.reading 3)).began? = some began := by
      simp [next, hinTime.hasRequest, hbegan]
    rw [OnTime, hnext]
    constructor
    · exact hinTime.advance hpunctual hadvance
    · rcases hinTime.within_or_replied hlateness hpunctual with hwithin | hreplied
      · exact Or.inl hwithin
      · exact Or.inr (hreplied.advance hadvance)

end

namespace Timed

section

variable {cfg : Settings} {jwt : Jwt} {task : TaskId} {lateness : Time} {s : Timed}

theorem ok_initial (cfg : Settings) (task : TaskId) (lateness : Time) :
    Ok cfg task lateness initial := by
  constructor
  · exact fun _ => rfl
  · intro t ht
    cases ht

theorem Ok.step (h : Ok cfg task lateness s) (hlateness : 0 ≤ lateness) {e : Event}
    (hpunctual : Punctual cfg jwt task lateness s e) :
    Ok cfg task lateness (step cfg jwt task s e) := by
  -- an event that leaves the handler alone
  have hother : forall app, App.step cfg jwt s.app e = app ->
      app.tasks.get? task = s.app.tasks.get? task ->
      Ok cfg task lateness ⟨app, observe task s.app app s.timing⟩ := by
    intro app heq htasks
    have htiming : observe task s.app app s.timing = s.timing := by
      unfold observe
      rw [htasks]
      cases s.app.tasks.get? task with
      | none => rfl
      | some t => exact Timing.next_self _ _ _
    rw [htiming]
    constructor
    · exact fun hnone => h.left (htasks ▸ hnone)
    · intro t ht ms hms
      have ht' : s.app.tasks.get? task = some t := htasks ▸ ht
      apply (h.right t ht' ms hms).later hlateness
      intro due hdue
      have hnow := hpunctual t ht' due hdue
      rwa [heq] at hnow
  unfold Timed.step
  rcases App.step_cases cfg jwt s.app e with heq |
    ⟨other, request, rfl, hnone, heq⟩ |
    ⟨other, t, action, clock, store, phase, rfl, ht, hnow, hadvance, heq⟩ |
    ⟨now, rfl, hnow, heq⟩
  · exact hother _ rfl (by rw [heq])
  · by_cases htask : other = task
    · subst htask
      have hbegan := h.left hnone
      have htiming : observe other s.app (App.step cfg jwt s.app (.connect other request))
          s.timing = s.timing := by
        unfold observe
        rw [hnone]
      rw [htiming]
      constructor
      · exact fun _ => hbegan
      · intro t ht ms _
        dsimp only at ht
        rw [heq, Dict.get?_set_self] at ht
        cases ht
        unfold Timing.OnTime
        rw [hbegan]
        trivial
    · refine hother _ rfl ?_
      rw [heq]
      exact Dict.get?_set_of_ne _ _ htask
  · by_cases htask : other = task
    · subst htask
      rw [heq]
      constructor
      · intro hnone
        dsimp only at hnone
        rw [Dict.get?_set_self] at hnone
        cases hnone
      · intro t' ht' ms hms
        dsimp only at ht'
        rw [Dict.get?_set_self] at ht'
        cases ht'
        have htiming : observe other s.app
            { s.app with
              store := store
              tasks := s.app.tasks.set other { t with phase := phase }
              now := clock.reading 3 } s.timing =
            s.timing.next t.phase phase (clock.reading 3) := by
          simp only [observe, ht, Dict.get?_set_self]
        rw [htiming]
        have hlate : forall due, due ∈ t.phase.due? s.timing.woken ->
            clock.reading 3 ≤ due + lateness := by
          intro due hdue
          have hnow := hpunctual t ht due hdue
          rwa [heq] at hnow
        exact (h.right t ht ms hms).advance hms hlateness hlate hadvance
    · refine hother _ rfl ?_
      rw [heq]
      exact Dict.get?_set_of_ne _ _ htask
  · exact hother _ rfl (by rw [heq])

end

/-- A handler that has the whole of its request answers within its timeout, and no later
than that but for twice the lateness of the event loop, whatever happens meanwhile. -/
theorem answered_in_time (cfg : Settings) (jwt : Jwt) (task : TaskId) (es : List Event)
    (lateness : Time) (hlateness : 0 ≤ lateness)
    (hpunctual : Along (step cfg jwt task) (Punctual cfg jwt task lateness) initial es)
    {t : Task} (ht : (App.reached cfg jwt es).tasks.get? task = some t) {ms : Int}
    (hms : normalizeTimeout t.request.endpoint.timeout? cfg.maxTimeoutMs = .ok ms)
    {began : Time} (hbegan : began ∈ (reached cfg jwt task es).timing.began?) :
    (exists reply, .answered task reply ∈ (App.reached cfg jwt es).store.history) ∨
      (App.reached cfg jwt es).now ≤ began + seconds ms + 2 * lateness := by
  have hok : Ok cfg task lateness (reached cfg jwt task es) :=
    run_invariant_along (Ok cfg task lateness)
      (fun _ _ hpunctual h => h.step hlateness hpunctual)
      (ok_initial cfg task lateness) hpunctual
  have happ : (reached cfg jwt task es).app = App.reached cfg jwt es :=
    app_run cfg jwt task es initial
  have hontime := hok.right t (by rw [happ]; exact ht) ms hms
  rw [happ] at hontime
  unfold Timing.OnTime at hontime
  rw [Option.mem_def.mp hbegan] at hontime
  rcases hontime.right with hnow | hreplied
  · exact Or.inr hnow
  · exact Or.inl (((App.invariant_reached cfg jwt es).conduct task t ht).of_replied
      hreplied)

/-- A client waits for the response to a POST with a timeout of a second, whose body is
there at five.  No response comes, and the event loop is twice late by half a second. -/
def lateLoop : List Event :=
  [.connect 0 ⟨some "Bearer client", .postRequest ⟨"svc", "1", some 1000, true, none, []⟩⟩,
    .run 0 (.start "") (Clock.constant 0),
    .run 0 .body (Clock.constant 5),
    .run 0 .serve (Clock.constant 5),
    .run 0 .resume (Clock.constant (11 / 2)),
    .run 0 .expire (Clock.constant (13 / 2)),
    .run 0 .resume (Clock.constant 7),
    .tick 8]

/-- At eight it is answered. -/
theorem answered_in_time_lateLoop :
    exists reply, .answered 0 reply ∈ (App.reached (Settings.default "10.0.0.1")
      (Jwt.ofPair "c" "s") lateLoop).store.history := by
  have htask : ((App.reached (Settings.default "10.0.0.1") (Jwt.ofPair "c" "s")
      lateLoop).tasks.get? 0).map Task.request =
        some ⟨some "Bearer client",
          .postRequest ⟨"svc", "1", some 1000, true, none, []⟩⟩ := by
    decide +kernel
  rcases Option.map_eq_some_iff.mp htask with ⟨t, ht, hrequest⟩
  have hms : normalizeTimeout t.request.endpoint.timeout?
      (Settings.default "10.0.0.1").maxTimeoutMs = .ok 1000 := by
    rw [hrequest]
    rfl
  have hbegan : (5 : Time) ∈ (reached (Settings.default "10.0.0.1") (Jwt.ofPair "c" "s") 0
      lateLoop).timing.began? := by
    decide +kernel
  rcases answered_in_time _ _ 0 lateLoop (1 / 2) (by decide +kernel) (by decide +kernel)
      ht hms hbegan with hanswered | hnow
  · exact hanswered
  · exact absurd hnow (by decide +kernel)

end Timed

end Server
end Pype
