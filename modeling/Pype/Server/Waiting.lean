import Pype.Server.Invariant

/-!
# How long a handler waits

A handler that was given a timeout waits for no longer than that in its queue
operations, both phases of a `block=1` POST together, if each of the waits ends
within its budget.  Later budgets are cut from the same deadline.
-/

namespace Pype
namespace Server

open Foundation Store

/-- The `timeout` parameter of a request. -/
def Endpoint.timeout? : Endpoint -> Option Int
  | .postRequest params => params.timeout
  | .getRequest _ timeout => timeout
  | .postResponse params => params.timeout
  | .getResponse _ timeout => timeout
  | _ => none

/-- The moment at which the budget of the handler's wait ends, if it waits. -/
def Phase.expiry? : Phase -> Option Time
  | .postRequestPut _ _ _ _ _ _ expires => some expires
  | .postRequestGet _ _ _ expires => some expires
  | .getRequestGet _ _ expires => some expires
  | .postResponsePut _ _ _ expires => some expires
  | .getResponseGet _ _ expires => some expires
  | _ => none

/-- The reading from which a wait counts that begins at the end of a stretch. -/
def Phase.waitsFrom : Phase -> Phase -> Nat
  | .received, .getRequestGet .. => 0
  | .received, .getResponseGet .. => 1
  | .postRequestBody .., .postRequestPut .. => 1
  | .postRequestPutDone .., .postRequestGet .. => 1
  | .postResponseBody .., .postResponsePut .. => 0
  | _, _ => 3

/-- How long a handler has waited, and since when it waits. -/
structure Watch where
  waited : Time
  since : Time

def Watch.next (phase phase' : Phase) (clock : Clock) (w : Watch) : Watch :=
  match phase.expiry?, phase'.expiry? with
  | some _, none => { w with waited := w.waited + (clock.reading 0 - w.since) }
  | none, some _ => { w with since := clock.reading (phase.waitsFrom phase') }
  | _, _ => w

section

variable {w : Watch} {phase phase' : Phase} {clock : Clock} {expires : Time}

theorem Watch.next_begins (h : phase.expiry? = none)
    (h' : phase'.expiry? = some expires) :
    w.next phase phase' clock =
      { w with since := clock.reading (phase.waitsFrom phase') } := by
  unfold next
  rw [h, h']

theorem Watch.next_ends (h : phase.expiry? = some expires)
    (h' : phase'.expiry? = none) :
    w.next phase phase' clock =
      { w with waited := w.waited + (clock.reading 0 - w.since) } := by
  unfold next
  rw [h, h']

theorem Watch.next_self (phase : Phase) (clock : Clock) (w : Watch) :
    w.next phase phase clock = w := by
  unfold next
  cases phase.expiry? <;> rfl

theorem Watch.next_idle (h : phase.expiry? = none) (h' : phase'.expiry? = none) :
    w.next phase phase' clock = w := by
  unfold next
  rw [h, h']

end

/-!
## One stretch
-/

def Fits (ms : Int) (w : Watch) (expires : Time) : Prop :=
  w.since ≤ expires ∧ w.waited + (expires - w.since) ≤ seconds ms

/-- A handler keeps within its timeout. -/
def Budgeted (ms : Int) (now : Time) (w : Watch) : Phase -> Prop
  | .received => w.waited = 0
  | .postRequestBody _ _ _ totalTimeoutMs => w.waited = 0 ∧ totalTimeoutMs = ms
  | .postRequestPut _ _ _ deadline _ _ expires =>
      w.waited = 0 ∧ expires ≤ deadline ∧ deadline ≤ w.since + seconds ms
  | .postRequestPutDone _ _ _ deadline _ =>
      w.waited ≤ seconds ms ∧ w.waited + deadline ≤ now + seconds ms
  | .postRequestGet _ _ _ expires => Fits ms w expires
  | .getRequestGet _ _ expires => Fits ms w expires
  | .postResponseBody _ _ timeoutMs => w.waited = 0 ∧ timeoutMs = ms
  | .postResponsePut _ _ _ expires => Fits ms w expires
  | .getResponseGet _ _ expires => Fits ms w expires
  | _ => w.waited ≤ seconds ms

theorem seconds_nonneg {ms : Int} (hms : 0 ≤ ms) : 0 ≤ seconds ms := by
  have hle := seconds_le hms
  simpa [seconds] using hle

theorem fits_begins {ms budget : Int} {w : Watch} {start : Time} (hbudget : 0 ≤ budget)
    (h : w.waited + seconds budget ≤ seconds ms) :
    Fits ms { w with since := start } (start + seconds budget) := by
  have hnonneg := seconds_nonneg hbudget
  constructor
  · dsimp only
    linarith
  · dsimp only
    linarith

section

variable {cfg : Settings} {jwt : Jwt} {task : TaskId} {clock : Clock} {ms : Int}
  {w : Watch} {phase : Phase}

def StaysBudgeted (ms : Int) (w : Watch) (phase : Phase) (clock : Clock)
    (phase' : Phase) : Prop :=
  Budgeted ms (clock.reading 3) (w.next phase phase' clock) phase'

theorem staysBudgeted_done (hphase : phase.expiry? = none)
    (h : w.waited ≤ seconds ms) (reply : HttpReply) :
    StaysBudgeted ms w phase clock (.done reply) := by
  rw [StaysBudgeted, Watch.next_idle hphase (by rfl)]
  exact h

theorem staysBudgeted_postRequestResponded (hphase : phase.expiry? = none)
    (h : w.waited ≤ seconds ms) (response : Option PypeResponse) (s : Store) :
    StaysBudgeted ms w phase clock (postRequestResponded task response s).2 := by
  cases response with
  | none => exact staysBudgeted_done hphase h _
  | some response => exact staysBudgeted_done hphase h _

theorem staysBudgeted_getRequestDequeued (hphase : phase.expiry? = none)
    (h : w.waited ≤ seconds ms) (item : Option PypeRequest) (s : Store) :
    StaysBudgeted ms w phase clock (getRequestDequeued task item s).2 := by
  cases item with
  | none => exact staysBudgeted_done hphase h _
  | some item => exact staysBudgeted_done hphase h _

theorem staysBudgeted_postResponseEnqueued (hphase : phase.expiry? = none)
    (h : w.waited ≤ seconds ms) (enqueued : Bool) (s : Store) :
    StaysBudgeted ms w phase clock (postResponseEnqueued task enqueued s).2 := by
  cases enqueued with
  | false => exact staysBudgeted_done hphase h _
  | true => exact staysBudgeted_done hphase h _

theorem staysBudgeted_getResponseDequeued (hphase : phase.expiry? = none)
    (h : w.waited ≤ seconds ms) (clientId : String) (bumpedAt : Time)
    (item : Option PypeResponse) (s : Store) :
    StaysBudgeted ms w phase clock
      (getResponseDequeued task clientId bumpedAt item s).2 := by
  unfold getResponseDequeued
  cases item with
  | none => exact staysBudgeted_done hphase h _
  | some item => exact staysBudgeted_done hphase h _

/-- The second budget of a POST ends by the deadline of the first. -/
theorem staysBudgeted_postRequestEnqueued (hphase : phase.expiry? = none)
    (h : w.waited ≤ seconds ms) {params : PostRequest} {claims : ClientClaims}
    {entry : Ref} {deadline bumpedAt remainingAt : Time}
    (hfrom : forall expires, clock.reading
      (phase.waitsFrom (.postRequestGet params claims entry expires)) = remainingAt)
    (hdeadline : w.waited + deadline ≤ remainingAt + seconds ms) (enqueued : Bool)
    (s : Store) :
    StaysBudgeted ms w phase clock
      (postRequestEnqueued task params claims entry deadline bumpedAt remainingAt
        enqueued s).2 := by
  unfold postRequestEnqueued
  dsimp only
  split
  · exact staysBudgeted_done hphase h _
  · split
    · exact staysBudgeted_done hphase h _
    · apply queueGet_ends (StaysBudgeted _ w _ clock)
      · exact staysBudgeted_postRequestResponded hphase h
      · intro hbudget
        have hexpires := seconds_remainingMs_le hbudget
        rw [StaysBudgeted, Watch.next_begins hphase (by rfl), Budgeted, hfrom]
        apply fits_begins (remainingMs_nonneg _ _)
        linarith

theorem staysBudgeted_postRequestBody {params : PostRequest} {claims : ClientClaims}
    {entry : Ref} {totalTimeoutMs : Int} (hms : 0 ≤ ms) (hwaited : w.waited = 0)
    (htotal : totalTimeoutMs = ms) (s : Store) :
    StaysBudgeted ms w (.postRequestBody params claims entry totalTimeoutMs) clock
      (postRequestBody cfg task params claims entry totalTimeoutMs clock s).2 := by
  have hnonneg := seconds_nonneg hms
  subst htotal
  have hfirst : clock.reading 0 ≤ clock.reading 1 := clock.mono (by decide)
  have hlast : clock.reading 0 ≤ clock.reading 3 := clock.mono (by decide)
  unfold postRequestBody
  apply queuePut_ends (StaysBudgeted _ w _ clock)
  · intro enqueued s'
    apply staysBudgeted_postRequestEnqueued rfl (by linarith)
    · intro expires
      rfl
    · linarith
  · intro hbudget
    have hexpires := seconds_remainingMs_le hbudget
    simp only [StaysBudgeted, Watch.next, Phase.expiry?, Budgeted, Phase.waitsFrom]
    refine ⟨hwaited, hexpires, ?_⟩
    linarith

theorem normalizeTimeout_some {ms maxTimeoutMs ms' : Int}
    (h : normalizeTimeout (some ms) maxTimeoutMs = .ok ms') : ms' = ms := by
  unfold normalizeTimeout at h
  dsimp only at h
  split at h
  · cases h
  · cases h
    rfl

theorem staysBudgeted_dispatch {request : HttpRequest} {secret : String}
    (hms : 0 ≤ ms) (hwaited : w.waited = 0)
    (htimeout : request.endpoint.timeout? = some ms) (s : Store) :
    StaysBudgeted ms w .received clock
      (dispatch cfg jwt task request secret clock s).2 := by
  have hle : w.waited ≤ seconds ms := by
    rw [hwaited]
    exact seconds_nonneg hms
  generalize hstretch : dispatch cfg jwt task request secret clock s = r
  cases dispatched_of_dispatch hstretch with
  | refused e => exact staysBudgeted_done rfl hle _
  | unprocessable => exact staysBudgeted_done rfl hle _
  | @postRequest params claims hroute =>
      rw [hroute] at htimeout
      unfold postRequestToService
      dsimp only
      split
      · exact staysBudgeted_done rfl hle _
      · rename_i total htotal
        rw [show params.timeout = some ms from htimeout] at htotal
        exact ⟨hwaited, normalizeTimeout_some htotal⟩
  | @getRequest serviceName timeout claims hroute =>
      rw [hroute] at htimeout
      unfold getRequestForService
      split
      · exact staysBudgeted_done rfl hle _
      · split
        · exact staysBudgeted_done rfl hle _
        · rename_i timeoutMs hok
          rw [show timeout = some ms from htimeout] at hok
          have hsame := normalizeTimeout_some hok
          subst hsame
          apply queueGet_ends (StaysBudgeted _ w _ clock)
          · exact staysBudgeted_getRequestDequeued rfl hle
          · intro _
            rw [StaysBudgeted, Watch.next_begins (by rfl) (by rfl)]
            apply fits_begins hms
            linarith
  | @postResponse params claims hroute =>
      rw [hroute] at htimeout
      unfold postResponseToClient
      dsimp only
      split
      · exact staysBudgeted_done rfl hle _
      · rename_i timeoutMs hok
        rw [show params.timeout = some ms from htimeout] at hok
        exact ⟨hwaited, normalizeTimeout_some hok⟩
  | @getResponse clientId timeout claims hroute =>
      rw [hroute] at htimeout
      unfold getResponseForClient
      split
      · exact staysBudgeted_done rfl hle _
      · dsimp only
        split
        · exact staysBudgeted_done rfl hle _
        · rename_i timeoutMs hok
          rw [show timeout = some ms from htimeout] at hok
          have hsame := normalizeTimeout_some hok
          subst hsame
          apply queueGet_ends (StaysBudgeted _ w _ clock)
          · exact staysBudgeted_getResponseDequeued rfl hle _ _
          · intro _
            rw [StaysBudgeted, Watch.next_begins (by rfl) (by rfl)]
            apply fits_begins hms
            linarith
  | clientLogoff hroute | serviceAuth hroute | clientAuth hroute
  | servicesLoad hroute =>
      rw [hroute] at htimeout
      cases htimeout

theorem staysBudgeted_putOver {params : PostRequest} {claims : ClientClaims}
    {entry queue : Ref} {deadline expires : Time} {pypeReq : PypeRequest}
    (h : Budgeted ms (clock.reading 0) w
      (.postRequestPut params claims entry deadline queue pypeReq expires))
    (hend : clock.reading 0 ≤ expires) (enqueued : Bool) :
    StaysBudgeted ms w
      (.postRequestPut params claims entry deadline queue pypeReq expires) clock
      (.postRequestPutDone params claims entry deadline enqueued) := by
  have hlast : clock.reading 0 ≤ clock.reading 3 := clock.mono (by decide)
  rcases h with ⟨hwaited, hexpires, hdeadline⟩
  rw [StaysBudgeted, Watch.next_ends (by rfl) (by rfl)]
  constructor
  · dsimp only
    linarith
  · dsimp only
    linarith

theorem staysBudgeted_waitOver {phase' : Phase} {expires : Time}
    (hphase : phase.expiry? = some expires) (hphase' : phase'.expiry? = none)
    (h : Fits ms w expires) (hend : clock.reading 0 ≤ expires)
    (hbudgeted : forall w' : Watch, w'.waited ≤ seconds ms ->
      Budgeted ms (clock.reading 3) w' phase') :
    StaysBudgeted ms w phase clock phase' := by
  rw [StaysBudgeted, Watch.next_ends hphase hphase']
  apply hbudgeted
  dsimp only
  linarith [h.right]

/-- Every stretch keeps a handler budgeted, if a wait that it ends has not outlasted
its budget. -/
theorem staysBudgeted_advance {request : HttpRequest} {action : Action} {now : Time}
    {s : Store} {r : Store × Phase} (hms : 0 ≤ ms)
    (htimeout : request.endpoint.timeout? = some ms) (hnow : now ≤ clock.reading 0)
    (hends : forall expires, expires ∈ phase.expiry? -> clock.reading 0 ≤ expires)
    (h : Budgeted ms now w phase)
    (hadvance : advance cfg jwt task request phase action clock s = some r) :
    StaysBudgeted ms w phase clock r.2 := by
  have hnonneg := seconds_nonneg hms
  have hzero : forall {v : Time}, v = 0 -> v ≤ seconds ms := fun hv => hv ▸ hnonneg
  cases stretch_of_advance hadvance with
  | start => exact staysBudgeted_dispatch hms h htimeout s
  | startClosed => exact hzero h
  | postRequestBody => exact staysBudgeted_postRequestBody hms h.left h.right s
  | postRequestBodyClosed => exact hzero h.left
  | postRequestPutServed => exact staysBudgeted_putOver h (hends _ rfl) true
  | postRequestPutExpired => exact staysBudgeted_putOver h (hends _ rfl) false
  | postRequestPutDone =>
      have hread : clock.reading 0 ≤ clock.reading 1 := clock.mono (by decide)
      apply staysBudgeted_postRequestEnqueued rfl h.left
      · intro expires
        rfl
      · linarith [h.right]
  | postRequestGetServed =>
      exact staysBudgeted_waitOver rfl rfl h (hends _ rfl) fun _ hw => hw
  | postRequestGetExpired =>
      exact staysBudgeted_waitOver rfl rfl h (hends _ rfl) fun _ hw => hw
  | postRequestGetDone => exact staysBudgeted_postRequestResponded rfl h _ s
  | getRequestGetServed =>
      exact staysBudgeted_waitOver rfl rfl h (hends _ rfl) fun _ hw => hw
  | getRequestGetExpired =>
      exact staysBudgeted_waitOver rfl rfl h (hends _ rfl) fun _ hw => hw
  | getRequestGetDone => exact staysBudgeted_getRequestDequeued rfl h _ s
  | postResponseBody =>
      rcases h with ⟨hwaited, htotal⟩
      apply queuePut_ends (StaysBudgeted _ w _ clock)
      · exact staysBudgeted_postResponseEnqueued rfl (hzero hwaited)
      · intro _
        subst htotal
        rw [StaysBudgeted, Watch.next_begins (by rfl) (by rfl)]
        apply fits_begins hms
        linarith
  | postResponseBodyClosed => exact hzero h.left
  | postResponsePutServed =>
      exact staysBudgeted_waitOver rfl rfl h (hends _ rfl) fun _ hw => hw
  | postResponsePutExpired =>
      exact staysBudgeted_waitOver rfl rfl h (hends _ rfl) fun _ hw => hw
  | postResponsePutDone => exact staysBudgeted_postResponseEnqueued rfl h _ s
  | getResponseGetServed =>
      exact staysBudgeted_waitOver rfl rfl h (hends _ rfl) fun _ hw => hw
  | getResponseGetExpired =>
      exact staysBudgeted_waitOver rfl rfl h (hends _ rfl) fun _ hw => hw
  | getResponseGetDone => exact staysBudgeted_getResponseDequeued rfl h _ _ _ s
  | doneClosed => exact h

/-- A handler that is budgeted has not waited for longer than its timeout, and will
not have by the end of a wait that it is in. -/
theorem Budgeted.within {now : Time} (hms : 0 ≤ ms) (h : Budgeted ms now w phase) :
    w.waited ≤ seconds ms ∧
      forall expires, expires ∈ phase.expiry? ->
        w.waited + (expires - w.since) ≤ seconds ms := by
  have hnonneg := seconds_nonneg hms
  have hfits : forall expires, Fits ms w expires ->
      w.waited ≤ seconds ms ∧ forall expires', expires' ∈ some expires ->
        w.waited + (expires' - w.since) ≤ seconds ms := by
    rintro expires ⟨hsince, htotal⟩
    constructor
    · linarith
    · intro expires' hexpires'
      cases hexpires'
      exact htotal
  cases phase with
  | postRequestPut params claims entry deadline queue pypeReq expires =>
      rcases h with ⟨hwaited, hexpires, hdeadline⟩
      constructor
      · linarith
      · intro expires' hexpires'
        cases hexpires'
        linarith
  | postRequestGet params claims entry expires => exact hfits expires h
  | getRequestGet serviceName queue expires => exact hfits expires h
  | postResponsePut params entry pypeResp expires => exact hfits expires h
  | getResponseGet clientId entry expires => exact hfits expires h
  | received =>
      constructor
      · exact le_of_eq_of_le h hnonneg
      · intro expires hexpires
        cases hexpires
  | postRequestBody | postRequestPutDone | postResponseBody =>
      constructor
      · linarith [h.left]
      · intro expires hexpires
        cases hexpires
  | postRequestGetDone | getRequestGetDone | postResponsePutDone
  | getResponseGetDone | done | closed =>
      constructor
      · exact h
      · intro expires hexpires
        cases hexpires

end

theorem Budgeted.later {ms : Int} {w : Watch} {phase : Phase} {now now' : Time}
    (h : Budgeted ms now w phase) (hnow : now ≤ now') : Budgeted ms now' w phase := by
  cases phase with
  | postRequestPutDone params claims entry deadline enqueued =>
      constructor
      · exact h.left
      · linarith [h.right]
  | received | postRequestBody | postRequestPut | postRequestGet
  | postRequestGetDone | getRequestGet | getRequestGetDone | postResponseBody
  | postResponsePut | postResponsePutDone | getResponseGet | getResponseGetDone
  | done | closed => exact h

/-!
## Runs
-/

/-- The application with a watch on one exchange. -/
structure Watched where
  app : App
  watch : Watch

namespace Watched

def initial : Watched where
  app := App.initial
  watch := ⟨0, 0⟩

def observe (task : TaskId) (s s' : App) (w : Watch) : Event -> Watch
  | .run other _ clock =>
      if other = task then
        match s.tasks.get? task, s'.tasks.get? task with
        | some t, some t' => w.next t.phase t'.phase clock
        | _, _ => w
      else w
  | _ => w

def step (cfg : Settings) (jwt : Jwt) (task : TaskId) (s : Watched) (e : Event) :
    Watched where
  app := App.step cfg jwt s.app e
  watch := observe task s.app (App.step cfg jwt s.app e) s.watch e

abbrev reached (cfg : Settings) (jwt : Jwt) (task : TaskId) (es : List Event) :
    Watched :=
  run (step cfg jwt task) initial es

/-- The watch does not interfere. -/
theorem app_run (cfg : Settings) (jwt : Jwt) (task : TaskId) (es : List Event)
    (s : Watched) :
    (run (step cfg jwt task) s es).app = App.runFrom cfg jwt s.app es := by
  induction es generalizing s with
  | nil => rfl
  | cons e rest ih => exact ih (step cfg jwt task s e)

/-- A wait of the exchange's handler is over before its budget is. -/
def EndsInBudget (task : TaskId) (s : Watched) : Event -> Prop
  | .run other _ clock =>
      other = task ->
        forall t, t ∈ s.app.tasks.get? task ->
          forall expires, expires ∈ t.phase.expiry? -> clock.reading 0 ≤ expires
  | _ => True

/-- The exchange's handler keeps within a timeout that it was given. -/
def Ok (task : TaskId) (ms : Int) (s : Watched) : Prop :=
  (s.app.tasks.get? task = none -> s.watch.waited = 0) ∧
    forall t, s.app.tasks.get? task = some t ->
      t.request.endpoint.timeout? = some ms ->
        Budgeted ms s.app.now s.watch t.phase

section

variable {cfg : Settings} {jwt : Jwt} {task : TaskId} {ms : Int} {s : Watched}

theorem ok_initial (task : TaskId) (ms : Int) : Ok task ms initial := by
  constructor
  · exact fun _ => rfl
  · intro t ht
    cases ht

theorem Ok.later (h : Ok task ms s) {app : App}
    (htasks : app.tasks.get? task = s.app.tasks.get? task)
    (hnow : s.app.now ≤ app.now) : Ok task ms ⟨app, s.watch⟩ := by
  constructor
  · exact fun hnone => h.left (htasks ▸ hnone)
  · intro t ht htimeout
    exact (h.right t (htasks ▸ ht) htimeout).later hnow

theorem observe_of_not {e : Event} {s' : App}
    (h : forall action clock, e ≠ .run task action clock) :
    observe task s.app s' s.watch e = s.watch := by
  cases e with
  | connect other request => rfl
  | run other action clock =>
      have hne : other ≠ task := by
        rintro rfl
        exact h action clock rfl
      exact if_neg hne
  | tick now => rfl

theorem Ok.step (h : Ok task ms s) (hms : 0 ≤ ms) {e : Event}
    (hends : EndsInBudget task s e) : Ok task ms (step cfg jwt task s e) := by
  rcases App.step_cases cfg jwt s.app e with heq |
    ⟨other, request, rfl, hnone, heq⟩ |
    ⟨other, t, action, clock, store, phase, rfl, ht, hnow, hadvance, heq⟩ |
    ⟨now, rfl, hnow, heq⟩
  · -- nothing happened
    have hwatch : observe task s.app s.app s.watch e = s.watch := by
      unfold observe
      split
      · split
        · cases s.app.tasks.get? task with
          | none => rfl
          | some t => exact Watch.next_self _ _ _
        · rfl
      · rfl
    unfold Watched.step
    rw [heq, hwatch]
    exact h
  · unfold Watched.step
    rw [heq]
    by_cases hother : other = task
    · subst hother
      constructor
      · exact fun _ => h.left hnone
      · intro t ht _
        dsimp only at ht
        rw [Dict.get?_set_self] at ht
        cases ht
        exact h.left hnone
    · exact h.later (Dict.get?_set_of_ne _ _ hother) (le_refl _)
  · have hlast : s.app.now ≤ clock.reading 3 :=
      le_trans hnow (clock.mono (Nat.zero_le 3))
    unfold Watched.step
    rw [heq]
    by_cases hother : other = task
    · subst hother
      have hnext : observe other s.app
          { s.app with
            store := store
            tasks := s.app.tasks.set other { t with phase := phase }
            now := clock.reading 3 } s.watch (.run other action clock) =
          s.watch.next t.phase phase clock := by
        simp only [observe, if_true, ht, Dict.get?_set_self]
      rw [hnext]
      constructor
      · intro hnone
        dsimp only at hnone
        rw [Dict.get?_set_self] at hnone
        cases hnone
      · intro t' ht' htimeout
        dsimp only at ht'
        rw [Dict.get?_set_self] at ht'
        cases ht'
        have hstays : StaysBudgeted ms s.watch t.phase clock (store, phase).2 :=
          staysBudgeted_advance hms htimeout hnow (hends rfl t ht)
            (h.right t ht htimeout) hadvance
        exact hstays
    · rw [observe_of_not (by
        intro action' clock' hrun
        cases hrun
        exact hother rfl)]
      exact h.later (Dict.get?_set_of_ne _ _ hother) hlast
  · unfold Watched.step
    rw [heq]
    exact h.later rfl hnow

end

/-- The handler that receives a timeout waits for no longer in its queue
operations, if each of them ends within its budget. -/
theorem waits_within (cfg : Settings) (jwt : Jwt) (task : TaskId) (es : List Event)
    {ms : Int} (hms : 0 ≤ ms)
    (hends : Along (step cfg jwt task) (EndsInBudget task) initial es) {t : Task}
    (ht : (App.reached cfg jwt es).tasks.get? task = some t)
    (htimeout : t.request.endpoint.timeout? = some ms) :
    (reached cfg jwt task es).watch.waited ≤ seconds ms ∧
      forall expires, expires ∈ t.phase.expiry? ->
        (reached cfg jwt task es).watch.waited +
          (expires - (reached cfg jwt task es).watch.since) ≤ seconds ms := by
  have hok : Ok task ms (reached cfg jwt task es) :=
    run_invariant_along (Ok task ms) (fun _ _ hends h => h.step hms hends)
      (ok_initial task ms) hends
  apply Budgeted.within hms
  apply hok.right t _ htimeout
  rw [app_run]
  exact ht

end Watched

end Server
end Pype
