import Pype.Server.Waiting

/-!
# Progress of the handlers

A handler never goes back to its start, and its exchange is over only after an answer or
before it has the whole of its request.  A request with a zero timeout never waits.
-/

namespace Pype
namespace Server

open Foundation

/-!
## Between the start and the end
-/

/-- The handler has begun, and its exchange is not over. -/
def Phase.Underway (phase : Phase) : Prop :=
  phase ≠ .received ∧ forall reply, phase ≠ .closed reply

section

variable {cfg : Settings} {jwt : Jwt} {task : TaskId} {request : HttpRequest}
  {clock : Clock} {s : Store}

theorem underway_answer (reply : HttpReply) (s : Store) :
    (answer task reply s).2.Underway := by
  simp [answer, Phase.Underway]

theorem underway_postRequestResponded (response : Option PypeResponse) (s : Store) :
    (postRequestResponded task response s).2.Underway := by
  cases response <;> exact underway_answer _ _

theorem underway_postRequestEnqueued {params : PostRequest} {claims : ClientClaims}
    {entry : Ref} {deadline bumpedAt remainingAt : Time} (enqueued : Bool) (s : Store) :
    (postRequestEnqueued task params claims entry deadline bumpedAt remainingAt enqueued
      s).2.Underway := by
  unfold postRequestEnqueued
  dsimp only
  split
  · exact underway_answer _ _
  · split
    · exact underway_answer _ _
    · exact queueGet_ends Phase.Underway underway_postRequestResponded
        (by simp [Phase.Underway])

theorem underway_getRequestDequeued (item : Option PypeRequest) (s : Store) :
    (getRequestDequeued task item s).2.Underway := by
  cases item <;> exact underway_answer _ _

theorem underway_postResponseEnqueued (enqueued : Bool) (s : Store) :
    (postResponseEnqueued task enqueued s).2.Underway := by
  cases enqueued <;> exact underway_answer _ _

theorem underway_getResponseDequeued {clientId : String} {bumpedAt : Time}
    (item : Option PypeResponse) (s : Store) :
    (getResponseDequeued task clientId bumpedAt item s).2.Underway := by
  cases item <;> exact underway_answer _ _

theorem underway_dispatch {secret : String} :
    (dispatch cfg jwt task request secret clock s).2.Underway := by
  generalize hstretch : dispatch cfg jwt task request secret clock s = r
  cases dispatched_of_dispatch hstretch with
  | refused | unprocessable | clientLogoff | serviceAuth | clientAuth | servicesLoad =>
      exact underway_answer _ _
  | postRequest =>
      unfold postRequestToService
      dsimp only
      split
      · exact underway_answer _ _
      · simp [Phase.Underway]
  | getRequest =>
      unfold getRequestForService
      split
      · exact underway_answer _ _
      · split
        · exact underway_answer _ _
        · exact queueGet_ends Phase.Underway underway_getRequestDequeued
            (by simp [Phase.Underway])
  | postResponse =>
      unfold postResponseToClient
      dsimp only
      split
      · exact underway_answer _ _
      · simp [Phase.Underway]
  | getResponse =>
      unfold getResponseForClient
      split
      · exact underway_answer _ _
      · dsimp only
        split
        · exact underway_answer _ _
        · exact queueGet_ends Phase.Underway underway_getResponseDequeued
            (by simp [Phase.Underway])

/-- A stretch leaves a handler underway, or closes its exchange, with the reply that it
has given, and does nothing else. -/
theorem underway_or_closed {phase : Phase} {action : Action} {r : Store × Phase}
    (h : advance cfg jwt task request phase action clock s = some r) :
    r.2.Underway ∨ exists reply, r = (s, .closed reply) ∧
      forall given, reply = some given -> phase = .done given := by
  cases stretch_of_advance h with
  | start => exact Or.inl underway_dispatch
  | postRequestBody =>
      left
      unfold postRequestBody
      exact queuePut_ends Phase.Underway underway_postRequestEnqueued
        (by simp [Phase.Underway])
  | postRequestPutDone => exact Or.inl (underway_postRequestEnqueued _ s)
  | postRequestGetDone => exact Or.inl (underway_postRequestResponded _ s)
  | getRequestGetDone => exact Or.inl (underway_getRequestDequeued _ s)
  | postResponseBody =>
      left
      unfold postResponseBody
      exact queuePut_ends Phase.Underway underway_postResponseEnqueued
        (by simp [Phase.Underway])
  | postResponsePutDone => exact Or.inl (underway_postResponseEnqueued _ s)
  | getResponseGetDone => exact Or.inl (underway_getResponseDequeued _ s)
  | startClosed | postRequestBodyClosed | postResponseBodyClosed =>
      exact Or.inr ⟨none, rfl, fun _ heq => nomatch heq⟩
  | @doneClosed reply =>
      refine Or.inr ⟨some reply, rfl, ?_⟩
      intro given heq
      cases heq
      rfl
  | postRequestPutServed _ | postRequestPutExpired _ | postRequestGetServed _
  | postRequestGetExpired _ | getRequestGetServed _ | getRequestGetExpired _
  | postResponsePutServed _ | postResponsePutExpired _ | getResponseGetServed _
  | getResponseGetExpired _ =>
      left
      simp [Phase.Underway]

theorem not_received_of_advance {phase : Phase} {action : Action} {r : Store × Phase}
    (h : advance cfg jwt task request phase action clock s = some r) :
    r.2 ≠ .received := by
  rcases underway_or_closed h with hunderway | ⟨reply, rfl, _⟩
  · exact hunderway.left
  · simp

theorem store_of_closed {phase : Phase} {action : Action} {r : Store × Phase}
    (h : advance cfg jwt task request phase action clock s = some r)
    {reply : Option HttpReply} (hclosed : r.2 = .closed reply) : r.1 = s := by
  rcases underway_or_closed h with hunderway | ⟨_, rfl, _⟩
  · exact absurd hclosed (hunderway.right reply)
  · rfl

theorem done_of_closed {phase : Phase} {action : Action} {r : Store × Phase}
    (h : advance cfg jwt task request phase action clock s = some r)
    {reply : HttpReply} (hclosed : r.2 = .closed (some reply)) : phase = .done reply := by
  rcases underway_or_closed h with hunderway | ⟨_, rfl, hdone⟩
  · exact absurd hclosed (hunderway.right _)
  · cases hclosed
    exact hdone reply rfl

end

/-!
## Requests that do not wait
-/

/-- Where the handler of a request with a zero timeout can be. -/
def Phase.Prompt : Phase -> Prop
  | .received => True
  | .postRequestBody _ _ _ totalTimeoutMs => totalTimeoutMs = 0
  | .postResponseBody _ _ timeoutMs => timeoutMs = 0
  | .done _ => True
  | .closed _ => True
  | _ => False

section

variable {cfg : Settings} {jwt : Jwt} {task : TaskId} {request : HttpRequest}
  {clock : Clock} {s : Store}

theorem normalizeTimeout_zero (cfg : Settings) :
    normalizeTimeout (some 0) cfg.maxTimeoutMs = .ok 0 :=
  normalizeTimeout_of_mem (le_refl 0) cfg.maxTimeoutMs_nonneg

theorem remainingMs_seconds_zero {start now : Time} (h : start ≤ now) :
    remainingMs (start + seconds 0) now = 0 := by
  apply remainingMs_eq_zero
  unfold seconds
  simpa using h

theorem prompt_postRequestResponded (response : Option PypeResponse) (s : Store) :
    (postRequestResponded task response s).2.Prompt := by
  cases response <;> trivial

theorem prompt_postRequestEnqueued {params : PostRequest} {claims : ClientClaims}
    {entry : Ref} {start bumpedAt remainingAt : Time} (hlater : start ≤ remainingAt)
    (enqueued : Bool) (s : Store) :
    (postRequestEnqueued task params claims entry (start + seconds 0) bumpedAt
      remainingAt enqueued s).2.Prompt := by
  unfold postRequestEnqueued
  dsimp only
  split
  · trivial
  · split
    · trivial
    · unfold queueGet
      rw [if_pos (remainingMs_seconds_zero hlater)]
      split
      · exact prompt_postRequestResponded _ _
      · exact prompt_postRequestResponded _ _

theorem prompt_postRequestBody {params : PostRequest} {claims : ClientClaims}
    {entry : Ref} :
    (postRequestBody cfg task params claims entry 0 clock s).2.Prompt := by
  have hlater : clock.reading 0 ≤ clock.reading 3 := clock.mono (Nat.zero_le 3)
  unfold postRequestBody queuePut
  dsimp only
  rw [if_pos (remainingMs_seconds_zero (clock.mono (Nat.zero_le 1)))]
  split
  · exact prompt_postRequestEnqueued hlater _ _
  · exact prompt_postRequestEnqueued hlater _ _

theorem prompt_dispatch {secret : String}
    (hzero : request.endpoint.timeout? = some 0) :
    (dispatch cfg jwt task request secret clock s).2.Prompt := by
  generalize hstretch : dispatch cfg jwt task request secret clock s = r
  cases dispatched_of_dispatch hstretch with
  | refused | unprocessable | clientLogoff | serviceAuth | clientAuth | servicesLoad =>
      trivial
  | @postRequest params _ hroute =>
      rw [hroute] at hzero
      have htimeout : params.timeout = some 0 := hzero
      unfold postRequestToService
      rw [htimeout, normalizeTimeout_zero]
      rfl
  | @getRequest _ timeout _ hroute =>
      rw [hroute] at hzero
      have htimeout : timeout = some 0 := hzero
      unfold getRequestForService queueGet
      rw [htimeout, normalizeTimeout_zero]
      split
      · trivial
      · dsimp only
        rw [if_pos rfl]
        split <;> trivial
  | @postResponse params _ hroute =>
      rw [hroute] at hzero
      have htimeout : params.timeout = some 0 := hzero
      unfold postResponseToClient
      rw [htimeout, normalizeTimeout_zero]
      rfl
  | @getResponse _ timeout _ hroute =>
      rw [hroute] at hzero
      have htimeout : timeout = some 0 := hzero
      unfold getResponseForClient queueGet
      rw [htimeout, normalizeTimeout_zero]
      split
      · trivial
      · dsimp only
        rw [if_pos rfl]
        split <;> trivial

theorem Phase.Prompt.advance {phase : Phase} {action : Action} {r : Store × Phase}
    (hprompt : phase.Prompt) (hzero : request.endpoint.timeout? = some 0)
    (h : advance cfg jwt task request phase action clock s = some r) : r.2.Prompt := by
  cases stretch_of_advance h with
  | start => exact prompt_dispatch hzero
  | startClosed | postRequestBodyClosed | postResponseBodyClosed | doneClosed => trivial
  | postRequestBody =>
      cases hprompt
      exact prompt_postRequestBody
  | postResponseBody =>
      cases hprompt
      unfold Server.postResponseBody queuePut
      rw [if_pos rfl]
      split <;> trivial
  | postRequestPutServed _ | postRequestPutExpired _ | postRequestPutDone
  | postRequestGetServed _ | postRequestGetExpired _ | postRequestGetDone
  | getRequestGetServed _ | getRequestGetExpired _ | getRequestGetDone
  | postResponsePutServed _ | postResponsePutExpired _ | postResponsePutDone
  | getResponseGetServed _ | getResponseGetExpired _ | getResponseGetDone =>
      exact hprompt.elim

end

namespace App

theorem request_kept {cfg : Settings} {jwt : Jwt} {s : App} {task : TaskId} {t : Task}
    (ht : s.tasks.get? task = some t) (e : Event) :
    exists t', (App.step cfg jwt s e).tasks.get? task = some t' ∧
      t'.request = t.request := by
  rcases step_cases cfg jwt s e with
    hsame | ⟨other, request, _, hnone, hstep⟩ |
    ⟨other, u, action, clock, store, phase, _, hu, _, _, hstep⟩ |
    ⟨now, _, _, hstep⟩
  · rw [hsame]
    exact ⟨t, ht, rfl⟩
  · rw [hstep, Dict.get?_set]
    split
    · rename_i heq
      subst heq
      rw [ht] at hnone
      cases hnone
    · exact ⟨t, ht, rfl⟩
  · rw [hstep, Dict.get?_set]
    split
    · rename_i heq
      subst heq
      rw [ht] at hu
      cases hu
      exact ⟨_, rfl, rfl⟩
    · exact ⟨t, ht, rfl⟩
  · rw [hstep]
    exact ⟨t, ht, rfl⟩

/-- A property of every handler and its request. -/
def AllTasks (P : HttpRequest -> Phase -> Prop) (s : App) : Prop :=
  forall task t, s.tasks.get? task = some t -> P t.request t.phase

/-- What fresh handlers have and every stretch keeps, all handlers keep. -/
theorem AllTasks.step {cfg : Settings} {jwt : Jwt} {P : HttpRequest -> Phase -> Prop}
    (hfresh : forall request, P request .received)
    (hstretch : forall task request phase action clock s r, P request phase ->
      advance cfg jwt task request phase action clock s = some r -> P request r.2)
    {s : App} (h : AllTasks P s) (e : Event) : AllTasks P (App.step cfg jwt s e) := by
  intro task t ht
  rcases step_cases cfg jwt s e with
    hsame | ⟨other, request, _, _, hstep⟩ |
    ⟨other, t', action, clock, store, phase, _, ht', _, hadvance, hstep⟩ |
    ⟨now, _, _, hstep⟩
  · rw [hsame] at ht
    exact h task t ht
  · rw [hstep, Dict.get?_set] at ht
    split at ht
    · cases ht
      exact hfresh request
    · exact h task t ht
  · rw [hstep, Dict.get?_set] at ht
    split at ht
    · cases ht
      exact hstretch other t'.request t'.phase action clock s.store _ (h other t' ht')
        hadvance
    · exact h task t ht
  · rw [hstep] at ht
    exact h task t ht

theorem allTasks_initial (P : HttpRequest -> Phase -> Prop) : AllTasks P initial := by
  intro task t ht
  cases ht

theorem allTasks_reached {cfg : Settings} {jwt : Jwt} {P : HttpRequest -> Phase -> Prop}
    (hfresh : forall request, P request .received)
    (hstretch : forall task request phase action clock s r, P request phase ->
      advance cfg jwt task request phase action clock s = some r -> P request r.2)
    (es : List Event) : AllTasks P (reached cfg jwt es) :=
  run_invariant (AllTasks P) (fun _ e h => h.step hfresh hstretch e)
    (allTasks_initial P) es

def AllPrompt (s : App) : Prop :=
  AllTasks (fun request phase => request.endpoint.timeout? = some 0 -> phase.Prompt) s

theorem AllPrompt.step {cfg : Settings} {jwt : Jwt} {s : App} (h : AllPrompt s)
    (e : Event) : AllPrompt (step cfg jwt s e) := by
  apply AllTasks.step _ _ h
  · exact fun _ _ => trivial
  · exact fun _ _ _ _ _ _ _ hprompt hadvance hzero =>
      (hprompt hzero).advance hzero hadvance

end App

end Server
end Pype
