import Pype.Server.Progress
import Pype.Server.Transcripts

/-!
# What is refused

The checks of the handlers are spread over their first stretches, between lookups that
change the registries.  Still it depends on the request alone whether it is refused and
how: not on the state of the server, the time, or other requests.
-/

namespace Pype
namespace Server

open Foundation Store

/-!
## The verdict on a request
-/

/-- What becomes of a request: it is refused with an error of the application, or
because FastAPI finds a parameter invalid, or it is admitted. -/
inductive Verdict where
  | refused (error : PypeError)
  | unprocessable
  | admitted

def refuseText (text : String) (next : Verdict) : Verdict :=
  if text = "" then .unprocessable else next

def refuseTimeout (cfg : Settings) (timeout : Option Int) : Verdict :=
  match normalizeTimeout timeout cfg.maxTimeoutMs with
  | .error e => .refused e
  | .ok _ => .admitted

def refuseClaims {value : Type} (checked : Except PypeError value)
    (next : value -> Verdict) : Verdict :=
  match checked with
  | .error e => .refused e
  | .ok v => next v

def verdict (cfg : Settings) (jwt : Jwt) (request : HttpRequest) : Verdict :=
  match request.endpoint with
  | .postRequest params =>
      refuseClaims (clientClaims jwt request.authorization) fun _ =>
        refuseText params.serviceName (refuseText params.requestId
          (refuseTimeout cfg params.timeout))
  | .getRequest serviceName timeout =>
      refuseClaims (serviceClaims jwt request.authorization) fun claims =>
        refuseText serviceName
          (if claims.name ≠ serviceName then
            .refused (.roleMismatchError "token's service name does not match path")
          else refuseTimeout cfg timeout)
  | .postResponse params =>
      refuseClaims (serviceClaims jwt request.authorization) fun _ =>
        refuseText params.clientId (refuseText params.requestId
          (refuseTimeout cfg params.timeout))
  | .getResponse clientId timeout =>
      refuseClaims (clientClaims jwt request.authorization) fun claims =>
        refuseText clientId
          (if claims.clientId ≠ clientId then
            .refused (.forbiddenError "path client_id does not match token's client_id")
          else refuseTimeout cfg timeout)
  | .clientLogoff =>
      refuseClaims (clientClaims jwt request.authorization) fun _ => .admitted
  | .serviceAuth serviceName => refuseText serviceName .admitted
  | .clientAuth name => refuseText name .admitted
  | .servicesLoad => .admitted

/-- The statuses of the replies to requests that are not refused. -/
def Admits (reply : HttpReply) : Prop :=
  reply.status ∈ [200, 202, 204, 500, 503]

/-- The reply follows the verdict.  What FastAPI writes in a 422 is not said. -/
def HttpReply.Follows (reply : HttpReply) : Verdict -> Prop
  | .refused error => reply = error.reply
  | .unprocessable => reply.status = 422
  | .admitted => Admits reply

def Admitting (r : Store × Phase) : Prop :=
  forall reply, r.2 = .done reply -> Admits reply

/-- A stretch that gives a verdict: it answers, or admits the request. -/
def Gives (r : Store × Phase) (verdict : Verdict) : Prop :=
  (exists reply, r.2 = .done reply ∧ reply.Follows verdict) ∨
    verdict = .admitted ∧ Admitting r

theorem Gives.refused {r : Store × Phase} {error : PypeError}
    (h : r.2 = .done error.reply) : Gives r (.refused error) :=
  Or.inl ⟨_, h, rfl⟩

theorem Gives.admitted {r : Store × Phase} (h : Admitting r) : Gives r .admitted :=
  Or.inr ⟨rfl, h⟩

theorem Gives.follows {r : Store × Phase} {verdict : Verdict} (h : Gives r verdict)
    {reply : HttpReply} (hdone : r.2 = .done reply) : reply.Follows verdict := by
  rcases h with ⟨given, hgiven, hfollows⟩ | ⟨rfl, hadmitting⟩
  · rw [hdone] at hgiven
    cases hgiven
    exact hfollows
  · exact hadmitting reply hdone

theorem Gives.done {r : Store × Phase} {verdict : Verdict} (h : Gives r verdict)
    (hne : verdict ≠ .admitted) : exists reply, r.2 = .done reply ∧ reply.Follows verdict := by
  rcases h with hdone | ⟨hadmitted, _⟩
  · exact hdone
  · exact absurd hadmitted hne

theorem admitting_answer {reply : HttpReply} (h : Admits reply) (task : TaskId)
    (s : Store) : Admitting (answer task reply s) := by
  intro reply' hdone
  cases hdone
  exact h

def Phase.Goes (phase : Phase) : Prop :=
  forall reply, phase ≠ .done reply

theorem admitting_wait {phase : Phase} (h : phase.Goes) (s : Store) :
    Admitting (s, phase) := by
  intro reply hdone
  exact absurd hdone (h reply)

theorem admits_messageReply (payload : Bytes) (mediaType : String)
    (clientId : Option String) (requestId : String) :
    Admits (messageReply payload mediaType clientId requestId) := by
  rcases messageReply_status payload mediaType clientId requestId with h | h
  · rw [Admits, h]
    simp
  · rw [Admits, h]
    simp

theorem admits_authReply (cfg : Settings) (value : JsonValue) :
    Admits (authReply cfg value) := by
  unfold authReply Admits
  split <;> simp [jsonReply, internalServerError, frameworkReply]

theorem admitting_queuePut {timeoutMs : Int} {put : Store -> Option Store}
    {resume : Bool -> Store -> Store × Phase} {wait : Phase} {s : Store}
    (hresume : forall enqueued t, Admitting (resume enqueued t))
    (hwait : wait.Goes) :
    Admitting (queuePut timeoutMs put resume wait s) :=
  queuePut_ends (fun phase : Phase => forall reply, phase = .done reply -> Admits reply)
    hresume fun _ => admitting_wait hwait s

theorem admitting_queueGet {item : Type} {timeoutMs : Int}
    {get : Store -> Option (item × Store)}
    {resume : Option item -> Store -> Store × Phase} {wait : Phase} {s : Store}
    (hresume : forall x t, Admitting (resume x t))
    (hwait : wait.Goes) :
    Admitting (queueGet timeoutMs get resume wait s) :=
  queueGet_ends (fun phase : Phase => forall reply, phase = .done reply -> Admits reply)
    hresume fun _ => admitting_wait hwait s

section

variable {cfg : Settings} {jwt : Jwt} {task : TaskId} {request : HttpRequest}
  {clock : Clock}

/-!
## After the first stretch nothing is refused
-/

theorem admitting_emptyReply {status : Nat} (h : status ∈ [200, 202, 204, 500, 503])
    (s : Store) : Admitting (answer task (emptyReply status) s) :=
  @admitting_answer (emptyReply status) h task s

theorem admitting_postRequestResponded (response : Option PypeResponse) (s : Store) :
    Admitting (postRequestResponded task response s) := by
  cases response with
  | none => exact admitting_emptyReply (by simp) s
  | some response => exact admitting_answer (admits_messageReply _ _ _ _) task s

theorem admitting_postRequestEnqueued {params : PostRequest} {claims : ClientClaims}
    {entry : Ref} {deadline bumpedAt remainingAt : Time} (enqueued : Bool) (s : Store) :
    Admitting (postRequestEnqueued task params claims entry deadline bumpedAt
      remainingAt enqueued s) := by
  unfold postRequestEnqueued
  dsimp only
  split
  · exact admitting_emptyReply (by simp) _
  · split
    · exact admitting_emptyReply (by simp) _
    · exact admitting_queueGet admitting_postRequestResponded (by simp [Phase.Goes])

theorem admitting_getRequestDequeued (item : Option PypeRequest) (s : Store) :
    Admitting (getRequestDequeued task item s) := by
  cases item with
  | none => exact admitting_emptyReply (by simp) s
  | some item => exact admitting_answer (admits_messageReply _ _ _ _) task s

theorem admitting_postResponseEnqueued (enqueued : Bool) (s : Store) :
    Admitting (postResponseEnqueued task enqueued s) := by
  cases enqueued with
  | false => exact admitting_emptyReply (by simp) s
  | true => exact admitting_emptyReply (by simp) s

theorem admitting_getResponseDequeued {clientId : String} {bumpedAt : Time}
    (item : Option PypeResponse) (s : Store) :
    Admitting (getResponseDequeued task clientId bumpedAt item s) := by
  cases item with
  | none => exact admitting_emptyReply (by simp) _
  | some item => exact admitting_answer (admits_messageReply _ _ _ _) task _

theorem admitting_advance {phase : Phase} {action : Action} {s : Store}
    {r : Store × Phase} (hbegun : phase ≠ .received)
    (h : advance cfg jwt task request phase action clock s = some r) :
    Admitting r := by
  cases stretch_of_advance h with
  | start => exact absurd rfl hbegun
  | startClosed => exact absurd rfl hbegun
  | postRequestBody =>
      exact admitting_queuePut admitting_postRequestEnqueued (by simp [Phase.Goes])
  | postRequestPutDone => exact admitting_postRequestEnqueued _ s
  | postRequestGetDone => exact admitting_postRequestResponded _ s
  | getRequestGetDone => exact admitting_getRequestDequeued _ s
  | postResponseBody =>
      exact admitting_queuePut admitting_postResponseEnqueued (by simp [Phase.Goes])
  | postResponsePutDone => exact admitting_postResponseEnqueued _ s
  | getResponseGetDone => exact admitting_getResponseDequeued _ s
  | postRequestBodyClosed | postRequestPutServed _ | postRequestPutExpired _
  | postRequestGetServed _ | postRequestGetExpired _ | getRequestGetServed _
  | getRequestGetExpired _ | postResponseBodyClosed | postResponsePutServed _
  | postResponsePutExpired _ | getResponseGetServed _ | getResponseGetExpired _
  | doneClosed => exact admitting_wait (by simp [Phase.Goes]) _

/-!
## The first stretch gives the verdict
-/

theorem gives_orRefuse {value : Type} {checked : Except PypeError value}
    {handler : value -> Store -> Store × Phase} {next : value -> Verdict}
    {s : Store} (h : forall v, checked = .ok v -> Gives (handler v s) (next v)) :
    Gives (orRefuse task checked handler s) (refuseClaims checked next) := by
  cases checked with
  | error e => exact Gives.refused rfl
  | ok v => exact h v rfl

theorem gives_requireText {text : String} {handler : Store -> Store × Phase}
    {next : Verdict} {s : Store} (h : Gives (handler s) next) :
    Gives (requireText task text handler s) (refuseText text next) := by
  unfold requireText refuseText
  split
  · exact Or.inl ⟨_, rfl, rfl⟩
  · exact h

theorem gives_postRequestToService {params : PostRequest} {claims : ClientClaims}
    {s : Store} :
    Gives (postRequestToService cfg task params claims clock s)
      (refuseTimeout cfg params.timeout) := by
  unfold postRequestToService refuseTimeout
  cases normalizeTimeout params.timeout cfg.maxTimeoutMs with
  | error e => exact Gives.refused rfl
  | ok totalTimeoutMs =>
      exact Gives.admitted (admitting_wait (by simp [Phase.Goes]) _)

theorem gives_getRequestForService {serviceName : String} {timeout : Option Int}
    {claims : ServiceClaims} {s : Store} :
    Gives (getRequestForService cfg task serviceName timeout claims clock s)
      (if claims.name ≠ serviceName then
        .refused (.roleMismatchError "token's service name does not match path")
      else refuseTimeout cfg timeout) := by
  unfold getRequestForService refuseTimeout
  split
  · exact Gives.refused rfl
  · cases normalizeTimeout timeout cfg.maxTimeoutMs with
    | error e => exact Gives.refused rfl
    | ok timeoutMs =>
        apply Gives.admitted
        exact admitting_queueGet admitting_getRequestDequeued (by simp [Phase.Goes])

theorem gives_postResponseToClient {params : PostResponse} {s : Store} :
    Gives (postResponseToClient cfg task params clock s)
      (refuseTimeout cfg params.timeout) := by
  unfold postResponseToClient refuseTimeout
  cases normalizeTimeout params.timeout cfg.maxTimeoutMs with
  | error e => exact Gives.refused rfl
  | ok timeoutMs => exact Gives.admitted (admitting_wait (by simp [Phase.Goes]) _)

theorem gives_getResponseForClient {clientId : String} {timeout : Option Int}
    {claims : ClientClaims} {s : Store} :
    Gives (getResponseForClient cfg task clientId timeout claims clock s)
      (if claims.clientId ≠ clientId then
        .refused (.forbiddenError "path client_id does not match token's client_id")
      else refuseTimeout cfg timeout) := by
  unfold getResponseForClient refuseTimeout
  split
  · exact Gives.refused rfl
  · cases normalizeTimeout timeout cfg.maxTimeoutMs with
    | error e => exact Gives.refused rfl
    | ok timeoutMs =>
        apply Gives.admitted
        exact admitting_queueGet admitting_getResponseDequeued (by simp [Phase.Goes])

theorem gives_dispatch (cfg : Settings) (jwt : Jwt) (task : TaskId)
    (request : HttpRequest) (secret : String) (clock : Clock) (s : Store) :
    Gives (dispatch cfg jwt task request secret clock s) (verdict cfg jwt request) := by
  unfold dispatch verdict
  cases request.endpoint with
  | postRequest params =>
      apply gives_orRefuse
      intro claims _
      apply gives_requireText
      apply gives_requireText
      exact gives_postRequestToService
  | getRequest serviceName timeout =>
      apply gives_orRefuse
      intro claims _
      apply gives_requireText
      exact gives_getRequestForService
  | postResponse params =>
      apply gives_orRefuse
      intro claims _
      apply gives_requireText
      apply gives_requireText
      exact gives_postResponseToClient
  | getResponse clientId timeout =>
      apply gives_orRefuse
      intro claims _
      apply gives_requireText
      exact gives_getResponseForClient
  | clientLogoff =>
      apply gives_orRefuse
      intro claims _
      exact Gives.admitted (admitting_answer (by simp [Admits, jsonReply]) task _)
  | serviceAuth serviceName =>
      apply gives_requireText
      exact Gives.admitted (admitting_answer (admits_authReply cfg _) task _)
  | clientAuth name =>
      apply gives_requireText
      exact Gives.admitted (admitting_answer (admits_authReply cfg _) task _)
  | servicesLoad =>
      exact Gives.admitted (admitting_answer (by simp [Admits, jsonReply]) task _)

/-!
## Runs
-/

def Phase.reply? : Phase -> Option HttpReply
  | .done reply => some reply
  | .closed reply => reply
  | _ => none

/-- A handler that answers at once, with one of some replies, or has not begun. -/
def Settled (replies : HttpReply -> Prop) (phase : Phase) : Prop :=
  phase = .received ∨ phase = .closed none ∨
    exists reply, phase.reply? = some reply ∧ replies reply

theorem Settled.of_reply {replies : HttpReply -> Prop} {phase : Phase} {reply : HttpReply}
    (h : Settled replies phase) (hreply : phase.reply? = some reply) : replies reply := by
  rcases h with rfl | rfl | ⟨given, hgiven, hone⟩
  · cases hreply
  · cases hreply
  · rw [hreply] at hgiven
    cases hgiven
    exact hone

/-- A handler is bound by the verdict on its request, at once unless it is admitted. -/
structure Judged (cfg : Settings) (jwt : Jwt) (request : HttpRequest) (phase : Phase) :
    Prop where
  settled : verdict cfg jwt request ≠ .admitted ->
    Settled (fun reply => reply.Follows (verdict cfg jwt request)) phase
  follows : forall reply, phase.reply? = some reply ->
    reply.Follows (verdict cfg jwt request)

theorem Settled.advance {replies : HttpReply -> Prop} {phase : Phase} {action : Action}
    {s : Store} {r : Store × Phase}
    (hanswers : forall secret, exists reply,
      (dispatch cfg jwt task request secret clock s).2 = .done reply ∧ replies reply)
    (hsettled : Settled replies phase)
    (h : advance cfg jwt task request phase action clock s = some r) :
    Settled replies r.2 := by
  rcases hsettled with rfl | rfl | ⟨reply, hreply, hone⟩
  · cases stretch_of_advance h with
    | @start secret =>
        rcases hanswers secret with ⟨reply, hdone, hone⟩
        right
        right
        rw [hdone]
        exact ⟨reply, rfl, hone⟩
    | startClosed => exact Or.inr (Or.inl rfl)
  · cases stretch_of_advance h
  · cases phase <;> cases hreply <;> cases stretch_of_advance h
    exact Or.inr (Or.inr ⟨reply, rfl, hone⟩)

theorem Judged.advance {phase : Phase} {action : Action} {s : Store} {r : Store × Phase}
    (hjudged : Judged cfg jwt request phase)
    (h : advance cfg jwt task request phase action clock s = some r) :
    Judged cfg jwt request r.2 := by
  have hsettled : verdict cfg jwt request ≠ .admitted ->
      Settled (fun reply => reply.Follows (verdict cfg jwt request)) r.2 := by
    intro hne
    refine (hjudged.settled hne).advance ?_ h
    exact fun secret => (gives_dispatch cfg jwt task request secret clock s).done hne
  constructor
  · exact hsettled
  · intro reply hreply
    by_cases hadmitted : verdict cfg jwt request = .admitted
    · rcases r with ⟨store, next⟩
      cases next <;> cases hreply
      · by_cases hbegun : phase = .received
        · subst hbegun
          generalize hnext : (store, Phase.done reply) = r at h
          have hdone : r.2 = .done reply := by rw [← hnext]
          cases stretch_of_advance h with
          | @start secret =>
              exact (gives_dispatch cfg jwt task request secret clock s).follows hdone
          | startClosed => cases hdone
        · rw [hadmitted]
          exact admitting_advance hbegun h reply rfl
      · apply hjudged.follows
        rw [done_of_closed h rfl]
        rfl
    · exact (hsettled hadmitted).of_reply hreply

end

namespace App

abbrev AllJudged (cfg : Settings) (jwt : Jwt) (s : App) : Prop :=
  AllTasks (Judged cfg jwt) s

variable {cfg : Settings} {jwt : Jwt}

theorem judged_received (request : HttpRequest) : Judged cfg jwt request .received := by
  constructor
  · exact fun _ => Or.inl rfl
  · intro reply hreply
    cases hreply

theorem allJudged_reached (cfg : Settings) (jwt : Jwt) (es : List Event) :
    AllJudged cfg jwt (reached cfg jwt es) :=
  allTasks_reached judged_received
    (fun _ _ _ _ _ _ _ hjudged hadvance => hjudged.advance hadvance) es

theorem follows_of_answered {s : App} (h : s.Invariant cfg jwt)
    (hjudged : AllJudged cfg jwt s) {task : TaskId} {reply : HttpReply}
    (hanswered : .answered task reply ∈ s.store.history) :
    exists t, s.tasks.get? task = some t ∧ reply.Follows (verdict cfg jwt t.request) := by
  rcases h.of_answered hanswered with ⟨t, ht, _, hphase⟩
  have hreply : t.phase.reply? = some reply := by
    rcases hphase with hphase | hphase
    · rw [hphase]
      rfl
    · rw [hphase]
      rfl
  exact ⟨t, ht, (hjudged task t ht).follows reply hreply⟩

/-- Whatever else happens, a request is answered as the verdict on it says. -/
theorem answered_as_judged (cfg : Settings) (jwt : Jwt) (es : List Event)
    (task : TaskId) (reply : HttpReply)
    (hanswered : .answered task reply ∈ (reached cfg jwt es).store.history) :
    exists t, (reached cfg jwt es).tasks.get? task = some t ∧
      reply.Follows (verdict cfg jwt t.request) :=
  follows_of_answered (invariant_reached cfg jwt es) (allJudged_reached cfg jwt es)
    hanswered

def trespass : List Event :=
  [.connect 0 ⟨some "Bearer service", .getRequest "other" none⟩,
    .run 0 (.start "") (Clock.constant 0)]

theorem answered_as_judged_trespass :
    exists t, exists reply : HttpReply,
      (reached (Settings.default "10.0.0.1") (Jwt.ofPair "c" "s") trespass).tasks.get? 0 =
          some t ∧
        reply.status = 400 ∧
          reply.Follows
            (verdict (Settings.default "10.0.0.1") (Jwt.ofPair "c" "s") t.request) := by
  have hany : (reached (Settings.default "10.0.0.1") (Jwt.ofPair "c" "s")
      trespass).store.history.any (Record.answers 0 400) = true := by
    decide +kernel
  rcases Record.exists_of_any_answers hany with ⟨reply, hanswered, hstatus⟩
  rcases answered_as_judged _ _ trespass 0 reply hanswered with ⟨t, ht, hfollows⟩
  exact ⟨t, reply, ht, hstatus, hfollows⟩

end App

end Server
end Pype
