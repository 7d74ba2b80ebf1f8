import Pype.System.Login
import Pype.System.Provenance

/-!
# Authority comes from logins

Nobody makes up a token.  Then whoever takes a message off a queue has logged in for it,
and was given its token in the reply.
-/

namespace Pype
namespace System

open Foundation Server

def tokenOf? (reply : HttpReply) : Option JsonValue :=
  match reply.content with
  | .json data => data.item? "access_token"
  | _ => none

def Issued (s : App) (token : String) : Prop :=
  exists task t reply, s.tasks.get? task = some t ∧ IsLogin t.request.endpoint ∧
    .answered task reply ∈ s.store.history ∧ tokenOf? reply = some (.string token)

def ClientLogged (s : App) (clientId : String) : Prop :=
  exists task t name reply, s.tasks.get? task = some t ∧
    t.request.endpoint = .clientAuth name ∧ .answered task reply ∈ s.store.history ∧
      exists data, reply.content = .json data ∧
        data.item? "client_id" = some (.string clientId)

def ServiceLogged (s : App) (name : String) : Prop :=
  exists task t reply, s.tasks.get? task = some t ∧
    t.request.endpoint = .serviceAuth name ∧ .answered task reply ∈ s.store.history ∧
      reply.status = 200

/-- The claims of a request, if it has any, are those of a token that was issued. -/
def Backed (jwt : Jwt) (s : App) (request : HttpRequest) : Prop :=
  forall claims, extractAndDecode jwt request.authorization = .ok claims ->
    exists token, jwt.decode token = some claims ∧ Issued s token

/-- Nobody makes up a token: the claims that a request comes with are those of a token
that the server has issued before. -/
def Unforged (cfg : Server.Settings) (jwt : Jwt) (s : App) : List Server.Event -> Prop
  | [] => True
  | .connect task request :: rest =>
      Backed jwt s request ∧
        Unforged cfg jwt (App.step cfg jwt s (.connect task request)) rest
  | e :: rest => Unforged cfg jwt (App.step cfg jwt s e) rest

section

variable {cfg : Server.Settings} {jwt : Jwt} {s : App} {es : List Server.Event}

theorem Issued.step {token : String} (hissued : Issued s token)
    (h : s.Invariant cfg jwt) (e : Server.Event) : Issued (App.step cfg jwt s e) token := by
  rcases hissued with ⟨task, t, reply, ht, hlogin, hanswered, htoken⟩
  rcases @App.request_kept cfg jwt _ _ _ ht e with ⟨t', ht', hrequest⟩
  refine ⟨task, t', reply, ht', ?_, ?_, htoken⟩
  · rw [hrequest]
    exact hlogin
  · exact (kept_storeInvariant cfg jwt _).step h hanswered e

theorem Backed.step {request : HttpRequest} (hbacked : Backed jwt s request)
    (h : s.Invariant cfg jwt) (e : Server.Event) :
    Backed jwt (App.step cfg jwt s e) request := by
  intro claims hclaims
  rcases hbacked claims hclaims with ⟨token, hdecode, hissued⟩
  exact ⟨token, hdecode, hissued.step h e⟩

def AllBacked (jwt : Jwt) (s : App) : Prop :=
  forall task t, s.tasks.get? task = some t -> Backed jwt s t.request

theorem AllBacked.step (hbacked : AllBacked jwt s) (h : s.Invariant cfg jwt)
    {e : Server.Event}
    (hconnect : forall task request, e = .connect task request -> Backed jwt s request) :
    AllBacked jwt (App.step cfg jwt s e) := by
  intro task t ht
  rcases App.task_of_step ht with ⟨t', ht', hrequest⟩ | he
  · rw [← hrequest]
    exact (hbacked task t' ht').step h e
  · exact (hconnect task t.request he).step h e

theorem AllBacked.run (hbacked : AllBacked jwt s) (h : s.Invariant cfg jwt)
    (hunforged : Unforged cfg jwt s es) : AllBacked jwt (App.runFrom cfg jwt s es) := by
  induction es generalizing s with
  | nil => exact hbacked
  | cons e rest ih =>
      cases e with
      | connect task request =>
          apply ih _ (h.step _) hunforged.right
          apply hbacked.step h
          intro task' request' heq
          cases heq
          exact hunforged.left
      | run task action clock =>
          apply ih _ (h.step _) hunforged
          apply hbacked.step h
          intro task' request' heq
          cases heq
      | tick now =>
          apply ih _ (h.step _) hunforged
          apply hbacked.step h
          intro task' request' heq
          cases heq

theorem logged_of_issued (hjwt : jwt.Lawful) {token : String} {claims : Claims}
    (hissued : Issued (App.reached cfg jwt es) token)
    (hdecode : jwt.decode token = some claims) :
    (exists name clientId, claims = clientTokenClaims name clientId ∧
      ClientLogged (App.reached cfg jwt es) clientId) ∨
    (exists name serviceSecret, claims = serviceTokenClaims name serviceSecret ∧
      ServiceLogged (App.reached cfg jwt es) name) := by
  rcases hissued with ⟨task, t, reply, ht, hlogin, hanswered, htoken⟩
  have hreply := App.reply_of_login ht hlogin hanswered
  unfold LoginReplies at hreply
  split at hreply
  · rename_i name hendpoint
    rcases hreply with ⟨_, rfl⟩ | ⟨_, clientId, rfl⟩
    · cases htoken
    · left
      rcases authReply_cases cfg (clientAuthData jwt name clientId) with
        ⟨ip, _, heq⟩ | ⟨_, heq⟩
      · have hmine : tokenOf? (clientAuthReply cfg jwt name clientId) =
            some (.string (issueClientJwt jwt name clientId)) := by
          rw [clientAuthReply, heq]
          rfl
        cases hmine.symm.trans htoken
        rw [hjwt.client] at hdecode
        cases hdecode
        refine ⟨name, clientId, rfl, task, t, name, _, ht, hendpoint, hanswered,
          clientAuthData jwt name clientId, ?_, rfl⟩
        rw [clientAuthReply, heq]
        rfl
      · rw [clientAuthReply, heq] at htoken
        cases htoken
  · rename_i name hendpoint
    rcases hreply with ⟨_, rfl⟩ | ⟨_, serviceSecret, rfl⟩
    · cases htoken
    · right
      rcases authReply_cases cfg (serviceAuthData jwt name serviceSecret) with
        ⟨ip, _, heq⟩ | ⟨_, heq⟩
      · have hmine : tokenOf? (serviceAuthReply cfg jwt name serviceSecret) =
            some (.string (issueServiceJwt jwt name serviceSecret)) := by
          rw [serviceAuthReply, heq]
          rfl
        cases hmine.symm.trans htoken
        rw [hjwt.service] at hdecode
        cases hdecode
        refine ⟨name, serviceSecret, rfl, task, t, _, ht, hendpoint, hanswered, ?_⟩
        rw [serviceAuthReply, heq]
        rfl
      · rw [serviceAuthReply, heq] at htoken
        cases htoken
  · rename_i hnotClient hnotService
    cases hendpoint : t.request.endpoint <;> rw [hendpoint] at hlogin
    all_goals first | exact hlogin.elim | skip
    · exact absurd hendpoint (hnotService _)
    · exact absurd hendpoint (hnotClient _)

/-- In every run in which nobody makes up a token, a response leaves a client's queue
only after a client has logged in and was given this id, and a request leaves a service's
queue only after the service has logged in. -/
theorem authority_from_logins (cfg : Server.Settings) (jwt : Jwt) (hjwt : jwt.Lawful)
    (es : List Server.Event) (hunforged : Unforged cfg jwt App.initial es) :
    (forall task clientId entry posted,
      .responseDequeued task clientId entry posted ∈
        (App.reached cfg jwt es).store.history ->
          ClientLogged (App.reached cfg jwt es) clientId) ∧
    (forall task serviceName queue posted,
      .requestDequeued task serviceName queue posted ∈
        (App.reached cfg jwt es).store.history ->
          ServiceLogged (App.reached cfg jwt es) serviceName) := by
  have hinv := App.invariant_reached cfg jwt es
  have hbacked : AllBacked jwt (App.reached cfg jwt es) := by
    apply AllBacked.run _ (App.invariant_initial cfg jwt) hunforged
    intro task t ht
    cases ht
  constructor
  · intro task clientId entry posted hr
    rcases hinv.of_responseDequeued hr with ⟨t, ht, hwho⟩
    rcases hwho.actsFor with ⟨claims, hclaims, hrole, hid⟩
    rcases hbacked task t ht claims hclaims with
      ⟨token, hdecode, hissued⟩
    rcases logged_of_issued hjwt hissued hdecode with
      ⟨name, clientId', rfl, hlogged⟩ | ⟨name, serviceSecret, rfl, _⟩
    · have hsame : clientId' = clientId := by
        simpa [clientTokenClaims, Dict.get?_set] using hid
      rw [← hsame]
      exact hlogged
    · simp [serviceTokenClaims, Dict.get?_set] at hrole
  · intro task serviceName queue posted hr
    rcases hinv.of_requestDequeued hr with ⟨t, ht, hwho⟩
    rcases hwho.right with ⟨claims, hclaims, hrole, hname⟩
    rcases hbacked task t ht claims hclaims with
      ⟨token, hdecode, hissued⟩
    rcases logged_of_issued hjwt hissued hdecode with
      ⟨name, clientId, rfl, _⟩ | ⟨name, serviceSecret, rfl, hlogged⟩
    · simp [clientTokenClaims, Dict.get?_set] at hrole
    · have hsame : name = serviceName := by
        simpa [serviceTokenClaims, Dict.get?_set] using hname
      rw [← hsame]
      exact hlogged

def honestRun : List Server.Event :=
  [.connect 0 ⟨none, .clientAuth "caller"⟩,
    .run 0 (.start "c") (Clock.constant 0),
    .connect 1 ⟨none, .serviceAuth "s"⟩,
    .run 1 (.start "secret") (Clock.constant 0),
    .connect 2 ⟨some (bearer (issueServiceJwt readable "s" "secret")),
      .postResponse ⟨"c", "1", some 0, none, []⟩⟩,
    .run 2 (.start "") (Clock.constant 0),
    .run 2 .body (Clock.constant 0),
    .connect 3 ⟨some (bearer (issueClientJwt readable "caller" "c")),
      .getResponse "c" (some 0)⟩,
    .run 3 (.start "") (Clock.constant 0)]

def takesFor (task : TaskId) (clientId : String) : Record -> Bool
  | .responseDequeued task' clientId' _ _ => decide (task' = task ∧ clientId' = clientId)
  | _ => false

def bringsToken (task : TaskId) (token : String) : Record -> Bool
  | .answered task' reply =>
      decide (task' = task ∧ JsonValue.string? (tokenOf? reply) = some token)
  | _ => false

theorem issued_of_any {s : App} {task : TaskId} {token : String} {endpoint : Endpoint}
    (hlogin : IsLogin endpoint)
    (hendpoint : (s.tasks.get? task).map (fun t => t.request.endpoint) = some endpoint)
    (hany : s.store.history.any (bringsToken task token) = true) : Issued s token := by
  rcases Option.map_eq_some_iff.mp hendpoint with ⟨t, ht, rfl⟩
  rcases List.any_eq_true.mp hany with ⟨r, hr, hbrings⟩
  cases r <;> simp only [bringsToken, Bool.false_eq_true, decide_eq_true_eq] at hbrings
  rcases hbrings with ⟨rfl, htoken⟩
  exact ⟨_, t, _, ht, hlogin, hr, string?_eq_some htoken⟩

theorem unforged_honestRun :
    Unforged (Server.Settings.default "10.0.0.1") readable App.initial honestRun := by
  have none_backed : forall (s : App) endpoint, Backed readable s ⟨none, endpoint⟩ := by
    intro s endpoint claims hclaims
    cases hclaims
  refine ⟨none_backed _ _, none_backed _ _, ?_, ?_, trivial⟩
  · intro claims hclaims
    have hdecoded : extractAndDecode readable
        (some (bearer (issueServiceJwt readable "s" "secret"))) =
          .ok (serviceTokenClaims "s" "secret") :=
      (bears_service lawful_readable "s" "secret").extractAndDecode
    cases hdecoded.symm.trans hclaims
    refine ⟨_, lawful_readable.service "s" "secret", ?_⟩
    exact @issued_of_any _ 1 _ (.serviceAuth "s") trivial (by decide +kernel)
      (by decide +kernel)
  · intro claims hclaims
    have hdecoded : extractAndDecode readable
        (some (bearer (issueClientJwt readable "caller" "c"))) =
          .ok (clientTokenClaims "caller" "c") :=
      (bears_client lawful_readable "caller" "c").extractAndDecode
    cases hdecoded.symm.trans hclaims
    refine ⟨_, lawful_readable.client "caller" "c", ?_⟩
    exact @issued_of_any _ 0 _ (.clientAuth "caller") trivial (by decide +kernel)
      (by decide +kernel)

theorem authority_from_logins_honestRun :
    ClientLogged (App.reached (Server.Settings.default "10.0.0.1") readable honestRun)
      "c" := by
  have hany : (App.reached (Server.Settings.default "10.0.0.1") readable
      honestRun).store.history.any (takesFor 3 "c") = true := by
    decide +kernel
  rcases List.any_eq_true.mp hany with ⟨r, hr, htakes⟩
  cases r <;> simp only [takesFor, Bool.false_eq_true, decide_eq_true_eq] at htakes
  rcases htakes with ⟨rfl, rfl⟩
  exact (authority_from_logins _ readable lawful_readable honestRun
    unforged_honestRun).left _ _ _ _ hr

end

end System
end Pype
